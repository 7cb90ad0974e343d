import Switchyard.Text.Property

/-!
# Regular expressions

The tree of a regular expression, after its flags have been applied: what a character must be, what
must hold between two characters, and how those are joined. The constructors `Regex.concat`,
`Regex.either` and `Regex.repeated` leave out what has no effect.
-/

namespace Switchyard

/-- A condition on a place between two characters. -/
inductive Look where
  | textStart
  | textEnd
  | lineStart
  | lineEnd
  /-- Like the two above, but a carriage return and a line feed after it end one line. -/
  | crlfStart
  | crlfEnd
  | wordBoundary (ascii : Bool)
  | notWordBoundary (ascii : Bool)
  | wordStart (ascii : Bool)
  | wordEnd (ascii : Bool)
  | wordStartHalf (ascii : Bool)
  | wordEndHalf (ascii : Bool)
deriving DecidableEq, Repr

/-- A regular expression. -/
inductive Regex where
  | empty
  | chars (set : Text.Charset)
  | look (l : Look)
  | capture (r : Regex)
  | repeat (r : Regex) (least : Nat) (most : Option Nat)
  | seq (rs : List Regex)
  | alt (rs : List Regex)
deriving Inhabited, Repr

namespace Look

/-- What counts as a letter of a word. -/
def isWordChar (ascii : Bool) (c : Option Char) : Bool :=
  match c with
  | none => false
  | some c =>
    if ascii || c.toNat < 128 then c.isAlphanum || c == '_' else Text.Property.word.contains c

/-- Whether the condition holds between two characters; none stands for an end of the text. -/
def holds (l : Look) (before after : Option Char) : Bool :=
  match l with
  | .textStart => before.isNone
  | .textEnd => after.isNone
  | .lineStart => before.isNone || before == some '\n'
  | .lineEnd => after.isNone || after == some '\n'
  | .crlfStart =>
    before.isNone || before == some '\n' || (before == some '\r' && after != some '\n')
  | .crlfEnd => after.isNone || after == some '\r' || (after == some '\n' && before != some '\r')
  | .wordBoundary ascii => isWordChar ascii before != isWordChar ascii after
  | .notWordBoundary ascii => isWordChar ascii before == isWordChar ascii after
  | .wordStart ascii => !isWordChar ascii before && isWordChar ascii after
  | .wordEnd ascii => isWordChar ascii before && !isWordChar ascii after
  | .wordStartHalf ascii => !isWordChar ascii before
  | .wordEndHalf ascii => !isWordChar ascii after

end Look

namespace Regex

mutual

/-- Whether only the empty text can match. -/
def isZeroWidth : Regex → Bool
  | .empty | .look _ => true
  | .chars _ => false
  | .capture r => r.isZeroWidth
  | .repeat r _ most => most == some 0 || r.isZeroWidth
  | .seq rs | .alt rs => areZeroWidth rs

/-- Whether each of several expressions matches the empty text only. -/
def areZeroWidth : List Regex → Bool
  | [] => true
  | r :: rs => r.isZeroWidth && areZeroWidth rs

end

mutual

/-- Whether the empty text can match, looks taken to hold. -/
def isNullable : Regex → Bool
  | .empty | .look _ => true
  | .chars _ => false
  | .capture r => r.isNullable
  | .repeat r least _ => least == 0 || r.isNullable
  | .seq rs => allNullable rs
  | .alt rs => someNullable rs

/-- Whether each of several expressions can match the empty text. -/
def allNullable : List Regex → Bool
  | [] => true
  | r :: rs => r.isNullable && allNullable rs

/-- Whether one of several expressions can match the empty text. -/
def someNullable : List Regex → Bool
  | [] => false
  | r :: rs => r.isNullable || someNullable rs

end

/-- Whether the expression is the empty one, and not merely one that matches nothing else. -/
def isEmpty : Regex → Bool
  | .empty => true
  | _ => false

/-- One expression after the other. -/
def concat (rs : List Regex) : Regex :=
  match rs.filter fun r => !r.isEmpty with
  | [] => .empty
  | [r] => r
  | rs => .seq rs

/-- The set of an expression that is one. -/
def set? : Regex → Option Text.Charset
  | .chars set => some set
  | _ => none

/-- The alternatives of an expression, itself if it has none. -/
def alternatives : Regex → List Regex
  | .alt rs => rs
  | r => [r]

/-- Any of several expressions; single characters make one set. -/
def either (rs : List Regex) : Regex :=
  match rs.flatMap alternatives with
  | [r] => r
  | rs =>
    match rs.mapM set? with
    | some sets => .chars (.ofRanges (sets.flatMap (·.ranges)))
    | none => .alt rs

/-- An expression so many times in a row. What has no width is not repeated. -/
def repeated (r : Regex) (least : Nat) (most : Option Nat) : Regex :=
  let (least, most) :=
    if r.isZeroWidth then (min least 1, some (min (most.getD 1) 1)) else (least, most)
  if most = some 0 then .empty
  else if least = 1 ∧ most = some 1 then r
  else .repeat r least most

end Regex

end Switchyard
