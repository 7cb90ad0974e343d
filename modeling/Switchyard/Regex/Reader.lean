import Switchyard.Regex.CharClass
import Switchyard.Regex.Size
import Switchyard.Text.Blank
import Switchyard.Text.CaseMap
import Switchyard.Text.Search

/-!
# Reading regular expressions

`Regex.compile?` reads the text of a regular expression, applies its flags, and refuses one that is
malformed, nested too deeply or too large.

Blanks and comments are skipped only under the flag `x`; `skip` is called at every place where they
may stand.

Four kinds of property classes are left out: an expression that asks for the age of a character
(`\p{Age:…}`) or for the way in which it breaks graphemes, words or sentences (`\p{gcb=…}`,
`\p{wb=…}`, `\p{sb=…}`) is refused. The extensions of a script (`\p{scx=…}`) are read as the script.
-/

namespace Switchyard.Regex

open Text

/-! ## Flags -/

/-- The flags that change what an expression means. -/
structure Flags where
  ignoreCase : Bool
  multiLine : Bool
  dotAll : Bool
  crlf : Bool
  unicode : Bool
  skipsBlanks : Bool
deriving DecidableEq, Repr

namespace Flags

/-- The flags at the start of an expression: all are off but Unicode. -/
def start : Flags :=
  { ignoreCase := false, multiLine := false, dotAll := false, crlf := false, unicode := true,
    skipsBlanks := false }

/-- The flags with the one of a letter turned on or off. Which of several matches is taken does not
matter to whether there is one, so `U` changes nothing. -/
def set (f : Flags) (on : Bool) (letter : Char) : Flags :=
  match letter with
  | 'i' => { f with ignoreCase := on }
  | 'm' => { f with multiLine := on }
  | 's' => { f with dotAll := on }
  | 'R' => { f with crlf := on }
  | 'u' => { f with unicode := on }
  | 'x' => { f with skipsBlanks := on }
  | _ => f

/-- The letters that may stand in a group of flags. -/
def letters : List Char := ['i', 'm', 's', 'U', 'u', 'R', 'x', '-']

/-- Applies flag letters: those before a minus sign turn on and those behind it off. None if a
letter is unknown or stands twice, or if nothing follows the minus sign. -/
def changed? (f : Flags) (body : List Char) : Option Flags :=
  if body.all letters.contains && body.eraseDups.length == body.length && body.getLast? != some '-'
  then
    let on := body.takeWhile (· ≠ '-')
    let off := (body.dropWhile (· ≠ '-')).drop 1
    some (off.foldl (fun f c => f.set false c) (on.foldl (fun f c => f.set true c) f))
  else none

end Flags

/-! ## Characters -/

/-- Drops blanks and comments; `inComment` says whether the text starts inside a comment. -/
def dropBlanks (inComment : Bool) : List Char → List Char
  | [] => []
  | c :: cs =>
    if inComment then dropBlanks (c != '\n') cs
    else if isBlank c then dropBlanks false cs
    else if c = '#' then dropBlanks true cs
    else c :: cs

/-- Drops what does not count under the flags. -/
def skip (f : Flags) (cs : List Char) : List Char :=
  if f.skipsBlanks then dropBlanks false cs else cs

/-- The characters with a property at the front of a text, `most` at most, and the rest. -/
def collect (f : Flags) (p : Char → Bool) : Nat → List Char → List Char × List Char
  | most + 1, c :: cs =>
    if p c then
      let (more, rest) := collect f p most (skip f cs)
      (c :: more, rest)
    else ([], c :: cs)
  | _, cs => ([], cs)

/-- What stands before a closing brace, and the rest behind it. -/
def braced? (f : Flags) (cs : List Char) : Option (List Char × List Char) :=
  match collect f (· ≠ '}') cs.length (skip f cs) with
  | (body, '}' :: rest) => some (body, rest)
  | _ => none

/-- Whether a character is a hexadecimal digit of either case. -/
def isHexDigit (c : Char) : Bool :=
  c.isDigit || ('a' ≤ c && c ≤ 'f') || ('A' ≤ c && c ≤ 'F')

/-- The character of a code point in hexadecimal. -/
def charOfHex? (digits : List Char) : Option Char :=
  let n := Charset.hexNat digits
  if !digits.isEmpty && digits.all isHexDigit && (n < 0xD800 || (0xE000 ≤ n && n ≤ 0x10FFFF)) then
    some (Char.ofNat n)
  else none

/-- A decimal number below `2 ^ 32`, with blanks around it. -/
def decimal? (f : Flags) (cs : List Char) : Option (Nat × List Char) :=
  let (digits, rest) := collect f Char.isDigit cs.length (cs.dropWhile isBlank)
  let n := digits.foldl (fun n c => 10 * n + (c.toNat - '0'.toNat)) 0
  if digits.isEmpty || Nat.pow 2 32 ≤ n then none else some (n, rest.dropWhile isBlank)

/-! ## Escapes -/

/-- What a backslash and what follows it stand for. -/
inductive Escaped where
  /-- A character; `isByte` if it was written as the value of one byte. -/
  | literal (c : Char) (isByte : Bool)
  | set (set : Charset)
  | look (l : Look)
deriving Repr

/-- The complement of a set. Without Unicode a complement would contain bytes that are no
characters, so there is none. -/
def complement? (f : Flags) (set : Charset) : Option Charset :=
  if f.unicode then some set.complement else none

/-- A set after the flag for letter case and a negation. -/
def adjusted? (f : Flags) (negated : Bool) (set : Charset) : Option Charset :=
  let folded :=
    if f.ignoreCase then
      if f.unicode then CaseMap.closeUnderFold set
      else (CaseMap.closeUnderFold set).inter (.ofTable "0-7F")
    else set
  if negated then complement? f folded else some folded

/-- The set that the braces of a property class name: a name, or a property with its value. Also
whether everything but the set is meant. -/
def propertySet? (body : List Char) : Option (Charset × Bool) :=
  match cut? ['!', '='] body with
  | some (name, value) => (propertyValueClass? name value).map fun set => (set, true)
  | none =>
    match (cut? [':'] body).or (cut? ['='] body) with
    | some (name, value) => (propertyValueClass? name value).map fun set => (set, false)
    | none => (propertyClass? body).map fun set => (set, false)

/-- The class that stands behind `\p` or `\P`. -/
def property? (f : Flags) (negated : Bool) (cs : List Char) : Option (Escaped × List Char) :=
  if !f.unicode then none
  else
    match skip f cs with
    | '{' :: cs => do
      let (body, rest) ← braced? f cs
      let (set, isUnequal) ← propertySet? body
      let set ← adjusted? f (negated != isUnequal) set
      some (.set set, rest)
    | '\\' :: _ => none
    | c :: rest => do
      let set ← adjusted? f negated (← propertyClass? [c])
      some (.set set, skip f rest)
    | [] => none

/-- The condition that `\b` stands for: a name in braces may follow. A brace that starts no name is
left for a repetition. -/
def boundary? (f : Flags) (cs : List Char) : Option (Escaped × List Char) :=
  let ascii := !f.unicode
  let isNameChar (c : Char) : Bool := c.isAlpha || c == '-'
  match cs with
  | '{' :: inner =>
    match skip f inner with
    | [] => none
    | c :: more =>
      if !isNameChar c then some (.look (.wordBoundary ascii), cs)
      else
        match collect f isNameChar inner.length (c :: more) with
        | (name, '}' :: rest) =>
          match String.ofList name with
          | "start" => some (.look (.wordStart ascii), rest)
          | "end" => some (.look (.wordEnd ascii), rest)
          | "start-half" => some (.look (.wordStartHalf ascii), rest)
          | "end-half" => some (.look (.wordEndHalf ascii), rest)
          | _ => none
        | _ => none
  | _ => some (.look (.wordBoundary ascii), cs)

/-- A character in hexadecimal: in braces, or with a fixed number of digits. -/
def hexadecimal? (f : Flags) (digits : Nat) (cs : List Char) : Option (Escaped × List Char) :=
  match skip f cs with
  | '{' :: cs => do
    let (body, rest) ← braced? f cs
    some (.literal (← charOfHex? body) false, skip f rest)
  | cs =>
    let (body, rest) := collect f isHexDigit digits cs
    if body.length = digits then
      (charOfHex? body).map fun c => (.literal c (digits == 2), rest)
    else none

/-- What the text behind a backslash stands for. -/
def escape? (f : Flags) : List Char → Option (Escaped × List Char)
  | [] => none
  | c :: cs =>
    let ascii := !f.unicode
    let literal (c : Char) : Option (Escaped × List Char) := some (.literal c false, cs)
    let look (l : Look) : Option (Escaped × List Char) := some (.look l, cs)
    match c with
    | 'x' => hexadecimal? f 2 cs
    | 'u' => hexadecimal? f 4 cs
    | 'U' => hexadecimal? f 8 cs
    | 'p' => property? f false cs
    | 'P' => property? f true cs
    | 'a' => literal '\x07'
    | 'f' => literal '\x0c'
    | 't' => literal '\t'
    | 'n' => literal '\n'
    | 'r' => literal '\r'
    | 'v' => literal '\x0b'
    | 'A' => look .textStart
    | 'z' => look .textEnd
    | 'b' => boundary? f cs
    | 'B' => look (.notWordBoundary ascii)
    | '<' => look (.wordStart ascii)
    | '>' => look (.wordEnd ascii)
    | c =>
      match escapeClass? ascii c.toLower with
      | some set =>
        if c.isLower then some (.set set, cs)
        else (complement? f set).map fun set => (.set set, cs)
      | none => if c.toNat < 128 && !c.isAlphanum then literal c else none

/-! ## Sets in brackets -/

/-- One item of a bracketed set, or one end of a range. -/
def setItem? (f : Flags) : List Char → Option (Escaped × List Char)
  | '\\' :: cs => escape? f cs
  | c :: cs => some (.literal c false, cs)
  | [] => none

/-- The character of an item that may stand in a set; without Unicode only ASCII ones may. -/
def setChar? (f : Flags) : Escaped → Option Char
  | .literal c _ => if f.unicode || c.toNat < 128 then some c else none
  | _ => none

/-- The set that an item stands for. -/
def itemSet? (f : Flags) (item : Escaped) : Option Charset :=
  match item with
  | .set set => some set
  | .look _ => none
  | item => (setChar? f item).map Charset.ofChar

/-- An item or a range of a bracketed set. A hyphen before the closing bracket or before another
hyphen makes no range. -/
def setRange? (f : Flags) (cs : List Char) : Option (Charset × List Char) := do
  let (item, rest) ← setItem? f cs
  let single : Option (Charset × List Char) := (itemSet? f item).map fun set => (set, skip f rest)
  match skip f rest with
  | '-' :: more =>
    match skip f more with
    | ']' :: _ | '-' :: _ => single
    | more =>
      let (last, rest) ← setItem? f more
      let lo ← setChar? f item
      let hi ← setChar? f last
      if lo ≤ hi then some (Charset.ofRanges [(lo.toNat, hi.toNat)], rest) else none
  | _ => single

/-- An ASCII class such as `[:alpha:]` behind its opening bracket. -/
def asciiItem? (cs : List Char) : Option (Bool × Charset × List Char) :=
  match cs with
  | ':' :: cs =>
    let (negated, cs) := match cs with
      | '^' :: cs => (true, cs)
      | cs => (false, cs)
    match cs.dropWhile (· ≠ ':') with
    | ':' :: ']' :: rest =>
      (asciiClass? (String.ofList (cs.takeWhile (· ≠ ':')))).map fun set => (negated, set, rest)
    | _ => none
  | _ => none

/-- An operator between the operands of a bracketed set. -/
inductive SetOp where
  | inter
  | diff
  | symmDiff
deriving DecidableEq, Repr

/-- The items read so far: their union, how many they are and how deeply they are nested. -/
structure Items where
  set : Charset
  count : Nat
  depth : Nat
deriving Repr

namespace Items

/-- No items. -/
def none : Items := ⟨.empty, 0, 0⟩

/-- The items with one more, a set that is nested so deeply. -/
def add (items : Items) (set : Charset) (depth : Nat) : Items :=
  ⟨items.set.union set, items.count + 1, max items.depth depth⟩

/-- How deeply the items are nested as one operand. -/
def height (items : Items) : Nat :=
  if items.count < 2 then items.depth else items.depth + 1

end Items

/-- The operand to the left of an operator. -/
structure Pending where
  op : SetOp
  set : Charset
  depth : Nat
deriving Repr

/-- Operands are brought under the flag for letter case before an operator joins them. -/
def joinOperands (f : Flags) (left : Option Pending) (items : Items) : Charset × Nat :=
  match left with
  | none => (items.set, items.height)
  | some p =>
    let fold (s : Charset) : Charset := (adjusted? f false s).getD s
    let a := fold p.set
    let b := fold items.set
    let set := match p.op with
      | .inter => a.inter b
      | .diff => a.diff b
      | .symmDiff => a.symmDiff b
    (set, 1 + max p.depth items.height)

/-- Drops the hyphens that a bracketed set starts with. -/
def leadingHyphens (f : Flags) : Nat → List Char → Nat × List Char
  | fuel + 1, '-' :: cs =>
    let (n, rest) := leadingHyphens f fuel (skip f cs)
    (n + 1, rest)
  | _, cs => (0, cs)

mutual

/-- A bracketed set behind its opening bracket, with how deeply it is nested. -/
def bracket? (f : Flags) : Nat → List Char → Option (Charset × Nat × List Char)
  | 0, _ => none
  | fuel + 1, cs => do
    let cs := skip f cs
    let (negated, cs) := match cs with
      | '^' :: cs => (true, skip f cs)
      | cs => (false, cs)
    let (hyphens, cs) := leadingHyphens f cs.length cs
    let items :=
      (List.replicate hyphens '-').foldl (fun items c => items.add (.ofChar c) 0) Items.none
    let (items, cs) := match cs with
      | ']' :: rest => if hyphens = 0 then (items.add (.ofChar ']') 0, rest) else (items, cs)
      | cs => (items, cs)
    let (set, depth, rest) ← operands? f fuel none items cs
    let set ← adjusted? f negated set
    some (set, depth + 1, rest)

/-- The operands of a bracketed set up to its closing bracket. -/
def operands? (f : Flags) :
    Nat → Option Pending → Items → List Char → Option (Charset × Nat × List Char)
  | 0, _, _, _ => none
  | fuel + 1, left, items, cs =>
    let operator (op : SetOp) (rest : List Char) : Option (Charset × Nat × List Char) :=
      let (set, depth) := joinOperands f left items
      operands? f fuel (some ⟨op, set, depth⟩) Items.none rest
    match skip f cs with
    | [] => none
    | '[' :: rest =>
      match asciiItem? rest with
      | some (negated, set, rest) => do
        let set ← adjusted? f negated set
        operands? f fuel left (items.add set 0) rest
      | none => do
        let (set, depth, rest) ← bracket? f fuel rest
        operands? f fuel left (items.add set depth) rest
    | ']' :: rest =>
      let (set, depth) := joinOperands f left items
      some (set, depth, rest)
    | '&' :: '&' :: rest => operator .inter rest
    | '-' :: '-' :: rest => operator .diff rest
    | '~' :: '~' :: rest => operator .symmDiff rest
    | cs => do
      let (set, rest) ← setRange? f cs
      operands? f fuel left (items.add set 0) rest

end

/-! ## Expressions -/

/-- The flags in force and the names of groups that have been used. -/
structure State where
  flags : Flags
  names : List (List Char)
deriving Repr

/-- One piece of a sequence: a change of flags, or an expression and how deeply it is nested. -/
inductive Piece where
  | directive
  | phrase (r : Regex) (depth : Nat)
deriving Repr

namespace Piece

/-- The expression of a piece; a change of flags matches the empty text. -/
def regex : Piece → Regex
  | .directive => .empty
  | .phrase r _ => r

/-- How deeply the expression of a piece is nested. -/
def depth : Piece → Nat
  | .directive => 0
  | .phrase _ d => d

/-- Pieces one after the other. -/
def sequence (pieces : List Piece) : Piece :=
  match pieces with
  | [p] => .phrase p.regex p.depth
  | ps =>
    let inner := (ps.map depth).foldl max 0
    .phrase (Regex.concat (ps.map regex)) (if ps.isEmpty then 0 else inner + 1)

/-- Pieces of which one is to match. -/
def choice (pieces : List Piece) : Piece :=
  match pieces with
  | [p] => p
  | ps => .phrase (Regex.either (ps.map regex)) ((ps.map depth).foldl max 0 + 1)

end Piece

/-- The expression for one character. Without Unicode a byte above 127 is none, and letter case is
known of ASCII letters only. -/
def literal? (f : Flags) (c : Char) (isByte : Bool) : Option Regex :=
  if !f.unicode && isByte && 128 ≤ c.toNat then none
  else if f.ignoreCase then
    if f.unicode then some (.chars (CaseMap.closeUnderFold (.ofChar c)))
    else if 128 ≤ c.toNat then none
    else (adjusted? f false (.ofChar c)).map Regex.chars
  else some (.chars (.ofChar c))

/-- The expression for a point. -/
def dot? (f : Flags) : Option Regex :=
  if !f.unicode then none
  else if f.dotAll then some (.chars .full)
  else if f.crlf then some (.chars (Charset.ofTable "A D").complement)
  else some (.chars (Charset.ofTable "A").complement)

/-- The condition that a caret stands for. -/
def caret (f : Flags) : Look :=
  if f.multiLine then (if f.crlf then .crlfStart else .lineStart) else .textStart

/-- The condition that a dollar sign stands for. -/
def dollar (f : Flags) : Look :=
  if f.multiLine then (if f.crlf then .crlfEnd else .lineEnd) else .textEnd

/-- A single character, class or condition. -/
def primitive? (f : Flags) : List Char → Option (Regex × List Char)
  | [] => none
  | '\\' :: cs => do
    let (escaped, rest) ← escape? f cs
    match escaped with
    | .literal c isByte => (literal? f c isByte).map fun r => (r, rest)
    | .set set => some (.chars set, rest)
    | .look l => some (.look l, rest)
  | '.' :: cs => (dot? f).map fun r => (r, cs)
  | '^' :: cs => some (.look (caret f), cs)
  | '$' :: cs => some (.look (dollar f), cs)
  | c :: cs => (literal? f c false).map fun r => (r, cs)

/-- The bounds of a counted repetition behind its opening brace. -/
def counts? (f : Flags) (cs : List Char) : Option (Nat × Option Nat × List Char) := do
  let (least, rest) ← decimal? f (skip f cs)
  match rest with
  | '}' :: rest => some (least, some least, rest)
  | ',' :: rest =>
    match skip f rest with
    | '}' :: rest => some (least, none, rest)
    | rest =>
      let (most, rest) ← decimal? f rest
      match rest with
      | '}' :: rest => if least ≤ most then some (least, some most, rest) else none
      | _ => none
  | _ => none

/-- Drops the mark that makes a repetition prefer fewer rounds. -/
def dropLazyMark : List Char → List Char
  | '?' :: cs => cs
  | cs => cs

/-- The sequence with its last piece repeated; there must be one and it must not be a directive.
The pieces stand in reverse order. -/
def repeatLast? (least : Nat) (most : Option Nat) : List Piece → Option (List Piece)
  | .phrase r depth :: before => some (.phrase (r.repeated least most) (depth + 1) :: before)
  | _ => none

/-- The name of a group up to the closing angle bracket. -/
def groupName? (cs : List Char) : Option (List Char × List Char) :=
  let isRest (c : Char) : Bool :=
    c == '_' || c == '.' || c == '[' || c == ']' || Property.alphanumeric.contains c
  match cs.takeWhile (· ≠ '>'), cs.dropWhile (· ≠ '>') with
  | c :: more, _ :: rest =>
    if (c == '_' || Property.alphabetic.contains c) && more.all isRest then some (c :: more, rest)
    else none
  | _, _ => none

/-- How a group starts. -/
inductive Opening where
  | capture (names : List (List Char))
  | plain (flags : Flags)
  | directive (flags : Flags)
deriving Repr

/-- The start of a group behind its opening parenthesis. Conditions on what surrounds a match are
not part of the language. -/
def opening? (st : State) (cs : List Char) : Option (Opening × List Char) :=
  let named (cs : List Char) : Option (Opening × List Char) := do
    let (name, rest) ← groupName? cs
    if st.names.contains name then none else some (.capture (name :: st.names), rest)
  match skip st.flags cs with
  | '?' :: '=' :: _ | '?' :: '!' :: _ | '?' :: '<' :: '=' :: _ | '?' :: '<' :: '!' :: _ => none
  | '?' :: 'P' :: '<' :: cs => named cs
  | '?' :: '<' :: cs => named cs
  | '?' :: cs => do
    let body := cs.takeWhile fun c => c ≠ ':' && c ≠ ')'
    let flags ← st.flags.changed? body
    match cs.drop body.length with
    | ':' :: rest => some (.plain flags, rest)
    | ')' :: rest => if body.isEmpty then none else some (.directive flags, rest)
    | _ => none
  | cs => some (.capture st.names, cs)

mutual

/-- The pieces up to a bar, a closing parenthesis or the end, behind those already read, which
stand in reverse order. -/
def pieces? : Nat → State → List Piece → List Char → Option (List Piece × State × List Char)
  | 0, _, _, _ => none
  | fuel + 1, st, done, cs =>
    let repeatAs (least : Nat) (most : Option Nat) (rest : List Char) :
        Option (List Piece × State × List Char) := do
      pieces? fuel st (← repeatLast? least most done) (dropLazyMark rest)
    match skip st.flags cs with
    | [] => some (done, st, [])
    | '|' :: rest => some (done, st, '|' :: rest)
    | ')' :: rest => some (done, st, ')' :: rest)
    | '(' :: rest => do
      let (opening, rest) ← opening? st rest
      match opening with
      | .directive flags => pieces? fuel { st with flags } (.directive :: done) rest
      | .plain flags =>
        match ← choices? fuel { st with flags } [] rest with
        | (p, inner, ')' :: rest) =>
          let piece := Piece.phrase p.regex (p.depth + 1)
          pieces? fuel { inner with flags := st.flags } (piece :: done) rest
        | _ => none
      | .capture names =>
        match ← choices? fuel { st with names } [] rest with
        | (p, inner, ')' :: rest) =>
          let piece := Piece.phrase (.capture p.regex) (p.depth + 1)
          pieces? fuel { inner with flags := st.flags } (piece :: done) rest
        | _ => none
    | '[' :: rest => do
      let (set, depth, rest) ← bracket? st.flags (rest.length + 1) rest
      pieces? fuel st (.phrase (.chars set) depth :: done) rest
    | '?' :: rest => repeatAs 0 (some 1) rest
    | '*' :: rest => repeatAs 0 none rest
    | '+' :: rest => repeatAs 1 none rest
    | '{' :: rest => do
      let (least, most, rest) ← counts? st.flags rest
      repeatAs least most (skip st.flags rest)
    | cs => do
      let (r, rest) ← primitive? st.flags cs
      pieces? fuel st (.phrase r 0 :: done) rest

/-- The alternatives up to a closing parenthesis or the end, behind those already read, which stand
in reverse order. -/
def choices? : Nat → State → List Piece → List Char → Option (Piece × State × List Char)
  | 0, _, _, _ => none
  | fuel + 1, st, done, cs => do
    let (ps, st, rest) ← pieces? fuel st [] cs
    let done := Piece.sequence ps.reverse :: done
    match rest with
    | '|' :: rest => choices? fuel st done rest
    | rest => some (Piece.choice done.reverse, st, rest)

end

/-- How deeply an expression may be nested. -/
def maxDepth : Nat := 250

/-- How large the automata of an expression may be. -/
def maxSize : Nat := Nat.pow 2 20

/-- The expression of a text, or nothing if it has none that is within the limits. -/
def compile? (text : String) : Option Regex :=
  let cs := text.toList
  match choices? (2 * cs.length + 4) ⟨.start, []⟩ [] cs with
  | some (.phrase r depth, _, []) => if depth ≤ maxDepth && r.size ≤ maxSize then some r else none
  | _ => none

end Switchyard.Regex
