import Switchyard.Text.CaseTable
import Switchyard.Text.Property

/-!
# Upper and lower case

The full case mappings of Unicode without language rules: a character may become several. In lower
case a capital sigma at the end of a word becomes the final sigma.
-/

namespace Switchyard.Text.CaseMap

/-- A run of characters that move by one offset. -/
structure Run where
  lo : Nat
  hi : Nat
  step : Nat
  offset : Int

/-- Whether a run moves a code point. -/
def Run.has (r : Run) (n : Nat) : Bool :=
  r.lo ≤ n && n ≤ r.hi && (n - r.lo) % r.step == 0

/-- The integer that hexadecimal digits with a possible minus sign denote. -/
def hexInt (cs : List Char) : Int :=
  match cs with
  | '-' :: ds => -(Charset.hexNat ds : Int)
  | ds => Charset.hexNat ds

/-- The fields of a table word, cut at `sep`. -/
def fields (sep : Char) (w : List Char) : List (List Char) :=
  w.splitOnP (· == sep)

/-- A run as it stands in a table. -/
def runOfWord? (w : List Char) : Option Run :=
  match fields ':' w with
  | [range, step, offset] =>
    let (lo, hi) := Charset.rangeOfWord range
    some ⟨lo, hi, Charset.hexNat step, hexInt offset⟩
  | _ => none

/-- The runs in a table. -/
def runsOf (table : String) : List Run := (Charset.words table).filterMap runOfWord?

/-- Where the runs move a code point. -/
def move? (runs : List Run) (n : Nat) : Option Nat :=
  (runs.find? (·.has n)).map fun r => ((n : Int) + r.offset).toNat

/-- The runs of the upper-case mapping. -/
def upperRuns : List Run := runsOf CaseTable.upper

/-- The runs of the lower-case mapping. -/
def lowerRuns : List Run := runsOf CaseTable.lower

/-- The runs of simple case folding. -/
def foldRuns : List Run := runsOf CaseTable.fold

/-- The characters whose upper-case form is longer than one character, with that form. -/
def longUpper : List (Nat × List Char) :=
  (Charset.words CaseTable.upperLong).filterMap fun w =>
    match fields '=' w with
    | [c, cs] => some (Charset.hexNat c, (fields ',' cs).map fun d => Char.ofNat (Charset.hexNat d))
    | _ => none

/-- The upper-case form of a character. -/
def upperChar (c : Char) : List Char :=
  if c.toNat < 128 then [c.toUpper]
  else
    match longUpper.find? fun p => p.1 == c.toNat with
    | some p => p.2
    | none => [((move? upperRuns c.toNat).map Char.ofNat).getD c]

/-- The lower-case form of a character by itself. -/
def lowerChar (c : Char) : List Char :=
  if c.toNat < 128 then [c.toLower]
  else if c.toNat = 0x130 then ['i', Char.ofNat 0x307]
  else [((move? lowerRuns c.toNat).map Char.ofNat).getD c]

/-- Every code point that folds to another one, with the one it folds to. -/
def foldPairs : List (Nat × Nat) :=
  foldRuns.flatMap fun r =>
    (List.range ((r.hi - r.lo) / r.step + 1)).map fun i =>
      (r.lo + i * r.step, (((r.lo + i * r.step : Nat) : Int) + r.offset).toNat)

/-- A set together with every character that folds to the same one as a character of the set. -/
def closeUnderFold (s : Charset) : Charset :=
  let targets := (foldPairs.filter fun p => s.has p.1).map (·.2)
  let folded := s.union (.ofCodes targets)
  folded.union (.ofCodes ((foldPairs.filter fun p => folded.has p.2).map (·.1)))

/-- The upper-case form of a text. -/
def upper (s : String) : String := String.ofList (s.toList.flatMap upperChar)

/-- Whether the first character that counts is a cased letter. -/
def casedNext (cs : List Char) : Bool :=
  match cs.dropWhile Property.caseIgnorable.contains with
  | c :: _ => Property.cased.contains c
  | [] => false

/-- The lower-case form of a text; `before` is what stands before it, last character first. -/
def lowerFrom (before : List Char) : List Char → List Char
  | [] => []
  | c :: cs =>
    let here :=
      if c = 'Σ' then (if casedNext before && !casedNext cs then ['ς'] else ['σ'])
      else lowerChar c
    here ++ lowerFrom (c :: before) cs

/-- The lower-case form of a text. -/
def lower (s : String) : String := String.ofList (lowerFrom [] s.toList)

end Switchyard.Text.CaseMap
