import Switchyard.Toml.Scalar
import Switchyard.Toml.Table

/-!
# Reading TOML

`Toml.read?` reads a text as one document. Arrays and inline tables may be nested 79 deep and a
dotted key may have 79 parts. An array may go over several lines and hold comments; an inline table
stands on one line.
-/

namespace Switchyard.Toml

/-! ## Blanks, comments and line ends -/

/-- The rest behind a comment that starts with its mark, if its characters are allowed. -/
def comment (cs : List Char) : List Char := cs.dropWhile isPlain

theorem length_lineBreak {cs rest : List Char} (h : lineBreak? cs = some rest) :
    rest.length < cs.length := by
  unfold lineBreak? at h
  split at h
  · cases h
    simp only [List.length_cons]
    omega
  · cases h
    simp only [List.length_cons]
    omega
  · cases h

private theorem length_dropWhile_le (p : Char → Bool) (cs : List Char) :
    (cs.dropWhile p).length ≤ cs.length :=
  (List.dropWhile_sublist p).length_le

/-- The rest behind blanks, line breaks, and comments that end in a line break. -/
def skipLines (cs : List Char) : List Char :=
  let rest := cs.dropWhile isBlank
  let line := if rest.head? = some '#' then comment rest else rest
  match _h : lineBreak? line with
  | some more => skipLines more
  | none => rest
termination_by cs.length
decreasing_by
  have h := length_lineBreak _h
  have h₁ : rest.length ≤ cs.length := length_dropWhile_le isBlank cs
  have h₂ := length_dropWhile_le isPlain rest
  simp only [line, comment] at h
  split at h <;> omega

/-- The rest behind the end of a line: blanks, a comment, and a line break or the end of the
text. -/
def lineEnd? (cs : List Char) : Option (List Char) :=
  let rest := cs.dropWhile isBlank
  let rest := if rest.head? = some '#' then comment rest else rest
  if rest.isEmpty then some [] else lineBreak? rest

/-! ## Keys -/

/-- What may stand in a key without quotes. -/
def isKeyChar (c : Char) : Bool := c.isAlphanum || c == '_' || c == '-'

/-- One part of a key: a bare word, or a string on one line. -/
def keyPart (cs : List Char) : Option (String × List Char) :=
  match cs with
  | '"' :: cs => (basicBody cs).map fun (s, rest) => (String.ofList s, rest)
  | '\'' :: cs => (literalBody cs).map fun (s, rest) => (String.ofList s, rest)
  | _ =>
    let word := cs.takeWhile isKeyChar
    if word.isEmpty then none else some (String.ofList word, cs.dropWhile isKeyChar)

/-- How many parts a key may have, and how deep values may be nested. -/
def maxDepth : Nat := 79

/-- The parts of a key, at most `n` of them, with blanks around the dots. -/
def keyParts : Nat → Reader (List String)
  | 0, _ => none
  | n + 1, cs => do
    let (part, rest) ← keyPart (cs.dropWhile isBlank)
    match rest.dropWhile isBlank with
    | '.' :: more =>
      let (parts, rest) ← keyParts n more
      some (part :: parts, rest)
    | rest => some ([part], rest)

/-- A key: the path to its table and its last part. -/
def key : Reader (List String × String) := fun cs => do
  let (parts, rest) ← keyParts maxDepth cs
  some ((parts.dropLast, ← parts.getLast?), rest)

/-! ## Values -/

/-- The items of an array after its opening bracket or a comma, each read by `item`. -/
def arrayItems (item : Reader Json) : Nat → Reader (List Json)
  | 0, _ => none
  | fuel + 1, cs =>
    match skipLines cs with
    | ']' :: rest => some ([], rest)
    | cs => do
      let (x, rest) ← item cs
      match skipLines rest with
      | ',' :: rest =>
        let (xs, rest) ← arrayItems item fuel rest
        some (x :: xs, rest)
      | ']' :: rest => some ([x], rest)
      | _ => none

/-- A key, an equals sign and a value read by `item`. -/
def pair (item : Reader Json) : Reader ((List String × String) × Json) := fun cs => do
  let (k, '=' :: rest) ← key cs | none
  let (x, rest) ← item (rest.dropWhile isBlank)
  some ((k, x), rest)

/-- The pairs of an inline table after its opening brace or a comma. -/
def inlinePairs (item : Reader Json) : Nat → Reader (List ((List String × String) × Json))
  | 0, _ => none
  | fuel + 1, cs => do
    let (p, rest) ← pair item cs
    match rest.dropWhile isBlank with
    | ',' :: rest =>
      let (ps, rest) ← inlinePairs item fuel rest
      some (p :: ps, rest)
    | '\x7d' :: rest => some ([p], rest)
    | _ => none

/-- A value; `depth` more arrays and inline tables may be opened. -/
def value (depth : Nat) (cs : List Char) : Option (Json × List Char) :=
  match depth, cs with
  | depth + 1, '[' :: rest =>
    (arrayItems (value depth) (rest.length + 1) rest).map fun (xs, rest) => (.array xs, rest)
  | depth + 1, '\x7b' :: rest =>
    match rest.dropWhile isBlank with
    | '\x7d' :: rest => some (.object [], rest)
    | _ => do
      let (pairs, rest) ← inlinePairs (value depth) (rest.length + 1) rest
      some ((← Table.ofPairs pairs).toJson, rest)
  | _, c :: rest =>
    if c = '"' ∨ c = '\'' then (stringValue (c :: rest)).map fun (s, rest) => (.string s, rest)
    else plainValue (c :: rest)
  | _, [] => none

/-! ## Documents -/

/-- The tables read so far, and the table that keys are added to, as a path and a last key. -/
structure Document where
  root : Table
  current : List String

namespace Document

/-- The document without a line. -/
def empty : Document := ⟨[], []⟩

/-- Adds a value to the current table. -/
def assign (d : Document) (k : List String × String) (x : Json) : Option Document :=
  (Table.within false (fun _ t => t.assign k.1 k.2 x) d.current .header d.root).map fun root =>
    { d with root }

/-- Opens a table. -/
def openTable (d : Document) (k : List String × String) : Option Document :=
  (d.root.openTable k.1 k.2).map fun root => ⟨root, k.1 ++ [k.2]⟩

/-- Opens a new element of an array of tables. -/
def openElement (d : Document) (k : List String × String) : Option Document :=
  (d.root.openElement k.1 k.2).map fun root => ⟨root, k.1 ++ [k.2]⟩

/-- What one line that is not empty does; it may go over several lines of text. -/
def line (d : Document) (cs : List Char) : Option (Document × List Char) :=
  match cs with
  | '[' :: '[' :: cs => do
    let (k, ']' :: ']' :: rest) ← key cs | none
    some (← d.openElement k, rest)
  | '[' :: cs => do
    let (k, ']' :: rest) ← key cs | none
    some (← d.openTable k, rest)
  | cs => do
    let ((k, x), rest) ← pair (value maxDepth) cs
    some (← d.assign k x, rest)

/-- Reads lines until the text ends. -/
def lines : Nat → Document → List Char → Option Document
  | 0, _, _ => none
  | fuel + 1, d, cs =>
    match skipLines cs with
    | [] => some d
    | '#' :: rest => if (comment rest).isEmpty then some d else none
    | cs => do
      let (d, rest) ← d.line cs
      lines fuel d (← lineEnd? rest)

end Document

/-- The document of a text. A byte order mark may come first. -/
def read? (text : String) : Option Json :=
  let cs := match text.toList with
    | '\uFEFF' :: cs => cs
    | cs => cs
  (Document.lines (cs.length + 1) .empty cs).map (·.root.toJson)

end Switchyard.Toml
