import Switchyard.Decimal.Numeral
import Switchyard.Json.Basic
import Switchyard.Time.Calendar

/-!
# Plain values

Strings, numbers, truth values and dates of TOML. A value that is no string is one word: the longest
run of characters that such values are made of. Only a date may have its time behind one blank.

* `stringValue`: the four kinds of strings.
* `wordValue?`: what a word denotes.
-/

namespace Switchyard.Toml

/-- What reads a piece off the front of a text, or refuses. -/
abbrev Reader (α : Type) := List Char → Option (α × List Char)

/-- Space and tab. -/
def isBlank (c : Char) : Bool := c == ' ' || c == '\t'

/-- What may stand in a comment or, but for quotes and backslashes, in a string. -/
def isPlain (c : Char) : Bool := c == '\t' || (0x20 ≤ c.toNat && c.toNat != 0x7F)

/-- The rest of a text behind a line break at its front. -/
def lineBreak? : List Char → Option (List Char)
  | '\n' :: cs => some cs
  | '\r' :: '\n' :: cs => some cs
  | _ => none

/-! ## Strings -/

/-- The value of a hexadecimal digit of either case. -/
def hexValue? (c : Char) : Option Nat :=
  if c.isDigit then some (c.toNat - '0'.toNat)
  else if 'a' ≤ c ∧ c ≤ 'f' then some (c.toNat - 'a'.toNat + 10)
  else if 'A' ≤ c ∧ c ≤ 'F' then some (c.toNat - 'A'.toNat + 10)
  else none

/-- The character with the code point that hexadecimal digits denote. -/
def scalar? (digits : List Char) : Option Char := do
  let n := (← digits.mapM hexValue?).foldl (fun n d => 16 * n + d) 0
  if n.isValidChar then some (Char.ofNat n) else none

/-- The character that a one-letter escape stands for. -/
def escaped? : Char → Option Char
  | 'b' => some '\x08'
  | 't' => some '\t'
  | 'n' => some '\n'
  | 'f' => some '\x0c'
  | 'r' => some '\r'
  | '"' => some '"'
  | '\\' => some '\\'
  | _ => none

/-- A character before what a reader has read. -/
def consChar (c : Char) (r : Option (List Char × List Char)) : Option (List Char × List Char) :=
  r.map fun (s, rest) => (c :: s, rest)

/-- The rest of a string on one line after its opening quote. -/
def basicBody : Reader (List Char)
  | [] => none
  | '"' :: cs => some ([], cs)
  | '\\' :: 'u' :: a :: b :: c :: d :: cs => do
    consChar (← scalar? [a, b, c, d]) (basicBody cs)
  | '\\' :: 'U' :: a :: b :: c :: d :: e :: f :: g :: h :: cs => do
    consChar (← scalar? [a, b, c, d, e, f, g, h]) (basicBody cs)
  | '\\' :: c :: cs => do consChar (← escaped? c) (basicBody cs)
  | c :: cs => if c ≠ '\\' ∧ isPlain c then consChar c (basicBody cs) else none

/-- The rest of a string without escapes on one line after its opening quote. -/
def literalBody : Reader (List Char)
  | [] => none
  | '\'' :: cs => some ([], cs)
  | c :: cs => if isPlain c then consChar c (literalBody cs) else none

/-- What stands behind the three quotes that close a string on several lines. Up to two quotes more
belong to the string. -/
def closing (quote : Char) (cs : List Char) : List Char × List Char :=
  let extra := min 2 (cs.takeWhile (· == quote)).length
  (cs.take extra, cs.drop extra)

/-- Whether nothing but blanks stands before the end of the line. -/
def isLineEnd (cs : List Char) : Bool := (lineBreak? (cs.dropWhile isBlank)).isSome

/-- The rest of a string on several lines. A backslash at the end of a line drops blanks and line
breaks up to the next character; `isDropping` says that this is under way. -/
def longBasicBody (isDropping : Bool) : Reader (List Char)
  | [] => none
  | '"' :: '"' :: '"' :: cs => some (closing '"' cs)
  | '\r' :: '\n' :: cs =>
    if isDropping then longBasicBody true cs else consChar '\n' (longBasicBody false cs)
  | '\\' :: 'u' :: a :: b :: c :: d :: cs => do
    consChar (← scalar? [a, b, c, d]) (longBasicBody false cs)
  | '\\' :: 'U' :: a :: b :: c :: d :: e :: f :: g :: h :: cs => do
    consChar (← scalar? [a, b, c, d, e, f, g, h]) (longBasicBody false cs)
  | '\\' :: c :: cs =>
    if isLineEnd (c :: cs) then longBasicBody true (c :: cs)
    else do consChar (← escaped? c) (longBasicBody false cs)
  | c :: cs =>
    if isDropping && (isBlank c || c == '\n') then longBasicBody true cs
    else if c ≠ '\\' ∧ (isPlain c ∨ c = '\n') then consChar c (longBasicBody false cs)
    else none

/-- The rest of a string without escapes on several lines. -/
def longLiteralBody : Reader (List Char)
  | [] => none
  | '\'' :: '\'' :: '\'' :: cs => some (closing '\'' cs)
  | '\r' :: '\n' :: cs => consChar '\n' (longLiteralBody cs)
  | c :: cs => if isPlain c ∨ c = '\n' then consChar c (longLiteralBody cs) else none

/-- A text without the line break at its front. -/
def afterBreak (cs : List Char) : List Char := (lineBreak? cs).getD cs

/-- A string of any kind, its opening quotes included. -/
def stringValue (cs : List Char) : Option (String × List Char) :=
  let body := match cs with
    | '"' :: '"' :: '"' :: cs => longBasicBody false (afterBreak cs)
    | '"' :: cs => basicBody cs
    | '\'' :: '\'' :: '\'' :: cs => longLiteralBody (afterBreak cs)
    | '\'' :: cs => literalBody cs
    | _ => none
  body.map fun (s, rest) => (String.ofList s, rest)

/-! ## Numbers -/

/-- The digits of a run in which single underscores may stand between digits. -/
def digitsOf? (isDigit : Char → Bool) : List Char → Option (List Char)
  | [] => none
  | [c] => if isDigit c then some [c] else none
  | c :: '_' :: cs => if isDigit c then (digitsOf? isDigit cs).map (c :: ·) else none
  | c :: cs => if isDigit c then (digitsOf? isDigit cs).map (c :: ·) else none

/-- The digits of a decimal integer; none of several starts with zero. -/
def decimalDigits? (cs : List Char) : Option (List Char) :=
  if cs.head? = some '0' ∧ 1 < cs.length then none else digitsOf? Char.isDigit cs

/-- An integer in 64 bits with a sign. -/
def whole? (n : Int) : Option Json :=
  if -Int.pow 2 63 ≤ n ∧ n < Int.pow 2 63 then some (.whole n) else none

/-- The integer of digits to a base that is a power of two. -/
def based? (base : Nat) (cs : List Char) : Option Json := do
  let isDigit (c : Char) : Bool := (hexValue? c).any fun d => d < base
  let digits ← digitsOf? isDigit cs
  whole? ((digits.filterMap hexValue?).foldl (fun n d => base * n + d) 0 : Nat)

/-- The sign of a number and what follows it. -/
def signed : List Char → Bool × List Char
  | '-' :: cs => (true, cs)
  | '+' :: cs => (false, cs)
  | cs => (false, cs)

/-- A number with a fraction or an exponent. It must not be too large for a double unless it is
negative. -/
def real? (negative : Bool) (cs : List Char) : Option Json := do
  let whole ← decimalDigits? (cs.takeWhile fun c => c != '.' && c != 'e' && c != 'E')
  let rest := cs.dropWhile fun c => c != '.' && c != 'e' && c != 'E'
  let (fraction, rest) ← match rest with
    | '.' :: more => do
      let digits ← digitsOf? Char.isDigit (more.takeWhile fun c => c != 'e' && c != 'E')
      some (digits, more.dropWhile fun c => c != 'e' && c != 'E')
    | _ => some ([], rest)
  let exponent ← match rest with
    | [] => some (0 : Int)
    | _ :: more => do
      let (isDown, digits) := signed more
      let n := Numeral.ofDigits (← digitsOf? Char.isDigit digits)
      some (if isDown then -(n : Int) else n)
  let x := (Numeral.mk (Numeral.ofDigits (whole ++ fraction))
    (exponent - fraction.length)).toBinary64
  if negative then some (.real x.neg)
  else if x.isFinite then some (.real x)
  else none

/-- A number, infinity or NaN. -/
def number? (word : List Char) : Option Json :=
  let (negative, cs) := signed word
  let real (x : Binary64) : Option Json := some (.real (if negative then x.neg else x))
  if cs = "inf".toList then real .infinity
  else if cs = "nan".toList then real ⟨0x7ff8000000000000⟩
  else if cs.any fun c => c == '.' || c == 'e' || c == 'E' then real? negative cs
  else do
    let n := Numeral.ofDigits (← decimalDigits? cs)
    whole? (if negative then -(n : Int) else n)

/-! ## Dates and times -/

/-- A number of exactly `width` digits between two bounds. -/
def field (width lo hi : Nat) : Reader Nat := fun cs =>
  let digits := cs.take width
  let n := Numeral.ofDigits digits
  if digits.length = width ∧ digits.all Char.isDigit ∧ lo ≤ n ∧ n ≤ hi then
    some (n, cs.drop width)
  else none

/-- A number in at least `width` digits. -/
def padded (width n : Nat) : String :=
  let s := toString n
  "".pushn '0' (width - s.length) ++ s

/-- A date, in the form in which it is written. -/
def date : Reader String := fun cs => do
  let (year, cs) ← field 4 0 9999 cs
  let '-' :: cs := cs | none
  let (month, cs) ← field 2 1 12 cs
  let '-' :: cs := cs | none
  let (day, cs) ← field 2 1 (Calendar.daysInMonth year month) cs
  some (padded 4 year ++ "-" ++ padded 2 month ++ "-" ++ padded 2 day, cs)

/-- The fraction of a second. Nine digits count, and zeros at the end are not written. -/
def fraction : Reader String
  | '.' :: cs =>
    let digits := cs.takeWhile Char.isDigit
    let kept := ((digits.take 9).reverse.dropWhile (· == '0')).reverse
    if digits.isEmpty then none
    else some (if kept.isEmpty then "" else "." ++ String.ofList kept, cs.dropWhile Char.isDigit)
  | cs => some ("", cs)

/-- A time of day. -/
def time : Reader String := fun cs => do
  let (hour, cs) ← field 2 0 23 cs
  let ':' :: cs := cs | none
  let (minute, cs) ← field 2 0 59 cs
  let ':' :: cs := cs | none
  let (second, cs) ← field 2 0 60 cs
  let (f, cs) ← fraction cs
  some (padded 2 hour ++ ":" ++ padded 2 minute ++ ":" ++ padded 2 second ++ f, cs)

/-- An offset from UTC, which may be missing. One of nothing is written with a plus sign. -/
def offset : Reader String
  | 'Z' :: cs | 'z' :: cs => some ("Z", cs)
  | c :: cs =>
    if c = '+' ∨ c = '-' then do
      let (hour, cs) ← field 2 0 23 cs
      let ':' :: cs := cs | none
      let (minute, cs) ← field 2 0 59 cs
      let sign := if c = '-' ∧ 0 < hour + minute then "-" else "+"
      some (sign ++ padded 2 hour ++ ":" ++ padded 2 minute, cs)
    else some ("", c :: cs)
  | [] => some ("", [])

/-- A time and an offset that make up a whole word. -/
def timeWord? (word : List Char) : Option String := do
  let (t, cs) ← time word
  let (o, cs) ← offset cs
  if cs.isEmpty then some (t ++ o) else none

/-- A date, a time, or a date and a time, that make up a whole word. -/
def dateTime? (word : List Char) : Option String :=
  match date word with
  | some (d, []) => some d
  | some (d, c :: cs) =>
    if c = 'T' ∨ c = 't' then (timeWord? cs).map fun t => d ++ "T" ++ t else none
  | none =>
    match time word with
    | some (t, []) => some t
    | _ => none

/-- The document that stands for a date or time. -/
def dateTimeJson (text : String) : Json :=
  .object [("$__toml_private_datetime", .string text)]

/-! ## Words -/

/-- What may stand in a value without quotes or brackets. -/
def isWordChar (c : Char) : Bool :=
  c.isAlphanum || c == '_' || c == '-' || c == '+' || c == '.' || c == ':'

/-- What a word denotes. -/
def wordValue? (word : List Char) : Option Json :=
  match word with
  | ['t', 'r', 'u', 'e'] => some (.bool true)
  | ['f', 'a', 'l', 's', 'e'] => some (.bool false)
  | '0' :: 'x' :: cs => based? 16 cs
  | '0' :: 'o' :: cs => based? 8 cs
  | '0' :: 'b' :: cs => based? 2 cs
  | _ => ((dateTime? word).map dateTimeJson).or (number? word)

/-- A value that is no string, at the front of a text. -/
def plainValue : Reader Json := fun cs =>
  let word := cs.takeWhile isWordChar
  let rest := cs.dropWhile isWordChar
  let later := match rest with
    | ' ' :: more => do
      let (d, []) ← date word | none
      let t ← timeWord? (more.takeWhile isWordChar)
      some (dateTimeJson (d ++ "T" ++ t), more.dropWhile isWordChar)
    | _ => none
  later.or ((wordValue? word).map fun j => (j, rest))

end Switchyard.Toml
