import Switchyard.Json.Basic
import Switchyard.Decimal.Numeral

/-!
# Reading JSON

`Json.read?` reads a whole text as one document. Arrays and objects may be nested 127 deep; a
number whose value overflows, an unpaired surrogate escape and a bare control character in a string
are all refused.

A number with a fraction or an exponent is formed from its leading digits, as many as fit 64 bits,
by one multiplication with or division by a power of ten in double arithmetic.
-/

namespace Switchyard.Json

/-- What reads a piece off the front of a text, or refuses. -/
abbrev Reader (α : Type) := List Char → Option (α × List Char)

/-- What may stand between the parts of a document. -/
def isSpace (c : Char) : Bool := c == ' ' || c == '\n' || c == '\t' || c == '\r'

/-- The text without the spaces at its front. -/
def skipSpace (cs : List Char) : List Char := cs.dropWhile isSpace

/-! ## Strings -/

/-- The value of a hexadecimal digit of either case. -/
def hexDigit? (c : Char) : Option Nat :=
  if c.isDigit then some (c.toNat - '0'.toNat)
  else if 'a' ≤ c ∧ c ≤ 'f' then some (c.toNat - 'a'.toNat + 10)
  else if 'A' ≤ c ∧ c ≤ 'F' then some (c.toNat - 'A'.toNat + 10)
  else none

/-- The number that four hexadecimal digits denote. -/
def hex4? (a b c d : Char) : Option Nat := do
  let a ← hexDigit? a
  let b ← hexDigit? b
  let c ← hexDigit? c
  let d ← hexDigit? d
  some (((a * 16 + b) * 16 + c) * 16 + d)

/-- The character that a one-letter escape stands for. -/
def escaped? : Char → Option Char
  | '"' => some '"'
  | '\\' => some '\\'
  | '/' => some '/'
  | 'b' => some '\x08'
  | 'f' => some '\x0c'
  | 'n' => some '\n'
  | 'r' => some '\r'
  | 't' => some '\t'
  | _ => none

/-- The rest of a string after its opening quote. -/
def stringBody : Reader (List Char)
  | [] => none
  | '"' :: cs => some ([], cs)
  | '\\' :: 'u' :: a :: b :: c :: d :: cs => do
    let n ← hex4? a b c d
    if 0xD800 ≤ n ∧ n < 0xDC00 then
      match cs with
      | '\\' :: 'u' :: e :: f :: g :: h :: more => do
        let low ← hex4? e f g h
        if 0xDC00 ≤ low ∧ low < 0xE000 then
          let (s, rest) ← stringBody more
          some (Char.ofNat (0x10000 + (n - 0xD800) * 0x400 + (low - 0xDC00)) :: s, rest)
        else none
      | _ => none
    else if 0xDC00 ≤ n ∧ n < 0xE000 then none
    else do
      let (s, rest) ← stringBody cs
      some (Char.ofNat n :: s, rest)
  | '\\' :: c :: cs => do
    let e ← escaped? c
    let (s, rest) ← stringBody cs
    some (e :: s, rest)
  | c :: cs =>
    if c = '\\' ∨ c.toNat < 0x20 then none
    else do
      let (s, rest) ← stringBody cs
      some (c :: s, rest)

/-! ## Numbers -/

/-- The largest number of leading digits whose value stays below `2 ^ 64`: their value and how many
digits are left over. -/
def leadingDigits (value : Nat) : List Char → Nat × Nat
  | [] => (value, 0)
  | c :: cs =>
    let next := value * 10 + Numeral.digitValue c
    if next < Nat.pow 2 64 then leadingDigits next cs else (value, cs.length + 1)

/-- The power `10 ^ n` as a double, for `n` up to 308. -/
def powerOfTen (n : Nat) : Float := Float.ofScientific 1 false n

/-- `f · 10 ^ exponent` by steps of at most 308; none if it overflows. -/
def scaled? (f : Float) (exponent : Int) : Nat → Option Float
  | 0 => some f
  | fuel + 1 =>
    if exponent.natAbs ≤ 308 then
      if 0 ≤ exponent then
        let x := f * powerOfTen exponent.natAbs
        if x.isInf then none else some x
      else some (f / powerOfTen exponent.natAbs)
    else if f == 0.0 then some f
    else if 0 ≤ exponent then none
    else scaled? (f / powerOfTen 308) (exponent + 308) fuel

/-- The double that a significand below `2 ^ 64` and a power of ten give. After four steps down
even the largest significand has become zero. -/
def realOfParts? (negative : Bool) (significand : Nat) (exponent : Int) : Option Json := do
  let f ← scaled? (UInt64.ofNat significand).toFloat exponent 4
  let x := Binary64.ofFloat f
  some (.real (if negative then x.neg else x))

/-- The exponent that a run of digits denotes; one above `2 ^ 31 - 1` is out of range. -/
def exponentOf (digits : List Char) : Option Nat :=
  let n := Numeral.ofDigits digits
  if n < Nat.pow 2 31 then some n else none

/-- A number after its sign. A zero may not be followed by a digit. -/
def number (negative : Bool) (cs : List Char) : Option (Json × List Char) :=
  let digits := cs.takeWhile Char.isDigit
  let rest := cs.dropWhile Char.isDigit
  if digits.isEmpty ∨ (digits.head? = some '0' ∧ 1 < digits.length) then none
  else
    let (value, skipped) := leadingDigits 0 digits
    let fraction := match rest with
      | '.' :: more => some (more.takeWhile Char.isDigit, more.dropWhile Char.isDigit)
      | _ => none
    match fraction with
    | some ([], _) => none
    | _ =>
      let fractionDigits := (fraction.map (·.1)).getD []
      let rest := (fraction.map (·.2)).getD rest
      let (significand, dropped) := leadingDigits value fractionDigits
      let scale : Int := skipped - ((fractionDigits.length - dropped : Nat) : Int)
      match rest with
      | c :: more =>
        if c = 'e' ∨ c = 'E' then
          let down := more.head? = some '-'
          let more := more.drop (Numeral.signLength more)
          let expDigits := more.takeWhile Char.isDigit
          let after := more.dropWhile Char.isDigit
          if expDigits.isEmpty then none
          else match exponentOf expDigits with
            | some e => do
              let x ← realOfParts? negative significand (if down then scale - e else scale + e)
              some (x, after)
            | none =>
              if significand ≠ 0 ∧ ¬ down then none
              else some (.real (if negative then Binary64.zero.neg else .zero), after)
        else finish negative significand scale skipped fraction.isSome rest
      | [] => finish negative significand scale skipped fraction.isSome rest
where
  /-- A number without an exponent. -/
  finish (negative : Bool) (significand : Nat) (scale : Int) (skipped : Nat) (isReal : Bool)
      (rest : List Char) : Option (Json × List Char) :=
    if isReal ∨ 0 < skipped then do
      let x ← realOfParts? negative significand scale
      some (x, rest)
    else if ¬ negative then some (.whole significand, rest)
    else if significand = 0 ∨ Nat.pow 2 63 < significand then
      some (.real (Binary64.ofFloat (UInt64.ofNat significand).toFloat).neg, rest)
    else some (.whole (-(significand : Int)), rest)

/-! ## Documents -/

/-- A string after its opening quote. -/
def stringRest : Reader String := fun cs =>
  (stringBody cs).map fun (s, rest) => (String.ofList s, rest)

/-- The items of an array after its opening bracket, each read by `item`. -/
def items (item : Reader α) : Nat → Reader (List α)
  | 0, _ => none
  | fuel + 1, cs => do
    let (x, rest) ← item (skipSpace cs)
    match skipSpace rest with
    | ',' :: more => do
      let (xs, rest) ← items item fuel more
      some (x :: xs, rest)
    | ']' :: more => some ([x], more)
    | _ => none

/-- The members of an object after its opening brace: every key read by `key` after its opening
quote, and every value by `item`. -/
def members (key : Reader κ) (item : Reader α) : Nat → Reader (List (κ × α))
  | 0, _ => none
  | fuel + 1, cs => do
    match skipSpace cs with
    | '"' :: more =>
      let (k, rest) ← key more
      match skipSpace rest with
      | ':' :: more =>
        let (x, rest) ← item (skipSpace more)
        match skipSpace rest with
        | ',' :: more =>
          let (xs, rest) ← members key item fuel more
          some ((k, x) :: xs, rest)
        | '\x7d' :: more => some ([(k, x)], more)
        | _ => none
      | _ => none
    | _ => none

/-- A document at the front of a text; `depth` more arrays and objects may be opened. -/
def value : Nat → Reader Json
  | depth, cs =>
    match cs with
    | 'n' :: 'u' :: 'l' :: 'l' :: rest => some (.null, rest)
    | 't' :: 'r' :: 'u' :: 'e' :: rest => some (.bool true, rest)
    | 'f' :: 'a' :: 'l' :: 's' :: 'e' :: rest => some (.bool false, rest)
    | '"' :: rest => (stringRest rest).map fun (s, rest) => (.string s, rest)
    | '-' :: rest => number true rest
    | '[' :: rest =>
      match depth with
      | 0 => none
      | depth + 1 =>
        match skipSpace rest with
        | ']' :: more => some (.array [], more)
        | _ => (items (value depth) rest.length rest).map fun (xs, more) => (.array xs, more)
    | '\x7b' :: rest =>
      match depth with
      | 0 => none
      | depth + 1 =>
        match skipSpace rest with
        | '\x7d' :: more => some (.object [], more)
        | _ =>
          (members stringRest (value depth) rest.length rest).map fun (xs, more) =>
            (.object xs, more)
    | _ => number false cs

/-- How deep arrays and objects may be nested. -/
def maxDepth : Nat := 127

/-- The document that a whole text denotes. -/
def read? (cs : List Char) : Option Json :=
  match value maxDepth (skipSpace cs) with
  | some (x, rest) => if (skipSpace rest).isEmpty then some x else none
  | none => none

end Switchyard.Json
