import Switchyard.Decimal.Numeral
import Switchyard.Text.Blank
import Switchyard.Time.Instant

/-!
# Timestamps as text

Instants are written as RFC 3339 in UTC with as many groups of three fraction digits as they need.
Two readers take a timestamp with an offset: `readStrict?` that of RFC 3339 proper, `readRelaxed?`
the lenient form in which rule definitions may give `expires_at`. `readDate?` is for filters, where
the offset and the time of day may be missing.
-/

namespace Switchyard.Rfc3339

open Text

/-! ## Writing -/

/-- A natural number in at least `width` digits. -/
def padded (width n : Nat) : String :=
  let s := toString n
  "".pushn '0' (width - s.length) ++ s

/-- A year: four digits from 0 to 9999, else a sign and at least four digits. -/
def writeYear (y : Int) : String :=
  if 0 ≤ y ∧ y ≤ 9999 then padded 4 y.toNat
  else (if y < 0 then "-" else "+") ++ padded 4 y.natAbs

/-- The fraction of a second in three, six or nine digits, or nothing. -/
def writeFraction (n : Nat) : String :=
  if n = 0 then ""
  else if n % 1000000 = 0 then "." ++ padded 3 (n / 1000000)
  else if n % 1000 = 0 then "." ++ padded 6 (n / 1000)
  else "." ++ padded 9 n

/-- The RFC 3339 text of an instant. -/
def write (t : Instant) : String :=
  let d := Calendar.ofDayNumber t.day
  let s := t.secondOfDay.toNat
  let leap := if t.isLeapSecond then 1 else 0
  writeYear d.year ++ "-" ++ padded 2 d.month ++ "-" ++ padded 2 d.day ++ "T" ++
    padded 2 (s / 3600) ++ ":" ++ padded 2 (s / 60 % 60) ++ ":" ++ padded 2 (s % 60 + leap) ++
    writeFraction (t.nanos % Instant.second) ++ "Z"

/-! ## Reading -/

/-- What reads a piece off the front of a text, or refuses. -/
abbrev Reader (α : Type) := List Char → Option (α × List Char)

/-- From `least` to `most` digits; none if the number does not fit 63 bits. -/
def digits (least most : Nat) : Reader Nat := fun cs =>
  let ds := (cs.take most).takeWhile Char.isDigit
  let n := Numeral.ofDigits ds
  if ds.length < least ∨ Nat.pow 2 63 ≤ n then none else some (n, cs.drop ds.length)

/-- One given character. -/
def one (c : Char) : Reader Unit
  | [] => none
  | d :: cs => if d = c then some ((), cs) else none

/-- A number that lies in a range. -/
def within (lo hi : Nat) (r : Reader Nat) : Reader Nat := fun cs => do
  let (n, rest) ← r cs
  if lo ≤ n ∧ n ≤ hi then some (n, rest) else none

/-- The nanoseconds that the digits behind the point of a second denote, of which nine count. -/
def nanosOfDigits (cs : List Char) : Fin 1000000000 :=
  let ds := (cs.take 9).takeWhile Char.isDigit
  ⟨Numeral.ofDigits ds * Nat.pow 10 (9 - ds.length), by
    have hlength : ds.length ≤ 9 :=
      Nat.le_trans (List.takeWhile_sublist _).length_le (List.length_take_le 9 cs)
    calc Numeral.ofDigits ds * Nat.pow 10 (9 - ds.length)
        < Nat.pow 10 ds.length * Nat.pow 10 (9 - ds.length) :=
          Nat.mul_lt_mul_of_pos_right (Numeral.ofDigits_lt (List.all_eq_true.mp List.all_takeWhile))
            (Nat.pow_pos (by decide))
      _ = Nat.pow 10 (ds.length + (9 - ds.length)) := (Nat.pow_add 10 _ _).symm
      _ = 1000000000 := by rw [Nat.add_sub_cancel' hlength]⟩

/-- A fraction of a second, of at least one digit. -/
def fraction : Reader (Fin 1000000000)
  | [] => none
  | c :: cs =>
    if c.isDigit then some (nanosOfDigits (c :: cs), cs.dropWhile Char.isDigit) else none

/-- A fraction that may be missing. -/
def optionalFraction : Reader (Fin 1000000000)
  | '.' :: cs => fraction cs
  | cs => some (0, cs)

/-- The separator between date and time. -/
def timeMark : Reader Unit
  | 'T' :: cs => some ((), cs)
  | 't' :: cs => some ((), cs)
  | ' ' :: cs => some ((), cs)
  | _ => none

/-- The sign of an offset; the minus sign of typography counts too. -/
def offsetSign : Reader Int
  | '+' :: cs => some (1, cs)
  | '-' :: cs => some (-1, cs)
  | '−' :: cs => some (-1, cs)
  | _ => none

/-- An offset from UTC in seconds: `Z`, or a sign, hours, what `separator` takes, and minutes. -/
def offset (separator : Reader Unit) : Reader Int
  | 'Z' :: cs => some (0, cs)
  | 'z' :: cs => some (0, cs)
  | cs => do
    let (sign, cs) ← offsetSign cs
    let (hours, cs) ← digits 2 2 cs
    let ((), cs) ← separator cs
    let (minutes, cs) ← within 0 59 (digits 2 2) cs
    some (sign * (hours * 3600 + minutes * 60 : Nat), cs)

/-- Colons and blanks, any number of them. -/
def colonsAndBlanks : Reader Unit := fun cs =>
  some ((), cs.dropWhile fun c => c == ':' || isBlank c)

/-- The fields of a date and a time of day. -/
structure Fields where
  year : Int
  month : Nat
  day : Nat
  hour : Nat
  minute : Nat
  /-- The second of the minute; 60 is a leap second. -/
  second : Nat
  nanos : Fin 1000000000

/-- The nanoseconds beyond the second that an instant counts from: a leap second belongs to the one
before it. -/
def Fields.beyond (f : Fields) : Fin 2000000000 :=
  if f.second = 60 then f.nanos.natAdd 1000000000 else f.nanos.castAdd 1000000000

/-- The instant that the fields denote at an offset from UTC. -/
def Fields.instant? (f : Fields) (offset : Int) : Option Instant := do
  let d ← Calendar.date? f.year f.month f.day
  let second := if f.second = 60 then 59 else f.second
  let wall := d.dayNumber * 86400 + (f.hour * 3600 + f.minute * 60 + second : Nat)
  if offset.natAbs < 86400 ∧ Instant.inRange (wall - offset) then
    some ⟨wall - offset, f.beyond⟩
  else none

/-- RFC 3339 with every field in its full width, over the whole text. -/
def readStrict? (cs : List Char) : Option Instant := do
  let (year, cs) ← digits 4 4 cs
  let ((), cs) ← one '-' cs
  let (month, cs) ← within 1 12 (digits 2 2) cs
  let ((), cs) ← one '-' cs
  let (day, cs) ← within 1 31 (digits 2 2) cs
  let ((), cs) ← timeMark cs
  let (hour, cs) ← within 0 23 (digits 2 2) cs
  let ((), cs) ← one ':' cs
  let (minute, cs) ← within 0 59 (digits 2 2) cs
  let ((), cs) ← one ':' cs
  let (second, cs) ← within 0 60 (digits 2 2) cs
  let (nanos, cs) ← optionalFraction cs
  let (offset, cs) ← offset (one ':') cs
  if cs.isEmpty then Fields.instant? ⟨year, month, day, hour, minute, second, nanos⟩ offset
  else none

/-- A year of at most four digits, or of any number of them behind a sign; blanks may come first. -/
def looseYear : Reader Int := fun cs =>
  let signed (sign : Int) (cs : List Char) : Option (Int × List Char) := do
    let (n, rest) ← digits 1 cs.length cs
    if n < Nat.pow 2 31 then some (sign * (n : Int), rest) else none
  match trimStart cs with
  | '-' :: more => signed (-1) more
  | '+' :: more => signed 1 more
  | more => (digits 1 4 more).map fun (n, rest) => (n, rest)

/-- A number of one or two digits in a range; blanks may come first. -/
def loose (lo hi : Nat) : Reader Nat := fun cs =>
  within lo hi (digits 1 2) (trimStart cs)

/-- A separator, with blanks before it if `spaced`. -/
def mark (spaced : Bool) (c : Char) : Reader Unit := fun cs =>
  one c (if spaced then trimStart cs else cs)

/-- Year, month and day between dashes. -/
def looseDate (spaced : Bool) : Reader (Int × Nat × Nat) := fun cs => do
  let (year, cs) ← looseYear cs
  let ((), cs) ← mark spaced '-' cs
  let (month, cs) ← loose 1 12 cs
  let ((), cs) ← mark spaced '-' cs
  let (day, cs) ← loose 1 31 cs
  some ((year, month, day), cs)

/-- Hour, minute and second between colons. -/
def looseTime (spaced : Bool) : Reader (Nat × Nat × Nat) := fun cs => do
  let (hour, cs) ← loose 0 23 cs
  let ((), cs) ← mark spaced ':' cs
  let (minute, cs) ← loose 0 59 cs
  let ((), cs) ← mark spaced ':' cs
  let (second, cs) ← loose 0 60 cs
  some ((hour, minute, second), cs)

/-- An offset, or the letters `UTC` in any case. -/
def looseOffset : Reader Int := fun cs =>
  match cs with
  | u :: t :: c :: rest =>
    if u.toUpper = 'U' ∧ t.toUpper = 'T' ∧ c.toUpper = 'C' then some (0, rest)
    else offset colonsAndBlanks cs
  | _ => offset colonsAndBlanks cs

/-- The lenient form: fields may be short, blanks may stand around the marks, the year may be
signed and the offset need no colon. -/
def readRelaxed? (cs : List Char) : Option Instant := do
  let ((year, month, day), cs) ← looseDate true cs
  let ((), cs) ← timeMark cs
  let ((hour, minute, second), cs) ← looseTime true cs
  let (nanos, cs) ← optionalFraction cs
  let (offset, cs) ← looseOffset (trimStart cs)
  if (trimStart cs).isEmpty then
    Fields.instant? ⟨year, month, day, hour, minute, second, nanos⟩ offset
  else none

/-- A date and a time of day without an offset, taken as UTC. -/
def readDateTime? (cs : List Char) : Option Instant := do
  let ((year, month, day), cs) ← looseDate false cs
  let ((), cs) ← one 'T' cs
  let ((hour, minute, second), cs) ← looseTime false cs
  if cs.isEmpty then Fields.instant? ⟨year, month, day, hour, minute, second, 0⟩ 0 else none

/-- A date alone: the start of that day in UTC. -/
def readDay? (cs : List Char) : Option Instant := do
  let ((year, month, day), cs) ← looseDate false cs
  if cs.isEmpty then Fields.instant? ⟨year, month, day, 0, 0, 0, 0⟩ 0 else none

/-- What counts as a date in filters: RFC 3339, a date and time, or a date, blanks around it being
dropped. -/
def readDate? (text : String) : Option Instant :=
  let cs := trim text.toList
  readStrict? cs <|> readDateTime? cs <|> readDay? cs

end Switchyard.Rfc3339
