import Switchyard.Decimal.Numeral
import Switchyard.Text.Blank
import Switchyard.Time.Span

/-!
# Spans as text

A span is written as amounts with units, such as `7d`, `1h30m`, `500ms` or `1.5h`; their sum is
rounded to milliseconds. `Span.read?` reads such a text.
-/

namespace Switchyard.Span

/-- The milliseconds of a unit. -/
def unit? (name : List Char) : Option Nat :=
  match String.ofList name with
  | "ms" => some 1
  | "s" => some 1000
  | "m" => some 60000
  | "h" => some 3600000
  | "d" => some 86400000
  | "w" => some 604800000
  | _ => none

/-- What may stand in an amount, a digit or a point. -/
def isAmountChar (c : Char) : Bool := c.isDigit || c == '.'

/-- The amounts and units that a text consists of; an amount takes all digits and points and a unit
all ASCII letters that follow. -/
def parts? (cs : List Char) : Option (List (Numeral × Nat)) :=
  if _h : cs = [] then some []
  else do
    let amount := cs.takeWhile isAmountChar
    let rest := cs.dropWhile isAmountChar
    if _a : amount = [] then none
    else
      let n ← Numeral.ofChars? amount
      let u ← unit? (rest.takeWhile Char.isAlpha)
      let more ← parts? (rest.dropWhile Char.isAlpha)
      some ((n, u) :: more)
termination_by cs.length
decreasing_by
  have hlen := congrArg List.length (List.takeWhile_append_dropWhile (p := isAmountChar) (l := cs))
  rw [List.length_append] at hlen
  have hpos := List.length_pos_iff.mpr _a
  have hle := (List.dropWhile_sublist Char.isAlpha (l := cs.dropWhile isAmountChar)).length_le
  simp only [amount] at *
  omega

/-- The milliseconds that amounts and units add up to. -/
def total (parts : List (Numeral × Nat)) : Float :=
  parts.foldl (fun sum (n, u) => sum + n.toBinary64.toFloat * u.toFloat) 0

/-- The span of a text, blanks around it aside; an empty text has none. -/
def read? (text : String) : Option Span :=
  match parts? (Text.trim text.toList) with
  | none | some [] => none
  | some parts => ofMilliseconds? (Binary64.ofFloat (total parts)).round.toInt64

end Switchyard.Span
