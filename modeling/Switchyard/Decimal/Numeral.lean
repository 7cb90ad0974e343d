import Switchyard.Binary64

/-!
# Decimal numerals

A numeral is a natural number of digits scaled by a power of ten. `Numeral.length` is the length of
the longest decimal form at the front of a text: digits, then a point and digits, then an exponent,
each part taken only if it is complete. `Numeral.toBinary64` is the double nearest to a numeral.
-/

namespace Switchyard

/-- The number `digits · 10 ^ scale`. -/
structure Numeral where
  digits : Nat
  scale : Int
deriving DecidableEq, Repr

namespace Numeral

/-- The value of a decimal digit. -/
def digitValue (c : Char) : Nat := c.toNat - '0'.toNat

/-- The natural number that a list of decimal digits denotes. -/
def ofDigits (cs : List Char) : Nat :=
  cs.foldl (fun n c => 10 * n + digitValue c) 0

/-- Digits denote a number below the power of ten of their count. -/
theorem ofDigits_lt {ds : List Char} (h : ∀ c ∈ ds, c.isDigit = true) :
    ofDigits ds < Nat.pow 10 ds.length := by
  have hfold : ∀ n, ds.foldl (fun n c => 10 * n + digitValue c) n <
      (n + 1) * Nat.pow 10 ds.length := by
    induction ds with
    | nil => simp
    | cons c ds ih =>
      intro n
      obtain ⟨hc, hds⟩ := List.forall_mem_cons.mp h
      have hdigit : digitValue c ≤ 9 := by
        unfold digitValue
        simp only [Char.isDigit, Bool.and_eq_true, decide_eq_true_eq, UInt32.le_iff_toNat_le] at hc
        exact Nat.sub_le_sub_right hc.2 _
      calc ds.foldl (fun n c => 10 * n + digitValue c) (10 * n + digitValue c)
          < (10 * n + digitValue c + 1) * Nat.pow 10 ds.length := ih hds _
        _ ≤ ((n + 1) * 10) * Nat.pow 10 ds.length := Nat.mul_le_mul_right _ (by omega)
        _ = (n + 1) * (Nat.pow 10 ds.length * 10) := by
          rw [Nat.mul_assoc, Nat.mul_comm 10]
  simpa [ofDigits] using hfold 0

/-- How many decimal digits a text starts with. -/
def digitRun (cs : List Char) : Nat :=
  (cs.takeWhile Char.isDigit).length

/-- The length of a point and the digits behind it at the front of a text, or zero if no digit
follows the point. -/
def fractionLength : List Char → Nat
  | '.' :: cs => if digitRun cs = 0 then 0 else 1 + digitRun cs
  | _ => 0

/-- The length of a sign at the front of a text. -/
def signLength : List Char → Nat
  | '+' :: _ => 1
  | '-' :: _ => 1
  | _ => 0

/-- The length of an exponent at the front of a text, or zero if it has no digit. -/
def exponentLength : List Char → Nat
  | c :: cs =>
    if c = 'e' ∨ c = 'E' then
      let digits := digitRun (cs.drop (signLength cs))
      if digits = 0 then 0 else 1 + signLength cs + digits
    else 0
  | [] => 0

/-- The length of the numeral that a text starting with a digit starts with. -/
def length (cs : List Char) : Nat :=
  let whole := digitRun cs
  let fraction := fractionLength (cs.drop whole)
  whole + fraction + exponentLength (cs.drop (whole + fraction))

/-- The integer that an exponent's sign and digits denote. -/
def exponentValue : List Char → Int
  | '-' :: cs => -(ofDigits cs : Int)
  | '+' :: cs => ofDigits cs
  | cs => ofDigits cs

/-- The numeral that consists of the given characters: digits with at most one point among them
and at least one digit, then perhaps an exponent. -/
def ofChars? (cs : List Char) : Option Numeral :=
  let whole := cs.takeWhile Char.isDigit
  let rest := cs.dropWhile Char.isDigit
  let (fraction, rest) := match rest with
    | '.' :: more => (more.takeWhile Char.isDigit, more.dropWhile Char.isDigit)
    | _ => ([], rest)
  if whole.isEmpty && fraction.isEmpty then none
  else if rest.isEmpty then some ⟨ofDigits (whole ++ fraction), -(fraction.length : Int)⟩
  else if exponentLength rest = rest.length then
    some ⟨ofDigits (whole ++ fraction), exponentValue (rest.drop 1) - fraction.length⟩
  else none

/-- The number of decimal digits of a natural number; zero has none. -/
def width (n : Nat) : Nat :=
  if _h : n = 0 then 0 else 1 + width (n / 10)
termination_by n
decreasing_by omega

/-- The double nearest to the numeral, ties to even. A numeral of `10 ^ 310` or more is infinite
and one below `10 ^ -400` is zero, so no power of ten beyond those is ever formed. -/
def toBinary64 (x : Numeral) : Binary64 :=
  if x.digits = 0 then .zero
  else if 310 < x.scale + width x.digits then .infinity
  else if x.scale + width x.digits < -400 then .zero
  else .ofFloat (Float.ofScientific x.digits (decide (x.scale < 0)) x.scale.natAbs)

end Numeral

end Switchyard
