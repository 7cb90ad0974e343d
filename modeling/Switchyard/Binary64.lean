/-!
# Numbers

A number is an IEEE 754 double, kept as its 64 bits. Equality of numbers is equality of bits, so a
NaN equals itself and the two zeros differ; the order is the IEEE order, read off the bits, so a
NaN is unordered and the two zeros are level. Arithmetic goes through `Float`; the integer part and
rounding are computed exactly from significand and exponent.

* `compare?_swap`: exchanging the operands reverses the order.
-/

namespace Switchyard

/-- A double, as its bits. -/
structure Binary64 where
  bits : UInt64
deriving DecidableEq, Inhabited, Repr

namespace Binary64

/-- The bits of a machine number. -/
def ofFloat (x : Float) : Binary64 := ⟨x.toBits⟩

/-- The machine number with the bits. -/
def toFloat (x : Binary64) : Float := Float.ofBits x.bits

/-- The positive zero. -/
def zero : Binary64 := ⟨0⟩

/-- The positive infinity; every greater magnitude is that of a NaN. -/
def infinity : Binary64 := ⟨0x7ff0000000000000⟩

/-- The bits without the sign, as a natural number; it grows with the absolute value. -/
def magnitude (x : Binary64) : Nat :=
  x.bits.toNat % Nat.pow 2 63

/-- Whether the sign bit is set, also of a zero or a NaN. -/
def isNegative (x : Binary64) : Bool :=
  decide (Nat.pow 2 63 ≤ x.bits.toNat)

/-- Whether the number is a NaN, of either sign. -/
def isNaN (x : Binary64) : Bool :=
  decide (infinity.magnitude < x.magnitude)

/-- Whether the number is neither infinite nor a NaN. -/
def isFinite (x : Binary64) : Bool :=
  decide (x.magnitude < infinity.magnitude)

/-- The number with its sign bit turned over, NaN included. -/
def neg (x : Binary64) : Binary64 := ⟨x.bits ^^^ 0x8000000000000000⟩

/-- The number with its sign bit cleared, NaN included. -/
def abs (x : Binary64) : Binary64 := ⟨x.bits &&& 0x7fffffffffffffff⟩

/-- An integer that orders the numbers other than NaN; both zeros have key zero. -/
def key (x : Binary64) : Int :=
  if x.isNegative then -(x.magnitude : Int) else x.magnitude

/-- The IEEE order: none if one side is NaN. -/
def compare? (x y : Binary64) : Option Ordering :=
  if x.isNaN || y.isNaN then none else some (compare x.key y.key)

/-- IEEE equality, which holds of the two zeros and fails of a NaN and itself. -/
def level (x y : Binary64) : Bool :=
  x.compare? y == some .eq

theorem compare?_swap (x y : Binary64) : y.compare? x = (x.compare? y).map Ordering.swap := by
  unfold compare?
  rw [Bool.or_comm]
  split
  · rfl
  · simp [Int.compare_swap]

/-- The nearest number to an integer. -/
def ofNat (n : Nat) : Binary64 := ofFloat (Float.ofScientific n false 0)

/-- The nearest number to an integer. -/
def ofInt : Int → Binary64
  | .ofNat n => ofNat n
  | .negSucc n => (ofNat (n + 1)).neg

/-- Whether the number is an integer; infinities and NaN are not. -/
def isInteger (x : Binary64) : Bool :=
  x.isFinite && (x.toFloat.floor == x.toFloat)

/-- The biased exponent; the subnormal numbers share that of the least normal ones. -/
def scale (x : Binary64) : Nat := max 1 (x.magnitude / Nat.pow 2 52)

/-- The significand with its leading bit: a finite number is this, with its sign, times
`2 ^ (scale - 1075)`. -/
def significand (x : Binary64) : Nat :=
  x.magnitude % Nat.pow 2 52 + if x.magnitude < Nat.pow 2 52 then 0 else Nat.pow 2 52

/-- The integer part of the absolute value after `k` doublings. -/
def floorAbs (x : Binary64) (k : Nat) : Nat :=
  x.significand * Nat.pow 2 (x.scale + k) / Nat.pow 2 1075

/-- The integer that is left when the fraction is dropped, clamped to the range of 64-bit signed
integers; NaN gives zero. -/
def toInt64 (x : Binary64) : Int :=
  if x.isNaN then 0
  else if x.isNegative then -(min (x.floorAbs 0) (Nat.pow 2 63) : Nat)
  else (min (x.floorAbs 0) (Nat.pow 2 63 - 1) : Nat)

/-- The natural number that is left when the fraction is dropped, clamped to the range of 64-bit
natural numbers; NaN and negative numbers give zero. -/
def toNat64 (x : Binary64) : Nat :=
  x.toFloat.toUInt64.toNat

/-- Rounded to an integer, a half going away from zero. From `2 ^ 52` on all numbers are integers,
and infinities and NaN stay as they are. -/
def round (x : Binary64) : Binary64 :=
  if 1075 ≤ x.scale then x
  else
    let nearest := ofNat ((x.floorAbs 1 + 1) / 2)
    if x.isNegative then nearest.neg else nearest

end Binary64

end Switchyard
