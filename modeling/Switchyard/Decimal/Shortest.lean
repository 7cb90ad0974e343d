import Switchyard.Decimal.Numeral

/-!
# Shortest decimals

The shortest decimal of a finite double has the fewest digits among the decimals that read back as
it, and of those it is the nearest. A double is `m · 2 ^ q`; the reals that round to it form an
interval whose ends count exactly when `m` is even. On the grid of `n` digits only the two
neighbours of the value need be looked at, because a grid point in the interval makes one of them
lie in it too.
-/

namespace Switchyard.Decimal

/-- An exact positive fraction `num / den` with the half-open or closed interval of reals around
it that round to the same double, all over the denominator `den`. -/
structure Neighbourhood where
  num : Nat
  low : Nat
  high : Nat
  den : Nat
  closed : Bool

/-- The interval of the finite non-zero double with the given magnitude bits. The gap below a
power of two is half the gap above it, unless the power is the least normal number. -/
def neighbourhood (magnitude : Nat) : Neighbourhood :=
  let field : Nat := magnitude / Nat.pow 2 52
  let fraction : Nat := magnitude % Nat.pow 2 52
  let m : Nat := if field = 0 then fraction else fraction + Nat.pow 2 52
  let q : Int := (if field = 0 then 1 else (field : Int)) - 1075 - 2
  let up := Nat.pow 2 q.toNat
  let below := if fraction = 0 ∧ 1 < field then 1 else 2
  { num := 4 * m * up
    low := (4 * m - below) * up
    high := (4 * m + 2) * up
    den := Nat.pow 2 (-q).toNat
    closed := m % 2 == 0 }

/-- The exponent `k` with `10 ^ k ≤ num / den < 10 ^ (k + 1)`. -/
def leadingExponent (num den : Nat) : Int :=
  if den ≤ num then (Numeral.width (num / den) : Int) - 1
  else
    let w := Numeral.width (den / num)
    if den ≤ num * Nat.pow 10 (w - 1) then -((w : Int) - 1) else -(w : Int)

/-- Whether `d · 10 ^ k` lies in the interval. -/
def Neighbourhood.holds (b : Neighbourhood) (d : Nat) (k : Int) : Bool :=
  let x := d * Nat.pow 10 k.toNat * b.den
  let low := b.low * Nat.pow 10 (-k).toNat
  let high := b.high * Nat.pow 10 (-k).toNat
  if b.closed then decide (low ≤ x ∧ x ≤ high) else decide (low < x ∧ x < high)

/-- The point of the grid `10 ^ k` that the interval holds, the nearer one if it holds both
neighbours of the value, and the even one if both are equally near. -/
def Neighbourhood.pick? (b : Neighbourhood) (k : Int) : Option Nat :=
  let num := b.num * Nat.pow 10 (-k).toNat
  let den := b.den * Nat.pow 10 k.toNat
  let d := num / den
  let r := num % den
  match b.holds d k, b.holds (d + 1) k with
  | true, true =>
    if 2 * r < den then some d else if den < 2 * r then some (d + 1)
    else if d % 2 = 0 then some d else some (d + 1)
  | true, false => some d
  | false, true => some (d + 1)
  | false, false => none

/-- The first grid with a hit, from the coarsest on; `17` digits always suffice. -/
def Neighbourhood.search (b : Neighbourhood) (k : Int) : Nat → Numeral
  | 0 => ⟨b.num / b.den, 0⟩
  | steps + 1 =>
    match b.pick? k with
    | some d => ⟨d, k⟩
    | none => b.search (k - 1) steps

/-- Moves the zeros at the end of the digits into the scale. -/
def stripZeros (d : Nat) (k : Int) : Nat → Numeral
  | 0 => ⟨d, k⟩
  | steps + 1 => if d % 10 = 0 then stripZeros (d / 10) (k + 1) steps else ⟨d, k⟩

/-- The shortest decimal of the absolute value of a finite non-zero double. -/
def shortest (x : Binary64) : Numeral :=
  let b := neighbourhood x.magnitude
  let s := b.search (leadingExponent b.num b.den) 18
  stripZeros s.digits s.scale 20

end Switchyard.Decimal
