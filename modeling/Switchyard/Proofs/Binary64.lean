import Mathlib
import Switchyard.Decimal.Numeral

/-!
# Numbers without a minus sign

Arithmetic on numbers without a minus sign never brings one up, and neither does rounding. So what
is added up from amounts that are written without a sign has a natural number as its integer part.

* `HasNoMinus`: the class of unpacked numbers that the operations keep.
* `Unsigned.add`, `Unsigned.mul`, `Unsigned.div`, `Unsigned.ofScientific`: the operations on
  doubles.
* `isNegative_toBinary64`, `isNegative_round`: numerals and rounding.
* `toInt64_nonneg`, `toInt64_le`: the range of the integer part.
-/

namespace Switchyard

namespace Binary64

open Float.Model

/-! ## Before packing -/

/-- A number, not yet packed into bits, that has no minus sign; the only NaN has none. -/
inductive HasNoMinus : UnpackedFloat → Prop where
  | notANumber : HasNoMinus .notANumber
  | infinity : HasNoMinus (.infinity .positive)
  | zero : HasNoMinus (.zero .positive)
  | finite {m : Nat} {e : Int} {h : 0 < m} : HasNoMinus (.finite .positive m e h)

namespace HasNoMinus

variable {spec : Format} {x y : UnpackedFloat}

theorem roundWithAccuracy (m : Nat) (e : Int) (accuracy : UnpackedFloat.Accuracy) :
    HasNoMinus (UnpackedFloat.roundWithAccuracy spec .positive m e accuracy) := by
  unfold UnpackedFloat.roundWithAccuracy
  dsimp only
  split
  · exact .zero
  · exact .finite

theorem normalize {n : Int} (h : 0 ≤ n) (e : Int) :
    HasNoMinus (UnpackedFloat.normalize spec n e .positive) := by
  unfold UnpackedFloat.normalize
  split
  · next hlt =>
    rw [compare_lt_iff_lt] at hlt
    omega
  · exact .zero
  · exact roundWithAccuracy _ _ _

theorem add (hx : HasNoMinus x) (hy : HasNoMinus y) : HasNoMinus (x.add spec y) := by
  cases hx <;> cases hy
  case finite.finite =>
    exact normalize (Int.add_nonneg (Int.natCast_nonneg _) (Int.natCast_nonneg _)) _
  all_goals constructor

theorem mul (hx : HasNoMinus x) (hy : HasNoMinus y) : HasNoMinus (x.mul spec y) := by
  cases hx <;> cases hy
  case finite.finite => exact roundWithAccuracy _ _ _
  all_goals constructor

theorem div (hx : HasNoMinus x) (hy : HasNoMinus y) : HasNoMinus (x.div spec y) := by
  cases hx <;> cases hy
  case finite.finite => exact roundWithAccuracy _ _ _
  all_goals constructor

theorem ofScientific (m : Nat) (e : Int) : HasNoMinus (UnpackedFloat.ofScientific spec m e) := by
  unfold UnpackedFloat.ofScientific
  split_ifs
  · exact .zero
  · exact .infinity
  · exact .zero
  · exact mul .finite .finite
  · exact div .finite .finite

/-- Bits whose sign bit is clear are those of a number without a minus sign. -/
theorem unpack {b : BitVec spec.numBits} (h : UnpackedFloat.unpackSign b = 0#1) :
    HasNoMinus (UnpackedFloat.unpack spec b) := by
  unfold UnpackedFloat.unpack
  dsimp only
  rw [h]
  split_ifs
  · exact .infinity
  · exact .notANumber
  · exact .zero
  · exact .finite
  · exact .finite

theorem unpackSign_pack (h : HasNoMinus x) : UnpackedFloat.unpackSign (x.pack spec) = 0#1 := by
  cases h with
  | notANumber => exact UnpackedFloat.unpackSign_packComponents _ _ _
  | infinity => exact UnpackedFloat.unpackSign_packComponents _ _ _
  | zero => exact UnpackedFloat.unpackSign_packComponents _ _ _
  | finite =>
    unfold UnpackedFloat.pack
    dsimp only
    split_ifs <;> exact UnpackedFloat.unpackSign_packComponents _ _ _

end HasNoMinus

/-! ## Numbers as bits -/

/-- The sign bit of a double. -/
def signBit (b : BitVec Format.binary64.numBits) : BitVec 1 := UnpackedFloat.unpackSign b

theorem signBit_eq_zero_iff {x : Binary64} :
    signBit x.bits.toBitVec = 0#1 ↔ x.isNegative = false := by
  have hlt : x.bits.toNat < 2 ^ 64 := x.bits.toNat_lt
  rw [signBit, UnpackedFloat.unpackSign_def, ← BitVec.toNat_inj, BitVec.extractLsb'_toNat]
  simp [isNegative, Nat.shiftRight_eq_div_pow]
  omega

/-- A number without a minus sign. -/
def Unsigned (x : Float) : Prop := HasNoMinus x.toModel.unpack

theorem unsigned_pack {u : UnpackedFloat} (h : HasNoMinus u) : Unsigned (.ofModel (.pack u)) :=
  .unpack h.unpackSign_pack

theorem unsigned_ofBits {b : UInt64} (h : (Binary64.mk b).isNegative = false) :
    Unsigned (Float.ofBits b) :=
  unsigned_pack (.unpack (signBit_eq_zero_iff.mpr h))

namespace Unsigned

variable {x y : Float}

theorem add (hx : Unsigned x) (hy : Unsigned y) : Unsigned (x + y) :=
  unsigned_pack (HasNoMinus.add hx hy)

theorem mul (hx : Unsigned x) (hy : Unsigned y) : Unsigned (x * y) :=
  unsigned_pack (HasNoMinus.mul hx hy)

theorem div (hx : Unsigned x) (hy : Unsigned y) : Unsigned (x / y) :=
  unsigned_pack (HasNoMinus.div hx hy)

theorem isNegative_ofFloat (h : Unsigned x) : (ofFloat x).isNegative = false := by
  have hsign : signBit (x.toModel.unpack.pack .binary64) = 0#1 := HasNoMinus.unpackSign_pack h
  rw [Float.Model.unpack, UnpackedFloat.pack_unpack_of_valid x.toModel.valid] at hsign
  exact signBit_eq_zero_iff.mp hsign

theorem ofScientific (m : Nat) (s : Bool) (e : Nat) : Unsigned (Float.ofScientific m s e) := by
  unfold Float.ofScientific
  split
  · next h =>
    have hpower : ∀ x ∈ Float.exactlyRepresentablePowersOfTen, Unsigned x := by
      simp only [Float.exactlyRepresentablePowersOfTen, List.mem_toArray, List.forall_mem_cons,
        List.not_mem_nil, false_imp_iff, implies_true, and_true]
      and_intros <;> exact unsigned_ofBits rfl
    have hm : Unsigned m.toUInt64.toFloat := unsigned_pack (.normalize (Int.natCast_nonneg _) _)
    dsimp only
    split
    · exact div hm (hpower _ (Array.getElem_mem _))
    · exact mul hm (hpower _ (Array.getElem_mem _))
  · exact unsigned_pack (.ofScientific _ _)

theorem ofNat (n : Nat) : Unsigned n.toFloat := ofScientific n false 0

end Unsigned

/-- The number of a numeral is unsigned. -/
theorem isNegative_toBinary64 (n : Numeral) : n.toBinary64.isNegative = false := by
  unfold Numeral.toBinary64
  split_ifs
  · rfl
  · rfl
  · rfl
  · exact (Unsigned.ofScientific _ _ _).isNegative_ofFloat

/-- Rounding brings up no sign. -/
theorem isNegative_round {x : Binary64} (h : x.isNegative = false) :
    x.round.isNegative = false := by
  unfold round
  dsimp only
  rw [h]
  split
  · exact h
  · exact (Unsigned.ofScientific _ _ _).isNegative_ofFloat

theorem toInt64_nonneg {x : Binary64} (h : x.isNegative = false) : 0 ≤ x.toInt64 := by
  unfold toInt64
  rw [h]
  split
  · exact Int.le_refl 0
  · exact Int.natCast_nonneg _

theorem toInt64_le (x : Binary64) : x.toInt64 ≤ 2 ^ 63 - 1 := by
  have hmax : Nat.pow 2 63 = 2 ^ 63 := rfl
  unfold toInt64
  rw [hmax]
  split_ifs <;> omega

end Binary64

end Switchyard
