import Mathlib.Data.List.TakeWhile
import Switchyard.Decimal.Numeral
import Switchyard.Text.Blank

/-!
# The numeral at the front of a text

A numeral is written as digits, perhaps a point and digits, perhaps an exponent. The scan for a
numeral takes the longest one that the text starts with, so cutting the text behind it, or putting a
blank there, changes nothing.

* `IsRun`: all characters of a class that stand in a row.
* `Numeral.IsNumeral`: the texts of numerals.
* `Numeral.isNumeral_take`, `Numeral.IsNumeral.length_le`: what is taken is a numeral, and no longer
  one could be.
* `Numeral.length_append`, `Numeral.length_append_blank`: what stands behind does not matter.
* `Numeral.exists_ofChars?`: every numeral has a value.
-/

namespace Switchyard

/-! ## Runs -/

/-- A whole run of the characters of a class: each of its characters is in the class, and the one
behind it is not. -/
structure IsRun (p : Char → Bool) (run rest : List Char) : Prop where
  all : ∀ c ∈ run, p c = true
  ends : ∀ c ∈ rest.head?, p c = false

theorem isRun_takeWhile (p : Char → Bool) (cs : List Char) :
    IsRun p (cs.takeWhile p) (cs.dropWhile p) := by
  refine ⟨fun c hc => List.mem_takeWhile_imp hc, fun c hc => ?_⟩
  have hnot := List.head?_dropWhile_not p cs
  rw [Option.mem_def.mp hc] at hnot
  simpa using hnot

theorem IsRun.takeWhile_append {p : Char → Bool} {run rest : List Char} (h : IsRun p run rest) :
    (run ++ rest).takeWhile p = run := by
  rw [List.takeWhile_append_of_pos h.all]
  cases rest with
  | nil => simp
  | cons c cs =>
    have hc : p c = false := h.ends c rfl
    simp [hc]

theorem IsRun.dropWhile_append {p : Char → Bool} {run rest : List Char} (h : IsRun p run rest) :
    (run ++ rest).dropWhile p = rest := by
  have hall := List.takeWhile_append_dropWhile (p := p) (l := run ++ rest)
  rw [h.takeWhile_append] at hall
  exact List.append_cancel_left hall

namespace Numeral

/-- One or more decimal digits. -/
def IsDigits (ds : List Char) : Prop := ds ≠ [] ∧ ∀ d ∈ ds, d.isDigit = true

/-- Nothing, or a point and digits. -/
inductive IsFraction : List Char → Prop where
  | none : IsFraction []
  | point {ds : List Char} (h : IsDigits ds) : IsFraction ('.' :: ds)

/-- Nothing, or an `e`, perhaps a sign, and digits. -/
inductive IsExponent : List Char → Prop where
  | none : IsExponent []
  | power {c : Char} {sign ds : List Char} (hc : c = 'e' ∨ c = 'E')
      (hs : sign = [] ∨ sign = ['+'] ∨ sign = ['-']) (h : IsDigits ds) :
      IsExponent (c :: (sign ++ ds))

/-- Digits with a fraction and an exponent. -/
def IsNumeral (cs : List Char) : Prop :=
  ∃ whole fraction exponent, cs = whole ++ (fraction ++ exponent) ∧ IsDigits whole ∧
    IsFraction fraction ∧ IsExponent exponent

/-! ## Runs of digits -/

/-- Whether a text does not go on with a digit. -/
def NoDigit (cs : List Char) : Prop := ∀ c ∈ cs.head?, c.isDigit = false

variable {cs ds rest : List Char}

theorem takeWhile_digits (hd : ∀ d ∈ ds, d.isDigit = true) (h : NoDigit rest) :
    (ds ++ rest).takeWhile Char.isDigit = ds :=
  IsRun.takeWhile_append ⟨hd, h⟩

theorem dropWhile_digits (hd : ∀ d ∈ ds, d.isDigit = true) (h : NoDigit rest) :
    (ds ++ rest).dropWhile Char.isDigit = rest :=
  IsRun.dropWhile_append ⟨hd, h⟩

theorem digitRun_append (hd : ∀ d ∈ ds, d.isDigit = true) (cs : List Char) :
    digitRun (ds ++ cs) = ds.length + digitRun cs := by
  rw [digitRun, List.takeWhile_append_of_pos hd, List.length_append, digitRun]

theorem digitRun_eq_zero (h : NoDigit cs) : digitRun cs = 0 := by
  rw [digitRun, ← List.nil_append cs, takeWhile_digits (by simp) h, List.length_nil]

theorem digitRun_le (cs : List Char) : digitRun cs ≤ cs.length :=
  (List.takeWhile_prefix _).length_le

theorem take_digitRun (cs : List Char) : cs.take (digitRun cs) = cs.takeWhile Char.isDigit :=
  (List.prefix_iff_eq_take.mp (List.takeWhile_prefix _)).symm

theorem isDigits_take (h : digitRun cs ≠ 0) : IsDigits (cs.take (digitRun cs)) := by
  rw [take_digitRun]
  refine ⟨fun hnil => h ?_, fun d hd => List.mem_takeWhile_imp hd⟩
  rw [digitRun, hnil, List.length_nil]

/-! ## What is taken -/

theorem fractionLength_point (cs : List Char) :
    fractionLength ('.' :: cs) = if digitRun cs = 0 then 0 else 1 + digitRun cs := rfl

theorem fractionLength_of_ne_point {c : Char} (h : c ≠ '.') (cs : List Char) :
    fractionLength (c :: cs) = 0 := by
  simp [fractionLength, h]

theorem isFraction_take (cs : List Char) : IsFraction (cs.take (fractionLength cs)) := by
  cases cs with
  | nil => exact .none
  | cons c cs =>
    by_cases hc : c = '.'
    · subst hc
      rw [fractionLength_point]
      split
      · exact .none
      · next hrun =>
        rw [Nat.add_comm, List.take_succ_cons]
        exact .point (isDigits_take hrun)
    · rw [fractionLength_of_ne_point hc]
      exact .none

theorem sign_take (cs : List Char) :
    cs.take (signLength cs) = [] ∨ cs.take (signLength cs) = ['+'] ∨
      cs.take (signLength cs) = ['-'] := by
  unfold signLength
  split <;> simp

theorem isExponent_take (cs : List Char) : IsExponent (cs.take (exponentLength cs)) := by
  cases cs with
  | nil => exact .none
  | cons c cs =>
    rw [exponentLength]
    split
    · next hc =>
      dsimp only
      split
      · exact .none
      · next hrun =>
        rw [show 1 + signLength cs + digitRun (cs.drop (signLength cs)) =
          signLength cs + digitRun (cs.drop (signLength cs)) + 1 by omega, List.take_succ_cons,
          List.take_add]
        exact .power hc (sign_take cs) (isDigits_take hrun)
    · exact .none

/-- Behind a digit, what is taken is a numeral. -/
theorem isNumeral_take {c : Char} (hc : c.isDigit = true) (cs : List Char) :
    IsNumeral ((c :: cs).take (length (c :: cs))) := by
  have hrun : digitRun (c :: cs) ≠ 0 := by
    rw [← List.singleton_append, digitRun_append (by simpa using hc)]
    simp
  rw [length, List.take_add, List.take_add, List.append_assoc]
  exact ⟨_, _, _, rfl, isDigits_take hrun, isFraction_take _, isExponent_take _⟩

/-! ## No longer numeral is there -/

theorem IsExponent.noDigit (h : IsExponent ds) (hne : ds ≠ []) (cs : List Char) :
    NoDigit (ds ++ cs) := by
  cases h with
  | none => exact absurd rfl hne
  | power hc hs h =>
    rintro c ⟨⟩
    rcases hc with rfl | rfl <;> rfl

theorem signLength_append {sign : List Char} (hs : sign = [] ∨ sign = ['+'] ∨ sign = ['-'])
    (h : IsDigits ds) (cs : List Char) : signLength (sign ++ (ds ++ cs)) = sign.length := by
  rcases hs with rfl | rfl | rfl
  · obtain ⟨hne, hd⟩ := h
    obtain ⟨d, ds, rfl⟩ := List.exists_cons_of_ne_nil hne
    have hdigit := hd d (by simp)
    have hplus : d ≠ '+' := by rintro rfl; simp at hdigit
    have hminus : d ≠ '-' := by rintro rfl; simp at hdigit
    simp [signLength, hplus, hminus]
  · rfl
  · rfl

theorem IsExponent.exponentLength_append (h : IsExponent ds) (hne : ds ≠ []) (cs : List Char) :
    exponentLength (ds ++ cs) = ds.length + digitRun cs := by
  cases h with
  | none => exact absurd rfl hne
  | @power c sign digits hc hs h =>
    have hpos : 0 < digits.length := List.length_pos_iff.mpr h.1
    rw [List.cons_append, List.append_assoc, exponentLength, if_pos hc]
    simp only [signLength_append hs h, List.drop_left, digitRun_append h.2, List.length_cons,
      List.length_append]
    rw [if_neg (by omega)]
    omega

theorem IsFraction.fractionLength_append (h : IsFraction ds) (hne : ds ≠ []) (cs : List Char) :
    fractionLength (ds ++ cs) = ds.length + digitRun cs := by
  cases h with
  | none => exact absurd rfl hne
  | @point digits h =>
    have hpos : 0 < digits.length := List.length_pos_iff.mpr h.1
    rw [List.cons_append, fractionLength_point, digitRun_append h.2, List.length_cons]
    rw [if_neg (by omega)]
    omega

theorem IsFraction.noDigit (h : IsFraction ds) (hne : ds ≠ []) (cs : List Char) :
    NoDigit (ds ++ cs) := by
  cases h with
  | none => exact absurd rfl hne
  | point h =>
    rintro c ⟨⟩
    rfl

theorem IsExponent.fractionLength_eq_zero (h : IsExponent ds) (hne : ds ≠ []) (cs : List Char) :
    fractionLength (ds ++ cs) = 0 := by
  cases h with
  | none => exact absurd rfl hne
  | power hc hs h =>
    refine fractionLength_of_ne_point ?_ _
    rcases hc with rfl | rfl <;> decide

/-- No numeral that a text starts with is longer than the one that is taken. -/
theorem IsNumeral.length_le (h : IsNumeral ds) (cs : List Char) :
    ds.length ≤ length (ds ++ cs) := by
  obtain ⟨whole, fraction, exponent, rfl, hw, hf, he⟩ := h
  rw [length, List.append_assoc, digitRun_append hw.2, List.append_assoc]
  by_cases hexp : exponent = []
  · subst hexp
    by_cases hfrac : fraction = []
    · subst hfrac
      simp
      omega
    · rw [digitRun_eq_zero (hf.noDigit hfrac _), Nat.add_zero, List.drop_left, List.nil_append,
        hf.fractionLength_append hfrac]
      simp
      omega
  · have hrun : digitRun (exponent ++ cs) = 0 := digitRun_eq_zero (he.noDigit hexp cs)
    by_cases hfrac : fraction = []
    · subst hfrac
      rw [List.nil_append, List.nil_append, hrun, Nat.add_zero, List.drop_left,
        he.fractionLength_eq_zero hexp, Nat.add_zero, List.drop_left,
        he.exponentLength_append hexp]
      simp
    · rw [digitRun_eq_zero (hf.noDigit hfrac _), Nat.add_zero, List.drop_left,
        hf.fractionLength_append hfrac, hrun, Nat.add_zero, ← List.drop_drop, List.drop_left,
        List.drop_left, he.exponentLength_append hexp]
      simp
      omega

theorem signLength_le (cs : List Char) : signLength cs ≤ cs.length := by
  unfold signLength
  split <;> simp

theorem length_le (cs : List Char) : length cs ≤ cs.length := by
  have hfraction : ∀ cs : List Char, fractionLength cs ≤ cs.length := fun cs => by
    unfold fractionLength
    split
    · next cs =>
      have := digitRun_le cs
      split
      · omega
      · rw [List.length_cons]
        omega
    · simp
  have hexponent : ∀ cs : List Char, exponentLength cs ≤ cs.length := fun cs => by
    unfold exponentLength
    split
    · next c cs =>
      have := digitRun_le (cs.drop (signLength cs))
      rw [List.length_drop] at this
      dsimp only
      split_ifs
      · omega
      · rw [List.length_cons]
        have := signLength_le cs
        omega
      · omega
    · simp
  -- Each part is counted in what those before it have left of the text.
  have h1 := digitRun_le cs
  have h2 := hfraction (cs.drop (digitRun cs))
  have h3 := hexponent (cs.drop (digitRun cs + fractionLength (cs.drop (digitRun cs))))
  rw [List.length_drop] at h2 h3
  rw [length]
  omega

/-! ## What stands behind -/

/-- Where a numeral ends is told by the numeral alone. -/
theorem length_append {c : Char} (hc : c.isDigit = true) (cs rest : List Char)
    (h : length (c :: (cs ++ rest)) ≤ cs.length + 1) :
    length (c :: cs) = length (c :: (cs ++ rest)) := by
  have hle := length_le (c :: cs)
  have hlong := isNumeral_take hc (cs ++ rest)
  have hshort := isNumeral_take hc cs
  apply Nat.le_antisymm
  · have hmax := hshort.length_le ((c :: cs).drop (length (c :: cs)) ++ rest)
    rw [← List.append_assoc, List.take_append_drop, List.length_take,
      Nat.min_eq_left hle] at hmax
    exact hmax
  · rw [← List.cons_append, List.take_append_of_le_length (by simpa using h)] at hlong
    have hmax := hlong.length_le ((c :: cs).drop (length (c :: (cs ++ rest))))
    rw [List.cons_append, List.take_append_drop, List.length_take] at hmax
    simp at hmax
    omega

/-- The characters of numerals. -/
def IsNumeralChar (c : Char) : Prop :=
  c.isDigit = true ∨ c = '.' ∨ c = 'e' ∨ c = 'E' ∨ c = '+' ∨ c = '-'

theorem IsNumeral.isNumeralChar (h : IsNumeral ds) : ∀ c ∈ ds, IsNumeralChar c := by
  obtain ⟨whole, fraction, exponent, rfl, hw, hf, he⟩ := h
  intro c hc
  rcases List.mem_append.mp hc with hc | hc
  · exact .inl (hw.2 c hc)
  rcases List.mem_append.mp hc with hc | hc
  · cases hf with
    | none => simp at hc
    | point h =>
      rcases List.mem_cons.mp hc with rfl | hc
      · exact .inr (.inl rfl)
      · exact .inl (h.2 c hc)
  · cases he with
    | none => simp at hc
    | power hmark hs h =>
      simp only [List.mem_cons, List.mem_append] at hc
      rcases hc with rfl | hc | hc
      · exact .inr (.inr (hmark.imp_right .inl))
      · rcases hs with rfl | rfl | rfl <;> simp_all [IsNumeralChar]
      · exact .inl (h.2 c hc)

theorem IsNumeralChar.isBlank {c : Char} (h : IsNumeralChar c) : Text.isBlank c = false := by
  rcases h with h | rfl | rfl | rfl | rfl | rfl
  · have hdigit : 48 ≤ c.toNat ∧ c.toNat ≤ 57 := by
      simpa [Char.isDigit, UInt32.le_iff_toNat_le] using h
    exact Text.isBlank_of_printable (by omega)
  all_goals rfl

/-- A blank ends a numeral. -/
theorem length_append_blank {b c : Char} (hc : c.isDigit = true) (hb : Text.isBlank b = true)
    (cs rest : List Char) : length (c :: (cs ++ b :: rest)) = length (c :: cs) := by
  by_cases h : length (c :: (cs ++ b :: rest)) ≤ cs.length + 1
  · exact (length_append hc cs (b :: rest) h).symm
  · -- The blank would be part of the numeral.
    have hnumeral := isNumeral_take hc (cs ++ b :: rest)
    have hmem : b ∈ (c :: (cs ++ b :: rest)).take (length (c :: (cs ++ b :: rest))) := by
      refine List.mem_take_iff_getElem.mpr ⟨cs.length + 1, ?_, by simp⟩
      simp
      omega
    simp [(hnumeral.isNumeralChar b hmem).isBlank] at hb

/-! ## Values -/

theorem IsExponent.noDigit_self (h : IsExponent ds) : NoDigit ds := by
  by_cases hne : ds = []
  · subst hne
    rintro c ⟨⟩
  · simpa using h.noDigit hne []

/-- A numeral is read as a number. -/
theorem exists_ofChars? (h : IsNumeral ds) : ∃ x, ofChars? ds = some x := by
  obtain ⟨whole, fraction, exponent, rfl, hw, hf, he⟩ := h
  have hrest : NoDigit (fraction ++ exponent) := by
    by_cases hne : fraction = []
    · simpa [hne] using he.noDigit_self
    · exact hf.noDigit hne exponent
  have hexp : exponent = [] ∨ exponentLength exponent = exponent.length := by
    by_cases hne : exponent = []
    · exact .inl hne
    · exact .inr (by simpa [digitRun] using he.exponentLength_append hne [])
  unfold ofChars?
  rw [takeWhile_digits hw.2 hrest, dropWhile_digits hw.2 hrest]
  cases hf with
  | none =>
    rcases hexp with rfl | hexp
    · simp [hw.1]
    · cases he with
      | none => simp [hw.1]
      | power hc hs h =>
        rcases hc with rfl | rfl <;> simp_all [hw.1]
  | point h =>
    simp only [List.cons_append, takeWhile_digits h.2 he.noDigit_self,
      dropWhile_digits h.2 he.noDigit_self]
    rcases hexp with rfl | hexp
    · simp [hw.1]
    · by_cases hnil : exponent = [] <;> simp [hw.1, hexp, hnil]

end Numeral

end Switchyard
