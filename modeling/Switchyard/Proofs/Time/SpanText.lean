import Switchyard.Proofs.Binary64
import Switchyard.Proofs.Numeral
import Switchyard.Time.SpanText

/-!
# Texts of spans

A span is written as one amount with a unit or more of them in a row. An amount is a run of digits
with at most one point, a unit a run of letters that is one of six names, and both go as far as
their characters do.

* `exists_ofChars?_iff`: the runs of digits and points that are numerals.
* `exists_parts?_iff`: the texts that are cut into amounts and units.
* `unsigned_total`, `exists_ofMilliseconds?_total`: amounts add up to a number without a minus sign,
  which rounds to a count of milliseconds in range.
* `reads_iff_isSequence`: the texts that denote a span.
-/

namespace Switchyard

namespace Text

theorem isBlank_of_isAlpha {c : Char} (h : c.isAlpha = true) : isBlank c = false := by
  have hcode : (65 ≤ c.toNat ∧ c.toNat ≤ 90) ∨ (97 ≤ c.toNat ∧ c.toNat ≤ 122) := by
    simpa [Char.isAlpha, Char.isUpper, Char.isLower, UInt32.le_iff_toNat_le] using h
  exact isBlank_of_printable (by omega)

/-- What trimming removes stands at the two ends and is blank. -/
theorem exists_eq_trim (cs : List Char) :
    ∃ before after, cs = before ++ (trim cs ++ after) ∧ (∀ c ∈ before, isBlank c = true) ∧
      ∀ c ∈ after, isBlank c = true := by
  refine ⟨cs.takeWhile isBlank, ((trimStart cs).reverse.takeWhile isBlank).reverse, ?_, ?_, ?_⟩
  · rw [trim, ← List.reverse_append, List.takeWhile_append_dropWhile, List.reverse_reverse,
      trimStart, List.takeWhile_append_dropWhile]
  · exact fun c hc => List.mem_takeWhile_imp hc
  · exact fun c hc => List.mem_takeWhile_imp (List.mem_reverse.mp hc)

/-- A text without blanks is what trimming leaves of it and blanks around it. -/
theorem trim_append {before body after : List Char} (hbefore : ∀ c ∈ before, isBlank c = true)
    (hbody : ∀ c ∈ body, isBlank c = false) (hne : body ≠ [])
    (hafter : ∀ c ∈ after, isBlank c = true) : trim (before ++ (body ++ after)) = body := by
  have hfront : IsRun isBlank before (body ++ after) := by
    refine ⟨hbefore, fun c hc => hbody c ?_⟩
    rw [List.head?_append_of_ne_nil _ hne] at hc
    exact List.mem_of_mem_head? hc
  have hback : IsRun isBlank after.reverse body.reverse := by
    refine ⟨fun c hc => hafter c (List.mem_reverse.mp hc), fun c hc => hbody c ?_⟩
    exact List.mem_reverse.mp (List.mem_of_mem_head? hc)
  rw [trim, trimStart, hfront.dropWhile_append, List.reverse_append, hback.dropWhile_append,
    List.reverse_reverse]

end Text

namespace Span

/-- Digits, one at least, and among them at most one point. -/
structure IsAmount (cs : List Char) : Prop where
  chars : ∀ c ∈ cs, c.isDigit = true ∨ c = '.'
  digit : ∃ c ∈ cs, c.isDigit = true
  point : cs.count '.' ≤ 1

/-- The name of a unit: milliseconds, seconds, minutes, hours, days or weeks. -/
def IsUnit (cs : List Char) : Prop :=
  String.ofList cs ∈ ["ms", "s", "m", "h", "d", "w"]

/-- Amounts with their units in a row, each a whole run of its characters. -/
inductive IsSequence : List Char → Prop where
  | nil : IsSequence []
  | cons {amount unit rest : List Char} (ha : IsAmount amount)
      (hamount : IsRun isAmountChar amount (unit ++ rest)) (hu : IsUnit unit)
      (hunit : IsRun Char.isAlpha unit rest) (hrest : IsSequence rest) :
      IsSequence (amount ++ (unit ++ rest))

/-! ## Amounts -/

theorem isAmountChar_iff {c : Char} : isAmountChar c = true ↔ c.isDigit = true ∨ c = '.' := by
  simp [isAmountChar]

theorem count_point_digits {ds : List Char} (h : ∀ d ∈ ds, d.isDigit = true) :
    ds.count '.' = 0 := by
  refine List.count_eq_zero.mpr fun hmem => ?_
  simpa using h '.' hmem

theorem exists_mem_digits_iff {ds : List Char} (h : ∀ d ∈ ds, d.isDigit = true) :
    (∃ d ∈ ds, d.isDigit = true) ↔ ds ≠ [] := by
  constructor
  · rintro ⟨d, hd, -⟩ rfl
    exact absurd hd List.not_mem_nil
  · intro hne
    obtain ⟨d, ds, rfl⟩ := List.exists_cons_of_ne_nil hne
    exact ⟨d, by simp, h d (by simp)⟩

/-- Behind a run of digits among digits and points there is a point or nothing. -/
theorem eq_point_of_ends {run rest : List Char} {c : Char} (h : IsRun Char.isDigit run (c :: rest))
    (hc : isAmountChar c = true) : c = '.' := by
  have hdigit : c.isDigit = false := h.ends c rfl
  simpa [isAmountChar_iff, hdigit] using hc

/-- A run of digits and points is a numeral exactly if it is an amount. -/
theorem exists_ofChars?_iff {cs : List Char} (hcs : ∀ c ∈ cs, isAmountChar c = true) :
    (∃ n, Numeral.ofChars? cs = some n) ↔ IsAmount cs := by
  have hchars : IsAmount cs ↔ (∃ c ∈ cs, c.isDigit = true) ∧ cs.count '.' ≤ 1 :=
    ⟨fun h => ⟨h.digit, h.point⟩,
      fun h => ⟨fun c hc => isAmountChar_iff.mp (hcs c hc), h.1, h.2⟩⟩
  rw [hchars]
  obtain ⟨whole, rest, rfl, hw⟩ :
      ∃ whole rest, cs = whole ++ rest ∧ IsRun Char.isDigit whole rest :=
    ⟨_, _, List.takeWhile_append_dropWhile.symm, isRun_takeWhile Char.isDigit cs⟩
  unfold Numeral.ofChars?
  rw [hw.takeWhile_append, hw.dropWhile_append]
  have hdigits := exists_mem_digits_iff hw.all
  have hpoint := count_point_digits hw.all
  cases rest with
  | nil => simp [hdigits, hpoint]
  | cons c more =>
    obtain rfl := eq_point_of_ends hw (hcs c (by simp))
    obtain ⟨fraction, rest, rfl, hf⟩ :
        ∃ fraction rest, more = fraction ++ rest ∧ IsRun Char.isDigit fraction rest :=
      ⟨_, _, List.takeWhile_append_dropWhile.symm, isRun_takeWhile Char.isDigit more⟩
    have hdigits' := exists_mem_digits_iff hf.all
    have hpoint' := count_point_digits hf.all
    simp only [hf.takeWhile_append, hf.dropWhile_append]
    cases rest with
    | nil =>
      by_cases hempty : whole = [] <;>
        simp [hempty, hdigits, hpoint, hdigits', hpoint', or_and_right, exists_or]
    | cons c rest =>
      -- A second point is not the start of an exponent.
      obtain rfl := eq_point_of_ends hf (hcs c (by simp))
      simp [hpoint, hpoint', Numeral.exponentLength]

theorem exists_unit?_iff {cs : List Char} : (∃ u, unit? cs = some u) ↔ IsUnit cs := by
  unfold unit? IsUnit
  split <;> simp_all

/-! ## Sequences -/

theorem parts?_cons {amount unit rest : List Char}
    (hamount : IsRun isAmountChar amount (unit ++ rest)) (hunit : IsRun Char.isAlpha unit rest)
    (hne : amount ≠ []) :
    parts? (amount ++ (unit ++ rest)) = (do
      let n ← Numeral.ofChars? amount
      let u ← unit? unit
      let more ← parts? rest
      some ((n, u) :: more)) := by
  rw [parts?]
  simp [hamount.takeWhile_append, hamount.dropWhile_append, hunit.takeWhile_append,
    hunit.dropWhile_append, hne]

theorem IsAmount.ne_nil {cs : List Char} (h : IsAmount cs) : cs ≠ [] := by
  rintro rfl
  obtain ⟨c, hc, -⟩ := h.digit
  exact absurd hc List.not_mem_nil

/-- A text is cut into amounts and units exactly if it is a sequence of them. -/
theorem exists_parts?_iff {cs : List Char} : (∃ ps, parts? cs = some ps) ↔ IsSequence cs := by
  constructor
  · rintro ⟨ps, h⟩
    fun_induction parts? cs generalizing ps with
    | case1 => exact .nil
    | case2 => simp at h
    | case3 cs hne amount rest ha ih =>
      simp only [Option.bind_eq_bind, Option.bind_eq_some_iff, Option.some.injEq] at h
      obtain ⟨n, hn, u, hu, more, hmore, rfl⟩ := h
      -- The text is its runs put together again.
      have hunit := isRun_takeWhile Char.isAlpha (cs.dropWhile isAmountChar)
      have hamount := isRun_takeWhile isAmountChar cs
      rw [← List.takeWhile_append_dropWhile (p := Char.isAlpha) (l := cs.dropWhile isAmountChar)]
        at hamount
      have hseq := IsSequence.cons ((exists_ofChars?_iff hamount.all).mp ⟨n, hn⟩) hamount
        (exists_unit?_iff.mp ⟨u, hu⟩) hunit (ih more hmore)
      rwa [List.takeWhile_append_dropWhile, List.takeWhile_append_dropWhile] at hseq
  · intro h
    induction h with
    | nil => exact ⟨[], by simp [parts?]⟩
    | cons ha hamount hu hunit hrest ih =>
      obtain ⟨ps, hps⟩ := ih
      obtain ⟨n, hn⟩ := (exists_ofChars?_iff hamount.all).mpr ha
      obtain ⟨u, hu⟩ := exists_unit?_iff.mpr hu
      exact ⟨(n, u) :: ps, by rw [parts?_cons hamount hunit ha.ne_nil, hn, hu, hps]; rfl⟩

theorem parts?_ne_some_nil {cs : List Char} (h : cs ≠ []) : parts? cs ≠ some [] := by
  rw [parts?, dif_neg h]
  dsimp only
  split
  · nofun
  · simp [Option.bind_eq_some_iff]

/-! ## Sums -/

/-- Amounts add up to a number without a minus sign. -/
theorem unsigned_total (ps : List (Numeral × Nat)) : Binary64.Unsigned (total ps) := by
  have hzero : Binary64.Unsigned 0 := .ofNat 0
  unfold total
  generalize (0 : Float) = sum at hzero ⊢
  induction ps generalizing sum with
  | nil => exact hzero
  | cons p ps ih =>
    have hamount := Binary64.unsigned_ofBits (Binary64.isNegative_toBinary64 p.1)
    exact ih _ (hzero.add (hamount.mul (.ofNat p.2)))

/-- A sum of amounts rounds to a count of milliseconds that a span can have. -/
theorem exists_ofMilliseconds?_total (ps : List (Numeral × Nat)) :
    ∃ d, ofMilliseconds? (Binary64.ofFloat (total ps)).round.toInt64 = some d := by
  have hsign := Binary64.isNegative_round (unsigned_total ps).isNegative_ofFloat
  have hnonneg := Binary64.toInt64_nonneg hsign
  have hle := Binary64.toInt64_le (Binary64.ofFloat (total ps)).round
  have hmax : maxMilliseconds.natAbs = 2 ^ 63 - 1 := rfl
  exact ⟨_, if_pos (by omega)⟩

/-! ## Texts -/

theorem exists_read?_iff_trim {text : String} :
    (∃ d, read? text = some d) ↔
      Text.trim text.toList ≠ [] ∧ IsSequence (Text.trim text.toList) := by
  rw [← exists_parts?_iff]
  unfold read?
  by_cases hne : Text.trim text.toList = []
  · simp [hne, parts?]
  · have hnil := parts?_ne_some_nil hne
    cases hparts : parts? (Text.trim text.toList) with
    | none => simp
    | some ps =>
      cases ps with
      | nil => exact absurd hparts hnil
      | cons p ps => simp [hne, exists_ofMilliseconds?_total]

theorem IsSequence.not_blank {cs : List Char} (h : IsSequence cs) :
    ∀ c ∈ cs, Text.isBlank c = false := by
  induction h with
  | nil => nofun
  | cons ha _ _ hunit _ ih =>
    intro c hc
    rcases List.mem_append.mp hc with hc | hc
    · rcases ha.chars c hc with hdigit | rfl
      · exact Numeral.IsNumeralChar.isBlank (.inl hdigit)
      · rfl
    · rcases List.mem_append.mp hc with hc | hc
      · exact Text.isBlank_of_isAlpha (hunit.all c hc)
      · exact ih c hc

/-- A text denotes a span exactly if, the blanks around it aside, it is one amount with its unit or
more of them in a row. -/
theorem reads_iff_isSequence {text : String} :
    (∃ d, read? text = some d) ↔
      ∃ before body after, text.toList = before ++ (body ++ after) ∧
        (∀ c ∈ before, Text.isBlank c = true) ∧ (∀ c ∈ after, Text.isBlank c = true) ∧
        body ≠ [] ∧ IsSequence body := by
  rw [exists_read?_iff_trim]
  constructor
  · rintro ⟨hne, hseq⟩
    obtain ⟨before, after, hsplit, hbefore, hafter⟩ := Text.exists_eq_trim text.toList
    exact ⟨before, _, after, hsplit, hbefore, hafter, hne, hseq⟩
  · rintro ⟨before, body, after, hsplit, hbefore, hafter, hne, hseq⟩
    rw [hsplit, Text.trim_append hbefore hseq.not_blank hne hafter]
    exact ⟨hne, hseq⟩

end Span

end Switchyard
