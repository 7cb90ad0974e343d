import Switchyard.Glob

/-!
# The language of a glob pattern

A pattern text stands for a set of texts, and the matcher accepts exactly these. It gives up all
runs but the most recent one, and loses nothing: between two runs every piece takes one character,
so what an earlier run could still take, the most recent one can take as well.

* `Glob.Denotes`: the texts of a pattern, read off its characters.
* `Glob.Fits`: the texts of a list of pieces; `Glob.fits_piecesOf`.
* `Glob.Attempt.Succeeds`: what a match under way may still find.
* `Glob.Attempt.IsAligned`: the invariant of matches under way.
* `Glob.Attempt.IsAligned.succeeds_iff_next?`: a step finds what the match may still find.
* `Glob.accepts_iff_denotes`: the matcher accepts the language of the pattern.
-/

namespace Switchyard

namespace Glob

/-- The texts of a pattern, read from left to right. -/
inductive Denotes : List Char → List Char → Prop where
  | nil : Denotes [] []
  | run {ps cs : List Char} (taken : List Char) (h : Denotes ps cs) :
      Denotes ('*' :: ps) (taken ++ cs)
  | one {ps cs : List Char} (c : Char) (h : Denotes ps cs) : Denotes ('?' :: ps) (c :: cs)
  /-- A backslash makes the next character stand for itself, whichever it is. -/
  | escaped {ps cs : List Char} (c : Char) (h : Denotes ps cs) :
      Denotes ('\\' :: c :: ps) (c :: cs)
  | backslash : Denotes ['\\'] ['\\']
  | itself {ps cs : List Char} {c : Char} (hc : c ≠ '*' ∧ c ≠ '?' ∧ c ≠ '\\')
      (h : Denotes ps cs) : Denotes (c :: ps) (c :: cs)

/-! ## Pieces -/

/-- The texts of a list of pieces. -/
inductive Fits : List GlobPiece → List Char → Prop where
  | nil : Fits [] []
  | run {ps : List GlobPiece} {cs : List Char} (taken : List Char) (h : Fits ps cs) :
      Fits (.run :: ps) (taken ++ cs)
  | piece {p : GlobPiece} {c : Char} {ps : List GlobPiece} {cs : List Char}
      (hp : p.takes c = true) (h : Fits ps cs) : Fits (p :: ps) (c :: cs)

variable {p : GlobPiece} {ps qs : List GlobPiece} {c : Char} {cs : List Char}

theorem fits_run_iff : Fits (.run :: ps) cs ↔ ∃ rest, rest <:+ cs ∧ Fits ps rest := by
  constructor
  · intro h
    cases h with
    | run taken h => exact ⟨_, List.suffix_append _ _, h⟩
    | piece hp h => cases hp
  · rintro ⟨rest, ⟨taken, rfl⟩, h⟩
    exact .run taken h

theorem fits_run_run : Fits (.run :: .run :: ps) cs ↔ Fits (.run :: ps) cs := by
  simp only [fits_run_iff]
  constructor
  · rintro ⟨rest, hrest, rest', hrest', h⟩
    exact ⟨rest', hrest'.trans hrest, h⟩
  · rintro ⟨rest, hrest, h⟩
    exact ⟨rest, hrest, rest, List.suffix_rfl, h⟩

theorem fits_nil_left : Fits [] cs ↔ cs = [] := by
  constructor
  · intro h
    cases h
    rfl
  · rintro rfl
    exact .nil

/-- Only runs take no character. -/
theorem fits_nil_right : Fits ps [] ↔ ps.all (· == .run) = true := by
  induction ps with
  | nil => simp [fits_nil_left]
  | cons p ps ih =>
    rw [List.all_cons, Bool.and_eq_true, beq_iff_eq, ← ih]
    constructor
    · intro h
      generalize ht : ([] : List Char) = text at h
      cases h with
      | run taken h =>
        obtain ⟨rfl, rfl⟩ := List.append_eq_nil_iff.mp ht.symm
        exact ⟨rfl, h⟩
      | piece hp h => cases ht
    · rintro ⟨rfl, h⟩
      exact .run [] h

theorem fits_cons_iff (hp : p ≠ .run) :
    Fits (p :: ps) (c :: cs) ↔ p.takes c = true ∧ Fits ps cs := by
  constructor
  · intro h
    generalize ht : c :: cs = text at h
    cases h with
    | run taken h => exact absurd rfl hp
    | piece htakes h =>
      cases ht
      exact ⟨htakes, h⟩
  · rintro ⟨htakes, h⟩
    exact .piece htakes h

/-- Pieces that are no runs take a character each. -/
theorem fits_append (hps : ∀ p ∈ ps, p ≠ .run) (h : Fits (ps ++ qs) cs) :
    ∃ taken rest, cs = taken ++ rest ∧ taken.length = ps.length ∧ Fits qs rest := by
  induction ps generalizing cs with
  | nil => exact ⟨[], cs, rfl, rfl, h⟩
  | cons p ps ih =>
    have ⟨hp, hps⟩ := List.forall_mem_cons.mp hps
    rw [List.cons_append] at h
    cases h with
    | run taken h => exact absurd rfl hp
    | piece htakes h =>
      obtain ⟨taken, rest, rfl, hlen, hrest⟩ := ih hps h
      exact ⟨_ :: taken, rest, rfl, by simp [hlen], hrest⟩

/-! ## The pieces of a pattern -/

theorem fits_piecesOf_run {pattern : List Char} :
    Fits (piecesOf ('*' :: pattern)) cs ↔ Fits (.run :: piecesOf pattern) cs := by
  rw [piecesOf]
  split
  · next rest hrest => rw [hrest, fits_run_run]
  · rfl

theorem fits_literal_iff {d : Char} :
    Fits (.literal d :: ps) cs ↔ ∃ rest, cs = d :: rest ∧ Fits ps rest := by
  constructor
  · intro h
    cases h with
    | piece hp h => exact ⟨_, by rw [beq_iff_eq.mp hp], h⟩
  · rintro ⟨rest, rfl, h⟩
    exact .piece (beq_self_eq_true d) h

theorem fits_of_denotes {pattern : List Char} (h : Denotes pattern cs) :
    Fits (piecesOf pattern) cs := by
  induction h with
  | nil => exact .nil
  | run taken _ ih => exact fits_piecesOf_run.mpr (.run taken ih)
  | one c _ ih => exact .piece rfl ih
  | escaped c _ ih => exact fits_literal_iff.mpr ⟨_, rfl, ih⟩
  | backslash => exact fits_literal_iff.mpr ⟨_, rfl, .nil⟩
  | itself hc _ ih =>
    obtain ⟨hrun, hone, hescape⟩ := hc
    rw [piecesOf]
    · exact fits_literal_iff.mpr ⟨_, rfl, ih⟩
    · exact hrun
    · exact hone
    · exact fun _ _ h _ => hescape h

theorem denotes_of_fits {pattern : List Char} (h : Fits (piecesOf pattern) cs) :
    Denotes pattern cs := by
  have hrun : ∀ {ps cs : List Char}, (∀ cs, Fits (piecesOf ps) cs → Denotes ps cs) →
      Fits (.run :: piecesOf ps) cs → Denotes ('*' :: ps) cs := by
    intro ps cs ih h
    obtain ⟨rest, ⟨taken, rfl⟩, hrest⟩ := fits_run_iff.mp h
    exact .run taken (ih rest hrest)
  fun_induction piecesOf pattern generalizing cs with
  | case1 =>
    rw [fits_nil_left] at h
    rw [h]
    exact .nil
  | case2 ps rest hps ih =>
    -- The run of the star and the one behind it have become one.
    rw [← fits_run_run, ← hps] at h
    exact hrun (fun _ => ih) h
  | case3 ps hps ih => exact hrun (fun _ => ih) h
  | case4 ps ih =>
    cases h with
    | piece _ h => exact .one _ (ih h)
  | case5 c ps ih =>
    obtain ⟨rest, rfl, hrest⟩ := fits_literal_iff.mp h
    exact .escaped c (ih hrest)
  | case6 c ps hstar hmark hescape ih =>
    obtain ⟨rest, rfl, hrest⟩ := fits_literal_iff.mp h
    by_cases hc : c = '\\'
    · -- A backslash that is not the last character has been read with the one behind it.
      subst hc
      cases ps with
      | nil =>
        rw [piecesOf, fits_nil_left] at hrest
        rw [hrest]
        exact .backslash
      | cons d ps => exact (hescape d ps rfl rfl).elim
    · exact .itself ⟨hstar, hmark, hc⟩ (ih hrest)

/-- The pieces of a pattern have its language. -/
theorem fits_piecesOf (pattern cs : List Char) :
    Fits (piecesOf pattern) cs ↔ Denotes pattern cs := ⟨denotes_of_fits, fits_of_denotes⟩

/-! ## Matches under way -/

/-- A run may take at least one character more, and the pieces behind it fit the rest. -/
def Resumption.Resumes (r : Resumption) : Prop :=
  ∃ c rest, c :: rest <:+ r.text ∧ Fits r.pieces rest

namespace Attempt

variable {a b : Attempt} {r : Resumption}

/-- What a match may still find: its pieces fit its text, or its most recent run takes more. -/
def Succeeds (a : Attempt) : Prop :=
  Fits a.pieces a.text ∨ ∃ r, a.latest = some r ∧ r.Resumes

/-- Since its most recent run a match has passed pieces that are no runs, and a character with each
of them. -/
def IsAligned (a : Attempt) : Prop :=
  ∀ r, a.latest = some r → ∃ passed taken,
    r.pieces = passed ++ a.pieces ∧ r.text = taken ++ a.text ∧
      taken.length = passed.length ∧ ∀ p ∈ passed, p ≠ .run

/-- A match that starts over behind a run. -/
theorem isAligned_self (ps : List GlobPiece) (cs : List Char) :
    (Attempt.mk ps cs (some ⟨ps, cs⟩)).IsAligned := by
  rintro r ⟨⟩
  exact ⟨[], [], rfl, rfl, rfl, by simp⟩

/-- What the most recent run can still take, a run that comes next can take as well. -/
theorem IsAligned.fits_of_resumes (h : a.IsAligned) (hp : a.pieces = .run :: ps)
    (hl : a.latest = some r) (hr : r.Resumes) : Fits a.pieces a.text := by
  obtain ⟨passed, taken, hpieces, htext, hlen, hpassed⟩ := h r hl
  obtain ⟨c, rest, hsuffix, hfits⟩ := hr
  rw [hpieces] at hfits
  obtain ⟨taken', rest', rfl, hlen', hfits⟩ := fits_append hpassed hfits
  -- As many characters are taken as before, from a later place on.
  have hlate : rest' <:+ a.text := by
    have hrest : rest' <:+ r.text :=
      ((List.suffix_append taken' rest').trans (List.suffix_cons c _)).trans hsuffix
    have htotal := hsuffix.length_le
    rw [htext] at hrest htotal
    simp only [List.length_cons, List.length_append] at htotal
    exact List.suffix_of_suffix_length_le hrest (List.suffix_append _ _) (by omega)
  rw [hp, fits_run_iff] at hfits ⊢
  obtain ⟨rest, hrest, hfits⟩ := hfits
  exact ⟨rest, hrest.trans hlate, hfits⟩

/-- When the text is used up, no run can take more: the pieces that have been passed since need as
many characters as they have taken. -/
theorem IsAligned.not_resumes (h : a.IsAligned) (ht : a.text = []) (hl : a.latest = some r) :
    ¬r.Resumes := by
  rintro ⟨c, rest, hsuffix, hfits⟩
  obtain ⟨passed, taken, hpieces, htext, hlen, hpassed⟩ := h r hl
  rw [hpieces] at hfits
  obtain ⟨taken', rest', rfl, hlen', -⟩ := fits_append hpassed hfits
  have htotal := hsuffix.length_le
  rw [htext, ht] at htotal
  simp only [List.length_cons, List.length_append, List.length_nil] at htotal
  omega

/-! ## One step -/

theorem isAligned_resume? (h : a.resume? = some b) : b.IsAligned := by
  unfold resume? at h
  split at h
  · cases h
    exact isAligned_self _ _
  · cases h

theorem IsAligned.next? (ha : a.IsAligned) (h : a.next? = some b) : b.IsAligned := by
  unfold Attempt.next? at h
  split at h
  · cases h
    exact isAligned_self _ _
  · next p ps c cs hp hpieces htext =>
    split at h
    · cases h
      intro r hr
      obtain ⟨passed, taken, hpassed, htaken, hlen, hno⟩ := ha r hr
      refine ⟨passed ++ [p], taken ++ [c], ?_, ?_, ?_, ?_⟩
      · simp [hpassed, hpieces]
      · simp [htaken, htext]
      · simp [hlen]
      · intro q hq
        rcases List.mem_append.mp hq with hq | hq
        · exact hno q hq
        · rw [List.mem_singleton.mp hq]
          exact hp
    · exact isAligned_resume? h
  · exact isAligned_resume? h

/-- A match that starts over behind a run finds what the run and the pieces behind it fit. -/
theorem succeeds_self_iff :
    (Attempt.mk ps cs (some ⟨ps, cs⟩)).Succeeds ↔ Fits (.run :: ps) cs := by
  rw [fits_run_iff]
  constructor
  · rintro (hfits | ⟨r, hr, c, rest, hsuffix, hfits⟩)
    · exact ⟨cs, List.suffix_rfl, hfits⟩
    · cases hr
      exact ⟨rest, (List.suffix_cons c rest).trans hsuffix, hfits⟩
  · rintro ⟨rest, ⟨taken, rfl⟩, hfits⟩
    rcases List.eq_nil_or_concat taken with rfl | ⟨front, c, rfl⟩
    · exact .inl hfits
    · exact .inr ⟨_, rfl, c, rest, ⟨front, by simp⟩, hfits⟩

/-- A run that takes one character more starts over behind it. -/
theorem resumes_cons_iff {d : Char} {ds : List Char} :
    (Resumption.mk ps (d :: ds)).Resumes ↔ (Attempt.mk ps ds (some ⟨ps, ds⟩)).Succeeds := by
  constructor
  · rintro ⟨c, rest, hsuffix, hfits⟩
    rcases List.suffix_cons_iff.mp hsuffix with heq | hsuffix
    · cases heq
      exact .inl hfits
    · exact .inr ⟨_, rfl, c, rest, hsuffix, hfits⟩
  · rintro (hfits | ⟨r, hr, c, rest, hsuffix, hfits⟩)
    · exact ⟨d, ds, List.suffix_rfl, hfits⟩
    · cases hr
      exact ⟨c, rest, hsuffix.trans (List.suffix_cons d ds), hfits⟩

/-- If the pieces do not fit, going back finds what the most recent run can still take. -/
theorem succeeds_iff_resume? (hno : ¬Fits a.pieces a.text) :
    a.Succeeds ↔ ∃ b, a.resume? = some b ∧ b.Succeeds := by
  have hlatest : a.Succeeds ↔ ∃ r, a.latest = some r ∧ r.Resumes := or_iff_right hno
  rw [hlatest]
  unfold resume?
  split
  · next qs d ds hl => simp [hl, resumes_cons_iff]
  · next hnone =>
    refine iff_of_false ?_ (by simp)
    rintro ⟨⟨qs, text⟩, hl, c, rest, hsuffix, -⟩
    cases text with
    | nil => simp at hsuffix
    | cons d ds => exact hnone qs d ds hl

/-- A step of a match that has text left finds what the match may still find, and there is none if
that is nothing. -/
theorem IsAligned.succeeds_iff_next? (ha : a.IsAligned) (ht : a.text ≠ []) :
    a.Succeeds ↔ ∃ b, a.next? = some b ∧ b.Succeeds := by
  unfold Attempt.next?
  split
  · -- At a star the match goes on behind it; falling back on an earlier star gains nothing.
    next ps hp =>
    simp only [Option.some.injEq, exists_eq_left']
    rw [succeeds_self_iff, ← hp]
    constructor
    · rintro (hfits | ⟨r, hl, hr⟩)
      · exact hfits
      · exact ha.fits_of_resumes hp hl hr
    · exact .inl
  · next p ps c cs hrun hp hc =>
    have hfits : Fits a.pieces a.text ↔ p.takes c = true ∧ Fits ps cs := by
      rw [hp, hc]
      exact fits_cons_iff hrun
    split
    · next htakes =>
      rw [Succeeds, hfits]
      simp [htakes, Succeeds]
    · next htakes => exact succeeds_iff_resume? fun h => htakes (hfits.mp h).1
  · -- The pieces have run out before the text, so only an earlier star can help.
    next hno hcons =>
    refine succeeds_iff_resume? fun h => ?_
    obtain ⟨c, cs, hc⟩ := List.exists_cons_of_ne_nil ht
    cases hp : a.pieces with
    | nil =>
      rw [hp, fits_nil_left] at h
      exact ht h
    | cons p ps => exact hcons p ps c cs hp hc

/-! ## All steps -/

/-- A match finds what it may find. -/
theorem IsAligned.finish_iff (ha : a.IsAligned) : a.finish = true ↔ a.Succeeds := by
  fun_induction finish a with
  | case1 a ht =>
    rw [← fits_nil_right, Succeeds, ht]
    exact (or_iff_left fun ⟨r, hl, hr⟩ => ha.not_resumes ht hl hr).symm
  | case2 a c cs ht hnone =>
    rw [ha.succeeds_iff_next? (by simp [ht]), hnone]
    simp
  | case3 a c cs ht b hb ih =>
    rw [ih (ha.next? hb), ha.succeeds_iff_next? (by simp [ht]), hb]
    simp

end Attempt

/-- The matcher comes to an end on every pattern and every text, and accepts exactly the texts of
the pattern. -/
theorem accepts_iff_denotes (pattern text : String) :
    (ofString pattern).accepts text = true ↔ Denotes pattern.toList text.toList := by
  have hstart : (Attempt.mk (piecesOf pattern.toList) text.toList none).IsAligned := nofun
  have hfits : (Attempt.mk (piecesOf pattern.toList) text.toList none).Succeeds ↔
      Fits (piecesOf pattern.toList) text.toList := or_iff_left nofun
  rw [accepts, ofString, hstart.finish_iff, hfits, fits_piecesOf]

end Glob

end Switchyard
