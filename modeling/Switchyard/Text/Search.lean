/-!
# Searching text

Whether one text stands inside another one, and where it first does.

* `append_of_cut`: the parts of a cut and the separator between them are the whole text.
* `length_of_cut`: so the part behind is shorter by the part before and the separator.
* `cut?_eq_none`: a text is not cut just if the mark does not occur in it.
* `cut?_append_of_some`, `cut?_append_of_none`: where a longer text is cut.
-/

namespace Switchyard.Text

/-- Whether a text contains another one. -/
def hasInfix (needle : List Char) : List Char → Bool
  | [] => needle.isEmpty
  | c :: cs => needle.isPrefixOf (c :: cs) || hasInfix needle cs

/-- What stands before and behind the first occurrence of `mark`, or nothing if it does not
occur. -/
def cut? (mark : List Char) : List Char → Option (List Char × List Char)
  | [] => if mark.isEmpty then some ([], []) else none
  | c :: cs =>
    if mark.isPrefixOf (c :: cs) then some ([], (c :: cs).drop mark.length)
    else (cut? mark cs).map fun (before, behind) => (c :: before, behind)

theorem append_of_cut {mark s before behind : List Char}
    (h : cut? mark s = some (before, behind)) : s = before ++ mark ++ behind := by
  induction s generalizing before with
  | nil =>
    simp only [cut?] at h
    split at h <;> simp_all
  | cons c cs ih =>
    simp only [cut?] at h
    split at h
    next hp =>
      obtain ⟨t, ht⟩ := List.isPrefixOf_iff_prefix.mp hp
      simp only [Option.some.injEq, Prod.mk.injEq] at h
      obtain ⟨rfl, rfl⟩ := h
      simp [← ht]
    next =>
      obtain ⟨⟨b, r⟩, hb, he⟩ := Option.map_eq_some_iff.mp h
      simp only [Prod.mk.injEq] at he
      obtain ⟨rfl, rfl⟩ := he
      rw [ih hb]
      rfl

theorem length_of_cut {mark s before behind : List Char}
    (h : cut? mark s = some (before, behind)) :
    before.length + mark.length + behind.length = s.length := by
  rw [append_of_cut h, List.length_append, List.length_append]

theorem cut?_eq_none {mark s : List Char} (hmark : mark ≠ []) :
    cut? mark s = none ↔ ¬mark <:+: s := by
  induction s with
  | nil => simp [cut?, hmark]
  | cons c cs ih =>
    rw [cut?, List.infix_cons_iff, ← List.isPrefixOf_iff_prefix]
    by_cases hp : mark.isPrefixOf (c :: cs) = true
    · simp [hp]
    · simp [hp, ih]

/-- A mark that occurs in a text is the first one in every longer text. -/
theorem cut?_append_of_some {mark s before behind : List Char}
    (h : cut? mark s = some (before, behind)) (t : List Char) :
    cut? mark (s ++ t) = some (before, behind ++ t) := by
  induction s generalizing before with
  | nil =>
    rw [cut?] at h
    split at h
    next hempty =>
      obtain ⟨rfl, rfl⟩ := Prod.mk.inj (Option.some.inj h)
      obtain rfl := List.isEmpty_iff.mp hempty
      cases t <;> rfl
    next => cases h
  | cons c cs ih =>
    rw [List.cons_append, cut?]
    rw [cut?] at h
    split at h
    next hp =>
      obtain ⟨r, hr⟩ := List.isPrefixOf_iff_prefix.mp hp
      obtain ⟨rfl, rfl⟩ := Prod.mk.inj (Option.some.inj h)
      have hp' : mark.isPrefixOf (c :: (cs ++ t)) = true :=
        List.isPrefixOf_iff_prefix.mpr ⟨r ++ t, by rw [← List.append_assoc, hr]; rfl⟩
      rw [if_pos hp', ← List.cons_append, ← hr, List.append_assoc, List.drop_left, List.drop_left]
    next hp =>
      obtain ⟨⟨b, r⟩, hb, he⟩ := Option.map_eq_some_iff.mp h
      obtain ⟨rfl, rfl⟩ := Prod.mk.inj he
      have hp' : ¬mark.isPrefixOf (c :: (cs ++ t)) = true := by
        intro hlong
        -- The cut shows that the mark is not longer than what is left of the shorter text.
        have hlen := length_of_cut hb
        have hle : mark.length ≤ (c :: cs).length := by
          simp only [List.length_cons]
          omega
        exact hp (List.isPrefixOf_iff_prefix.mpr (List.prefix_of_prefix_length_le
          (List.isPrefixOf_iff_prefix.mp hlong) (List.prefix_append (c :: cs) t) hle))
      rw [if_neg hp', ih hb]
      rfl

/-- A mark that neither occurs in a text nor begins at its end is looked for behind it. -/
theorem cut?_append_of_none {mark s t : List Char} (h : cut? mark s = none)
    (hseam : ∀ front back, mark = front ++ back → front ≠ [] → back ≠ [] → front <:+ s →
      ¬back <+: t) :
    cut? mark (s ++ t) = (cut? mark t).map fun p => (s ++ p.1, p.2) := by
  induction s with
  | nil => cases hc : cut? mark t <;> simp [hc]
  | cons c cs ih =>
    rw [cut?] at h
    split at h
    next => cases h
    next hp =>
      have hp' : ¬mark.isPrefixOf (c :: (cs ++ t)) = true := by
        intro hlong
        obtain ⟨r, hr⟩ := List.isPrefixOf_iff_prefix.mp hlong
        rcases List.append_eq_append_iff.mp (hr.trans (List.cons_append).symm) with
          ⟨back, hback, -⟩ | ⟨back, hback, ht⟩
        · exact hp (List.isPrefixOf_iff_prefix.mpr ⟨back, hback.symm⟩)
        · by_cases hnil : back = []
          · subst hnil
            exact hp (List.isPrefixOf_iff_prefix.mpr ⟨[], by rw [hback, List.append_nil]; simp⟩)
          · exact hseam _ _ hback (List.cons_ne_nil c cs) hnil (List.suffix_refl _) ⟨r, ht.symm⟩
      rw [List.cons_append, cut?, if_neg hp', ih (Option.map_eq_none_iff.mp h)
        fun front back hm hf hb hs => hseam front back hm hf hb (hs.trans (List.suffix_cons c cs))]
      cases cut? mark t <;> rfl

end Switchyard.Text
