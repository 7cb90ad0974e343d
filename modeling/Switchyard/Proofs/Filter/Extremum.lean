import Switchyard.Filter.Builtin
import Switchyard.Proofs.Value.Order

/-!
# The least and the largest argument

`min` and `max` keep the best argument so far and compare each next one with it. They have a result
exactly when all arguments have a place in the order of one type, wherever the one stands that has
none, and the result is an argument that no other one beats.

* `AreAlike`: arguments of one ordered type.
* `Builtin.extremum_eq_ok_iff`: when the loop has a result.
* `Builtin.IsUnbeaten`, `Builtin.extremum_unbeaten`: what the result is; the invariant is that what
  the best argument so far has beaten is not better than what beats the best argument.
* `extremum_of_alike`: both for `min` and `max`, and that the order of arguments does not matter.
-/

namespace Switchyard.Filter

/-! ## Arguments of one type -/

/-- Whether all values have a place in the order of one and the same type. -/
def AreAlike (vs : List Value) : Prop :=
  ∃ t : ValueType, ∀ v ∈ vs, v.type = t ∧ v.isOrdered = true

variable {vs ws : List Value} {v w best candidate : Value} {name : String} {dir : Ordering}

theorem areAlike_singleton : AreAlike [v] ↔ (v.compare? v).isSome = true := by
  rw [Value.isSome_compare?_iff]
  constructor
  · rintro ⟨t, h⟩
    obtain ⟨-, ho⟩ := h v List.mem_cons_self
    exact ⟨rfl, ho, ho⟩
  · rintro ⟨-, ho, -⟩
    exact ⟨v.type, by simp [ho]⟩

/-- A further value is compared with one of the others; which of the two goes on is all the same. -/
theorem areAlike_cons_cons (h : (candidate.compare? best).isSome = true) :
    w = candidate ∨ w = best → (AreAlike (best :: candidate :: vs) ↔ AreAlike (w :: vs)) := by
  obtain ⟨ht, hc, hb⟩ := Value.isSome_compare?_iff.mp h
  rintro (rfl | rfl)
  · refine ⟨fun ⟨t, hall⟩ => ⟨t, fun v hv => hall v (List.mem_cons_of_mem _ hv)⟩, ?_⟩
    rintro ⟨t, hall⟩
    have hbest := hall w List.mem_cons_self
    exact ⟨t, List.forall_mem_cons.mpr ⟨⟨ht.symm.trans hbest.1, hb⟩, hall⟩⟩
  · refine ⟨fun ⟨t, hall⟩ => ⟨t, fun v hv => hall v ?_⟩, ?_⟩
    · rcases List.mem_cons.mp hv with rfl | hv
      · exact List.mem_cons_self
      · exact List.mem_cons_of_mem _ (List.mem_cons_of_mem _ hv)
    · rintro ⟨t, hall⟩
      obtain ⟨hbest, hrest⟩ := List.forall_mem_cons.mp hall
      exact ⟨t, List.forall_mem_cons.mpr
        ⟨hbest, List.forall_mem_cons.mpr ⟨⟨ht.trans hbest.1, hc⟩, hrest⟩⟩⟩

theorem AreAlike.compares (h : AreAlike vs) (hv : v ∈ vs) (hw : w ∈ vs) :
    ∃ o, v.compare? w = some o := by
  obtain ⟨t, hall⟩ := h
  exact Value.exists_compare? ((hall v hv).1.trans (hall w hw).1.symm) (hall v hv).2 (hall w hw).2

theorem AreAlike.perm (h : vs.Perm ws) (hvs : AreAlike vs) : AreAlike ws := by
  obtain ⟨t, hall⟩ := hvs
  exact ⟨t, fun w hw => hall w (h.mem_iff.mpr hw)⟩

namespace Builtin

/-! ## The loop -/

theorem extremum_cons {wins : Ordering → Bool} {o : Ordering}
    (h : candidate.compare? best = some o) :
    extremum name wins best (candidate :: vs) =
      extremum name wins (if wins o then candidate else best) vs := by
  rw [extremum, h]

theorem extremum_eq_ok_iff {wins : Ordering → Bool} :
    (∃ v, extremum name wins best vs = .ok v) ↔ AreAlike (best :: vs) := by
  induction vs generalizing best with
  | nil =>
    rw [areAlike_singleton, extremum]
    cases best.compare? best with
    | none => simp
    | some o => simp
  | cons candidate vs ih =>
    cases h : candidate.compare? best with
    | none =>
      have hne : ¬AreAlike (best :: candidate :: vs) := by
        intro halike
        obtain ⟨o, ho⟩ := halike.compares (v := candidate) (w := best) (by simp) (by simp)
        rw [h] at ho
        cases ho
      rw [extremum, h]
      simp [hne]
    | some o =>
      have hsome : (candidate.compare? best).isSome = true := by rw [h]; rfl
      rw [extremum_cons h, ih]
      refine (areAlike_cons_cons hsome ?_).symm
      split
      · exact .inl rfl
      · exact .inr rfl

/-- Whether a value is beaten by none of the others, where an order `dir` to it beats it. -/
def IsUnbeaten (dir : Ordering) (v : Value) (vs : List Value) : Prop :=
  ∀ a ∈ vs, ∃ o, a.compare? v = some o ∧ o ≠ dir

/-- What the best argument does not lose to, or has beaten, does not beat what the best argument
does not beat. -/
theorem unbeaten_of_unbeaten {o o' : Ordering} (hdir : dir ≠ .eq)
    (h : candidate.compare? best = some o) (hb : best.compare? v = some o') (ho : o ≠ dir)
    (ho' : o' ≠ dir) : ∃ o, candidate.compare? v = some o ∧ o ≠ dir := by
  obtain ⟨o₃, h₃, hle, hge⟩ := Value.compare?_trans h hb
  have hthen : o.then o' ≠ dir := by
    cases o with
    | eq => exact ho'
    | lt | gt => exact ho
  refine ⟨o₃, h₃, ?_⟩
  cases dir with
  | eq => exact absurd rfl hdir
  | lt => exact hge ho ho' ▸ hthen
  | gt => exact hle ho ho' ▸ hthen

theorem extremum_unbeaten (hdir : dir ≠ .eq)
    (h : extremum name (· == dir) best vs = .ok v) :
    v ∈ best :: vs ∧ IsUnbeaten dir v (best :: vs) := by
  induction vs generalizing best with
  | nil =>
    rw [extremum] at h
    split at h
    · next o ho =>
      obtain rfl := Except.ok.inj h
      obtain rfl := Value.compare?_self ho
      simp [IsUnbeaten, ho, hdir.symm]
    · cases h
  | cons candidate vs ih =>
    cases hc : candidate.compare? best with
    | none =>
      rw [extremum, hc] at h
      cases h
    | some o =>
      rw [extremum_cons hc] at h
      by_cases ho : o = dir
      · -- The candidate has won; what it beats does not beat what the candidate does not beat.
        rw [if_pos (by simp [ho])] at h
        obtain ⟨hmem, hall⟩ := ih h
        refine ⟨List.mem_cons_of_mem _ hmem, List.forall_mem_cons.mpr ⟨?_, hall⟩⟩
        obtain ⟨o', hv, ho'⟩ := hall candidate List.mem_cons_self
        have hswap : best.compare? candidate = some o.swap := by
          rw [Value.compare?_swap candidate best, hc]
          rfl
        refine unbeaten_of_unbeaten hdir hswap hv (fun hs => hdir ?_) ho'
        rw [← ho] at hs ⊢
        cases o with
        | eq => rfl
        | lt | gt => cases hs
      · -- The best one stays, and does not lose to the candidate.
        rw [if_neg (by simp [ho])] at h
        obtain ⟨hmem, hall⟩ := ih h
        obtain ⟨hbest, hrest⟩ := List.forall_mem_cons.mp hall
        obtain ⟨o', hv, ho'⟩ := hbest
        refine ⟨?_, List.forall_mem_cons.mpr ⟨⟨o', hv, ho'⟩, List.forall_mem_cons.mpr
          ⟨unbeaten_of_unbeaten hdir hc hv ho ho', hrest⟩⟩⟩
        rcases List.mem_cons.mp hmem with rfl | hmem
        · exact List.mem_cons_self
        · exact List.mem_cons_of_mem _ (List.mem_cons_of_mem _ hmem)

/-! ## The functions -/

/-- Whether a function looks for the argument that stands in the order `dir` to the others. -/
inductive Seeks : Builtin → Ordering → Prop where
  | min : Seeks .min .lt
  | max : Seeks .max .gt

variable {f : Builtin}

theorem Seeks.ne_eq (h : f.Seeks dir) : dir ≠ .eq := by
  cases h <;> nofun

theorem Seeks.call_eq (h : f.Seeks dir) (hnull : ∀ v ∈ best :: vs, v.isNull = false)
    (now : Instant) : f.call (best :: vs) now = extremum f.name (· == dir) best vs := by
  have hany : (best :: vs).any Value.isNull = false := by
    rw [List.any_eq_false]
    intro v hv
    simp [hnull v hv]
  rw [call, hany]
  cases h <;> rfl

/-- Two values of which neither beats the other are level. -/
theorem level_of_unbeaten {o : Ordering} (hdir : dir ≠ .eq) (h : v.compare? w = some o)
    (ho : o ≠ dir) (hs : o.swap ≠ dir) : v.compare? w = some .eq := by
  rw [h]
  cases o with
  | eq => rfl
  | lt | gt => cases dir <;> simp_all

end Builtin

open Builtin

/-- For arguments that are not null, `min` and `max` have a result exactly if all arguments have a
place in the order of one type. It is then one of the arguments, and it is not greater, or not less,
than any of them. With the arguments in another order there is a result as well or none as well,
and the two results are level. -/
theorem extremum_of_alike {f : Builtin} {dir : Ordering} (h : f.Seeks dir) {args : List Value}
    (hne : args ≠ []) (hnull : ∀ v ∈ args, v.isNull = false) (now : Instant) :
    ((∃ v, f.call args now = .ok v) ↔ AreAlike args) ∧
    (∀ v, f.call args now = .ok v →
      v ∈ args ∧ ∀ a ∈ args, ∃ o, v.compare? a = some o ∧ o ≠ dir.swap) ∧
    ∀ other, args.Perm other →
      ((∃ v, f.call args now = .ok v) ↔ ∃ w, f.call other now = .ok w) ∧
      ∀ v w, f.call args now = .ok v → f.call other now = .ok w → v.compare? w = some .eq := by
  -- What holds of the arguments in any order.
  have hcall : ∀ other, args.Perm other →
      ((∃ v, f.call other now = .ok v) ↔ AreAlike other) ∧
      ∀ v, f.call other now = .ok v → v ∈ other ∧ IsUnbeaten dir v other := by
    intro other hperm
    obtain ⟨best, vs, rfl⟩ : ∃ best vs, other = best :: vs :=
      List.exists_cons_of_ne_nil fun hnil => hne (hperm.trans (hnil ▸ .refl _)).eq_nil
    rw [h.call_eq (fun v hv => hnull v (hperm.mem_iff.mpr hv)) now]
    exact ⟨extremum_eq_ok_iff, fun v hv => extremum_unbeaten h.ne_eq hv⟩
  obtain ⟨hok, hbest⟩ := hcall args (.refl _)
  refine ⟨hok, fun v hv => ?_, fun other hperm => ?_⟩
  · obtain ⟨hmem, hall⟩ := hbest v hv
    refine ⟨hmem, fun a ha => ?_⟩
    obtain ⟨o, ho, hdir⟩ := hall a ha
    refine ⟨o.swap, by rw [Value.compare?_swap a v, ho]; rfl, fun hs => hdir ?_⟩
    exact Ordering.swap_inj.mp hs
  · obtain ⟨hok', hbest'⟩ := hcall other hperm
    refine ⟨hok.trans (Iff.trans ⟨.perm hperm, .perm hperm.symm⟩ hok'.symm), fun v w hv hw => ?_⟩
    obtain ⟨hmem, hall⟩ := hbest v hv
    obtain ⟨hmem', hall'⟩ := hbest' w hw
    obtain ⟨o, ho, hdir⟩ := hall' v (hperm.mem_iff.mp hmem)
    obtain ⟨o', ho', hdir'⟩ := hall w (hperm.mem_iff.mpr hmem')
    rw [Value.compare?_swap v w, ho] at ho'
    obtain rfl := Option.some.inj ho'
    exact level_of_unbeaten h.ne_eq ho hdir hdir'

/-- One and the two zeros. -/
def oneAndZeros : List Value :=
  [.number ⟨0x3ff0000000000000⟩, .number .zero, .number Binary64.zero.neg]

/-- The zeros in the other order, and one between them. -/
def zerosAndOne : List Value :=
  [.number Binary64.zero.neg, .number ⟨0x3ff0000000000000⟩, .number .zero]

theorem extremum_of_alike_zeros :
    Builtin.min.call oneAndZeros ⟨0, 0⟩ = .ok (.number .zero) ∧
    Builtin.min.call zerosAndOne ⟨0, 0⟩ = .ok (.number Binary64.zero.neg) ∧
    (Value.number .zero).compare? (.number Binary64.zero.neg) = some .eq ∧
    ¬∃ v, Builtin.max.call (.string "1" :: oneAndZeros) ⟨0, 0⟩ = .ok v := by
  have hperm : oneAndZeros.Perm zerosAndOne := ((List.Perm.swap _ _ _).cons _).trans (.swap _ _ _)
  have hmixed : ¬AreAlike (.string "1" :: oneAndZeros) := by
    rintro ⟨t, hall⟩
    have hstring := (hall (.string "1") (by simp)).1
    have hnumber := (hall (.number .zero) (by simp [oneAndZeros])).1
    cases hstring.trans hnumber.symm
  have hnull : ∀ v ∈ oneAndZeros, v.isNull = false := by simp [oneAndZeros, Value.isNull]
  have hnull' : ∀ v ∈ Value.string "1" :: oneAndZeros, v.isNull = false :=
    List.forall_mem_cons.mpr ⟨rfl, hnull⟩
  obtain ⟨-, -, hother⟩ := extremum_of_alike .min (List.cons_ne_nil _ _) hnull ⟨0, 0⟩
  obtain ⟨hmax, -, -⟩ := extremum_of_alike .max (List.cons_ne_nil _ _) hnull' ⟨0, 0⟩
  exact ⟨rfl, rfl, (hother zerosAndOne hperm).2 _ _ rfl rfl, fun h => hmixed (hmax.mp h)⟩

end Switchyard.Filter
