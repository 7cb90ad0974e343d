import Switchyard.Proofs.Rule.Compile
import Switchyard.Proofs.Rule.Document

/-!
# When a definition is the same

Definitions are compared by the values of their filters too, and those are documents. A NaN is not
equal to itself, but no document that is kept holds one, so a definition is the same as itself.

* `Json.IsStored.same_self`, `RuleSpec.same_self`: documents and definitions are the same as
  themselves.
* `Rule.compile_lasting`, `Rule.compile_earlier`: what compiling at one time says of another time.
* `Rule.sameDefinition_of_compile`: a rule is the same as the definition that it was compiled from.
-/

namespace Switchyard

theorem Binary64.level_self {x : Binary64} (h : x.isFinite = true) : x.level x = true := by
  have hn : x.isNaN = false := by
    unfold Binary64.isFinite at h
    unfold Binary64.isNaN
    rw [decide_eq_true_eq] at h
    rw [decide_eq_false_iff_not]
    omega
  simp [Binary64.level, Binary64.compare?, hn]

namespace Json

theorem sameItems_self {items : List Json} (h : ∀ x ∈ items, x.same x = true) :
    sameItems items items = true := by
  induction items with
  | nil => rfl
  | cons x items ih =>
    obtain ⟨hx, hitems⟩ := List.forall_mem_cons.mp h
    rw [sameItems, hx, ih hitems]
    rfl

theorem sameMembers_self {members : List (String × Json)}
    (h : ∀ m ∈ members, m.2.same m.2 = true) : sameMembers members members = true := by
  induction members with
  | nil => rfl
  | cons m members ih =>
    obtain ⟨hm, hmembers⟩ := List.forall_mem_cons.mp h
    rw [sameMembers, beq_self_eq_true, hm, ih hmembers]
    rfl

/-- A document that is kept is the same as itself. -/
theorem IsStored.same_self {j : Json} (h : j.IsStored) : j.same j = true := by
  induction h with
  | null => rfl
  | bool b => exact beq_self_eq_true b
  | whole n => exact beq_self_eq_true n
  | real h => exact Binary64.level_self h
  | string s => exact beq_self_eq_true s
  | array _ ih => exact sameItems_self ih
  | object _ _ ih => exact sameMembers_self ih

end Json

/-- A definition is the same as itself. -/
theorem RuleSpec.same_self (s : RuleSpec) : s.same s = true := by
  have hfilter : s.filterDocument.same s.filterDocument = true := by
    refine Json.sameMembers_self fun m hm => ?_
    obtain ⟨p, -, rfl⟩ := List.mem_map.mp hm
    exact p.2.isStored.same_self
  simp [same, hfilter]

/-! ## At other times -/

namespace Instant

theorem seconds_le_of_atOrBefore {a b : Instant} (h : a.atOrBefore b = true) :
    a.seconds ≤ b.seconds := by
  refine Int.not_lt.mp fun hlt => ?_
  have hgt : Ord.compare a.seconds b.seconds = .gt := by
    rw [Int.compare_eq_gt]
    exact hlt
  simp [atOrBefore, Instant.compare, hgt] at h

/-- What the calendar reaches from a time it reaches from an earlier one. -/
theorem addSeconds?_earlier {a b t : Instant} {n : Nat} (ha : inRange a.seconds = true)
    (h : a.atOrBefore b = true) (hb : b.addSeconds? n = some t) :
    ∃ t', a.addSeconds? n = some t' := by
  have hle := seconds_le_of_atOrBefore h
  unfold addSeconds? at hb ⊢
  dsimp only at hb ⊢
  split at hb
  · next hr =>
    have hin : inRange (a.seconds + n) = true := by
      unfold inRange at ha hr ⊢
      rw [decide_eq_true_eq] at ha hr ⊢
      omega
    rw [if_pos hin]
    exact ⟨_, rfl⟩
  · cases hb

end Instant

namespace Rule

variable {fs : Filter.HostFunctions} {s : RuleSpec} {source : RuleSource} {now : Instant}
  {x : Rule}

/-- Without a life time a definition compiles alike at any time, and is kept as it is. -/
theorem compile_lasting (h : s.ttlSeconds = none) (hx : Rule.compile fs s source now = .ok x) :
    x.spec = s ∧ ∀ time, Rule.compile fs s source time = .ok x := by
  obtain ⟨hfault, pattern, filter, targets, spec, hp, hf, ht, hs, rfl⟩ := compile_eq_ok.mp hx
  have hresolve : ∀ time, resolveTtl? s time = some s := fun time => by rw [resolveTtl?, h]
  obtain rfl := Option.some.inj ((hresolve now).symm.trans hs)
  exact ⟨rfl, fun time =>
    compile_eq_ok.mpr ⟨hfault, pattern, filter, targets, s, hp, hf, ht, hresolve time, rfl⟩⟩

/-- A definition that compiles has compiled before, since life times only leave the calendar. -/
theorem compile_earlier {time : Instant} (hnow : Instant.inRange now.seconds = true)
    (htime : now.atOrBefore time = true) (hx : Rule.compile fs s source time = .ok x) :
    ∃ y, Rule.compile fs s source now = .ok y := by
  obtain ⟨hfault, pattern, filter, targets, spec, hp, hf, ht, hs, rfl⟩ := compile_eq_ok.mp hx
  have hresolve : ∃ spec, resolveTtl? s now = some spec := by
    unfold resolveTtl? at hs ⊢
    split at hs
    · exact ⟨s, rfl⟩
    · next ttl _ =>
      obtain ⟨t, hadd, -⟩ := Option.map_eq_some_iff.mp hs
      obtain ⟨t', hadd'⟩ := Instant.addSeconds?_earlier hnow htime hadd
      exact ⟨_, Option.map_eq_some_iff.mpr ⟨t', hadd', rfl⟩⟩
  obtain ⟨spec', hs'⟩ := hresolve
  exact ⟨_, compile_eq_ok.mpr ⟨hfault, pattern, filter, targets, spec', hp, hf, ht, hs', rfl⟩⟩

/-- A rule is the same as the definition that it was compiled from, if that has no life time. -/
theorem sameDefinition_of_compile (h : s.ttlSeconds = none)
    (hx : Rule.compile fs s source now = .ok x) (revision : Nat) :
    (x.withRevision revision).sameDefinition s = true := by
  have hspec : (x.withRevision revision).spec = s := (compile_lasting h hx).1
  rw [sameDefinition, hspec, RuleSpec.same_self s, h]
  rfl

end Rule

end Switchyard
