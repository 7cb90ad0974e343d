import Switchyard.Proofs.Registry.Reload

/-!
# Expired rules and the rules of a file

A rule that has expired counts as absent, and stays in the list until it is swept out. Additions and
updates look at the time and take its place. Reconciling does not: a rule of the control plane keeps
its identifier from a file even when it has expired, until it has been swept out and the file is
brought in once more.

* `Registry.Stands`: a declaration has its rule.
* `Registry.stands_iff`, `Registry.mem_conflicts_iff`: it has, unless the control plane has a rule
  of its identifier; then it is reported as a conflict.
* `Registry.not_stands_of_reloads`: this remains so however often files are brought in.
* `Registry.stands_unless_held`: which declarations have their rules, with and without a sweep.
-/

namespace Switchyard

namespace Registry

variable {fs : Filter.HostFunctions} {r : Registry} {specs : List RuleSpec} {now : Instant}
  {d : RuleSpec × Rule} {id : String} {x y : Rule}

/-- A declaration has its rule: one of a file that has been compiled from it, or whose definition is
the same. -/
def Stands (r : Registry) (d : RuleSpec × Rule) : Prop :=
  ∃ x, r.find? d.1.routeId = some x ∧ x.source = .file ∧
    (x.spec = d.2.spec ∨ x.sameDefinition d.1 = true)

/-- The control plane has a rule of an identifier, in force or not. -/
def IsHeld (rules : List Rule) (id : String) : Prop :=
  ∃ x ∈ rules, x.routeId = id ∧ x.source = .api

/-- The control plane has a rule of an identifier that has not expired. -/
def IsHeldInForce (rules : List Rule) (id : String) (now : Instant) : Prop :=
  ∃ x ∈ rules, x.routeId = id ∧ x.source = .api ∧ x.isExpired now = false

theorem isHeld_sweep : IsHeld (r.sweep now).2.rules id ↔ IsHeldInForce r.rules id now := by
  have hrules := rules_perform_sweep r now
  change (r.sweep now).2.rules = _ at hrules
  rw [hrules]
  constructor
  · rintro ⟨x, hx, hid, hapi⟩
    obtain ⟨hm, he⟩ := List.mem_filter.mp hx
    rw [Bool.not_eq_true'] at he
    exact ⟨x, hm, hid, hapi, he⟩
  · rintro ⟨x, hm, hid, hapi, he⟩
    exact ⟨x, List.mem_filter.mpr ⟨hm, by rw [he]; rfl⟩, hid, hapi⟩

/-! ## One reload -/

theorem mem_reconciled_of_api (hapi : x.source = .api) :
    x ∈ r.reconciled specs now ↔ x ∈ r.rules := by
  have hrules : ∀ rules : List Rule,
      x ∈ rules ↔ x ∈ rules.filter fun x => !(x.source == .file) := by
    intro rules
    rw [List.mem_filter, hapi]
    exact (and_iff_left rfl).symm
  rw [hrules (r.reconciled specs now), filter_api_reconciled, ← hrules]

theorem isHeld_reconciled : IsHeld (r.reconciled specs now) id ↔ IsHeld r.rules id :=
  ⟨fun ⟨x, hx, hid, hapi⟩ => ⟨x, (mem_reconciled_of_api hapi).mp hx, hid, hapi⟩,
    fun ⟨x, hx, hid, hapi⟩ => ⟨x, (mem_reconciled_of_api hapi).mpr hx, hid, hapi⟩⟩

/-- The rule that a declaration is in conflict with is one of the control plane. -/
theorem isHeld_of_conflict {s : RuleSpec} {rules : List Rule} (h : fate rules s = .conflict) :
    IsHeld rules s.routeId := by
  unfold fate at h
  split at h
  · cases h
  · next x hx =>
    obtain ⟨hm, hid⟩ := routeId_of_holder? hx
    split at h
    · next hapi => exact ⟨x, hm, hid, hapi⟩
    · split at h <;> cases h

theorem mem_conflicts_iff (hdist : Distinct r.rules) (hd : d ∈ declarations r.functions specs now) :
    d.1.routeId ∈ (r.reconcile specs now).1.conflicts ↔ IsHeld r.rules d.1.routeId := by
  rw [report_reconcile, mem_withFate hd, fate_survivors (mem_specs_of_mem_declarations hd)]
  constructor
  · exact isHeld_of_conflict
  · rintro ⟨x, hx, hid, hapi⟩
    rw [fate_of_mem hdist hx hid, if_pos hapi]

/-- After a reload, the declarations that have their rules are those whose identifier the control
plane does not have. -/
theorem stands_iff (h : r.Reachable fs) (hd : d ∈ declarations fs specs now) :
    (r.reconcile specs now).2.Stands d ↔ ¬IsHeld r.rules d.1.routeId := by
  have hcoherent := h.coherent
  have hdist := hcoherent.distinct
  rw [← hcoherent.functions] at hd
  constructor
  · rintro ⟨x, hx, hfile, -⟩ ⟨y, hy, hid, hapi⟩
    obtain ⟨hx, hxid⟩ := (find?_reconcile h).mp hx
    have hy : y ∈ r.reconciled specs now := (mem_reconciled_of_api hapi).mpr hy
    have hxy : x = y := (distinct_reconciled hdist).eq hx hy (hxid.trans hid.symm)
    rw [hxy, hapi] at hfile
    cases hfile
  · intro hfree
    obtain ⟨x, hx, hid, hlive⟩ :=
      exists_live hdist hd (mt (mem_conflicts_iff hdist hd).mp hfree)
    refine ⟨x, (find?_reconcile h).mpr ⟨hx, hid⟩, ?_⟩
    rcases hlive with rfl | ⟨hm, hsame⟩
    · exact ⟨declarations_source _ specs _ d hd, .inl rfl⟩
    · refine ⟨?_, .inr hsame⟩
      cases hs : x.source with
      | file => rfl
      | api => exact absurd ⟨x, hm, hid, hs⟩ hfree

/-! ## Reloads without a sweep -/

/-- The registry after the rules of several files, or of a file at several times. -/
def reloads (r : Registry) (files : List (List RuleSpec × Instant)) : Registry :=
  files.foldl (fun r f => (r.reconcile f.1 f.2).2) r

theorem reachable_reloads (h : r.Reachable fs) (files : List (List RuleSpec × Instant)) :
    (r.reloads files).Reachable fs := by
  induction files generalizing r with
  | nil => exact h
  | cons f files ih => exact ih (h.step (.perform (.reconcile f.1) f.2))

theorem isHeld_reloads (h : r.Reachable fs) (files : List (List RuleSpec × Instant)) :
    IsHeld (r.reloads files).rules id ↔ IsHeld r.rules id := by
  induction files generalizing r with
  | nil => exact Iff.rfl
  | cons f files ih =>
    have hstep := ih (h.step (.perform (.reconcile f.1) f.2))
    rw [rules_perform_reconcile h.coherent.distinct] at hstep
    exact hstep.trans isHeld_reconciled

/-- A rule of the control plane keeps a declaration out through any number of reloads, whether it
has expired or not. -/
theorem not_stands_of_reloads (h : r.Reachable fs) (files : List (List RuleSpec × Instant))
    (hd : d ∈ declarations fs specs now) (hheld : IsHeld r.rules d.1.routeId) :
    ¬((r.reloads files).reconcile specs now).2.Stands d := by
  rw [stands_iff (reachable_reloads h files) hd, isHeld_reloads h files]
  exact not_not_intro hheld

/-! ## Reloads and sweeps -/

/-- A rule of the control plane that is swept out after a reload leaves nothing under its
identifier. -/
theorem find?_sweep_of_held (h : r.Reachable fs) (specs : List RuleSpec) (now time : Instant)
    (hheld : IsHeld r.rules id) (hend : ¬IsHeldInForce r.rules id time) :
    ((r.reconcile specs now).2.sweep time).2.find? id = none := by
  have hreload : (r.reconcile specs now).2.Reachable fs := h.step (.perform (.reconcile specs) now)
  have hswept : ((r.reconcile specs now).2.sweep time).2.Reachable fs :=
    hreload.step (.perform .sweep time)
  have hrules := rules_perform_sweep (r.reconcile specs now).2 time
  rw [(reconcile_publishes h.coherent.distinct specs now).rules_eq] at hrules
  obtain ⟨y, hy, hid, hapi⟩ := hheld
  rw [Option.eq_none_iff_forall_ne_some]
  intro x hx
  obtain ⟨hx, hxid⟩ := (hswept.coherent.isKeyed.find id x).mp hx
  change x ∈ (perform _ Write.sweep time).2.rules at hx
  rw [hrules] at hx
  obtain ⟨hx, hlive⟩ := List.mem_filter.mp hx
  -- The rule that is left would be that of the control plane, which has expired.
  have hxy : x = y := (distinct_reconciled h.coherent.distinct).eq hx
    ((mem_reconciled_of_api hapi).mpr hy) (hxid.trans hid.symm)
  rw [hxy, Bool.not_eq_true'] at hlive
  exact hend ⟨y, hy, hid, hapi, hlive⟩

/-- Whatever has happened, a first declaration that compiles has its rule after a reload unless the
control plane has a rule of its identifier in force, if none that has expired is in its way. One
that has expired is in the way: the declaration is reported as a conflict, and a later sweep leaves
nothing under its identifier. It is not in the way of a reload that comes after a sweep. -/
theorem stands_unless_held (h : r.Reachable fs) (hd : d ∈ declarations fs specs now) :
    ((∀ x ∈ r.rules, x.routeId = d.1.routeId → x.source = .api → x.isExpired now = false) →
      (r.reconcile specs now).2.Stands d ∨ IsHeldInForce r.rules d.1.routeId now) ∧
    (IsHeld r.rules d.1.routeId → ¬IsHeldInForce r.rules d.1.routeId now →
      d.1.routeId ∈ (r.reconcile specs now).1.conflicts ∧
        ¬(r.reconcile specs now).2.Stands d ∧
        ((r.reconcile specs now).2.sweep now).2.find? d.1.routeId = none) ∧
    (((r.sweep now).2.reconcile specs now).2.Stands d ↔
      ¬IsHeldInForce r.rules d.1.routeId now) := by
  refine ⟨fun hnone => ?_, fun hheld hend => ⟨?_, ?_, ?_⟩, ?_⟩
  · by_cases hheld : IsHeld r.rules d.1.routeId
    · obtain ⟨x, hx, hid, hapi⟩ := hheld
      exact .inr ⟨x, hx, hid, hapi, hnone x hx hid hapi⟩
    · exact .inl ((stands_iff h hd).mpr hheld)
  · rw [← h.coherent.functions] at hd
    exact (mem_conflicts_iff h.coherent.distinct hd).mpr hheld
  · rw [stands_iff h hd]
    exact not_not_intro hheld
  · exact find?_sweep_of_held h specs now now hheld hend
  · have hswept : (r.sweep now).2.Reachable fs := h.step (.perform .sweep now)
    rw [stands_iff hswept hd, isHeld_sweep]

/-- One rule of the control plane, which ends at the fifth second. -/
def outlived : Registry := ((empty .empty).perform (.add (briefSpec "a" 5)) ⟨0, 0⟩).2

theorem stands_unless_held_outlived :
    outlived.Reachable .empty ∧ (outlived.rules.any fun x => x.isExpired ⟨4, 0⟩) = false ∧
    ∃ y, (lastingSpec "a" "orders.>", y) ∈ declarations .empty [lastingSpec "a" "orders.>"] ⟨9, 0⟩ ∧
      ((outlived.sweep ⟨9, 0⟩).2.reconcile [lastingSpec "a" "orders.>"] ⟨9, 0⟩).2.Stands
        (lastingSpec "a" "orders.>", y) := by
  have hr : outlived.Reachable .empty := .step .empty (.perform _ _)
  obtain ⟨y, -, hd⟩ := exists_declaration .empty (lastingSpec "a" "orders.>") ⟨9, 0⟩
    (by decide +kernel)
  obtain ⟨-, -, hstands⟩ := stands_unless_held hr hd
  have hend : ∀ x ∈ outlived.rules, x.isExpired ⟨9, 0⟩ = true := by decide +kernel
  refine ⟨hr, by decide +kernel, y, hd, hstands.mpr ?_⟩
  rintro ⟨x, hx, -, -, hlive⟩
  rw [hend x hx] at hlive
  cases hlive

/-- A rule that has expired keeps its identifier from a file that is brought in before the sweep,
although no rule of the control plane is in force. -/
theorem expired_rule_blocks :
    outlived.Reachable .empty ∧ ¬IsHeldInForce outlived.rules "a" ⟨9, 0⟩ ∧
    (outlived.reconcile [lastingSpec "a" "orders.>"] ⟨9, 0⟩).1 = ⟨[], [], [], 0, [], ["a"]⟩ ∧
    (∃ y, (lastingSpec "a" "orders.>", y) ∈
        declarations .empty [lastingSpec "a" "orders.>"] ⟨9, 0⟩ ∧
      ¬(outlived.reconcile [lastingSpec "a" "orders.>"] ⟨9, 0⟩).2.Stands
        (lastingSpec "a" "orders.>", y)) ∧
    ((outlived.reconcile [lastingSpec "a" "orders.>"] ⟨9, 0⟩).2.sweep ⟨9, 0⟩).2.rules.length =
      0 := by
  have hr : outlived.Reachable .empty := .step .empty (.perform _ _)
  have hend : ∀ x ∈ outlived.rules, x.isExpired ⟨9, 0⟩ = true := by decide +kernel
  have hheld : ∀ x ∈ outlived.rules, x.routeId = "a" ∧ x.source = .api := by decide +kernel
  obtain ⟨x, hx⟩ : ∃ x, x ∈ outlived.rules :=
    List.exists_mem_of_length_pos (by decide +kernel)
  obtain ⟨y, -, hd⟩ := exists_declaration .empty (lastingSpec "a" "orders.>") ⟨9, 0⟩
    (by decide +kernel)
  refine ⟨hr, ?_, by decide +kernel, ⟨y, hd, fun hstands => ?_⟩, by decide +kernel⟩
  · rintro ⟨x, hx, -, -, hlive⟩
    rw [hend x hx] at hlive
    cases hlive
  · exact (stands_iff hr hd).mp hstands ⟨x, hx, hheld x hx⟩

end Registry

end Switchyard
