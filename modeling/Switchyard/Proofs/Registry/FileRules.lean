import Mathlib.Data.List.Nodup
import Switchyard.Proofs.Registry.OrderedMap
import Switchyard.Proofs.Registry.SyncReport
import Switchyard.Proofs.Rule.SameDefinition

/-!
# The rules of a file

Reconciling takes out the rules of a file that it no longer declares, and every other rule keeps its
place. What stands there afterwards depends on who manages the rule and on the declaration of its
identifier, if there is one that compiles; new rules come last.

* `Registry.reconciled_getElem?`, `Registry.drop_reconciled`: what stands at a place afterwards.
* `Registry.not_reconciles_again`: declarations that have been brought in change nothing if they
  are brought in again.
* `Registry.Reconciliation`, `Registry.reconciliation_of_reachable`: the effect of reconciling on
  any reachable registry.
-/

namespace Switchyard

namespace Registry

variable {fs : Filter.HostFunctions} {r : Registry} {specs : List RuleSpec} {now time : Instant}
  {d : RuleSpec × Rule} {x : Rule} {p : Nat}

/-! ## Places -/

theorem refresh_of_mem {revision : Nat} {ds : List (RuleSpec × Rule)}
    (hids : (ds.map fun d => d.1.routeId).Nodup) (hd : d ∈ ds) (h : d.1.routeId = x.routeId) :
    refresh revision ds x =
      if x.source = .api ∨ x.sameDefinition d.1 = true then x else d.2.withRevision revision := by
  rw [refresh, ← h, find?_of_mem hids hd]

/-- A rule that is not taken out keeps its place. -/
theorem reconciled_getElem? (h : (survivors r.rules specs)[p]? = some x) :
    (r.reconciled specs now)[p]? =
      some (refresh (r.revision + 1) (declarations r.functions specs now) x) := by
  obtain ⟨hp, -⟩ := List.getElem?_eq_some_iff.mp h
  have hlt : p < ((survivors r.rules specs).map
      (refresh (r.revision + 1) (declarations r.functions specs now))).length := by
    rw [List.length_map]
    exact hp
  rw [reconciled, merged, List.getElem?_append_left hlt, List.getElem?_map, h]
  rfl

theorem mem_specs_of_mem_declarations (h : d ∈ declarations fs specs now) : d.1 ∈ specs :=
  (sublist_firstDeclared [] specs).subset (mem_compiled.mp h).1

/-- The rules behind those that were there are the ones whose identifier no rule had. -/
theorem drop_reconciled (r : Registry) (specs : List RuleSpec) (now : Instant) :
    (r.reconciled specs now).drop (survivors r.rules specs).length =
      ((declarations r.functions specs now).filter fun d =>
        ∀ x ∈ r.rules, x.routeId ≠ d.1.routeId).map fun d => d.2.withRevision (r.revision + 1) := by
  have hlen : ((survivors r.rules specs).map
      (refresh (r.revision + 1) (declarations r.functions specs now))).length =
      (survivors r.rules specs).length := List.length_map _
  have hnew : ((declarations r.functions specs now).filter fun d =>
      fate (survivors r.rules specs) d.1 = .added) =
      (declarations r.functions specs now).filter fun d =>
        ∀ x ∈ r.rules, x.routeId ≠ d.1.routeId := by
    refine List.filter_congr fun d hd => ?_
    rw [fate_survivors (mem_specs_of_mem_declarations hd), decide_eq_decide]
    exact fate_eq_added
  rw [reconciled, merged, ← hlen, List.drop_left, hnew]

/-! ## Reports -/

/-- The identifiers reported with a fate are those of the declarations that have it. -/
theorem withFate_eq (r : Registry) (specs : List RuleSpec) (now : Instant) (f : Fate) :
    withFate (dispositions r now [] specs) f =
      ((declarations r.functions specs now).filter fun d =>
        fate (survivors r.rules specs) d.1 = f).map fun d => d.1.routeId := by
  have hfates : ∀ ds : List (RuleSpec × Rule), withFate (fates r.rules ds) f =
      (ds.filter fun d => fate r.rules d.1 = f).map fun d => d.1.routeId := by
    intro ds
    induction ds with
    | nil => rfl
    | cons d ds ih =>
      have hcons : fates r.rules (d :: ds) =
          (d.1.routeId, .accepted (fate r.rules d.1)) :: fates r.rules ds := rfl
      rw [hcons, withFate_cons, List.filter_cons, ih]
      by_cases h : fate r.rules d.1 = f <;> simp [h]
  have hsurv : ((declarations r.functions specs now).filter fun d =>
      fate (survivors r.rules specs) d.1 = f) =
      (declarations r.functions specs now).filter fun d => fate r.rules d.1 = f := by
    refine List.filter_congr fun d hd => ?_
    rw [fate_survivors (mem_specs_of_mem_declarations hd)]
  rw [withFate_dispositions sees_nil, hsurv]
  exact hfates _

/-- A declaration is reported with the fate that it has, and with no other. -/
theorem mem_withFate {d : RuleSpec × Rule} (hd : d ∈ declarations r.functions specs now)
    (f : Fate) :
    d.1.routeId ∈ withFate (dispositions r now [] specs) f ↔
      fate (survivors r.rules specs) d.1 = f := by
  rw [withFate_eq, List.mem_map]
  constructor
  · rintro ⟨e, he, hid⟩
    obtain ⟨he, hf⟩ := List.mem_filter.mp he
    rw [← List.inj_on_of_nodup_map (declarations_distinct r.functions specs now) he hd hid]
    exact of_decide_eq_true hf
  · exact fun hf => ⟨d, List.mem_filter.mpr ⟨hd, decide_eq_true hf⟩, rfl⟩

theorem hasChanges_eq_false {s : SyncReport} :
    s.hasChanges = false ↔ s.added = [] ∧ s.updated = [] ∧ s.removed = [] := by
  simp [SyncReport.hasChanges, and_assoc]

/-- Every definition of the list is counted once. -/
theorem length_eq_report (r : Registry) (specs : List RuleSpec) (now : Instant) :
    specs.length = (r.reconcile specs now).1.added.length +
      (r.reconcile specs now).1.updated.length + (r.reconcile specs now).1.unchanged +
      (r.reconcile specs now).1.rejected.length + (r.reconcile specs now).1.conflicts.length := by
  have hlen := congrArg List.length (map_fst_dispositions r now [] specs)
  rw [List.length_map, List.length_map] at hlen
  rw [report_reconcile, ← hlen]
  exact length_eq_counts _

/-! ## Reconciling again -/

/-- No rule is left that came from a file and is not declared. -/
theorem not_isStale_reconciled (hx : x ∈ r.reconciled specs now) : isStale specs x = false := by
  rcases mem_merged hx with hx | ⟨d, hd, rfl⟩
  · have hkeep := (List.mem_filter.mp hx).2
    rwa [Bool.not_eq_true'] at hkeep
  · have hid : (d.2.withRevision (r.revision + 1)).routeId = d.1.routeId := by
      rw [Rule.routeId_withRevision, declarations_routeId _ specs _ d hd]
    have hmem : (specs.map (·.routeId)).contains d.1.routeId = true :=
      List.contains_iff_mem.mpr (List.mem_map_of_mem (mem_specs_of_mem_declarations hd))
    rw [isStale, hid, hmem]
    exact Bool.and_false _

/-- Without a life time, a declaration that is brought in at one time is brought in at any. -/
theorem mem_declarations_of_lasting (hd : d ∈ declarations fs specs time)
    (hlast : d.1.ttlSeconds = none) (now : Instant) : d ∈ declarations fs specs now := by
  obtain ⟨hfirst, hc⟩ := mem_compiled.mp hd
  exact mem_compiled.mpr ⟨hfirst, (Rule.compile_lasting hlast hc).2 now⟩

/-- What a declaration has brought in is what it finds when it is brought in again. -/
theorem fate_reconciled (hdist : Distinct r.rules) (hlast : d.1.ttlSeconds = none)
    (hd : d ∈ declarations r.functions specs now) :
    (fate (r.reconciled specs now) d.1).isChange = false := by
  have hids := declarations_distinct r.functions specs now
  have hsurv := distinct_survivors hdist specs
  have hnew : Distinct (r.reconciled specs now) := distinct_reconciled hdist
  by_cases hf : (fate (survivors r.rules specs) d.1).isChange = true
  · -- The rule has been brought in under the new revision, and it is what it was compiled from.
    have hm : d.2.withRevision (r.revision + 1) ∈ r.reconciled specs now :=
      withRevision_mem_merged (r.revision + 1) hsurv hids hd hf
    have hid : (d.2.withRevision (r.revision + 1)).routeId = d.1.routeId := by
      rw [Rule.routeId_withRevision, declarations_routeId _ specs _ d hd]
    have hsame := Rule.sameDefinition_of_compile hlast (mem_compiled.mp hd).2 (r.revision + 1)
    have hsource : (d.2.withRevision (r.revision + 1)).source = .file := by
      rw [Rule.source_withRevision, declarations_source _ specs _ d hd]
    rw [fate_of_mem hnew hm hid, hsource, hsame]
    rfl
  · -- The rule that stood in its way, or was the same, is still there.
    have hex : ∃ x ∈ survivors r.rules specs, x.routeId = d.1.routeId := by
      refine Classical.byContradiction fun hno => hf ?_
      have hadd : fate (survivors r.rules specs) d.1 = .added :=
        fate_eq_added.mpr fun x hx hid => hno ⟨x, hx, hid⟩
      rw [hadd]
      rfl
    obtain ⟨x, hx, hid⟩ := hex
    rw [fate_of_mem hsurv hx hid] at hf
    have hkeep : x.source = .api ∨ x.sameDefinition d.1 = true := by
      by_cases ha : x.source = .api
      · exact .inl ha
      · by_cases hs : x.sameDefinition d.1 = true
        · exact .inr hs
        · simp [ha, hs, Fate.isChange] at hf
    have hm : x ∈ r.reconciled specs now := by
      refine List.mem_append_left _ (List.mem_map.mpr ⟨x, hx, ?_⟩)
      rw [refresh_of_mem hids hd hid.symm, if_pos hkeep]
    rw [fate_of_mem hnew hm hid]
    rcases hkeep with ha | hs
    · simp [ha, Fate.isChange]
    · by_cases ha : x.source = .api <;> simp [ha, hs, Fate.isChange]

/-- Reconciling with the same definitions again changes no rule, if none that is accepted then has a
life time. -/
theorem not_reconciles_again (hdist : Distinct r.rules) {r' : Registry}
    (hrules : r'.rules = r.reconciled specs now) (hfs : r'.functions = r.functions)
    (hlast : ∀ d ∈ declarations r.functions specs time, d.1.ttlSeconds = none) :
    ¬r'.Reconciles specs time := by
  unfold Reconciles
  rw [hrules, hfs]
  rintro (⟨x, hx, hstale⟩ | ⟨d, hd, hf⟩)
  · rw [not_isStale_reconciled hx] at hstale
    cases hstale
  · have hmem := mem_specs_of_mem_declarations hd
    have hagain := fate_reconciled hdist (hlast d hd)
      (mem_declarations_of_lasting hd (hlast d hd) now)
    rw [fate_survivors hmem, hagain] at hf
    cases hf

/-! ## The effect -/

/-- What reconciling makes of a registry, and what it reports. -/
structure Reconciliation (r : Registry) (specs : List RuleSpec) (now : Instant)
    (report : SyncReport) (r' : Registry) : Prop where
  /-- The rules of the control plane are left as they are. -/
  api : (r'.rules.filter fun x => x.source = .api) = r.rules.filter fun x => x.source = .api
  /-- Removed are the rules of a file that are not declared at all. -/
  removed : report.removed =
    (r.rules.filter fun x => x.source = .file ∧ x.routeId ∉ specs.map (·.routeId)).map Rule.routeId
  /-- All other rules keep their order, and those added come behind them. -/
  order : r'.rules.map Rule.routeId =
    (survivors r.rules specs).map Rule.routeId ++ report.added
  /-- A rule of the control plane stands in the way of a declaration. -/
  conflicting : ∀ (p : Nat) (x : Rule), (survivors r.rules specs)[p]? = some x →
    x.source = .api → r'.rules[p]? = some x
  /-- A rule stays in force when its new definition is rejected. -/
  lastGood : ∀ (p : Nat) (x : Rule), (survivors r.rules specs)[p]? = some x →
    (∀ d ∈ declarations r.functions specs now, d.1.routeId ≠ x.routeId) → r'.rules[p]? = some x
  same : ∀ (p : Nat) (x : Rule), (survivors r.rules specs)[p]? = some x →
    ∀ d ∈ declarations r.functions specs now, d.1.routeId = x.routeId →
      x.sameDefinition d.1 = true → r'.rules[p]? = some x
  replaced : ∀ (p : Nat) (x : Rule), (survivors r.rules specs)[p]? = some x → x.source = .file →
    ∀ d ∈ declarations r.functions specs now, d.1.routeId = x.routeId →
      x.sameDefinition d.1 = false → r'.rules[p]? = some (d.2.withRevision (r.revision + 1))
  /-- Declarations whose identifier no rule had come last, in their order. -/
  appended : r'.rules.drop (survivors r.rules specs).length =
    ((declarations r.functions specs now).filter fun d =>
      ∀ x ∈ r.rules, x.routeId ≠ d.1.routeId).map fun d => d.2.withRevision (r.revision + 1)
  /-- Every definition of the list is accounted for at its place, in one way. -/
  accounted : report.added = withFate (dispositions r now [] specs) .added ∧
    report.updated = withFate (dispositions r now [] specs) .updated ∧
    report.unchanged = (withFate (dispositions r now [] specs) .unchanged).length ∧
    report.rejected = rejections (dispositions r now [] specs) ∧
    report.conflicts = withFate (dispositions r now [] specs) .conflict
  places : (dispositions r now [] specs).map (·.1) = specs.map (·.routeId)
  counted : specs.length = report.added.length + report.updated.length + report.unchanged +
    report.rejected.length + report.conflicts.length
  /-- One revision is published for all changes, and none without a change. -/
  published : r'.revision = if report.hasChanges then r.revision + 1 else r.revision
  untouched : report.hasChanges = false → r'.index = r.index
  fresh : ∀ id ∈ report.added ++ report.updated, ∃ x ∈ r'.rules, x.routeId = id ∧
    x.revision = r'.revision
  /-- The same definitions change nothing when they come again, at any time at which none that is
  accepted has a life time. -/
  again : ∀ time,
    (∀ d ∈ declarations r.functions specs time, d.1.ttlSeconds = none) →
      (r'.reconcile specs time).1.hasChanges = false ∧
        (r'.reconcile specs time).2.index = r'.index
  /-- At a later time it is enough that none accepted now has one. -/
  againLater : ∀ time, Instant.inRange now.seconds = true → now.atOrBefore time = true →
    (∀ d ∈ declarations r.functions specs now, d.1.ttlSeconds = none) →
      (r'.reconcile specs time).1.hasChanges = false ∧
        (r'.reconcile specs time).2.index = r'.index

theorem isStale_iff : isStale specs x = true ↔
    x.source = .file ∧ x.routeId ∉ specs.map (·.routeId) := by
  unfold isStale
  rw [Bool.and_eq_true, beq_iff_eq, Bool.not_eq_true', ← Bool.not_eq_true, List.contains_iff_mem]

theorem reconcile_again (hdist : Distinct r.rules)
    (hlast : ∀ d ∈ declarations r.functions specs time, d.1.ttlSeconds = none) :
    ((r.reconcile specs now).2.reconcile specs time).1.hasChanges = false ∧
      ((r.reconcile specs now).2.reconcile specs time).2.index =
        (r.reconcile specs now).2.index := by
  have hp := reconcile_publishes hdist specs now
  have hdist' : Distinct (r.reconcile specs now).2.rules := hp.rules_eq ▸ distinct_reconciled hdist
  obtain ⟨hchange, -, hindex⟩ := reconcile_spec hdist' specs time
  have hno : ((r.reconcile specs now).2.reconcile specs time).1.hasChanges = false :=
    Bool.eq_false_iff.mpr fun h =>
      not_reconciles_again hdist hp.rules_eq hp.functions hlast (hchange.mp h)
  refine ⟨hno, ?_⟩
  rw [hindex, hno]
  rfl

/-- What is accepted at a later time has been accepted before. -/
theorem exists_mem_declarations_earlier (hnow : Instant.inRange now.seconds = true)
    (htime : now.atOrBefore time = true) (hd : d ∈ declarations fs specs time) :
    ∃ y, (d.1, y) ∈ declarations fs specs now := by
  obtain ⟨hfirst, hc⟩ := mem_compiled.mp hd
  obtain ⟨y, hy⟩ := Rule.compile_earlier hnow htime hc
  exact ⟨y, mem_compiled.mpr ⟨hfirst, hy⟩⟩

/-- Every added or updated declaration stands among the rules, under the revision published. -/
theorem exists_mem_of_reported {f : Fate} (hdist : Distinct r.rules) (hf : f.isChange = true)
    {id : String} (hid : id ∈ withFate (dispositions r now [] specs) f) :
    ∃ x ∈ r.reconciled specs now, x.routeId = id ∧ x.revision = r.revision + 1 := by
  rw [withFate_eq] at hid
  obtain ⟨d, hm, rfl⟩ := List.mem_map.mp hid
  obtain ⟨hd, hfate⟩ := List.mem_filter.mp hm
  rw [← of_decide_eq_true hfate] at hf
  have hm := withRevision_mem_merged (r.revision + 1) (distinct_survivors hdist specs)
    (declarations_distinct _ specs _) hd hf
  refine ⟨_, hm, ?_, rfl⟩
  rw [Rule.routeId_withRevision, declarations_routeId _ specs _ d hd]

/-- Reconciling any reachable registry with any definitions at any time has this effect. -/
theorem reconciliation_of_reachable (h : r.Reachable fs) (specs : List RuleSpec) (now : Instant) :
    Reconciliation r specs now (r.reconcile specs now).1 (r.reconcile specs now).2 := by
  have hdist : Distinct r.rules := h.coherent.distinct
  have hids := declarations_distinct r.functions specs now
  have hp := reconcile_publishes hdist specs now
  have hrules : (r.reconcile specs now).2.rules = r.reconciled specs now := hp.rules_eq
  have hreport := report_reconcile r specs now
  constructor
  case api =>
    have hapi : ∀ rules : List Rule, (rules.filter fun x => x.source = .api) =
        rules.filter fun x => !(x.source == .file) := by
      intro rules
      refine List.filter_congr fun x _ => ?_
      cases x.source <;> rfl
    rw [hrules, hapi, hapi]
    exact filter_api_reconciled
  case removed =>
    have hstale : r.rules.filter (isStale specs) =
        r.rules.filter fun x => x.source = .file ∧ x.routeId ∉ specs.map (·.routeId) := by
      refine List.filter_congr fun x _ => ?_
      rw [Bool.eq_iff_iff, isStale_iff, decide_eq_true_eq]
    rw [hreport, ← hstale]
  case order =>
    rw [hrules, hreport, withFate_eq]
    exact map_routeId_merged (declarations_routeId _ specs _) _
  case conflicting =>
    intro p x hx hapi
    rw [hrules, reconciled_getElem? hx, refresh_of_api hapi]
  case lastGood =>
    intro p x hx hno
    rw [hrules, reconciled_getElem? hx, refresh_of_ne hno]
  case same =>
    intro p x hx d hd hid hsame
    rw [hrules, reconciled_getElem? hx, refresh_of_mem hids hd hid, if_pos (.inr hsame)]
  case replaced =>
    intro p x hx hfile d hd hid hdiff
    rw [hrules, reconciled_getElem? hx, refresh_of_mem hids hd hid, hfile, hdiff]
    rfl
  case appended =>
    rw [hrules]
    exact drop_reconciled r specs now
  case accounted =>
    rw [hreport]
    exact ⟨rfl, rfl, rfl, rfl, rfl⟩
  case places => exact map_fst_dispositions r now [] specs
  case counted => exact length_eq_report r specs now
  case published => exact hp.revision_eq
  case untouched =>
    intro hno
    rw [hp.index, hno]
    rfl
  case fresh =>
    intro id hid
    -- A route that is reported has been brought in or replaced: its rule is of the new revision.
    have hexists : ∃ x ∈ r.reconciled specs now, x.routeId = id ∧ x.revision = r.revision + 1 := by
      rw [hreport] at hid
      rcases List.mem_append.mp hid with hid | hid
      · exact exists_mem_of_reported hdist rfl hid
      · exact exists_mem_of_reported hdist rfl hid
    have hchanged : (r.reconcile specs now).1.hasChanges = true := by
      refine eq_true_of_ne_false fun hno => ?_
      obtain ⟨ha, hu, -⟩ := hasChanges_eq_false.mp hno
      rw [ha, hu] at hid
      cases hid
    rw [hrules, hp.revision_eq, if_pos hchanged]
    exact hexists
  case again =>
    intro time hlast
    exact reconcile_again hdist hlast
  case againLater =>
    intro time hnow htime hlast
    refine reconcile_again hdist fun d hd => ?_
    -- What is accepted later was accepted before: only an expiry that has come can refuse it since.
    obtain ⟨y, hy⟩ := exists_mem_declarations_earlier hnow htime hd
    exact hlast (d.1, y) hy

/-- A definition for the events of a subject, without end. -/
def lastingSpec (id subject : String) : RuleSpec :=
  ⟨id, subject, .empty, none, [⟨"queue", "out", .empty⟩], none, none⟩

/-- One rule of the control plane and four of a file. -/
def deployed : Registry :=
  (((empty .empty).perform (.add (lastingSpec "a" "orders.>")) ⟨0, 0⟩).2.perform
    (.reconcile (["b", "c", "d", "e"].map fun id => lastingSpec id "orders.>")) ⟨1, 0⟩).2

/-- The file has lost one rule and gained another, declared twice; one definition is different and
another has no target. -/
def redeployment : List RuleSpec :=
  [lastingSpec "a" "orders.>", lastingSpec "b" "orders.>", lastingSpec "c" "orders.new",
    { lastingSpec "d" "orders.>" with targets := [] }, lastingSpec "f" "orders.>",
    lastingSpec "f" "orders.new"]

theorem reconciliation_of_redeployment :
    deployed.Reachable .empty ∧
    (deployed.reconcile redeployment ⟨2, 0⟩).1 = ⟨["f"], ["c"], ["e"], 1,
      [("d", .refused (.invalidRule "d" .noTargets)), ("f", .declaredTwice)], ["a"]⟩ ∧
    ((deployed.reconcile redeployment ⟨2, 0⟩).2.rules.map fun x => (x.routeId, x.revision)) =
      [("a", 1), ("b", 2), ("c", 3), ("d", 2), ("f", 3)] ∧
    (((deployed.reconcile redeployment ⟨2, 0⟩).2.reconcile redeployment ⟨3, 0⟩).1.hasChanges =
        false ∧
      ((deployed.reconcile redeployment ⟨2, 0⟩).2.reconcile redeployment ⟨3, 0⟩).2.index =
        (deployed.reconcile redeployment ⟨2, 0⟩).2.index) := by
  have hr : deployed.Reachable .empty := .step (.step .empty (.perform _ _)) (.perform _ _)
  have heffect := reconciliation_of_reachable hr redeployment ⟨2, 0⟩
  exact ⟨hr, by decide +kernel, by decide +kernel,
    heffect.again ⟨3, 0⟩ (by decide +kernel)⟩

end Registry

end Switchyard
