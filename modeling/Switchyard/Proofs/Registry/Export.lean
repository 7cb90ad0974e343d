import Switchyard.Proofs.Registry.OrderedMap
import Switchyard.Proofs.Routing.FullScan

/-!
# What is exported can be added again

The definition that a rule keeps is complete: its life time has become an expiry, and at any later
time it compiles to the same rule. So the definitions of the rules in force, added in order to a
registry without rules, make the same rules in the same order.

* `Rule.IsCompiled.recompile`: the definition of a rule compiles to that rule.
* `Registry.addAll`: additions one after the other; `Registry.addAll_spec`: if the identifiers are
  free, each of them succeeds and the rules come in their order.
* `Registry.route_targets`: the targets of an event are read off the rules one by one.
* `Registry.export_restores`: the registry that an export is added to.
-/

namespace Switchyard

namespace Rule

variable {fs : Filter.HostFunctions} {s : RuleSpec} {x : Rule}

/-- When the plain parts of a definition are without fault. -/
theorem fault?_eq_none : fault? s = none ↔
    s.routeId ≠ "" ∧
    ¬(maxRouteIdLength < Text.byteLength s.routeId.toList || s.routeId.toList.any Text.isBlank) ∧
    ¬s.targets.isEmpty ∧ ¬(!s.filter.isEmpty && s.filterExpr.isSome) ∧
    ¬(s.expiresAt.isSome && s.ttlSeconds.isSome) := by
  have hite : ∀ (p : Prop) [Decidable p] (f : RuleFault) (o : Option RuleFault),
      (if p then some f else o) = none ↔ ¬p ∧ o = none := by
    intro p _ f o
    by_cases h : p <;> simp [h]
  unfold fault?
  simp only [hite, ne_eq, and_true]

/-- A definition without fault has none when its end is a point in time. -/
theorem fault?_expiring (h : fault? s = none) (expiresAt : Option Instant) :
    fault? { s with expiresAt, ttlSeconds := none } = none := by
  obtain ⟨hid, hlong, htargets, hfilters, -⟩ := fault?_eq_none.mp h
  exact fault?_eq_none.mpr ⟨hid, hlong, htargets, hfilters, by simp⟩

/-- The definition that a rule keeps has no life time in it. -/
theorem IsCompiled.ttlSeconds (h : x.IsCompiled fs) : x.spec.ttlSeconds = none := by
  obtain ⟨s, source, now, y, revision, hy, rfl⟩ := h
  obtain ⟨-, _, _, _, spec, -, -, -, hs, rfl⟩ := compile_eq_ok.mp hy
  obtain ⟨_, rfl⟩ := resolveTtl?_eq_some hs
  rfl

/-- The definition that a rule keeps compiles at any time, and to the same rule. -/
theorem IsCompiled.recompile (h : x.IsCompiled fs) (source : RuleSource) (now : Instant) :
    compile fs x.spec source now = .ok { x with source, revision := 0 } := by
  obtain ⟨s, source', now', y, revision, hy, rfl⟩ := h
  obtain ⟨hfault, pattern, filter, targets, spec, hp, hf, ht, hs, rfl⟩ := compile_eq_ok.mp hy
  obtain ⟨expiresAt, rfl⟩ := resolveTtl?_eq_some hs
  exact compile_eq_ok.mpr
    ⟨fault?_expiring hfault expiresAt, pattern, filter, targets, _, hp, hf, ht, rfl, rfl⟩

/-- What a rule sends out for an event. -/
def sends (event : Event) (b : Filter.Budget) (now : Instant) (x : Rule) : List ForwardTarget :=
  if x.takes event b now then x.expand event else []

end Rule

namespace Registry

variable {fs : Filter.HostFunctions} {r : Registry} {now : Instant}

/-! ## Adding definitions -/

/-- Adds definitions one after the other. -/
def addAll (now : Instant) : List RuleSpec → Registry →
    List (Except RegistryError Published) × Registry
  | [], r => ([], r)
  | s :: specs, r =>
    let (result, r) := r.add s now
    let (results, r) := addAll now specs r
    (result :: results, r)

/-- Rules as they are when they are added in order, the first one at the revision `n`. -/
def republished : Nat → List Rule → List Rule
  | _, [] => []
  | n, x :: xs => { x with source := .api, revision := n } :: republished (n + 1) xs

/-- What does not look at the source and the revision of a rule is the same after republishing. -/
theorem map_republished {α : Type} (f : Rule → α)
    (hf : ∀ x source revision, f { x with source, revision } = f x) (n : Nat) (xs : List Rule) :
    (republished n xs).map f = xs.map f := by
  induction xs generalizing n with
  | nil => rfl
  | cons x xs ih => rw [republished, List.map_cons, List.map_cons, ih, hf]

/-- A definition whose identifier no rule has is added at the end. -/
theorem add_of_free {s : RuleSpec} {x : Rule} (hc : Rule.compile r.functions s .api now = .ok x)
    (hfree : ∀ y ∈ r.rules, y.routeId ≠ s.routeId) : ∃ counters,
      r.add s now = (.ok ⟨r.revision + 1, false⟩,
        { r.commit (r.rules ++ [x.withRevision (r.revision + 1)]) with counters }) := by
  have hnone : holder? r.rules s.routeId = none := holder?_eq_none.mpr hfree
  have htaken : isTaken r.rules s.routeId now = false := by rw [isTaken, hnone]; rfl
  have hx : (x.withRevision (r.revision + 1)).routeId = s.routeId := by
    rw [Rule.routeId_withRevision, Rule.routeId_of_compile hc]
  have hwithout : without r.rules s.routeId = r.rules :=
    List.filter_eq_self.mpr fun y hy => bne_iff_ne.mpr (hfree y hy)
  have hplace : place r.rules (x.withRevision (r.revision + 1)) now =
      r.rules ++ [x.withRevision (r.revision + 1)] := by
    rw [place, hx, htaken, hwithout]
    rfl
  rw [add, publish_of_ok hc, htaken, hplace]
  exact ⟨_, rfl⟩

/-- The definitions of rules with identifiers of their own are added one behind the other. -/
theorem addAll_spec {xs : List Rule} (hxs : ∀ x ∈ xs, x.IsCompiled r.functions)
    (hids : Distinct (r.rules ++ xs)) :
    (addAll now (xs.map (·.spec)) r).1 =
        (List.range' (r.revision + 1) xs.length).map (fun n => .ok ⟨n, false⟩) ∧
      (addAll now (xs.map (·.spec)) r).2.rules = r.rules ++ republished (r.revision + 1) xs := by
  induction xs generalizing r with
  | nil => exact ⟨rfl, (List.append_nil _).symm⟩
  | cons x xs ih =>
    obtain ⟨hx, hxs⟩ := List.forall_mem_cons.mp hxs
    have hfree : ∀ y ∈ r.rules, y.routeId ≠ x.spec.routeId := by
      unfold Distinct at hids
      rw [List.map_append, List.nodup_append] at hids
      exact fun y hy => hids.2.2 _ (List.mem_map_of_mem hy) _ List.mem_cons_self
    obtain ⟨counters, hadd⟩ := add_of_free (hx.recompile .api now) hfree
    have hrules : (r.add x.spec now).2.rules =
        r.rules ++ [{ x with source := .api, revision := r.revision + 1 }] := by
      rw [hadd]
      exact RuleIndex.rules_build _ _
    have hrev : (r.add x.spec now).2.revision = r.revision + 1 := by
      rw [hadd]
      exact RuleIndex.revision_build _ _
    have hfs : (r.add x.spec now).2.functions = r.functions := by rw [hadd]; rfl
    -- The new rule goes behind the others, so the rest still have identifiers of their own.
    have hids' : Distinct ((r.add x.spec now).2.rules ++ xs) := by
      rw [hrules]
      unfold Distinct at hids ⊢
      simpa [Rule.routeId] using hids
    obtain ⟨hres, hall⟩ := ih (hfs ▸ hxs) hids'
    rw [hrev] at hres hall
    rw [hrules] at hall
    refine ⟨?_, ?_⟩
    · rw [List.map_cons, addAll, List.length_cons, List.range'_succ, List.map_cons]
      dsimp only
      rw [hres, hadd]
    · rw [List.map_cons, addAll, republished]
      dsimp only
      rw [hall, List.append_assoc, List.singleton_append]

theorem reachable_addAll (specs : List RuleSpec) (h : r.Reachable fs) :
    (addAll now specs r).2.Reachable fs := by
  induction specs generalizing r with
  | nil => exact h
  | cons s specs ih => exact ih (h.step (.perform (.add s) now))

/-! ## Routing -/

/-- The targets of an event are what the rules send out, one after the other. -/
theorem route_targets (h : r.Reachable fs) (event : Event) (b : Filter.Budget) (now : Instant) :
    (r.route event b now).1 = r.rules.flatMap (Rule.sends event b now) := by
  have hroute : (r.route event b now).1 =
      (r.matchEvent event b now).1.matched.flatMap (·.targets) := rfl
  have hone : (fun x => (x.contribution event b now).flatMap (·.targets)) =
      Rule.sends event b now := by
    funext x
    unfold Rule.contribution Rule.sends
    cases x.takes event b now <;> simp
  rw [hroute, matched_eq h.coherent.indexed, List.flatMap_assoc, hone]

/-! ## Export -/

/-- The rules in force. -/
def live (r : Registry) (now : Instant) : List Rule := r.rules.filter fun x => !x.isExpired now

theorem rules_restored (h : r.Reachable fs) (now : Instant) :
    (addAll now (r.exported now) (.empty fs)).1 =
        (List.range' 1 (r.live now).length).map (fun n => .ok ⟨n, false⟩) ∧
      (addAll now (r.exported now) (.empty fs)).2.rules = republished 1 (r.live now) :=
  addAll_spec (r := .empty fs) (fun x hx => h.coherent.compiled x (List.mem_filter.mp hx).1)
    (h.coherent.distinct.filter _)

/-- The definitions that a reachable registry exports, added in order at the same time to a registry
without rules and with the same host functions, are all accepted. The registry that they make has
the rules in force of the first one, in their order, exports the same definitions, and sends every
event, whenever and under whatever budget, where the first one does after its expired rules have
been swept out. -/
theorem export_restores (h : r.Reachable fs) (now : Instant) :
    (∀ s ∈ r.exported now, s.ttlSeconds = none) ∧
    (addAll now (r.exported now) (.empty fs)).1.length = (r.exported now).length ∧
    (∀ result ∈ (addAll now (r.exported now) (.empty fs)).1, ∃ p, result = .ok p) ∧
    ((addAll now (r.exported now) (.empty fs)).2.rules.map fun x =>
        (x.routeId, x.pattern, x.filter, x.targets, x.expiresAt)) =
      ((r.rules.filter fun x => !x.isExpired now).map fun x =>
        (x.routeId, x.pattern, x.filter, x.targets, x.expiresAt)) ∧
    (addAll now (r.exported now) (.empty fs)).2.exported now = r.exported now ∧
    ∀ (event : Event) (b : Filter.Budget) (time : Instant),
      ((addAll now (r.exported now) (.empty fs)).2.route event b time).1 =
        ((r.sweep now).2.route event b time).1 := by
  obtain ⟨hresults, hrules⟩ := rules_restored h now
  have hexported : (addAll now (r.exported now) (.empty fs)).2.exported now = r.exported now := by
    -- The rules that have been added again end when those did, so none of them has expired either.
    have hlive : ((republished 1 (r.live now)).filter fun x => !x.isExpired now) =
        republished 1 (r.live now) := by
      refine List.filter_eq_self.mpr fun x hx => ?_
      have hm := List.mem_map_of_mem (f := fun x => !x.isExpired now) hx
      rw [map_republished (fun x => !x.isExpired now) fun _ _ _ => rfl] at hm
      obtain ⟨y, hy, he⟩ := List.mem_map.mp hm
      rw [← he]
      exact (List.mem_filter.mp hy).2
    rw [exported, hrules, hlive, map_republished (·.spec) fun _ _ _ => rfl]
    rfl
  refine ⟨fun s hs => ?_, ?_, fun result hresult => ?_, ?_, hexported, fun event b time => ?_⟩
  · obtain ⟨x, hx, rfl⟩ := List.mem_map.mp hs
    exact (h.coherent.compiled x (List.mem_filter.mp hx).1).ttlSeconds
  · rw [hresults, List.length_map, List.length_range', exported, List.length_map]
    rfl
  · rw [hresults] at hresult
    obtain ⟨n, -, rfl⟩ := List.mem_map.mp hresult
    exact ⟨_, rfl⟩
  · rw [hrules]
    exact map_republished _ (fun _ _ _ => rfl) 1 _
  · have hswept : (r.sweep now).2.Reachable fs := h.step (.perform .sweep now)
    have hsent := map_republished (Rule.sends event b time) (fun _ _ _ => rfl) 1 (r.live now)
    rw [route_targets (reachable_addAll _ .empty), route_targets hswept, hrules,
      (sweep_publishes r now).rules_eq, List.flatMap_def, List.flatMap_def, hsent]
    rfl

/-- One rule with a life time, one that has expired and one that is for all events. -/
def mixedLives : Registry :=
  ((((empty .empty).perform (.add { briefSpec "a" 0 with expiresAt := none, ttlSeconds := some 60 })
    ⟨5, 0⟩).2.perform (.add (briefSpec "b" 9)) ⟨6, 0⟩).2.perform
    (.reconcile [{ briefSpec "c" 0 with expiresAt := none }]) ⟨7, 0⟩).2

theorem export_restores_mixed :
    mixedLives.Reachable .empty ∧
    mixedLives.rules.map Rule.routeId = ["a", "b", "c"] ∧
    (addAll ⟨10, 0⟩ (mixedLives.exported ⟨10, 0⟩) (.empty .empty)).2.rules.map
        (fun x => (x.routeId, x.expiresAt)) = [("a", some ⟨65, 0⟩), ("c", none)] ∧
    (addAll ⟨10, 0⟩ (mixedLives.exported ⟨10, 0⟩) (.empty .empty)).2.exported ⟨10, 0⟩ =
      mixedLives.exported ⟨10, 0⟩ := by
  have hr : mixedLives.Reachable .empty :=
    .step (.step (.step .empty (.perform _ _)) (.perform _ _)) (.perform _ _)
  obtain ⟨-, -, -, -, hexported, -⟩ := export_restores hr ⟨10, 0⟩
  exact ⟨hr, by decide +kernel, by decide +kernel, hexported⟩

end Registry

end Switchyard
