import Switchyard.Proofs.Registry.Tracking

/-!
# The statistics of a new rule

A rule that comes in under an identifier without statistics starts at zero, since a write can start
statistics and drop them but counts nothing for a route. A rule that has expired keeps its
statistics until it is swept out. A call that brings in a rule before that reports it as added, and
goes on with the statistics of the rule that has expired.

* `Counters.Edits`: what a write does to the counters; `Registry.edits_perform`.
* `Counters.IsFresh`: nothing has been counted for a route; `Counters.Edits.isFresh`.
* `Registry.ReportsAdded`: a call reports that a route has been added.
* `Registry.fresh_unless_outlived`: an added route starts at zero, unless a rule that has expired
  still has its identifier.
-/

namespace Switchyard

namespace Counters

variable {c d e : Counters} {id other : String}

/-- What a write does to the counters: it starts the statistics of routes, drops them, and counts
definitions that are refused. -/
inductive Edits (c : Counters) : Counters → Prop where
  | refl : Edits c c
  | track {d : Counters} (id : String) (h : Edits c d) : Edits c (d.track id)
  | forget {d : Counters} (id : String) (h : Edits c d) : Edits c (d.forget id)
  | refusing {d : Counters} (n : Nat) (h : Edits c d) : Edits c (d.refusing n)

theorem Edits.trans (hcd : c.Edits d) (hde : d.Edits e) : c.Edits e := by
  induction hde with
  | refl => exact hcd
  | track id _ ih => exact ih.track id
  | forget id _ ih => exact ih.forget id
  | refusing n _ ih => exact ih.refusing n

theorem edits_forgetAll (c : Counters) (gone : List Rule) :
    c.Edits (gone.foldl (fun c x => c.forget x.routeId) c) := by
  induction gone generalizing c with
  | nil => exact .refl
  | cons x gone ih => exact (Edits.refl.forget x.routeId).trans (ih _)

/-! ## The statistics of one route -/

theorem stats?_track_self : (c.track id).stats? id = some ((c.stats? id).getD .zero) := by
  unfold track Assoc.contains
  cases h : Assoc.find? id c.routes with
  | none => simp [stats?, h, Assoc.find?_insert_self]
  | some st => simp [stats?, h]

theorem stats?_forget_self : (c.forget id).stats? id = none := by
  rw [← Option.not_isSome_iff_eq_none, isSome_stats?, mem_tracked_forget]
  simp

/-- A route that is tracked already keeps the statistics that it has. -/
theorem stats?_track_of_tracked (h : id ∈ c.tracked) : (c.track id).stats? id = c.stats? id := by
  obtain ⟨st, hst⟩ := Option.isSome_iff_exists.mp (isSome_stats?.mpr h)
  rw [stats?_track_self, hst]
  rfl

/-- Nothing has been counted for a route. -/
def IsFresh (c : Counters) (id : String) : Prop := ∀ st, c.stats? id = some st → st = .zero

theorem isFresh_of_not_tracked (h : id ∉ c.tracked) : c.IsFresh id := by
  intro st hst
  exact absurd (isSome_stats?.mp (by rw [hst]; rfl)) h

theorem IsFresh.track (h : c.IsFresh id) (other : String) : (c.track other).IsFresh id := by
  intro st hst
  by_cases ho : id = other
  · subst ho
    rw [stats?_track_self, Option.some.injEq] at hst
    cases hc : c.stats? id with
    | none => simp [← hst, hc]
    | some st' => simp [← hst, hc, h st' hc]
  · rw [stats?_track_of_ne ho] at hst
    exact h st hst

theorem IsFresh.forget (h : c.IsFresh id) (other : String) : (c.forget other).IsFresh id := by
  intro st hst
  by_cases ho : id = other
  · subst ho
    rw [stats?_forget_self] at hst
    cases hst
  · rw [stats?_forget_of_ne ho] at hst
    exact h st hst

/-- A write counts nothing for a route. -/
theorem Edits.isFresh (hcd : c.Edits d) (h : c.IsFresh id) : d.IsFresh id := by
  induction hcd with
  | refl => exact h
  | track other _ ih => exact ih.track other
  | forget other _ ih => exact ih.forget other
  | refusing n _ ih => exact ih

theorem IsFresh.stats? (h : c.IsFresh id) (ht : id ∈ c.tracked) : c.stats? id = some .zero := by
  obtain ⟨st, hst⟩ := Option.isSome_iff_exists.mp (isSome_stats?.mpr ht)
  rw [hst, h st hst]

end Counters

namespace Registry

variable {fs : Filter.HostFunctions} {r : Registry} {now : Instant} {id : String} {w : Write}

open Counters

/-! ## What writes do to the counters -/

theorem edits_publish (r : Registry) (s : RuleSpec) (source : RuleSource) (mode : WriteMode)
    (now : Instant) : r.counters.Edits (r.publish s source mode now).2.counters := by
  cases hc : Rule.compile r.functions s source now with
  | error e =>
    rw [publish_of_error hc]
    exact .refusing 1 .refl
  | ok x =>
    rw [publish_of_ok hc]
    split
    · exact .refl
    · split
      · exact .refl
      · exact .track s.routeId .refl

theorem edits_keepOnly (r : Registry) (keep : Rule → Bool) :
    r.counters.Edits (r.keepOnly keep).counters := by
  unfold keepOnly
  dsimp only
  split
  · exact .refl
  · exact edits_forgetAll _ _

theorem edits_merge (revision : Nat) (ds : List (RuleSpec × Rule)) (m : Merging) :
    m.counters.Edits (ds.foldl (mergeOne revision) m).counters := by
  induction ds generalizing m with
  | nil => exact .refl
  | cons d ds ih =>
    refine Edits.trans ?_ (ih (mergeOne revision m d))
    rw [counters_mergeOne]
    split
    · exact .track d.1.routeId .refl
    · exact .refl

theorem edits_reconcile (r : Registry) (specs : List RuleSpec) (now : Instant) :
    r.counters.Edits (r.reconcile specs now).2.counters := by
  have hopening : r.counters.Edits (r.opening specs now).counters :=
    (Edits.refl.refusing _).trans (edits_forgetAll _ _)
  rw [reconcile_eq]
  exact hopening.trans (edits_merge (r.revision + 1) _ _)

/-- Every call, refused or not, only starts statistics, drops them and counts refusals. -/
theorem edits_perform (r : Registry) (w : Write) (now : Instant) :
    r.counters.Edits (r.perform w now).2.counters := by
  rcases cases_write w with ⟨mode, s, hw⟩ | ⟨id, hw⟩ | rfl | ⟨specs, rfl⟩
  · rw [perform_of_put hw]
    exact edits_publish r s .api mode now
  · rw [(perform_of_removes hw r now).2]
    exact edits_keepOnly r _
  · exact edits_keepOnly r _
  · exact edits_reconcile r specs now

/-! ## Calls that report a route as added -/

/-- A call reports that a route has been added, not replaced or updated. -/
inductive ReportsAdded (r : Registry) (now : Instant) : Write → String → Prop where
  | add {s : RuleSpec} {p : Published} (h : (r.add s now).1 = .ok p) :
      ReportsAdded r now (.add s) s.routeId
  | addOrReplace {s : RuleSpec} {p : Published} (h : (r.addOrReplace s now).1 = .ok p)
      (hnew : p.replaced = false) : ReportsAdded r now (.addOrReplace s) s.routeId
  | apply {c : RuleCommand} {id : String} {revision : Nat}
      (h : (r.apply c now).1 = .ok (.added id revision)) : ReportsAdded r now (.apply c) id
  | reconcile {specs : List RuleSpec} {id : String} (h : id ∈ (r.reconcile specs now).1.added) :
      ReportsAdded r now (.reconcile specs) id

/-- A definition is published under an identifier that was free. -/
def PublishesNew (r : Registry) (now : Instant) (mode : WriteMode) (s : RuleSpec) : Prop :=
  ∃ p, (r.publish s .api mode now).1 = .ok p ∧ p.replaced = false

theorem PublishesNew.isFree {mode : WriteMode} {s : RuleSpec} (h : r.PublishesNew now mode s) :
    isTaken r.rules s.routeId now = false ∧
      (r.publish s .api mode now).2.counters = r.counters.track s.routeId := by
  obtain ⟨p, hp, hnew⟩ := h
  cases hc : Rule.compile r.functions s .api now with
  | error e =>
    rw [publish_of_error hc] at hp
    cases hp
  | ok x =>
    rw [publish_of_ok hc] at hp ⊢
    split at hp
    · cases hp
    · next hadd =>
      rw [if_neg hadd]
      split at hp
      · cases hp
      · next hupdate =>
        cases hp
        rw [if_neg hupdate]
        exact ⟨hnew, rfl⟩

/-- An addition never takes the place of a rule in force. -/
theorem not_replaced_of_add {s : RuleSpec} {source : RuleSource} {p : Published}
    (h : (r.publish s source .add now).1 = .ok p) : p.replaced = false := by
  cases hc : Rule.compile r.functions s source now with
  | error e =>
    rw [publish_of_error hc] at h
    cases h
  | ok x =>
    rw [publish_of_ok hc] at h
    cases ht : isTaken r.rules s.routeId now with
    | true => simp [ht] at h
    | false =>
      simp only [ht] at h
      cases h
      rfl

/-- A route that is reported as added comes with a command for a free identifier, or is declared in
a file. -/
theorem ReportsAdded.cases (h : r.ReportsAdded now w id) :
    (∃ mode s, w.put? = some (mode, s) ∧ s.routeId = id ∧ r.PublishesNew now mode s) ∨
      ∃ specs, w = .reconcile specs ∧ id ∈ (r.reconcile specs now).1.added := by
  cases h with
  | add h => exact .inl ⟨.add, _, rfl, rfl, _, h, not_replaced_of_add h⟩
  | addOrReplace h hnew => exact .inl ⟨.upsert, _, rfl, rfl, _, h, hnew⟩
  | reconcile h => exact .inr ⟨_, rfl, h⟩
  | @apply c id revision h =>
    left
    -- Of the commands only an addition is reported so, and only if it has replaced nothing.
    cases c with
    | remove id =>
      unfold Registry.apply at h
      dsimp only at h
      split at h <;> cases h
    | update s =>
      unfold Registry.apply at h
      cases hp : (r.update s now).1 with
      | error e => simp [hp, Except.map] at h
      | ok p => simp [hp, Except.map] at h
    | add s replace =>
      unfold Registry.apply at h
      cases hp : (r.publish s .api (if replace then .upsert else .add) now).1 with
      | error e => simp [hp, Except.map] at h
      | ok p =>
        have hput : (Write.apply (.add s replace)).put? =
            some (if replace then .upsert else .add, s) := by
          cases replace <;> rfl
        cases hnew : p.replaced with
        | true => simp [hp, hnew, Except.map] at h
        | false =>
          simp only [hp, hnew, Except.map, Except.ok.injEq] at h
          cases h
          exact ⟨_, s, hput, rfl, p, hp, hnew⟩

/-- An identifier that a file adds was that of no rule, expired or not. -/
theorem routeId_ne_of_mem_added {specs : List RuleSpec}
    (h : id ∈ (r.reconcile specs now).1.added) : ∀ x ∈ r.rules, x.routeId ≠ id := by
  rw [report_reconcile, withFate_eq] at h
  obtain ⟨d, hd, rfl⟩ := List.mem_map.mp h
  obtain ⟨hd, hf⟩ := List.mem_filter.mp hd
  have hf := of_decide_eq_true hf
  rw [fate_survivors (mem_specs_of_mem_declarations hd)] at hf
  exact fate_eq_added.mp hf

/-- Its rule is there afterwards. -/
theorem ReportsAdded.exists_rule (hd : Distinct r.rules) (h : r.ReportsAdded now w id) :
    ∃ x ∈ (r.perform w now).2.rules, x.routeId = id := by
  rcases h.cases with ⟨mode, s, hw, rfl, p, hp, -⟩ | ⟨specs, rfl, hadded⟩
  · rcases put_publishes r hw now with ⟨-, hreply⟩ | ⟨x, hc, hpub, -⟩
    · rw [perform_of_put hw, hp] at hreply
      cases hreply
    · refine ⟨_, hpub.rules_eq ▸ mem_place_self hd _ now, ?_⟩
      rw [Rule.routeId_withRevision, Rule.routeId_of_compile hc]
  · rw [report_reconcile] at hadded
    obtain ⟨x, hx, hid, -⟩ := exists_mem_of_reported (f := .added) hd rfl hadded
    exact ⟨x, rules_perform_reconcile hd specs now ▸ hx, hid⟩

/-- No rule in force had its identifier. -/
theorem ReportsAdded.not_inForce (hd : Distinct r.rules) (h : r.ReportsAdded now w id) :
    ¬InForce r.rules id now := by
  rcases h.cases with ⟨mode, s, -, rfl, hnew⟩ | ⟨specs, -, hadded⟩
  · exact (isTaken_eq_false_iff hd).mp hnew.isFree.1
  · rintro ⟨x, hx, hid, -⟩
    exact routeId_ne_of_mem_added hadded x hx hid

/-- A route whose identifier was that of no rule starts at zero. -/
theorem stats?_of_new (hd : Distinct r.rules) (ht : r.counters.Tracks r.rules)
    (h : r.ReportsAdded now w id) (hno : ∀ x ∈ r.rules, x.routeId ≠ id) :
    (r.perform w now).2.counters.stats? id = some .zero := by
  have hfresh : r.counters.IsFresh id := by
    refine isFresh_of_not_tracked fun hid => ?_
    obtain ⟨x, hx, he⟩ := List.mem_map.mp ((ht id).mp hid)
    exact hno x hx he
  obtain ⟨x, hx, he⟩ := h.exists_rule hd
  have htracked : id ∈ (r.perform w now).2.counters.tracked :=
    (tracks_perform hd ht w now id).mpr (he ▸ List.mem_map_of_mem hx)
  exact ((edits_perform r w now).isFresh hfresh).stats? htracked

/-- A route whose identifier is that of a rule which has expired goes on with its statistics. -/
theorem stats?_of_outlived (ht : r.counters.Tracks r.rules) (h : r.ReportsAdded now w id)
    (hold : ∃ x ∈ r.rules, x.routeId = id) :
    (r.perform w now).2.counters.stats? id = r.counters.stats? id := by
  obtain ⟨x, hx, he⟩ := hold
  rcases h.cases with ⟨mode, s, hw, rfl, hnew⟩ | ⟨specs, -, hadded⟩
  · rw [perform_of_put hw]
    dsimp only
    rw [hnew.isFree.2]
    exact stats?_track_of_tracked ((ht _).mpr (he ▸ List.mem_map_of_mem hx))
  · exact absurd he (routeId_ne_of_mem_added hadded x hx)

/-! ## Any history -/

/-- Whatever has happened, a route that a call reports as added starts at zero if no rule had its
identifier, whoever had it before. The only rule that can still have it is one that has expired, and
then the route goes on with what has been counted for that rule. Routes that a file adds always
start at zero, and so does every route that is added after a sweep. -/
theorem fresh_unless_outlived {s : Session} (h : s.Reachable fs) (now : Instant) :
    (∀ w id, s.registry.ReportsAdded now w id →
      ((∀ x ∈ s.registry.rules, x.routeId ≠ id) →
        (s.registry.perform w now).2.counters.stats? id = some .zero) ∧
      ∀ x ∈ s.registry.rules, x.routeId = id → x.isExpired now = true ∧
        (s.registry.perform w now).2.counters.stats? id = s.registry.counters.stats? id) ∧
    (∀ specs, ∀ id ∈ (s.registry.reconcile specs now).1.added,
      (s.registry.reconcile specs now).2.counters.stats? id = some .zero) ∧
    ∀ w id, (s.registry.sweep now).2.ReportsAdded now w id →
      ((s.registry.sweep now).2.perform w now).2.counters.stats? id = some .zero := by
  have ⟨hc, ht⟩ := h.isTracked
  refine ⟨fun w id hw => ⟨stats?_of_new hc.distinct ht hw, fun x hx hid => ⟨?_, ?_⟩⟩,
    fun specs id hid => ?_, fun w id hw => ?_⟩
  · by_contra hlive
    exact hw.not_inForce hc.distinct ⟨x, hx, hid, Bool.eq_false_iff.mpr hlive⟩
  · exact stats?_of_outlived ht hw ⟨x, hx, hid⟩
  · exact stats?_of_new hc.distinct ht (.reconcile hid) (routeId_ne_of_mem_added hid)
  · have hswept : (s.next (s.registry.sweep now).2).Reachable fs :=
      h.step (.registry (.perform .sweep now))
    have ⟨hc', ht'⟩ := hswept.isTracked
    refine stats?_of_new hc'.distinct ht' hw fun x hx hid => ?_
    -- All rules that are left are in force.
    have hrules : (s.registry.sweep now).2.rules = _ := rules_perform_sweep s.registry now
    have hlive := (List.mem_filter.mp (hrules ▸ hx)).2
    rw [Bool.not_eq_true'] at hlive
    exact hw.not_inForce hc'.distinct ⟨x, hx, hid, hlive⟩

/-- A rule that ends at the fifth second. -/
def briefRoute : Registry := ((empty .empty).perform (.add (briefSpec "a" 5)) ⟨0, 0⟩).2

/-- It takes one event. -/
def usedRoute : Registry :=
  briefRoute.after
    (briefRoute.routeCancellable ⟨"e", "orders.new", .empty, .null, true⟩ .unlimited ⟨1, 0⟩
      fun _ => false).2

/-- The two of them, one after the other. -/
def used : Session := ((Session.start .empty).next briefRoute).next usedRoute

theorem reachable_used : used.Reachable .empty :=
  .step (.step .start (.registry (.perform _ _))) (.registry (.decide _ _ _ _))

/-- The rule is removed and added again. -/
theorem fresh_unless_outlived_removed :
    usedRoute.counters.stats? "a" = some ⟨1, 1, 0, some ⟨1, 0⟩⟩ ∧
    (used.next (usedRoute.perform (.remove "a") ⟨2, 0⟩).2).Reachable .empty ∧
    (usedRoute.perform (.remove "a") ⟨2, 0⟩).2.ReportsAdded ⟨3, 0⟩
      (.apply (.add (briefSpec "a" 90) false)) "a" ∧
    ((usedRoute.perform (.remove "a") ⟨2, 0⟩).2.perform
      (.apply (.add (briefSpec "a" 90) false)) ⟨3, 0⟩).2.counters.stats? "a" = some .zero := by
  have hr : (used.next (usedRoute.perform (.remove "a") ⟨2, 0⟩).2).Reachable .empty :=
    reachable_used.step (.registry (.perform _ _))
  have hresult : ((usedRoute.perform (.remove "a") ⟨2, 0⟩).2.apply
      (.add (briefSpec "a" 90) false) ⟨3, 0⟩).1.toOption = some (.added "a" 3) := by
    decide +kernel
  have hadded : (usedRoute.perform (.remove "a") ⟨2, 0⟩).2.ReportsAdded ⟨3, 0⟩
      (.apply (.add (briefSpec "a" 90) false)) "a" := .apply (toOption_eq_some.mp hresult)
  have hnone : (usedRoute.perform (.remove "a") ⟨2, 0⟩).2.rules.map Rule.routeId = [] := by
    decide +kernel
  refine ⟨by decide +kernel, hr, hadded, ((fresh_unless_outlived hr ⟨3, 0⟩).1 _ _ hadded).1 ?_⟩
  change ∀ x ∈ (usedRoute.perform (.remove "a") ⟨2, 0⟩).2.rules, _
  rw [List.map_eq_nil_iff.mp hnone]
  exact nofun

/-- A route that is reported as added goes on with the statistics of a rule that has expired and has
not been swept out. -/
theorem outlived_statistics :
    used.Reachable .empty ∧
    usedRoute.ReportsAdded ⟨9, 0⟩ (.apply (.add (briefSpec "a" 90) false)) "a" ∧
    (usedRoute.perform (.apply (.add (briefSpec "a" 90) false)) ⟨9, 0⟩).2.counters.stats? "a" =
      some ⟨1, 1, 0, some ⟨1, 0⟩⟩ := by
  have hresult : (usedRoute.apply (.add (briefSpec "a" 90) false) ⟨9, 0⟩).1.toOption =
      some (.added "a" 2) := by
    decide +kernel
  exact ⟨reachable_used, .apply (toOption_eq_some.mp hresult), by decide +kernel⟩

end Registry

end Switchyard
