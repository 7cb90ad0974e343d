import Switchyard.Proofs.Registry.FileRules

/-!
# Statistics and rules

The routes that have statistics are those of the rules in force. Calls that write keep it so by
tracking what they bring in and forgetting what they take out. Decisions count on the statistics
that are there and never make new ones, so one that still works on rules of an older snapshot does
no harm.

* `Counters.tracked`: the routes that have statistics.
* `Counters.Tracks`: they are the routes of a list of rules.
* `Registry.tracks_perform`: a call keeps it so, refused or not.
* `Registry.Session`: a registry with all the snapshots that somebody may still hold.
* `Registry.statistics_of_session`: what holds of every session.
-/

namespace Switchyard

namespace Assoc

variable {α : Type} {k l : String}

theorem isSome_find? {m : List (String × α)} :
    (find? k m).isSome = true ↔ k ∈ m.map (·.1) := by
  induction m with
  | nil => simp [find?]
  | cons p rest ih =>
    obtain ⟨n, v⟩ := p
    by_cases h : k = n <;> simp [find?, h, ih]

theorem mem_keys_insert {v : α} {m : List (String × α)} :
    k ∈ (insert l v m).map (·.1) ↔ k = l ∨ k ∈ m.map (·.1) := by
  rw [← isSome_find?, ← isSome_find?]
  by_cases h : k = l
  · subst h
    simp [find?_insert_self]
  · simp [find?_insert_of_ne h, h]

theorem mem_keys_erase {m : List (String × α)} :
    k ∈ (erase l m).map (·.1) ↔ k ≠ l ∧ k ∈ m.map (·.1) := by
  simp only [erase, List.mem_map, List.mem_filter, decide_eq_true_eq]
  constructor
  · rintro ⟨p, ⟨hp, hl⟩, rfl⟩
    exact ⟨hl, p, hp, rfl⟩
  · rintro ⟨hl, p, hp, rfl⟩
    exact ⟨p, ⟨hp, hl⟩, rfl⟩

theorem map_fst_modify (f : α → α) (m : List (String × α)) :
    (modify k f m).map (·.1) = m.map (·.1) := by
  unfold modify
  rw [List.map_map]
  refine List.map_congr_left fun p _ => ?_
  by_cases h : p.1 = k <;> simp [h]

end Assoc

/-! ## The tracked routes -/

/-- What a decision counts on behalf of a route. -/
inductive Note where
  | attempt
  | matched (now : Instant)
  | overrun
  | failure

namespace Counters

variable {c : Counters} {id other : String}

/-- The routes that have statistics. -/
def tracked (c : Counters) : List String := c.routes.map (·.1)

theorem isSome_stats? : (c.stats? id).isSome = true ↔ id ∈ c.tracked := Assoc.isSome_find?

theorem mem_tracked_track : id ∈ (c.track other).tracked ↔ id = other ∨ id ∈ c.tracked := by
  unfold track
  split
  · next h =>
    have ho : other ∈ c.tracked := Assoc.isSome_find?.mp h
    exact ⟨.inr, fun hid => hid.elim (fun he => he ▸ ho) fun hid => hid⟩
  · exact Assoc.mem_keys_insert

theorem mem_tracked_forget : id ∈ (c.forget other).tracked ↔ id ≠ other ∧ id ∈ c.tracked :=
  Assoc.mem_keys_erase

/-- Forgetting the routes of some rules leaves the others. -/
theorem mem_tracked_forgetAll {gone : List Rule} :
    id ∈ (gone.foldl (fun c x => c.forget x.routeId) c).tracked ↔
      id ∉ gone.map Rule.routeId ∧ id ∈ c.tracked := by
  induction gone generalizing c with
  | nil => simp
  | cons x gone ih =>
    rw [List.foldl_cons, ih, mem_tracked_forget, List.map_cons, List.mem_cons, not_or]
    exact ⟨fun ⟨hg, hx, hc⟩ => ⟨⟨hx, hg⟩, hc⟩, fun ⟨⟨hx, hg⟩, hc⟩ => ⟨hg, hx, hc⟩⟩

/-- What a decision counts, at any time, on behalf of any route. -/
def record (c : Counters) : Note → String → Counters
  | .attempt, id => c.matchAttempt id
  | .matched now, id => c.ruleMatched id now
  | .overrun, id => c.budgetExceeded id
  | .failure, id => c.evalError id

@[simp]
theorem tracked_total (f : Totals → Totals) : (c.total f).tracked = c.tracked := rfl

@[simp]
theorem tracked_note (f : RouteStats → RouteStats) : (c.note id f).tracked = c.tracked :=
  Assoc.map_fst_modify f c.routes

@[simp]
theorem tracked_record (n : Note) : (c.record n id).tracked = c.tracked := by
  cases n with
  | attempt => exact tracked_note _
  | matched now => exact tracked_note _
  | overrun => exact tracked_note _
  | failure => exact tracked_note _

/-- The routes that have statistics are those of the rules. -/
def Tracks (c : Counters) (rules : List Rule) : Prop :=
  ∀ id, id ∈ c.tracked ↔ id ∈ rules.map Rule.routeId

end Counters

open Counters

/-! ## Decisions -/

theorem Rule.tracked_count (x : Rule) (v : Filter.Verdict) (now : Instant) (c : Counters) :
    (x.count v now c).tracked = c.tracked := by
  have hattempt : (c.matchAttempt x.routeId).tracked = c.tracked := tracked_record .attempt
  unfold Rule.count
  match v with
  | .ok true => exact (tracked_record (.matched now)).trans hattempt
  | .ok false => exact hattempt
  | .error e =>
    dsimp only
    split
    · exact (tracked_record .overrun).trans hattempt
    · exact (tracked_record .failure).trans hattempt

/-- A decision, on whatever rules, starts no statistics and ends none. -/
theorem Decision.tracked_run (event : Event) (b : Filter.Budget) (now : Instant)
    (stop : Poll → Bool) (rules : List Rule) (d : Decision) :
    (Decision.run event b now stop rules d).counters.tracked = d.counters.tracked := by
  induction rules generalizing d with
  | nil => rfl
  | cons x rules ih =>
    unfold Decision.run
    split
    · rfl
    · rw [ih]
      dsimp only
      split
      · exact x.tracked_count _ now d.counters
      · rfl

namespace Registry

variable {fs : Filter.HostFunctions} {r r' : Registry} {now : Instant} {rules : List Rule}
  {revision : Nat} {c : Counters} {id : String}

theorem tracked_routeCancellable (r : Registry) (event : Event) (b : Filter.Budget) (now : Instant)
    (stop : Poll → Bool) :
    (r.routeCancellable event b now stop).2.counters.tracked = r.counters.tracked := by
  have hrun : (r.decide event b now stop).counters.tracked = r.counters.tracked :=
    Decision.tracked_run event b now stop _ _
  unfold routeCancellable
  dsimp only
  split
  · exact hrun
  · exact hrun

/-! ## Taking rules out and putting rules in -/

theorem tracks_filter (hd : Distinct rules) (h : c.Tracks rules) (gone : Rule → Bool) :
    Tracks ((rules.filter gone).foldl (fun c x => c.forget x.routeId) c)
      (rules.filter fun x => !gone x) := by
  intro id
  rw [mem_tracked_forgetAll, h id]
  constructor
  · rintro ⟨hgone, hid⟩
    obtain ⟨x, hx, rfl⟩ := List.mem_map.mp hid
    refine List.mem_map_of_mem (List.mem_filter.mpr ⟨hx, ?_⟩)
    rw [Bool.not_eq_true']
    exact Bool.eq_false_iff.mpr fun hg =>
      hgone (List.mem_map_of_mem (List.mem_filter.mpr ⟨hx, hg⟩))
  · intro hid
    obtain ⟨x, hx, rfl⟩ := List.mem_map.mp hid
    obtain ⟨hx, hkeep⟩ := List.mem_filter.mp hx
    refine ⟨fun hgone => ?_, List.mem_map_of_mem hx⟩
    -- A rule that goes has another identifier than one that stays.
    obtain ⟨y, hy, he⟩ := List.mem_map.mp hgone
    obtain ⟨hy, hg⟩ := List.mem_filter.mp hy
    rw [hd.eq hy hx he] at hg
    rw [hg] at hkeep
    cases hkeep

theorem tracks_keepOnly (hd : Distinct r.rules) (h : r.counters.Tracks r.rules)
    (keep : Rule → Bool) : (r.keepOnly keep).counters.Tracks (r.keepOnly keep).rules := by
  have hkept := tracks_filter hd h fun x => !keep x
  simp only [Bool.not_not] at hkept
  rw [(keepOnly_publishes r keep).rules_eq]
  unfold keepOnly
  dsimp only
  split
  · next hgone =>
    rw [List.isEmpty_iff.mp hgone] at hkept
    exact hkept
  · exact hkept

theorem mem_ids_place (rules : List Rule) (y : Rule) (now : Instant) (id : String) :
    id ∈ (place rules y now).map Rule.routeId ↔
      id = y.routeId ∨ id ∈ rules.map Rule.routeId := by
  unfold place
  split
  · next ht =>
    rw [isTaken, Option.any_eq_true] at ht
    obtain ⟨x, hx, -⟩ := ht
    obtain ⟨hx, he⟩ := routeId_of_holder? hx
    rw [map_routeId_replaced]
    exact ⟨.inr, fun hid => hid.elim (fun h => h ▸ he ▸ List.mem_map_of_mem hx) fun hid => hid⟩
  · by_cases he : id = y.routeId
    · simp [he]
    · have hne : ∀ x ∈ rules, x.routeId = id → x ∈ without rules y.routeId :=
        fun x hx hid => List.mem_filter.mpr ⟨hx, by simp [hid, he]⟩
      simp only [List.map_append, List.map_cons, List.map_nil, List.mem_append, List.mem_map,
        List.mem_singleton, he, or_false, false_or]
      exact ⟨fun ⟨x, hx, hid⟩ => ⟨x, (List.mem_filter.mp hx).1, hid⟩,
        fun ⟨x, hx, hid⟩ => ⟨x, hne x hx hid, hid⟩⟩

theorem rules_commit (r : Registry) (rules : List Rule) : (r.commit rules).rules = rules :=
  RuleIndex.rules_build _ _

theorem tracks_publish (h : r.counters.Tracks r.rules) (s : RuleSpec) (source : RuleSource)
    (mode : WriteMode) (now : Instant) :
    (r.publish s source mode now).2.counters.Tracks (r.publish s source mode now).2.rules := by
  cases hc : Rule.compile r.functions s source now with
  | error e =>
    rw [publish_of_error hc]
    exact h
  | ok x =>
    rw [publish_of_ok hc]
    split
    · exact h
    · split
      · exact h
      · intro id
        have hid : (x.withRevision (r.revision + 1)).routeId = s.routeId :=
          (Rule.routeId_withRevision _ _).trans (Rule.routeId_of_compile hc)
        have hplace := mem_ids_place r.rules (x.withRevision (r.revision + 1)) now id
        rw [hid] at hplace
        refine mem_tracked_track.trans ((or_congr_right (h id)).trans ?_)
        change _ ↔ id ∈ (r.commit _).rules.map Rule.routeId
        rw [rules_commit, hplace]

/-! ## Reconciling -/

theorem counters_mergeOne (m : Merging) (d : RuleSpec × Rule) :
    (mergeOne revision m d).counters =
      if (fate m.rules d.1).isChange then m.counters.track d.1.routeId else m.counters := by
  obtain ⟨s, rule⟩ := d
  unfold mergeOne fate
  dsimp only
  cases holder? m.rules s.routeId with
  | none => rfl
  | some x =>
    by_cases ha : x.source = .api
    · simp [ha, Fate.isChange]
    · by_cases hs : x.sameDefinition s <;> simp [ha, hs, Fate.isChange]

theorem tracks_mergeOne {m : Merging} {d : RuleSpec × Rule} (h : m.counters.Tracks m.rules)
    (hd : d.2.routeId = d.1.routeId) :
    (mergeOne revision m d).counters.Tracks (mergeOne revision m d).rules := by
  have hid : (d.2.withRevision revision).routeId = d.1.routeId :=
    (Rule.routeId_withRevision _ _).trans hd
  rw [counters_mergeOne, rules_mergeOne]
  cases hf : fate m.rules d.1 with
  | unchanged => exact h
  | conflict => exact h
  | added =>
    intro id
    refine mem_tracked_track.trans ?_
    rw [h id, List.map_append, List.mem_append, List.map_singleton, List.mem_singleton, hid,
      or_comm]
  | updated =>
    intro id
    refine mem_tracked_track.trans ?_
    rw [h id, map_routeId_replaced]
    -- The identifier is that of the rule that is replaced.
    obtain ⟨x, hx, he⟩ := exists_of_fate_ne_added fun ha => nomatch ha.symm.trans hf
    exact ⟨fun hid => hid.elim (fun h => h ▸ he ▸ List.mem_map_of_mem hx) fun hid => hid, .inr⟩

theorem tracks_merge (revision : Nat) {ds : List (RuleSpec × Rule)}
    (hds : ∀ d ∈ ds, d.2.routeId = d.1.routeId) {m : Merging} (h : m.counters.Tracks m.rules) :
    (ds.foldl (mergeOne revision) m).counters.Tracks (ds.foldl (mergeOne revision) m).rules := by
  induction ds generalizing m with
  | nil => exact h
  | cons d ds ih =>
    have ⟨hd, hds⟩ := List.forall_mem_cons.mp hds
    exact ih hds (tracks_mergeOne h hd)

theorem tracks_reconcile (hd : Distinct r.rules) (h : r.counters.Tracks r.rules)
    (specs : List RuleSpec) (now : Instant) :
    (r.reconcile specs now).2.counters.Tracks (r.reconcile specs now).2.rules := by
  have hrefused : (r.counters.refusing (refusals r.functions (firstDeclared [] specs) now)).Tracks
      r.rules := h
  have hopening : (r.opening specs now).counters.Tracks (r.opening specs now).rules :=
    tracks_filter hd hrefused (isStale specs)
  have hmerging : (r.merging specs now).counters.Tracks (r.merging specs now).rules :=
    tracks_merge (r.revision + 1) (declarations_routeId r.functions specs now) hopening
  rw [(reconcile_publishes hd specs now).rules_eq, reconcile_eq, ← rules_merging hd]
  exact hmerging

/-! ## Any step -/

/-- Every call, refused or not, leaves statistics for the rules and for nothing else. -/
theorem tracks_perform (hd : Distinct r.rules) (h : r.counters.Tracks r.rules) (w : Write)
    (now : Instant) : (r.perform w now).2.counters.Tracks (r.perform w now).2.rules := by
  rcases cases_write w with ⟨mode, s, hw⟩ | ⟨id, hw⟩ | rfl | ⟨specs, rfl⟩
  · rw [perform_of_put hw]
    exact tracks_publish h s .api mode now
  · rw [(perform_of_removes hw r now).2]
    exact tracks_keepOnly hd h _
  · exact tracks_keepOnly hd h _
  · exact tracks_reconcile hd h specs now

theorem tracks_step (hd : Distinct r.rules) (h : r.counters.Tracks r.rules) (hs : Step r r') :
    r'.counters.Tracks r'.rules := by
  cases hs with
  | perform w now => exact tracks_perform hd h w now
  | compile s source now =>
    rw [compile_eq]
    exact h
  | decide event b now stop =>
    intro id
    change id ∈ (r.routeCancellable event b now stop).2.counters.tracked ↔ _
    rw [tracked_routeCancellable]
    exact h id

/-! ## Snapshots that are still held -/

/-- A registry, with the snapshots of its rules that it has published. A decision works on the one
that was current when it began. -/
structure Session where
  registry : Registry
  /-- The snapshots so far, the current one first. -/
  snapshots : List RuleIndex

namespace Session

/-- The session after its registry has become another one. -/
def next (s : Session) (r : Registry) : Session := ⟨r, r.index :: s.snapshots⟩

/-- The session after something has been counted. -/
def counting (s : Session) (c : Counters) : Session :=
  { s with registry := { s.registry with counters := c } }

/-- A session in which no rule has been added. -/
def start (fs : Filter.HostFunctions) : Session := ⟨.empty fs, [.empty]⟩

/-- One step: a call or a decision on the current rules, or something that a decision on the rules
of any snapshot does late. -/
inductive Step (s : Session) : Session → Prop where
  | registry {r : Registry} (h : Registry.Step s.registry r) : Step s (s.next r)
  /-- A decision counts what it made of one of its rules. -/
  | note {snapshot : RuleIndex} (hs : snapshot ∈ s.snapshots) {x : Rule} (hx : x ∈ snapshot.rules)
      (n : Note) : Step s (s.counting (s.registry.counters.record n x.routeId))
  /-- A decision counts itself. -/
  | total (f : Totals → Totals) : Step s (s.counting (s.registry.counters.total f))
  /-- A decision as a whole, or up to where it is given up. -/
  | decide {snapshot : RuleIndex} (hs : snapshot ∈ s.snapshots) (event : Event)
      (b : Filter.Budget) (now : Instant) (stop : Poll → Bool) :
      Step s (s.counting (Decision.run event b now stop
        (snapshot.candidates event.subject).toList (.start s.registry.counters)).counters)

/-- The sessions that steps lead to. -/
inductive Reachable (fs : Filter.HostFunctions) : Session → Prop where
  | start : Reachable fs (start fs)
  | step {s s' : Session} (h : Reachable fs s) (hs : Step s s') : Reachable fs s'

/-- The invariant of sessions. -/
structure IsTracked (fs : Filter.HostFunctions) (s : Session) : Prop where
  coherent : s.registry.Coherent fs
  tracks : s.registry.counters.Tracks s.registry.rules

variable {s s' : Session}

/-- Counting keeps the invariant if no statistics are started or ended. -/
theorem IsTracked.counting (h : s.IsTracked fs) {c : Counters}
    (hc : c.tracked = s.registry.counters.tracked) : (s.counting c).IsTracked fs := by
  have ⟨hfunctions, hindexed, hdistinct, hrevisions, hcompiled⟩ := h.coherent
  refine ⟨⟨hfunctions, hindexed, hdistinct, hrevisions, hcompiled⟩, fun id => ?_⟩
  change id ∈ c.tracked ↔ _
  rw [hc]
  exact h.tracks id

theorem IsTracked.step (h : s.IsTracked fs) (hs : s.Step s') : s'.IsTracked fs := by
  cases hs with
  | registry hr => exact ⟨h.coherent.step hr, tracks_step h.coherent.distinct h.tracks hr⟩
  | note hs hx n => exact h.counting (tracked_record n)
  | total f => exact h.counting (tracked_total f)
  | decide hs event b now stop => exact h.counting (Decision.tracked_run event b now stop _ _)

/-- Whatever has happened, the invariant holds. -/
theorem Reachable.isTracked (h : s.Reachable fs) : s.IsTracked fs := by
  induction h with
  | start => exact ⟨coherent_empty fs, fun id => Iff.rfl⟩
  | step _ hs ih => exact ih.step hs

end Session

theorem Session.Reachable.isSome_stats? {s : Session} (h : s.Reachable fs) (id : String) :
    (s.registry.counters.stats? id).isSome = true ↔ ∃ x ∈ s.registry.rules, x.routeId = id := by
  rw [Counters.isSome_stats?, h.isTracked.tracks id, List.mem_map]

theorem Session.Reachable.stats?_eq_none {s : Session} (h : s.Reachable fs) {id : String}
    (hid : ∀ x ∈ s.registry.rules, x.routeId ≠ id) : s.registry.counters.stats? id = none := by
  rw [← Option.not_isSome_iff_eq_none, h.isSome_stats? id]
  exact fun ⟨x, hx, he⟩ => hid x hx he

/-- After any calls, refused ones included, any decisions, and anything that decisions on rules of
older snapshots count late, a route has statistics exactly if the registry has its rule. A late
count for a rule of any snapshot, or a late decision on it, starts no statistics for a route without
a rule. -/
theorem statistics_of_session {s : Session} (h : s.Reachable fs) :
    (∀ id, (s.registry.counters.stats? id).isSome = true ↔
      ∃ x ∈ s.registry.rules, x.routeId = id) ∧
    ∀ snapshot ∈ s.snapshots, ∀ id, (∀ y ∈ s.registry.rules, y.routeId ≠ id) →
      (∀ x ∈ snapshot.rules, ∀ n : Note,
        (s.registry.counters.record n x.routeId).stats? id = none) ∧
      ∀ (event : Event) (b : Filter.Budget) (now : Instant) (stop : Poll → Bool),
        (Decision.run event b now stop (snapshot.candidates event.subject).toList
          (.start s.registry.counters)).counters.stats? id = none := by
  refine ⟨h.isSome_stats?, fun snapshot hs id hid => ⟨fun x hx n => ?_, fun event b now stop => ?_⟩⟩
  · exact (h.step (.note hs hx n)).stats?_eq_none hid
  · exact (h.step (.decide hs event b now stop)).stats?_eq_none hid

/-- A registry with one rule. -/
def oneRoute : Registry := ((empty .empty).perform (.add (lastingSpec "a" ">")) ⟨0, 0⟩).2

/-- The rule has been removed, and its snapshot is still held. -/
def withdrawn : Session :=
  ((Session.start .empty).next oneRoute).next (oneRoute.perform (.remove "a") ⟨1, 0⟩).2

theorem statistics_of_session_withdrawn :
    withdrawn.Reachable .empty ∧ oneRoute.index ∈ withdrawn.snapshots ∧
      (oneRoute.counters.stats? "a").isSome = true ∧
      ∃ x ∈ oneRoute.index.rules, x.routeId = "a" ∧
        ∀ n : Note, (withdrawn.registry.counters.record n x.routeId).stats? "a" = none := by
  have hr : withdrawn.Reachable .empty :=
    .step (.step .start (.registry (.perform _ _))) (.registry (.perform _ _))
  have hs : oneRoute.index ∈ withdrawn.snapshots := List.mem_cons_of_mem _ List.mem_cons_self
  have hone : oneRoute.index.rules.map Rule.routeId = ["a"] := by decide +kernel
  have hnone : withdrawn.registry.rules.map Rule.routeId = [] := by decide +kernel
  obtain ⟨x, hx, hid⟩ := List.mem_map.mp (hone ▸ List.mem_cons_self : "a" ∈ _)
  have hgone : ∀ y ∈ withdrawn.registry.rules, y.routeId ≠ "a" := by
    rw [List.map_eq_nil_iff.mp hnone]
    exact nofun
  obtain ⟨hlate, -⟩ := (statistics_of_session hr).2 oneRoute.index hs "a" hgone
  exact ⟨hr, hs, by decide +kernel, x, hx, hid, hlate x hx⟩

end Registry

end Switchyard
