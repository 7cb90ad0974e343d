import Mathlib
import Switchyard.Proofs.Registry.Statistics
import Switchyard.Proofs.Routing.FullScan

/-!
# The counters balance

A decision that comes to its end counts every rule of the list as what it was for the event: one
whose pattern fits, one that takes the event, one whose filter goes over its limits or fails; in the
totals and, if the route of the rule is tracked, in its statistics. One that is given up has counted
the rules before that. Writes count nothing for events, and only start statistics at zero or drop
them, so the statistics of the routes never exceed the totals.

* `Counters.trying`: what trying rules adds to the totals and to the statistics of each route.
* `Decision.counted_run`: a decision tries all rules, or some of them and is given up.
* `Counters.IsBalanced`: the invariant of the counters; `Registry.Reachable.isBalanced`.
* `Registry.Accounts`, `Registry.accounts_of_reachable`: what is counted, and the balance.
-/

namespace Switchyard

namespace Assoc

variable {α : Type} {k : String} {v : α} {m : List (String × α)}

theorem mem_of_find? (h : find? k m = some v) : (k, v) ∈ m := by
  induction m with
  | nil => cases h
  | cons p rest ih =>
    obtain ⟨l, w⟩ := p
    unfold find? at h
    split at h
    · next hk =>
      cases h
      rw [hk]
      exact List.mem_cons_self
    · exact List.mem_cons_of_mem _ (ih h)

theorem find?_map_value (f : String → α → α) (k : String) (m : List (String × α)) :
    find? k (m.map fun p => (p.1, f p.1 p.2)) = (find? k m).map (f k) := by
  induction m with
  | nil => rfl
  | cons p rest ih =>
    obtain ⟨l, w⟩ := p
    rw [List.map_cons]
    unfold find?
    split
    · next hk => rw [hk, Option.map_some]
    · exact ih

theorem modify_modify (f g : α → α) : modify k f (modify k g m) = modify k (f ∘ g) m := by
  unfold modify
  rw [List.map_map]
  refine List.map_congr_left fun p _ => ?_
  by_cases h : p.1 = k <;> simp [h]

theorem modify_of_not_mem (f : α → α) (h : k ∉ m.map (·.1)) : modify k f m = m := by
  unfold modify
  refine (List.map_congr_left fun p hp => ?_).trans (List.map_id m)
  have hk : p.1 ≠ k := by
    rintro rfl
    exact h (List.mem_map_of_mem hp)
  simp [hk]

/-- A change of one value by at most one changes a sum over distinct keys by at most one. -/
theorem sum_modify_le (hm : (m.map (·.1)).Nodup) {f : α → α} {size : α → Nat}
    (hf : ∀ w, size (f w) ≤ size w + 1) :
    ((modify k f m).map fun p => size p.2).sum ≤ (m.map fun p => size p.2).sum + 1 := by
  induction m with
  | nil => simp [modify]
  | cons p rest ih =>
    obtain ⟨l, w⟩ := p
    rw [List.map_cons, List.nodup_cons] at hm
    by_cases h : l = k
    · subst h
      have hrest : modify l f ((l, w) :: rest) = (l, f w) :: modify l f rest := by simp [modify]
      rw [hrest, modify_of_not_mem f hm.1]
      have := hf w
      simp only [List.map_cons, List.sum_cons]
      omega
    · have hrest : modify k f ((l, w) :: rest) = (l, w) :: modify k f rest := by simp [modify, h]
      rw [hrest]
      have := ih hm.2
      simp only [List.map_cons, List.sum_cons]
      omega

end Assoc

variable {event : Event} {b : Filter.Budget} {now : Instant}

/-! ## What one rule adds -/

namespace Rule

/-- Whether the filter of a rule for the subject goes over its budget or its time. -/
def overruns (event : Event) (b : Filter.Budget) (now : Instant) (x : Rule) : Bool :=
  x.pattern.accepts event.subject &&
    match (x.filter.evaluate event b now).1 with
    | .ok _ => false
    | .error e => e.isOverrun

/-- Whether the filter of a rule for the subject has another error. -/
def fails (event : Event) (b : Filter.Budget) (now : Instant) (x : Rule) : Bool :=
  x.pattern.accepts event.subject &&
    match (x.filter.evaluate event b now).1 with
    | .ok _ => false
    | .error e => !e.isOverrun

end Rule

/-- What trying rules, one after the other, adds to the totals. -/
def Totals.trying (t : Totals) (event : Event) (b : Filter.Budget) (now : Instant)
    (rules : List Rule) : Totals :=
  { t with
    matchAttempts := t.matchAttempts + rules.countP fun x => x.pattern.accepts event.subject
    rulesMatched := t.rulesMatched + rules.countP (Rule.takes event b now)
    budgetExceeded := t.budgetExceeded + rules.countP (Rule.overruns event b now)
    evalErrors := t.evalErrors + rules.countP (Rule.fails event b now) }

/-- What trying its rules adds to the statistics of a route. -/
def RouteStats.trying (s : RouteStats) (event : Event) (b : Filter.Budget) (now : Instant)
    (rules : List Rule) : RouteStats where
  attempts := s.attempts + rules.countP fun x => x.pattern.accepts event.subject
  matched := s.matched + rules.countP (Rule.takes event b now)
  errors := s.errors + rules.countP fun x => x.overruns event b now || x.fails event b now
  lastMatched := if rules.any (Rule.takes event b now) then some now else s.lastMatched

/-- What trying rules adds to the counters. A route that is tracked has its rules counted. -/
def Counters.trying (c : Counters) (event : Event) (b : Filter.Budget) (now : Instant)
    (rules : List Rule) : Counters where
  totals := c.totals.trying event b now rules
  routes := c.routes.map fun p =>
    (p.1, p.2.trying event b now (rules.filter fun x => x.routeId = p.1))

/-- What the verdict of a filter adds to the totals. -/
def Totals.judging (t : Totals) : Filter.Verdict → Totals
  | .ok true =>
    { t with matchAttempts := t.matchAttempts + 1, rulesMatched := t.rulesMatched + 1 }
  | .ok false => { t with matchAttempts := t.matchAttempts + 1 }
  | .error e =>
    if e.isOverrun then
      { t with matchAttempts := t.matchAttempts + 1, budgetExceeded := t.budgetExceeded + 1 }
    else { t with matchAttempts := t.matchAttempts + 1, evalErrors := t.evalErrors + 1 }

/-- What the verdict of a filter adds to the statistics of its route. -/
def RouteStats.judging (now : Instant) (s : RouteStats) : Filter.Verdict → RouteStats
  | .ok true => ⟨s.attempts + 1, s.matched + 1, s.errors, some now⟩
  | .ok false => { s with attempts := s.attempts + 1 }
  | .error _ => { s with attempts := s.attempts + 1, errors := s.errors + 1 }

namespace Totals

theorem matchAttempts_judging (t : Totals) (v : Filter.Verdict) :
    (t.judging v).matchAttempts = t.matchAttempts + 1 := by
  unfold judging
  split
  · rfl
  · rfl
  · split <;> rfl

/-- No filter comes to two things. -/
theorem settled_judging {t : Totals}
    (h : t.rulesMatched + t.budgetExceeded + t.evalErrors ≤ t.matchAttempts)
    (v : Filter.Verdict) : (t.judging v).rulesMatched + (t.judging v).budgetExceeded +
      (t.judging v).evalErrors ≤ (t.judging v).matchAttempts := by
  unfold judging
  split
  · dsimp only
    omega
  · dsimp only
    omega
  · split <;> dsimp only <;> omega

/-- A rule adds what its filter comes to, if its pattern accepts the subject. -/
theorem trying_cons (t : Totals) (x : Rule) (rules : List Rule) :
    t.trying event b now (x :: rules) =
      Totals.trying (if x.pattern.accepts event.subject then
        t.judging (x.filter.evaluate event b now).1 else t) event b now rules := by
  unfold trying
  cases ha : x.pattern.accepts event.subject with
  | false => simp [Rule.takes, Rule.overruns, Rule.fails, ha]
  | true =>
    unfold judging
    simp only [List.countP_cons, Rule.takes, Rule.overruns, Rule.fails, ha, Bool.true_and]
    cases (x.filter.evaluate event b now).1 with
    | ok holds => cases holds <;> simp [Except.toOption] <;> omega
    | error e => cases he : e.isOverrun <;> simp [Except.toOption, he] <;> omega

end Totals

namespace RouteStats

theorem attempts_judging (s : RouteStats) (now : Instant) (v : Filter.Verdict) :
    (s.judging now v).attempts = s.attempts + 1 := by
  unfold judging
  split <;> rfl

theorem settled_judging {s : RouteStats} (h : s.matched + s.errors ≤ s.attempts) (now : Instant)
    (v : Filter.Verdict) :
    (s.judging now v).matched + (s.judging now v).errors ≤ (s.judging now v).attempts := by
  unfold judging
  split <;> dsimp only <;> omega

/-- The same of the statistics of a route. -/
theorem trying_cons (s : RouteStats) (x : Rule) (rules : List Rule) :
    s.trying event b now (x :: rules) =
      RouteStats.trying (if x.pattern.accepts event.subject then
        s.judging now (x.filter.evaluate event b now).1 else s) event b now rules := by
  unfold trying
  cases ha : x.pattern.accepts event.subject with
  | false => simp [Rule.takes, Rule.overruns, Rule.fails, ha]
  | true =>
    unfold judging
    simp only [List.countP_cons, List.any_cons, Rule.takes, Rule.overruns, Rule.fails, ha,
      Bool.true_and]
    cases (x.filter.evaluate event b now).1 with
    | ok holds => cases holds <;> simp [Except.toOption] <;> omega
    | error e => cases he : e.isOverrun <;> simp [Except.toOption, he] <;> omega

end RouteStats

theorem Rule.count_eq (x : Rule) (v : Filter.Verdict) (now : Instant) (c : Counters) :
    x.count v now c =
      ⟨c.totals.judging v, Assoc.modify x.routeId (fun s => s.judging now v) c.routes⟩ := by
  cases v with
  | ok holds =>
    cases holds with
    | false => rfl
    | true =>
      simp only [Rule.count, Counters.matchAttempt, Counters.ruleMatched, Counters.total,
        Counters.note, Assoc.modify_modify]
      rfl
  | error e =>
    unfold Rule.count Totals.judging
    dsimp only
    split
    · simp only [Counters.matchAttempt, Counters.budgetExceeded, Counters.routeError,
        Counters.total, Counters.note, Assoc.modify_modify]
      rfl
    · simp only [Counters.matchAttempt, Counters.evalError, Counters.routeError, Counters.total,
        Counters.note, Assoc.modify_modify]
      rfl

namespace Counters

variable {c : Counters} {x : Rule} {rules : List Rule}

/-- Trying a rule and then others is trying all of them. -/
theorem trying_cons (c : Counters) (x : Rule) (rules : List Rule) :
    c.trying event b now (x :: rules) =
      Counters.trying (if x.pattern.accepts event.subject then
        x.count (x.filter.evaluate event b now).1 now c else c) event b now rules := by
  unfold trying
  rw [Totals.trying_cons, Counters.mk.injEq]
  split
  · next ha =>
    refine ⟨by rw [Rule.count_eq], ?_⟩
    rw [Rule.count_eq, Assoc.modify, List.map_map]
    -- The statistics of the rule's own route grow, and those of the others stay.
    refine List.map_congr_left fun p _ => ?_
    by_cases hid : x.routeId = p.1
    · simp [hid, RouteStats.trying_cons, ha]
    · simp [hid, Ne.symm hid]
  · next ha =>
    refine ⟨rfl, List.map_congr_left fun p _ => ?_⟩
    by_cases hid : x.routeId = p.1
    · simp [hid, RouteStats.trying_cons, ha]
    · simp [hid]

theorem trying_nil (c : Counters) : c.trying event b now [] = c := by
  have hroutes : c.routes.map (fun p => (p.1, p.2.trying event b now [])) = c.routes :=
    (List.map_congr_left fun _ _ => rfl).trans (List.map_id _)
  exact congrArg (Counters.mk c.totals) hroutes

/-- Only rules whose patterns accept the subject add something. -/
theorem trying_filter {p : Rule → Bool}
    (hp : ∀ x ∈ rules, x.pattern.accepts event.subject = true → p x = true) :
    c.trying event b now (rules.filter p) = c.trying event b now rules := by
  induction rules generalizing c with
  | nil => rfl
  | cons x rules ih =>
    have ⟨hx, hrules⟩ := List.forall_mem_cons.mp hp
    rw [trying_cons]
    by_cases hpx : p x = true
    · rw [List.filter_cons_of_pos hpx, trying_cons, ih hrules]
    · rw [List.filter_cons_of_neg hpx, ih hrules, if_neg (mt hx hpx)]

/-- Trying rules adds to a route what its own rules add. -/
theorem stats?_trying (c : Counters) (id : String) (rules : List Rule) :
    (c.trying event b now rules).stats? id = (c.stats? id).map fun s =>
      s.trying event b now (rules.filter fun x => x.routeId = id) :=
  Assoc.find?_map_value
    (fun k (s : RouteStats) => s.trying event b now (rules.filter fun x => x.routeId = k)) id
    c.routes

end Counters

/-! ## What a decision adds -/

namespace Decision

variable {stop : Poll → Bool} {rules : List Rule} {d : Decision}

/-- What a decision that has gone through some rules has counted. -/
inductive Counted (event : Event) (b : Filter.Budget) (now : Instant) (c : Counters)
    (rules : List Rule) (d : Decision) : Prop where
  | completed (h : d.isCancelled = false)
      (hc : d.counters = (c.trying event b now rules).eventRouted)
  /-- It has been given up before the rest of the rules. -/
  | cancelled {seen rest : List Rule} (h : d.isCancelled = true) (hr : rules = seen ++ rest)
      (hc : d.counters = c.trying event b now seen)

/-- What one rule adds comes before what the others add. -/
theorem counted_cons {x : Rule} {c : Counters}
    (h : Counted event b now (if x.pattern.accepts event.subject then
      x.count (x.filter.evaluate event b now).1 now c else c) rules d) :
    Counted event b now c (x :: rules) d := by
  cases h with
  | completed h hc =>
    rw [← Counters.trying_cons] at hc
    exact .completed h hc
  | cancelled h hr hc =>
    rw [← Counters.trying_cons] at hc
    exact .cancelled h (by rw [hr, List.cons_append]) hc

/-- A decision tries all rules and counts itself, or is given up and has tried some of them. -/
theorem counted_run {c : Counters} (hd : d.isCancelled = false) (hc : d.counters = c) :
    Counted event b now c rules (run event b now stop rules d) := by
  induction rules generalizing c d with
  | nil => exact .completed hd (congrArg Counters.eventRouted (by rw [hc, Counters.trying_nil]))
  | cons x rules ih =>
    unfold run
    split
    · have hnone : x :: rules = [] ++ x :: rules := rfl
      exact .cancelled rfl hnone (by rw [Counters.trying_nil]; exact hc)
    · refine counted_cons ?_
      dsimp only
      split
      · exact ih hd (congrArg (x.count (x.filter.evaluate event b now).1 now) hc)
      · exact ih hd hc

end Decision

/-! ## The balance -/

namespace Counters

variable {c d : Counters} {id : String}

/-- The balance of the counters. Every filter that has been run is counted once as what it came to,
at most, and as an attempt of its route if the route was tracked then. -/
structure IsBalanced (c : Counters) : Prop where
  settled : c.totals.rulesMatched + c.totals.budgetExceeded + c.totals.evalErrors ≤
    c.totals.matchAttempts
  distinct : c.tracked.Nodup
  routes : ∀ p ∈ c.routes, p.2.matched + p.2.errors ≤ p.2.attempts
  attempts : (c.routes.map fun p => p.2.attempts).sum ≤ c.totals.matchAttempts

theorem isBalanced_zero : zero.IsBalanced := by
  refine ⟨Nat.le_refl 0, List.nodup_nil, nofun, Nat.le_refl 0⟩

theorem IsBalanced.track (h : c.IsBalanced) (id : String) : (c.track id).IsBalanced := by
  unfold Counters.track
  split
  · exact h
  · next hid =>
    have hnew : id ∉ c.tracked := fun hm => hid (Assoc.isSome_find?.mpr hm)
    have hperm := Assoc.insert_perm (v := RouteStats.zero) hnew
    refine ⟨h.settled, ?_, fun p hp => ?_, ?_⟩
    · have hcons : (id :: c.tracked).Nodup := List.nodup_cons.mpr ⟨hnew, h.distinct⟩
      exact (hperm.map Prod.fst).nodup_iff.mpr hcons
    · rcases List.mem_cons.mp (hperm.mem_iff.mp hp) with rfl | hp
      · exact Nat.le_refl 0
      · exact h.routes p hp
    · have hsum := (hperm.map fun p => p.2.attempts).sum_nat
      rw [List.map_cons, List.sum_cons] at hsum
      have := h.attempts
      simp only [RouteStats.zero] at hsum ⊢
      omega

theorem IsBalanced.forget (h : c.IsBalanced) (id : String) : (c.forget id).IsBalanced := by
  have hsub : (Assoc.erase id c.routes).Sublist c.routes := List.filter_sublist
  refine ⟨h.settled, h.distinct.sublist (hsub.map _), fun p hp => h.routes p (hsub.subset hp), ?_⟩
  exact ((hsub.map _).sum_le_sum fun _ _ => Nat.zero_le _).trans h.attempts

/-- Writes keep the balance. -/
theorem Edits.isBalanced (hcd : c.Edits d) (h : c.IsBalanced) : d.IsBalanced := by
  induction hcd with
  | refl => exact h
  | track id _ ih => exact ih.track id
  | forget id _ ih => exact ih.forget id
  | refusing n _ ih => exact ⟨ih.settled, ih.distinct, ih.routes, ih.attempts⟩

/-- So does the verdict of a filter. -/
theorem IsBalanced.count (h : c.IsBalanced) (x : Rule) (v : Filter.Verdict) (now : Instant) :
    (x.count v now c).IsBalanced := by
  rw [Rule.count_eq]
  refine ⟨Totals.settled_judging h.settled v, ?_, fun p hp => ?_, ?_⟩
  · rw [tracked, Assoc.map_fst_modify]
    exact h.distinct
  · obtain ⟨q, hq, rfl⟩ := List.mem_map.mp hp
    split
    · exact RouteStats.settled_judging (h.routes q hq) now v
    · exact h.routes q hq
  · have hsum := Assoc.sum_modify_le (k := x.routeId) h.distinct
      fun s => (RouteStats.attempts_judging s now v).le
    have := h.attempts
    dsimp only
    rw [Totals.matchAttempts_judging]
    omega

theorem IsBalanced.run {rules : List Rule} {dec : Decision} (h : dec.counters.IsBalanced)
    (event : Event) (b : Filter.Budget) (now : Instant) (stop : Poll → Bool) :
    (Decision.run event b now stop rules dec).counters.IsBalanced := by
  induction rules generalizing dec with
  | nil => exact ⟨h.settled, h.distinct, h.routes, h.attempts⟩
  | cons x rules ih =>
    unfold Decision.run
    split
    · exact h
    · refine ih ?_
      dsimp only
      split
      · exact h.count x _ now
      · exact h

end Counters

namespace Registry

variable {fs : Filter.HostFunctions} {r r' : Registry}

theorem isBalanced_routeCancellable (h : r.counters.IsBalanced) (event : Event)
    (b : Filter.Budget) (now : Instant) (stop : Poll → Bool) :
    (r.routeCancellable event b now stop).2.counters.IsBalanced := by
  have hrun : (r.decide event b now stop).counters.IsBalanced :=
    h.run event b now stop
  unfold routeCancellable
  dsimp only
  split
  · exact ⟨hrun.settled, hrun.distinct, hrun.routes, hrun.attempts⟩
  · exact hrun

theorem isBalanced_step (h : r.counters.IsBalanced) (hs : Step r r') : r'.counters.IsBalanced := by
  cases hs with
  | perform w now => exact (edits_perform r w now).isBalanced h
  | compile s source now =>
    rw [compile_eq]
    exact (Counters.Edits.refl.refusing _).isBalanced h
  | decide event b now stop => exact isBalanced_routeCancellable h event b now stop

/-- Whatever has happened, the counters balance. -/
theorem Reachable.isBalanced (h : r.Reachable fs) : r.counters.IsBalanced := by
  induction h with
  | empty => exact Counters.isBalanced_zero
  | step _ hs ih => exact isBalanced_step ih hs

/-! ## What is counted -/

/-- Going through the candidates counts what going through the whole list counts. -/
theorem trying_candidates (h : r.index = .build r.rules r.revision) (c : Counters)
    (event : Event) (b : Filter.Budget) (now : Instant) :
    c.trying event b now (r.index.candidates event.subject).toList =
      c.trying event b now r.rules := by
  rw [h, RuleIndex.candidates_toList]
  exact Counters.trying_filter fun x _ ha => SubjectPattern.mayAccept_of_accepts ha

theorem counted_decide (r : Registry) (event : Event) (b : Filter.Budget) (now : Instant)
    (stop : Poll → Bool) : Decision.Counted event b now r.counters
      (r.index.candidates event.subject).toList (r.decide event b now stop) := by
  have hstart : (Decision.start r.counters).isCancelled = false := rfl
  exact Decision.counted_run hstart rfl

/-- A decision comes to its end, or is given up and counted as that. -/
theorem routeCancellable_eq (r : Registry) (event : Event) (b : Filter.Budget) (now : Instant)
    (stop : Poll → Bool) : r.routeCancellable event b now stop =
      if (r.decide event b now stop).isCancelled then
        (.error .cancelled, { r.decide event b now stop with
          counters := (r.decide event b now stop).counters.eventCancelled })
      else (.ok ((r.decide event b now stop).matched.flatMap (·.targets)),
        r.decide event b now stop) := rfl

theorem counters_of_ok (h : r.index = .build r.rules r.revision) {stop : Poll → Bool}
    {targets : List ForwardTarget} (hok : (r.routeCancellable event b now stop).1 = .ok targets) :
    (r.routeCancellable event b now stop).2.counters =
      (r.counters.trying event b now r.rules).eventRouted := by
  rw [routeCancellable_eq] at hok ⊢
  cases counted_decide r event b now stop with
  | completed hc hcounters =>
    rw [if_neg (by rw [hc]; decide), ← trying_candidates h]
    exact hcounters
  | cancelled hc hr hcounters =>
    rw [if_pos hc] at hok
    cases hok

theorem counters_of_error {stop : Poll → Bool} {e : DispatchError}
    (herror : (r.routeCancellable event b now stop).1 = .error e) :
    ∃ seen, seen <+: (r.index.candidates event.subject).toList ∧
      (r.routeCancellable event b now stop).2.counters =
        (r.counters.trying event b now seen).eventCancelled := by
  rw [routeCancellable_eq] at herror ⊢
  cases counted_decide r event b now stop with
  | completed hc hcounters =>
    rw [if_neg (by rw [hc]; decide)] at herror
    cases herror
  | @cancelled seen rest hc hr hcounters =>
    refine ⟨seen, ⟨rest, hr.symm⟩, ?_⟩
    rw [if_pos hc, ← hcounters]

theorem routeWithin_snd (r : Registry) (event : Event) (b : Filter.Budget) (now : Instant)
    (limit : Nat) : (r.routeWithin event b now limit).2 =
      (r.routeCancellable event b now fun p => limit ≤ p.millis).2 := by
  unfold routeWithin
  dsimp only
  split <;> rfl

/-- Writes count nothing but definitions that are refused. -/
theorem totals_of_edits {c d : Counters} (h : c.Edits d) :
    ∃ n, d.totals = { c.totals with compileFailures := c.totals.compileFailures + n } := by
  induction h with
  | refl => exact ⟨0, rfl⟩
  | track id _ ih =>
    unfold Counters.track
    split <;> exact ih
  | forget id _ ih => exact ih
  | refusing m _ ih =>
    obtain ⟨n, hn⟩ := ih
    refine ⟨n + m, ?_⟩
    unfold Counters.refusing Counters.total
    simp only [hn, Nat.add_assoc]

/-- What the decisions and the writes of a registry count, and the balance of what has been
counted. -/
structure Accounts (r : Registry) : Prop where
  /-- A decision that comes to its end counts itself, and every rule of the list as what it was for
  the event. -/
  completed : ∀ event b now stop targets, (r.routeCancellable event b now stop).1 = .ok targets →
    (r.routeCancellable event b now stop).2.counters.totals =
      { r.counters.totals with
        eventsRouted := r.counters.totals.eventsRouted + 1
        matchAttempts := r.counters.totals.matchAttempts +
          r.rules.countP fun x => x.pattern.accepts event.subject
        rulesMatched := r.counters.totals.rulesMatched +
          r.rules.countP (Rule.takes event b now)
        budgetExceeded := r.counters.totals.budgetExceeded +
          r.rules.countP (Rule.overruns event b now)
        evalErrors := r.counters.totals.evalErrors + r.rules.countP (Rule.fails event b now) }
  /-- In the statistics of a route it counts the rules of that route in the same way. -/
  completedRoutes : ∀ event b now stop targets,
    (r.routeCancellable event b now stop).1 = .ok targets → ∀ id,
      (r.routeCancellable event b now stop).2.counters.stats? id =
        (r.counters.stats? id).map fun s =>
          s.trying event b now (r.rules.filter fun x => x.routeId = id)
  /-- One that cannot be given up comes to its end. -/
  uninterrupted : ∀ event b now, r.routeCancellable event b now (fun _ => false) =
    (.ok (r.route event b now).1, (r.matchEvent event b now).2)
  /-- One that is given up counts as that, and the rules up to there. -/
  cancelled : ∀ event b now stop e, (r.routeCancellable event b now stop).1 = .error e →
    ∃ seen, seen <+: (r.index.candidates event.subject).toList ∧
      (r.routeCancellable event b now stop).2.counters.totals =
        { r.counters.totals.trying event b now seen with
          cancelled := r.counters.totals.cancelled + 1 } ∧
      ∀ id, (r.routeCancellable event b now stop).2.counters.stats? id =
        (r.counters.stats? id).map fun s =>
          s.trying event b now (seen.filter fun x => x.routeId = id)
  /-- One with a limit of time is one that is given up when the time is over. -/
  limited : ∀ event b now limit, (r.routeWithin event b now limit).2 =
    (r.routeCancellable event b now fun p => limit ≤ p.millis).2
  /-- A write counts the definitions that are refused and nothing else. -/
  written : ∀ w now, ∃ n, (r.perform w now).2.counters.totals =
    { r.counters.totals with compileFailures := r.counters.totals.compileFailures + n }
  settled : r.counters.totals.rulesMatched + r.counters.totals.budgetExceeded +
    r.counters.totals.evalErrors ≤ r.counters.totals.matchAttempts
  routes : ∀ id st, r.counters.stats? id = some st → st.matched + st.errors ≤ st.attempts
  attempts : (r.counters.routes.map fun p => p.2.attempts).sum ≤ r.counters.totals.matchAttempts

/-- In every reachable registry, every decision counts itself and the rules that it has tried, and
the counters balance. -/
theorem accounts_of_reachable (h : r.Reachable fs) : r.Accounts := by
  have hbalance := h.isBalanced
  constructor
  case completed =>
    intro event b now stop targets hok
    exact congrArg Counters.totals (counters_of_ok h.coherent.indexed hok)
  case completedRoutes =>
    intro event b now stop targets hok id
    rw [counters_of_ok h.coherent.indexed hok]
    exact Counters.stats?_trying _ _ _
  case uninterrupted => exact routeCancellable_of_never r
  case cancelled =>
    intro event b now stop e herror
    obtain ⟨seen, hseen, hcounters⟩ := counters_of_error herror
    refine ⟨seen, hseen, congrArg Counters.totals hcounters, fun id => ?_⟩
    rw [hcounters]
    exact Counters.stats?_trying _ _ _
  case limited => exact routeWithin_snd r
  case written => exact fun w now => totals_of_edits (edits_perform r w now)
  case settled => exact hbalance.settled
  case routes =>
    intro id st hst
    exact hbalance.routes (id, st) (Assoc.mem_of_find? hst)
  case attempts => exact hbalance.attempts

/-- Three rules: one takes all orders, one compares the payload with a number, and one is for
users. -/
def watched : Registry :=
  ((((empty .empty).perform (.add (lastingSpec "a" "orders.>")) ⟨0, 0⟩).2.perform
    (.add { lastingSpec "b" "orders.*" with filterExpr := some "payload > 1" }) ⟨1, 0⟩).2.perform
    (.add (lastingSpec "c" "users.>")) ⟨2, 0⟩).2

/-- An order whose payload is no number. -/
def wordyOrder : Event := ⟨"e", "orders.new", .empty, .string "x", true⟩

/-- The registry after a decision on it. -/
def watchedOnce : Registry :=
  watched.after (watched.routeCancellable wordyOrder .unlimited ⟨3, 0⟩ fun _ => false).2

/-- Another decision goes over its budget, and one is given up after the first rule. -/
theorem accounts_of_watchedOnce :
    watchedOnce.Reachable .empty ∧ watchedOnce.Accounts ∧
    watchedOnce.counters = ⟨⟨1, 2, 1, 0, 1, 0, 0⟩,
      [("a", ⟨1, 1, 0, some ⟨3, 0⟩⟩), ("b", ⟨1, 0, 1, none⟩), ("c", ⟨0, 0, 0, none⟩)]⟩ ∧
    (watchedOnce.routeCancellable wordyOrder ⟨some 1, none⟩ ⟨4, 0⟩
        fun _ => false).2.counters.totals = ⟨1 + 1, 2 + 2, 1 + 1, 0 + 1, 1 + 0, 0, 0⟩ ∧
    ["a", "b", "c", "d"].map (watchedOnce.routeCancellable wordyOrder ⟨some 1, none⟩ ⟨4, 0⟩
        fun _ => false).2.counters.stats? =
      [some ⟨1 + 1, 1 + 1, 0 + 0, some ⟨4, 0⟩⟩, some ⟨1 + 1, 0 + 0, 1 + 1, none⟩,
        some ⟨0, 0, 0, none⟩, none] ∧
    ∃ seen, seen <+: (watchedOnce.index.candidates wordyOrder.subject).toList ∧
      (watchedOnce.routeCancellable wordyOrder .unlimited ⟨4, 0⟩
        fun p => p.number = 1).2.counters.totals =
        { watchedOnce.counters.totals.trying wordyOrder .unlimited ⟨4, 0⟩ seen with
          cancelled := 1 } ∧
      ["a", "b", "c"].map (watchedOnce.routeCancellable wordyOrder .unlimited ⟨4, 0⟩
          fun p => p.number = 1).2.counters.stats? =
        [some ⟨1 + 1, 1 + 1, 0 + 0, some ⟨4, 0⟩⟩, some ⟨1, 0, 1, none⟩,
          some ⟨0, 0, 0, none⟩] := by
  have hr : watchedOnce.Reachable .empty :=
    .step (.step (.step (.step .empty (.perform _ _)) (.perform _ _)) (.perform _ _))
      (.decide _ _ _ _)
  have haccounts : watchedOnce.Accounts := accounts_of_reachable hr
  have hcounters : watchedOnce.counters = ⟨⟨1, 2, 1, 0, 1, 0, 0⟩,
      [("a", ⟨1, 1, 0, some ⟨3, 0⟩⟩), ("b", ⟨1, 0, 1, none⟩), ("c", ⟨0, 0, 0, none⟩)]⟩ := by
    decide +kernel
  -- One decision has targets and the other is given up; which targets these are does not matter.
  obtain ⟨targets, hok⟩ := exists_eq_ok (x := (watchedOnce.routeCancellable wordyOrder
    ⟨some 1, none⟩ ⟨4, 0⟩ fun _ => false).1) (by decide +kernel)
  obtain ⟨e, herror⟩ := exists_eq_error (x := (watchedOnce.routeCancellable wordyOrder
    .unlimited ⟨4, 0⟩ fun p => p.number = 1).1) (by decide +kernel)
  refine ⟨hr, haccounts, hcounters, ?_, ?_, ?_⟩
  · rw [haccounts.completed _ _ _ _ targets hok, hcounters]
    decide +kernel
  · simp only [List.map_cons, List.map_nil,
      haccounts.completedRoutes _ _ _ _ targets hok, hcounters]
    decide +kernel
  · obtain ⟨seen, hseen, htotals, -⟩ := haccounts.cancelled _ _ _ _ e herror
    refine ⟨seen, hseen, ?_, by decide +kernel⟩
    rw [hcounters] at htotals ⊢
    exact htotals

end Registry

end Switchyard
