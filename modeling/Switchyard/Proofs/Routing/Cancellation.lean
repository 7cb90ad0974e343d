import Switchyard.Proofs.Routing.FullScan

/-!
# Giving up a decision

A decision asks before every candidate whether to give up. At the first poll that says so it ends
without a result, whatever it has matched by then. If no poll says so, it is the decision that
cannot be given up.

* `Decision.polls`: the polls of a decision that nobody gives up, one before each candidate.
* `Decision.run_of_find?`: a decision ends at the first of them that says to stop, or goes on to the
  end as if there had been no polls.
* `Registry.cancelled_iff_seen_set`: when a decision is cancelled, and what it comes to otherwise.
-/

namespace Switchyard

variable {event : Event} {b : Filter.Budget} {now : Instant}

/-- What a poll sees of a token that is set ahead of poll `n` and stays set. -/
def Poll.seesSet (n : Nat) (p : Poll) : Bool := n ≤ p.number

/-- The poll behind a rule. Host functions take their time if the filter of the rule is run. -/
def Poll.past (event : Event) (b : Filter.Budget) (now : Instant) (p : Poll) (x : Rule) : Poll :=
  ⟨p.number + 1, p.millis +
    if x.pattern.accepts event.subject then (x.filter.evaluate event b now).2.millis else 0⟩

namespace Decision

/-- The polls of a decision that nobody gives up, one before each of the rules that are left. -/
def polls (event : Event) (b : Filter.Budget) (now : Instant) : List Rule → Poll → List Poll
  | [], _ => []
  | x :: rules, p => p :: polls event b now rules (p.past event b now x)

/-- The decision behind a rule at which it has not been given up. -/
def past (event : Event) (b : Filter.Budget) (now : Instant) (d : Decision) (x : Rule) : Decision :=
  let d := { d with poll := { d.poll with number := d.poll.number + 1 } }
  if x.pattern.accepts event.subject then d.consider event b now x else d

theorem poll_past (d : Decision) (x : Rule) :
    (d.past event b now x).poll = d.poll.past event b now x := by
  unfold past Poll.past
  dsimp only
  split <;> rfl

theorem run_cons {stop : Poll → Bool} (x : Rule) (rules : List Rule) (d : Decision) :
    run event b now stop (x :: rules) d =
      if stop d.poll then { d with isCancelled := true }
      else run event b now stop rules (d.past event b now x) := rfl

theorem map_number_polls (rules : List Rule) (p : Poll) :
    (polls event b now rules p).map (·.number) = List.range' p.number rules.length := by
  induction rules generalizing p with
  | nil => rfl
  | cons x rules ih =>
    rw [polls, List.map_cons, ih, List.length_cons, List.range'_succ]
    rfl

/-- A decision ends at the first poll that says to stop. If none does, it is the one that cannot be
given up. -/
theorem run_of_find? (stop : Poll → Bool) (rules : List Rule) (d : Decision) :
    match (polls event b now rules d.poll).find? stop with
    | some p => (run event b now stop rules d).isCancelled = true ∧
        (run event b now stop rules d).poll = p
    | none => run event b now stop rules d = run event b now (fun _ => false) rules d := by
  induction rules generalizing d with
  | nil => rfl
  | cons x rules ih =>
    rw [polls, List.find?_cons, run_cons]
    cases hs : stop d.poll with
    | true => exact ⟨rfl, rfl⟩
    | false =>
      have hnext := ih (d.past event b now x)
      rw [poll_past] at hnext
      exact hnext

end Decision

namespace Registry

/-- The polls of a decision on an event that nobody gives up. -/
def polls (r : Registry) (event : Event) (b : Filter.Budget) (now : Instant) : List Poll :=
  Decision.polls event b now (r.index.candidates event.subject).toList ⟨0, 0⟩

/-- A decision is given up at the first poll that says to stop. If none does, it comes to what the
decision comes to that cannot be given up. -/
theorem routeCancellable_of_find? (r : Registry) (event : Event) (b : Filter.Budget) (now : Instant)
    (stop : Poll → Bool) :
    match (r.polls event b now).find? stop with
    | some p => (r.routeCancellable event b now stop).1 = .error .cancelled ∧
        (r.routeCancellable event b now stop).2.poll = p
    | none => r.routeCancellable event b now stop =
        (.ok (r.route event b now).1, (r.matchEvent event b now).2) := by
  have hrun : match (r.polls event b now).find? stop with
      | some p => (r.decide event b now stop).isCancelled = true ∧
          (r.decide event b now stop).poll = p
      | none => r.decide event b now stop = r.decide event b now fun _ => false :=
    Decision.run_of_find? stop _ (.start r.counters)
  cases hp : (r.polls event b now).find? stop with
  | some p =>
    rw [hp] at hrun
    unfold routeCancellable
    dsimp only
    rw [hrun.1]
    exact ⟨rfl, hrun.2⟩
  | none =>
    rw [hp] at hrun
    dsimp only at hrun ⊢
    unfold routeCancellable
    rw [hrun]
    exact routeCancellable_of_never r event b now

theorem cancelled_of_seen {stop : Poll → Bool} {r : Registry}
    (h : ∃ p ∈ r.polls event b now, stop p = true) :
    (r.routeCancellable event b now stop).1 = .error .cancelled ∧
      (r.polls event b now).find? stop = some (r.routeCancellable event b now stop).2.poll := by
  obtain ⟨p, hp⟩ := Option.isSome_iff_exists.mp (List.find?_isSome.mpr h)
  have hfirst := r.routeCancellable_of_find? event b now stop
  rw [hp] at hfirst
  exact ⟨hfirst.1, by rw [hp, hfirst.2]⟩

theorem route_of_unseen {stop : Poll → Bool} {r : Registry}
    (h : ∀ p ∈ r.polls event b now, stop p = false) :
    (r.routeCancellable event b now stop).1 = .ok (r.route event b now).1 := by
  have hnone : (r.polls event b now).find? stop = none :=
    List.find?_eq_none.mpr fun p hp => by rw [h p hp]; decide
  have hfirst := r.routeCancellable_of_find? event b now stop
  rw [hnone] at hfirst
  rw [hfirst]

/-- A decision that is not cancelled has asked in vain. -/
theorem unseen_of_ne_cancelled {stop : Poll → Bool} {r : Registry}
    (h : (r.routeCancellable event b now stop).1 ≠ .error .cancelled) :
    ∀ p ∈ r.polls event b now, stop p = false :=
  fun p hp => Bool.eq_false_iff.mpr fun hs => h (cancelled_of_seen ⟨p, hp, hs⟩).1

theorem cancelled_iff {stop : Poll → Bool} {r : Registry} :
    (r.routeCancellable event b now stop).1 = .error .cancelled ↔
      ∃ p ∈ r.polls event b now, stop p = true := by
  refine ⟨fun h => ?_, fun h => (cancelled_of_seen h).1⟩
  by_cases hseen : ∃ p ∈ r.polls event b now, stop p = true
  · exact hseen
  · rw [route_of_unseen fun p hp => Bool.eq_false_iff.mpr fun hs => hseen ⟨p, hp, hs⟩] at h
    cases h

theorem map_number_polls (r : Registry) (event : Event) (b : Filter.Budget) (now : Instant) :
    (r.polls event b now).map (·.number) =
      List.range (r.index.candidates event.subject).toList.length := by
  rw [polls, Decision.map_number_polls, List.range_eq_range']

/-- A token that is set between two polls is seen if a candidate is left. -/
theorem exists_seesSet_iff (r : Registry) (event : Event) (b : Filter.Budget) (now : Instant)
    (n : Nat) : (∃ p ∈ r.polls event b now, p.seesSet n = true) ↔
      n < (r.index.candidates event.subject).toList.length := by
  have hnumber : ∀ k, (∃ p ∈ r.polls event b now, p.number = k) ↔
      k < (r.index.candidates event.subject).toList.length := fun k => by
    rw [← List.mem_range, ← r.map_number_polls event b now, List.mem_map]
  constructor
  · rintro ⟨p, hp, hn⟩
    exact Nat.lt_of_le_of_lt (of_decide_eq_true hn) ((hnumber _).mp ⟨p, hp, rfl⟩)
  · intro h
    obtain ⟨p, hp, rfl⟩ := (hnumber n).mpr h
    exact ⟨p, hp, decide_eq_true (Nat.le_refl _)⟩

/-- There is one poll before each candidate. A decision is cancelled if and only if one of the polls
sees the token set, whatever has been matched by then, and at the first that does. If none does, it
has all targets that it has without a token; it never has some of them only. So a token that is set
between two polls and stays set cancels the decision exactly if a candidate is left. -/
theorem cancelled_iff_seen_set (r : Registry) (event : Event) (b : Filter.Budget)
    (now : Instant) :
    (r.polls event b now).map (·.number) =
        List.range (r.index.candidates event.subject).toList.length ∧
      (∀ stop : Poll → Bool,
        ((r.routeCancellable event b now stop).1 = .error .cancelled ↔
          ∃ p ∈ r.polls event b now, stop p = true) ∧
        ((r.routeCancellable event b now stop).1 = .error .cancelled →
          (r.polls event b now).find? stop = some (r.routeCancellable event b now stop).2.poll) ∧
        ((∀ p ∈ r.polls event b now, stop p = false) →
          (r.routeCancellable event b now stop).1 = .ok (r.route event b now).1) ∧
        (∀ ts : List ForwardTarget, (r.routeCancellable event b now stop).1 = .ok ts →
          ts = (r.route event b now).1 ∧ ∀ p ∈ r.polls event b now, stop p = false)) ∧
      (∀ n : Nat, (r.routeCancellable event b now (Poll.seesSet n)).1 =
        if n < (r.index.candidates event.subject).toList.length then .error .cancelled
        else .ok (r.route event b now).1) := by
  refine ⟨r.map_number_polls event b now, fun stop => ⟨cancelled_iff, fun h => ?_,
    route_of_unseen, fun ts h => ?_⟩, fun n => ?_⟩
  · exact (cancelled_of_seen (cancelled_iff.mp h)).2
  · -- A decision that has targets was not cancelled, so no poll has seen the token set.
    have hunseen : ∀ p ∈ r.polls event b now, stop p = false :=
      unseen_of_ne_cancelled (by rw [h]; nofun)
    rw [route_of_unseen hunseen] at h
    exact ⟨(Except.ok.inj h).symm, hunseen⟩
  · have hlast := r.exists_seesSet_iff event b now n
    split
    · next hn => exact (cancelled_of_seen (hlast.mpr hn)).1
    · next hn =>
      refine route_of_unseen fun p hp => Bool.eq_false_iff.mpr fun hs => hn (hlast.mp ⟨p, hp, hs⟩)

/-- With three rules for the event, a token that is set behind the first of them cancels the
decision although the first has matched. Behind the last one it comes too late. -/
theorem cancelled_iff_seen_set_midway :
    (patterned.route newOrder .unlimited ⟨3, 0⟩).1.map (·.routeId) = ["literal", "star", "tail"] ∧
      (patterned.routeCancellable newOrder .unlimited ⟨3, 0⟩ (Poll.seesSet 1)).1 =
        .error .cancelled ∧
      (patterned.routeCancellable newOrder .unlimited ⟨3, 0⟩ (Poll.seesSet 3)).1 =
        .ok (patterned.route newOrder .unlimited ⟨3, 0⟩).1 := by
  have hlast := (cancelled_iff_seen_set patterned newOrder .unlimited ⟨3, 0⟩).2.2
  have hlength : (patterned.index.candidates newOrder.subject).toList.length = 3 := by
    decide +kernel
  refine ⟨by decide +kernel, ?_, ?_⟩
  · rw [hlast, hlength]
    rfl
  · rw [hlast, hlength]
    rfl

end Registry

end Switchyard
