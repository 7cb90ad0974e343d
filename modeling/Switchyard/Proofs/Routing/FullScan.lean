import Switchyard.Proofs.Registry.OrderedMap

/-!
# Routing is a full scan

A decision looks at the candidates of the index only. It comes to the same as trying every rule of
the list in turn, and what one rule makes of an event matters for no other rule.

* `Rule.takes`: whether a rule takes an event, on its own.
* `Registry.matched_eq`: the rules that take an event are those of the whole list that do.
* `Registry.matched_around`: a rule contributes at its place, and to nothing else.
* `Registry.route_eq_full_scan`: both for reachable registries, with the targets.
-/

namespace Switchyard

variable {event : Event} {b : Filter.Budget} {now : Instant}

namespace Rule

/-- Whether a rule takes an event: its pattern accepts the subject and its filter holds. A filter
that fails or goes over the budget does not. -/
def takes (event : Event) (b : Filter.Budget) (now : Instant) (x : Rule) : Bool :=
  x.pattern.accepts event.subject && (x.filter.evaluate event b now).1.toOption == some true

/-- What a rule contributes to a decision. -/
def contribution (event : Event) (b : Filter.Budget) (now : Instant) (x : Rule) :
    List RuleMatch :=
  if x.takes event b now then [⟨x, x.expand event⟩] else []

theorem takes_iff {x : Rule} : x.takes event b now = true ↔
    x.pattern.accepts event.subject = true ∧ (x.filter.evaluate event b now).1 = .ok true := by
  unfold takes
  rw [Bool.and_eq_true, beq_iff_eq, toOption_eq_some]

end Rule

/-! ## One rule after the other -/

namespace Decision

/-- One rule: it contributes, or the decision goes on as before. -/
theorem matched_consider (x : Rule) (d : Decision) :
    (if x.pattern.accepts event.subject then d.consider event b now x else d).matched =
      d.matched ++ x.contribution event b now := by
  unfold consider Rule.contribution Rule.takes
  cases x.pattern.accepts event.subject with
  | false => simp
  | true =>
    by_cases h : (x.filter.evaluate event b now).1.toOption = some true <;> simp [h]

/-- All rules: what is matched are the contributions, in order. -/
theorem matched_run {stop : Poll → Bool} (hs : ∀ p, stop p = false) (rules : List Rule)
    (d : Decision) : (run event b now stop rules d).matched =
      d.matched ++ rules.flatMap (Rule.contribution event b now) := by
  induction rules generalizing d with
  | nil => rw [run, List.flatMap_nil, List.append_nil]
  | cons x rules ih =>
    rw [run, if_neg (by rw [hs]; decide), ih, matched_consider, List.flatMap_cons,
      List.append_assoc]

/-- A decision that is not told to stop is not given up. -/
theorem isCancelled_run {stop : Poll → Bool} (hs : ∀ p, stop p = false) (rules : List Rule)
    (d : Decision) : (run event b now stop rules d).isCancelled = d.isCancelled := by
  induction rules generalizing d with
  | nil => rfl
  | cons x rules ih =>
    rw [run, if_neg (by rw [hs]; decide), ih]
    split <;> rfl

end Decision

/-! ## All rules -/

namespace Registry

variable {r : Registry} {rules : List Rule} {revision : Nat}

/-- A decision that nobody gives up is that of a call which cannot be given up. -/
theorem routeCancellable_of_never (r : Registry) (event : Event) (b : Filter.Budget)
    (now : Instant) : r.routeCancellable event b now (fun _ => false) =
      (.ok (r.route event b now).1, (r.matchEvent event b now).2) := by
  have hgoes : (r.decide event b now fun _ => false).isCancelled = false :=
    Decision.isCancelled_run (fun _ => rfl) _ _
  unfold routeCancellable
  dsimp only
  rw [hgoes]
  rfl

theorem flatMap_contribution (rules : List Rule) :
    rules.flatMap (Rule.contribution event b now) =
      (rules.filter (Rule.takes event b now)).map fun x => ⟨x, x.expand event⟩ := by
  induction rules with
  | nil => rfl
  | cons x rules ih =>
    rw [List.flatMap_cons, ih, Rule.contribution]
    cases h : x.takes event b now <;> simp [h]

/-- Going through the candidates comes to the same as going through the whole list. -/
theorem matched_eq (h : r.index = .build rules revision) (event : Event) (b : Filter.Budget)
    (now : Instant) :
    (r.matchEvent event b now).1.matched = rules.flatMap (Rule.contribution event b now) := by
  have hrun : (r.matchEvent event b now).1.matched =
      [] ++ (r.index.candidates event.subject).toList.flatMap (Rule.contribution event b now) :=
    Decision.matched_run (fun _ => rfl) _ _
  rw [hrun, List.nil_append, h, RuleIndex.candidates_toList, flatMap_contribution,
    flatMap_contribution, List.filter_filter]
  congr 1
  refine List.filter_congr fun x _ => ?_
  cases ht : x.takes event b now with
  | false => rfl
  | true =>
    rw [Bool.true_and]
    exact SubjectPattern.mayAccept_of_accepts (Rule.takes_iff.mp ht).1

/-- A rule contributes at its place; what the rules around it contribute does not depend on it. -/
theorem matched_around {before after : List Rule} {x : Rule}
    (h : r.index = .build (before ++ x :: after) revision) (event : Event) (b : Filter.Budget)
    (now : Instant) : (r.matchEvent event b now).1.matched =
      before.flatMap (Rule.contribution event b now) ++ x.contribution event b now ++
        after.flatMap (Rule.contribution event b now) := by
  rw [matched_eq h, List.flatMap_append, List.flatMap_cons, List.append_assoc]

/-- For every reachable registry and every event, the rules that take the event are exactly those of
the whole list whose pattern accepts the subject and whose filter holds, each of them once and with
the targets of its definition, in their order. If two lists of rules differ in one rule only, the
matches and targets of all rules before it and behind it are the same. -/
theorem route_eq_full_scan :
    (∀ (fs : Filter.HostFunctions) (r : Registry), r.Reachable fs →
      ∀ (event : Event) (b : Filter.Budget) (now : Instant),
        (r.matchEvent event b now).1.matched =
            (r.rules.filter fun x => x.pattern.accepts event.subject &&
              (x.filter.evaluate event b now).1.toOption == some true).map
              (fun x => ⟨x, x.expand event⟩) ∧
          (r.matchEvent event b now).1.routeIds.Nodup ∧
          (∀ x ∈ r.rules, TargetSpec.forwards x.routeId event x.spec.targets =
            .ok (x.expand event)) ∧
          (r.route event b now).1 = (r.matchEvent event b now).1.matched.flatMap (·.targets)) ∧
    (∀ (r₁ r₂ : Registry) (n₁ n₂ : Nat) (before after : List Rule) (x y : Rule),
      r₁.index = .build (before ++ x :: after) n₁ → r₂.index = .build (before ++ y :: after) n₂ →
      ∀ (event : Event) (b : Filter.Budget) (now : Instant),
        ∃ first last : List RuleMatch,
          (∀ m ∈ first, m.rule ∈ before) ∧ (∀ m ∈ last, m.rule ∈ after) ∧
          (r₁.matchEvent event b now).1.matched = first ++ x.contribution event b now ++ last ∧
          (r₂.matchEvent event b now).1.matched = first ++ y.contribution event b now ++ last ∧
          (r₁.route event b now).1 = first.flatMap (·.targets) ++
            (x.contribution event b now).flatMap (·.targets) ++ last.flatMap (·.targets) ∧
          (r₂.route event b now).1 = first.flatMap (·.targets) ++
            (y.contribution event b now).flatMap (·.targets) ++ last.flatMap (·.targets)) := by
  refine ⟨fun fs r h event b now => ⟨?_, ?_, fun x hx => ?_, rfl⟩, ?_⟩
  · rw [matched_eq h.coherent.indexed, flatMap_contribution]
    rfl
  · rw [MatchResult.routeIds, matched_eq h.coherent.indexed, flatMap_contribution, List.map_map]
    exact h.coherent.distinct.filter _
  · exact (h.coherent.compiled x hx).forwards event
  · intro r₁ r₂ n₁ n₂ before after x y h₁ h₂ event b now
    -- What a list of rules contributes are matches of its own rules.
    have hmem : ∀ rules : List Rule, ∀ m ∈ rules.flatMap (Rule.contribution event b now),
        m.rule ∈ rules := by
      intro rules m hm
      rw [flatMap_contribution] at hm
      obtain ⟨z, hz, rfl⟩ := List.mem_map.mp hm
      exact (List.mem_filter.mp hz).1
    have hroute : ∀ r : Registry, (r.route event b now).1 =
        (r.matchEvent event b now).1.matched.flatMap (·.targets) := fun _ => rfl
    refine ⟨_, _, hmem before, hmem after, matched_around h₁ event b now,
      matched_around h₂ event b now, ?_, ?_⟩
    · rw [hroute, matched_around h₁, List.flatMap_append, List.flatMap_append]
    · rw [hroute, matched_around h₂, List.flatMap_append, List.flatMap_append]

/-! ## A faulty filter among others -/

/-- An update takes the place of the rule in force, and the rules around it stay. -/
theorem rules_of_update {fs : Filter.HostFunctions} {s : RuleSpec} {x : Rule}
    (h : r.Reachable fs) (hc : Rule.compile fs s .api now = .ok x)
    (hf : InForce r.rules s.routeId now) :
    ∃ before y after, r.rules = before ++ y :: after ∧
      (r.perform (.update s) now).2.rules = before ++ x.withRevision (r.revision + 1) :: after := by
  obtain ⟨hid, hputs⟩ := (h.coherent.obeys (.update s) now).put .update s x rfl hc
  rw [← hid] at hf
  rcases hputs.otherwise with hadd | hupdate | ⟨p, hp⟩
  · exact absurd (hputs.duplicate.mp hadd).1 nofun
  · exact absurd hf (hputs.notFound.mp hupdate).2
  · obtain ⟨-, before, y, after, hr, -, hr'⟩ := hputs.inPlace p hp hf
    exact ⟨before, y, after, hr, hr'⟩

/-- A definition with a filter whose destination names the route and the subject. -/
def renderedSpec (id subject filter : String) : RuleSpec :=
  ⟨id, subject, .empty, some filter,
    [⟨"queue", "\x7b\x7broute_id\x7d\x7d/\x7b\x7bsubject\x7d\x7d", .empty⟩], none, none⟩

/-- Three rules, one for each kind of pattern: the first token of a subject is written out, or any
token does, or any subject. -/
def patterned : Registry :=
  ((((empty .empty).perform (.add (renderedSpec "literal" "orders.*" "TRUE")) ⟨0, 0⟩).2.perform
    (.add (renderedSpec "star" "*.new" "payload == 'x'")) ⟨1, 0⟩).2.perform
    (.add (renderedSpec "tail" ">" "TRUE")) ⟨2, 0⟩).2

/-- A filter that compares the payload with a number. -/
def faultySpec : RuleSpec := renderedSpec "star" "*.new" "payload > 1"

/-- The same rules with another filter in the middle. -/
def patternedFaulty : Registry := (patterned.perform (.update faultySpec) ⟨3, 0⟩).2

/-- An order whose payload is no number. -/
def newOrder : Event := ⟨"e", "orders.new", .empty, .string "x", true⟩

/-- The middle filter takes the event, or fails on it; the rules around it take the event in either
case. -/
theorem route_eq_full_scan_faulty :
    patternedFaulty.Reachable .empty ∧
      patternedFaulty.rules.map
          (fun x => (x.filter.evaluate newOrder .unlimited ⟨4, 0⟩).1.toOption) =
        [some true, none, some true] ∧
      (patterned.matchEvent newOrder .unlimited ⟨4, 0⟩).1.routeIds = ["literal", "star", "tail"] ∧
      (patternedFaulty.matchEvent newOrder .unlimited ⟨4, 0⟩).1.routeIds = ["literal", "tail"] ∧
      (patternedFaulty.route newOrder .unlimited ⟨4, 0⟩).1 =
        [⟨"literal", "queue", "literal/orders.new", []⟩, ⟨"tail", "queue", "tail/orders.new", []⟩] ∧
      (patternedFaulty.matchEvent newOrder .unlimited ⟨4, 0⟩).1.matched =
        (patternedFaulty.rules.filter fun x => x.pattern.accepts newOrder.subject &&
          (x.filter.evaluate newOrder .unlimited ⟨4, 0⟩).1.toOption == some true).map
          (fun x => ⟨x, x.expand newOrder⟩) ∧
      ∃ (first last : List RuleMatch) (x y : Rule),
        (patterned.matchEvent newOrder .unlimited ⟨4, 0⟩).1.matched =
          first ++ x.contribution newOrder .unlimited ⟨4, 0⟩ ++ last ∧
        (patternedFaulty.matchEvent newOrder .unlimited ⟨4, 0⟩).1.matched =
          first ++ y.contribution newOrder .unlimited ⟨4, 0⟩ ++ last := by
  have hr : patterned.Reachable .empty :=
    .step (.step (.step .empty (.perform _ _)) (.perform _ _)) (.perform _ _)
  have hr' : patternedFaulty.Reachable .empty := .step hr (.perform _ _)
  obtain ⟨y, hy⟩ := exists_eq_ok (x := Rule.compile .empty faultySpec .api ⟨3, 0⟩)
    (by decide +kernel)
  have htaken : isTaken patterned.rules faultySpec.routeId ⟨3, 0⟩ = true := by decide +kernel
  -- An update puts a rule in the place of another, so the two lists differ in that rule only.
  obtain ⟨before, x, after, hrules, hrules'⟩ :=
    rules_of_update hr hy ((isTaken_iff hr.coherent.distinct).mp htaken)
  have hindex := hr.coherent.indexed
  rw [hrules] at hindex
  have hindex' : patternedFaulty.index = _ := hr'.coherent.indexed
  rw [show patternedFaulty.rules = _ from hrules'] at hindex'
  obtain ⟨first, last, -, -, h₁, h₂, -⟩ := route_eq_full_scan.2 patterned patternedFaulty _ _
    before after x _ hindex hindex' newOrder .unlimited ⟨4, 0⟩
  exact ⟨hr', by decide +kernel, by decide +kernel, by decide +kernel, by decide +kernel,
    (route_eq_full_scan.1 .empty patternedFaulty hr' _ _ _).1, first, last, x, _, h₁, h₂⟩

end Registry

end Switchyard
