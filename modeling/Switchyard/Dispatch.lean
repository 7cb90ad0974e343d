import Switchyard.Registry.Basic

/-!
# Deciding where an event goes

Every rule whose pattern accepts the subject and whose filter holds contributes its targets, in the
order of the rules. A filter that fails or goes over its budget counts as one that does not hold,
and touches no other rule.

A decision can be given up: before each candidate rule it asks whether to go on, and if not it has
no result at all.
-/

namespace Switchyard

/-- Where an event is to be delivered. -/
structure ForwardTarget where
  routeId : String
  kind : String
  destination : String
  fields : List (String × String)
deriving DecidableEq, Inhabited, Repr

/-- The document of a target. -/
def ForwardTarget.encode (t : ForwardTarget) : Json :=
  .object [("route_id", .string t.routeId), ("kind", .string t.kind),
    ("destination", .string t.destination),
    ("resolved_fields", .object (t.fields.map fun (k, v) => (k, Json.string v)))]

/-- A rule that takes an event, and its targets for it. -/
structure RuleMatch where
  rule : Rule
  targets : List ForwardTarget

/-- The decision on an event: the revision it was made at and the rules that take it. -/
structure MatchResult where
  revision : Nat
  matched : List RuleMatch

namespace MatchResult

/-- The identifiers of the rules that take the event. -/
def routeIds (m : MatchResult) : List String := m.matched.map (·.rule.routeId)

/-- The targets of all rules, in order. -/
def targets (m : MatchResult) : List ForwardTarget := m.matched.flatMap (·.targets)

end MatchResult

/-- Why there is no decision. -/
inductive DispatchError where
  | cancelled
  | deadlineExceeded (millis : Nat)
deriving DecidableEq, Repr

namespace DispatchError

/-- The word for the reason. -/
def kind : DispatchError → String
  | .cancelled => "cancelled"
  | .deadlineExceeded _ => "deadline_exceeded"

/-- The text of the reason. -/
def message : DispatchError → String
  | .cancelled => "routing cancelled"
  | .deadlineExceeded millis => s!"routing exceeded deadline of {millis}ms"

end DispatchError

namespace Rule

/-- The targets of a rule for an event. -/
def expand (r : Rule) (event : Event) : List ForwardTarget :=
  r.targets.map fun t =>
    { routeId := r.routeId, kind := t.kind, destination := t.destination.render event r.routeId,
      fields := t.fields.map fun (name, template) => (name, template.render event r.routeId) }

/-- Counts what the filter of a rule made of an event. -/
def count (r : Rule) (v : Filter.Verdict) (now : Instant) (c : Counters) : Counters :=
  let c := c.matchAttempt r.routeId
  match v with
  | .ok true => c.ruleMatched r.routeId now
  | .ok false => c
  | .error e => if e.isOverrun then c.budgetExceeded r.routeId else c.evalError r.routeId

end Rule

/-- When a decision asks whether to go on: how often it has asked before, and the time that host
functions have taken so far. -/
structure Poll where
  number : Nat
  millis : Nat
deriving DecidableEq, Repr

/-- A decision under way, or at its end. -/
structure Decision where
  matched : List RuleMatch
  counters : Counters
  poll : Poll
  /-- The calls of host functions, in order. -/
  calls : List (String × List Value)
  isCancelled : Bool

namespace Decision

/-- A decision before its first candidate. -/
def start (c : Counters) : Decision := ⟨[], c, ⟨0, 0⟩, [], false⟩

/-- Runs the filter of a rule whose pattern accepts the subject. -/
def consider (event : Event) (b : Filter.Budget) (now : Instant) (rule : Rule) (d : Decision) :
    Decision :=
  let (verdict, meter) := rule.filter.evaluate event b now
  { d with
    matched := if verdict.toOption = some true then d.matched ++ [⟨rule, rule.expand event⟩]
      else d.matched
    counters := rule.count verdict now d.counters
    poll := { d.poll with millis := d.poll.millis + meter.millis }
    calls := d.calls ++ meter.calls }

/-- Goes through the candidates that are left; `stop` says whether to give up. -/
def run (event : Event) (b : Filter.Budget) (now : Instant) (stop : Poll → Bool) :
    List Rule → Decision → Decision
  | [], d => { d with counters := d.counters.eventRouted }
  | rule :: rules, d =>
    if stop d.poll then { d with isCancelled := true }
    else
      let d := { d with poll := { d.poll with number := d.poll.number + 1 } }
      let d := if rule.pattern.accepts event.subject then d.consider event b now rule else d
      run event b now stop rules d

end Decision

namespace Registry

/-- Decides on an event, unless `stop` says to give up. -/
def decide (r : Registry) (event : Event) (b : Filter.Budget) (now : Instant)
    (stop : Poll → Bool) : Decision :=
  Decision.run event b now stop (r.index.candidates event.subject).toList (.start r.counters)

/-- The registry after a decision. -/
def after (r : Registry) (d : Decision) : Registry := { r with counters := d.counters }

/-- The rules that take an event. -/
def matchEvent (r : Registry) (event : Event) (b : Filter.Budget) (now : Instant) :
    MatchResult × Decision :=
  let d := r.decide event b now fun _ => false
  (⟨r.revision, d.matched⟩, d)

/-- The targets of an event. -/
def route (r : Registry) (event : Event) (b : Filter.Budget) (now : Instant) :
    List ForwardTarget × Decision :=
  let (m, d) := r.matchEvent event b now
  (m.targets, d)

/-- The targets of an event, or none of them if `stop` says to give up; that is counted. -/
def routeCancellable (r : Registry) (event : Event) (b : Filter.Budget) (now : Instant)
    (stop : Poll → Bool) : Except DispatchError (List ForwardTarget) × Decision :=
  let d := r.decide event b now stop
  if d.isCancelled then
    (.error .cancelled, { d with counters := d.counters.eventCancelled })
  else (.ok (d.matched.flatMap (·.targets)), d)

/-- The targets of an event, if the decision takes less than a number of milliseconds. When the time
is over the decision is given up at the next rule. -/
def routeWithin (r : Registry) (event : Event) (b : Filter.Budget) (now : Instant)
    (limit : Nat) : Except DispatchError (List ForwardTarget) × Decision :=
  let (result, d) := r.routeCancellable event b now fun p => limit ≤ p.millis
  if limit ≤ d.poll.millis then (.error (.deadlineExceeded limit), d) else (result, d)

end Registry

end Switchyard
