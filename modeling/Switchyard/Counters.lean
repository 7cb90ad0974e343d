import Switchyard.Json.Basic
import Switchyard.Rule.Spec

/-!
# Counters

What routing has done so far: totals over all events, and statistics for every route that is being
tracked. A route that is not tracked has no statistics, so what happens late on its behalf goes into
the totals alone.

* `stats?_track_of_ne`, `stats?_forget_of_ne`: tracking and forgetting touch one route only.
-/

namespace Switchyard

/-- The statistics of one route. -/
structure RouteStats where
  attempts : Nat
  matched : Nat
  errors : Nat
  lastMatched : Option Instant
deriving DecidableEq, Inhabited, Repr

/-- The totals over all routes. -/
structure Totals where
  eventsRouted : Nat
  matchAttempts : Nat
  rulesMatched : Nat
  budgetExceeded : Nat
  evalErrors : Nat
  compileFailures : Nat
  cancelled : Nat
deriving DecidableEq, Inhabited, Repr

/-- The totals and the statistics of the tracked routes. -/
structure Counters where
  totals : Totals
  routes : List (String × RouteStats)
deriving DecidableEq, Inhabited, Repr

namespace RouteStats

/-- The statistics of a route that has just been tracked. -/
def zero : RouteStats := ⟨0, 0, 0, none⟩

/-- The document of the statistics; a route that never matched has a null for the time. -/
def encode (s : RouteStats) : Json :=
  .object [("attempts", .whole s.attempts), ("matches", .whole s.matched),
    ("errors", .whole s.errors), ("last_matched", s.lastMatched.elim .null Instant.encode)]

end RouteStats

namespace Totals

/-- The totals before any event. -/
def zero : Totals := ⟨0, 0, 0, 0, 0, 0, 0⟩

/-- The document of the totals. -/
def encode (t : Totals) : Json :=
  .object [("events_routed", .whole t.eventsRouted), ("match_attempts", .whole t.matchAttempts),
    ("rules_matched", .whole t.rulesMatched), ("budget_exceeded", .whole t.budgetExceeded),
    ("eval_errors", .whole t.evalErrors), ("compile_failures", .whole t.compileFailures),
    ("cancelled", .whole t.cancelled)]

end Totals

namespace Counters

/-- The counters of a registry without a history. -/
def zero : Counters := ⟨.zero, []⟩

/-- The statistics of a route, if it is tracked. -/
def stats? (c : Counters) (routeId : String) : Option RouteStats := Assoc.find? routeId c.routes

/-- Starts the statistics of a route; one that is tracked already keeps what it has. -/
def track (c : Counters) (routeId : String) : Counters :=
  if Assoc.contains routeId c.routes then c
  else { c with routes := Assoc.insert routeId .zero c.routes }

/-- Drops the statistics of a route. -/
def forget (c : Counters) (routeId : String) : Counters :=
  { c with routes := Assoc.erase routeId c.routes }

/-- Changes the statistics of a route, if it is tracked. -/
def note (c : Counters) (routeId : String) (f : RouteStats → RouteStats) : Counters :=
  { c with routes := Assoc.modify routeId f c.routes }

/-- Changes the totals. -/
def total (c : Counters) (f : Totals → Totals) : Counters := { c with totals := f c.totals }

/-- The filter of a route was run. -/
def matchAttempt (c : Counters) (routeId : String) : Counters :=
  (c.total fun t => { t with matchAttempts := t.matchAttempts + 1 }).note routeId
    fun s => { s with attempts := s.attempts + 1 }

/-- A route took an event. -/
def ruleMatched (c : Counters) (routeId : String) (now : Instant) : Counters :=
  (c.total fun t => { t with rulesMatched := t.rulesMatched + 1 }).note routeId
    fun s => { s with matched := s.matched + 1, lastMatched := some now }

/-- The filter of a route failed. -/
def routeError (c : Counters) (routeId : String) : Counters :=
  c.note routeId fun s => { s with errors := s.errors + 1 }

/-- The filter of a route went over its budget. -/
def budgetExceeded (c : Counters) (routeId : String) : Counters :=
  (c.total fun t => { t with budgetExceeded := t.budgetExceeded + 1 }).routeError routeId

/-- The filter of a route had an error of its own. -/
def evalError (c : Counters) (routeId : String) : Counters :=
  (c.total fun t => { t with evalErrors := t.evalErrors + 1 }).routeError routeId

/-- A definition was refused. -/
def compileFailure (c : Counters) : Counters :=
  c.total fun t => { t with compileFailures := t.compileFailures + 1 }

/-- The routing of an event was finished. -/
def eventRouted (c : Counters) : Counters :=
  c.total fun t => { t with eventsRouted := t.eventsRouted + 1 }

/-- The routing of an event was given up. -/
def eventCancelled (c : Counters) : Counters :=
  c.total fun t => { t with cancelled := t.cancelled + 1 }

theorem stats?_track_of_ne {a b : String} (h : a ≠ b) (c : Counters) :
    (c.track b).stats? a = c.stats? a := by
  unfold track stats?
  split
  · rfl
  · exact Assoc.find?_insert_of_ne h _ _

theorem stats?_forget_of_ne {a b : String} (h : a ≠ b) (c : Counters) :
    (c.forget b).stats? a = c.stats? a := by
  unfold forget stats? Assoc.erase
  induction c.routes with
  | nil => rfl
  | cons p rest ih =>
    obtain ⟨k, s⟩ := p
    by_cases hk : k = b
    · subst hk
      simpa [Assoc.find?, h] using ih
    · by_cases ha : a = k
      · simp [Assoc.find?, hk, ha]
      · simpa [Assoc.find?, hk, ha] using ih

end Counters

end Switchyard
