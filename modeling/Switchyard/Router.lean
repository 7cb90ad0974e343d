import Switchyard.Config.Basic
import Switchyard.Delivery
import Switchyard.Registry.Reconcile

/-!
# The router

A registry, the limits its decisions are made under, and the forwarders that deliver. A router is
built from a configuration. A configuration that is read later changes the rules of the file and
nothing else: the limits stay as they were.
-/

namespace Switchyard

open Config

/-- What takes events and delivers them. -/
structure Router where
  registry : Registry
  budget : Filter.Budget
  /-- The milliseconds that a decision for a delivery may take. -/
  routeLimit : Option Nat
  forwarders : Forwarders

/-- The limits on one filter. -/
def Config.EvaluationSettings.budget (s : EvaluationSettings) : Filter.Budget :=
  ⟨some s.maxNodeVisits, s.evalLimit⟩

namespace Router

/-- Brings the rules of a configuration into the registry. -/
def reload (r : Router) (c : RouterConfig) (now : Instant) : SyncReport × Router :=
  let (report, registry) := r.registry.reconcile c.rules now
  (report, { r with registry })

/-- The router of a configuration, with its rules. -/
def build (c : RouterConfig) (functions : Filter.HostFunctions) (forwarders : Forwarders)
    (now : Instant) : Router :=
  let r : Router :=
    { registry := .empty functions, budget := c.evaluation.budget,
      routeLimit := c.evaluation.routeLimit, forwarders }
  (r.reload c now).2

/-- Decides on an event and delivers it, however long the decision takes. -/
def deliver (r : Router) (event : Event) (now : Instant) : Delivery × Decision :=
  let (targets, d) := r.registry.route event r.budget now
  (r.forwarders.deliverAll event targets, d)

/-- The report of a delivery. -/
def handle (r : Router) (event : Event) (now : Instant) : DeliveryReport × Decision :=
  let (delivery, d) := r.deliver event now
  (delivery.report, d)

/-- Decides on an event within the limit, if there is one, and delivers it. -/
def handleWithin (r : Router) (event : Event) (now : Instant) :
    Except DispatchError DeliveryReport × Decision :=
  match r.routeLimit with
  | none =>
    let (report, d) := r.handle event now
    (.ok report, d)
  | some limit =>
    let (result, d) := r.registry.routeWithin event r.budget now limit
    (result.map fun targets => (r.forwarders.deliverAll event targets).report, d)

/-- The router after a decision. -/
def after (r : Router) (d : Decision) : Router := { r with registry := r.registry.after d }

end Router

end Switchyard
