import Switchyard.Admin.Request
import Switchyard.Router

/-!
# The control interface

What each action answers and does. Commands and deletions go to the registry; its errors are
answered with a status of their own. Trying out an event decides on it, and so counts, but delivers
nothing and changes no rule.

* `Router.respond`: the answer to a request, and the router after it.
-/

namespace Switchyard.Admin

/-- The answer to a request. -/
structure Response where
  status : Nat
  body : Option Json
deriving Inhabited, Repr

/-- The version of the interface. -/
def version : String := "0.1.0"

/-- The HTTP status of an error of the registry. -/
def errorStatus : RegistryError → Nat
  | .duplicateRoute _ => 409
  | .routeNotFound _ => 404
  | _ => 422

namespace Response

/-- A document with status 200. -/
def ok (j : Json) : Response := ⟨200, some j⟩

/-- The status of a refusal, without a document. -/
def refused (r : Refusal) : Response := ⟨r.status, none⟩

/-- An error of the registry, with its kind and text. -/
def failed (e : RegistryError) : Response :=
  ⟨errorStatus e, some (.object [("error", .string e.kind), ("message", .string e.message)])⟩

/-- The answer to a command: a rule that was added has been created. -/
def outcome (o : CommandOutcome) : Response :=
  match o with
  | .added .. => ⟨201, some o.encode⟩
  | _ => ⟨200, some o.encode⟩

end Response

/-- A rule as it is shown. -/
def ruleView (r : Rule) : Json :=
  .object ([("route_id", .string r.spec.routeId), ("subject", .string r.spec.subject),
      ("filter_kind", .string r.filter.kind)] ++
    memberUnless r.spec.filter.isEmpty "filter" r.spec.filterDocument ++
    optionalMember "filter_expr" .string r.spec.filterExpr ++
    optionalMember "expires_at" Instant.encode r.expiresAt ++
    [("revision", .whole r.revision), ("source", .string r.source.name),
      ("targets", .array (r.spec.targets.map TargetSpec.encode))])

/-- The state of the router in short, but for the time at which it was started. -/
def statusView (r : Registry) : Json :=
  .object [("version", .string version), ("status", .string "operational"),
    ("rules", .whole r.index.size), ("revision", .whole r.revision)]

/-- The counters as they are shown. -/
def statsView (c : Counters) : Json :=
  .object [("totals", c.totals.encode),
    ("routes", .object (c.routes.map fun (routeId, s) => (routeId, s.encode)))]

/-- A decision as it is shown. -/
def matchView (event : Event) (m : MatchResult) : Json :=
  .object [("event_id", .string event.id), ("revision", .whole m.revision),
    ("matches", .array (m.matched.map fun x =>
      .object [("route_id", .string x.rule.routeId), ("revision", .whole x.rule.revision),
        ("targets", .array (x.targets.map ForwardTarget.encode))]))]

/-- Carries out a command and answers it. -/
def applied (r : Router) (c : RuleCommand) (now : Instant) : Response × Router :=
  match r.registry.apply c now with
  | (.ok o, registry) => (.outcome o, { r with registry })
  | (.error e, registry) => (.failed e, { r with registry })

/-- Carries out an action and answers it. -/
def perform (r : Router) (a : Action) (now : Instant) : Response × Router :=
  match a with
  | .status => (.ok (statusView r.registry), r)
  | .list => (.ok (.array (r.registry.rules.map ruleView)), r)
  | .get routeId =>
    match r.registry.find? routeId with
    | some rule => (.ok (ruleView rule), r)
    | none => (.failed (.routeNotFound routeId), r)
  | .stats => (.ok (statsView r.registry.counters), r)
  | .command c => applied r c now
  | .delete routeId => applied r (.remove routeId) now
  | .tryOut event =>
    let (m, d) := r.registry.matchEvent event r.budget now
    (.ok (matchView event m), r.after d)

/-- Answers a request. -/
def respond (key : String) (r : Router) (req : Request) (now : Instant) : Response × Router :=
  match req.action key with
  | .error refusal => (.refused refusal, r)
  | .ok a =>
    let (response, r) := perform r a now
    if req.method = "HEAD" then ({ response with body := none }, r) else (response, r)

end Switchyard.Admin
