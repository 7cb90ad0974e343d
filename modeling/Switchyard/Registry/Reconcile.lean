import Switchyard.Registry.Basic

/-!
# Reconciling the rules of a file

The rules that a configuration declares are brought into the registry in one step. Only rules that
came from a file are added, replaced or removed; an identifier that the control plane has taken is
reported and left alone. A declaration that is refused leaves the rule of an earlier one in force.
-/

namespace Switchyard

/-- Why a declaration is not used. -/
inductive Rejection where
  | declaredTwice
  | refused (error : RegistryError)
deriving DecidableEq, Repr

/-- The text of the reason. -/
def Rejection.message : Rejection → String
  | .declaredTwice => "route_id declared twice"
  | .refused e => e.message

/-- What reconciling has done. -/
structure SyncReport where
  added : List String
  updated : List String
  removed : List String
  unchanged : Nat
  rejected : List (String × Rejection)
  conflicts : List String
deriving DecidableEq, Repr

namespace SyncReport

/-- The report before any declaration. -/
def empty : SyncReport := ⟨[], [], [], 0, [], []⟩

/-- Whether the rules are different now. -/
def hasChanges (s : SyncReport) : Bool :=
  !(s.added.isEmpty && s.updated.isEmpty && s.removed.isEmpty)

/-- The document of the report; a rejection is a pair of an identifier and a text. -/
def encode (s : SyncReport) : Json :=
  let names (ids : List String) : Json := .array (ids.map .string)
  .object [("added", names s.added), ("updated", names s.updated), ("removed", names s.removed),
    ("unchanged", .whole s.unchanged),
    ("rejected", .array (s.rejected.map fun p =>
      .array [.string p.1, .string p.2.message])),
    ("conflicts", names s.conflicts)]

end SyncReport

namespace Registry

/-- Declarations that have been compiled, with those rejected, and the registry that counted the
refusals. -/
structure Declared where
  registry : Registry
  accepted : List (RuleSpec × Rule)
  rejected : List (String × Rejection)

/-- Compiles declarations in order; `seen` are the identifiers declared before them. -/
def declare (now : Instant) (seen : List String) : List RuleSpec → Declared → Declared
  | [], d => d
  | s :: rest, d =>
    if seen.contains s.routeId then
      declare now seen rest { d with rejected := d.rejected ++ [(s.routeId, .declaredTwice)] }
    else
      let seen := s.routeId :: seen
      match d.registry.compile s .file now with
      | (.ok rule, registry) =>
        declare now seen rest { d with registry, accepted := d.accepted ++ [(s, rule)] }
      | (.error e, registry) =>
        declare now seen rest
          { d with registry, rejected := d.rejected ++ [(s.routeId, .refused e)] }

/-- The rules, counters and report while declarations are brought in one by one. -/
structure Merging where
  rules : List Rule
  counters : Counters
  report : SyncReport

/-- Brings in one declaration. -/
def mergeOne (revision : Nat) (m : Merging) (declared : RuleSpec × Rule) : Merging :=
  let (s, rule) := declared
  let id := s.routeId
  let rule := rule.withRevision revision
  match holder? m.rules id with
  | none =>
    { rules := m.rules ++ [rule], counters := m.counters.track id,
      report := { m.report with added := m.report.added ++ [id] } }
  | some x =>
    if x.source = .api then
      { m with report := { m.report with conflicts := m.report.conflicts ++ [id] } }
    else if x.sameDefinition s then
      { m with report := { m.report with unchanged := m.report.unchanged + 1 } }
    else
      { rules := replaced m.rules rule, counters := m.counters.track id,
        report := { m.report with updated := m.report.updated ++ [id] } }

/-- Whether a rule came from a file that no longer declares it. -/
def isStale (specs : List RuleSpec) (rule : Rule) : Bool :=
  rule.source == .file && !(specs.map (·.routeId)).contains rule.routeId

/-- Brings the declared rules into the registry. -/
def reconcile (r : Registry) (specs : List RuleSpec) (now : Instant) : SyncReport × Registry :=
  let d := declare now [] specs ⟨r, [], []⟩
  let r := d.registry
  let stale := r.rules.filter (isStale specs)
  let start : Merging :=
    { rules := r.rules.filter fun x => !isStale specs x
      counters := stale.foldl (fun c x => c.forget x.routeId) r.counters
      report := { SyncReport.empty with
        removed := stale.map (·.routeId), rejected := d.rejected } }
  let m := d.accepted.foldl (mergeOne (r.revision + 1)) start
  if m.report.hasChanges then (m.report, { r.commit m.rules with counters := m.counters })
  else (m.report, { r with counters := m.counters })

end Registry

end Switchyard
