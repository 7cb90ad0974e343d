import Switchyard.Counters
import Switchyard.Registry.Index
import Switchyard.Rule.Command

/-!
# The registry

The rules that are in force, in the order in which they were added. Every change that is published
makes a new revision; a change that is refused leaves the rules as they are. A rule that has expired
counts as absent for additions and updates, although it stays in the list until it is swept out.

Statistics are kept for exactly the routes in the list.
-/

namespace Switchyard

/-- The rules in force, the host functions their filters may call, and the counters. -/
structure Registry where
  functions : Filter.HostFunctions
  index : RuleIndex
  counters : Counters

/-- What a write asks for when the identifier is taken or free. -/
inductive WriteMode where
  /-- The identifier must be free. -/
  | add
  | upsert
  /-- The identifier must be taken. -/
  | update
deriving DecidableEq, Repr

/-- A published rule: its revision, and whether it took the place of a rule in force. -/
structure Published where
  revision : Nat
  replaced : Bool
deriving DecidableEq, Repr

namespace Registry

/-- The registry without rules, at revision zero. -/
def empty (fs : Filter.HostFunctions) : Registry := ⟨fs, .empty, .zero⟩

/-- The rules in their order. -/
def rules (r : Registry) : List Rule := r.index.rules

/-- The revision of the rules. -/
def revision (r : Registry) : Nat := r.index.revision

/-- The rule with an identifier, expired or not. -/
def find? (r : Registry) (routeId : String) : Option Rule := r.index.find? routeId

/-- Publishes a list of rules under a new revision. -/
def commit (r : Registry) (rules : List Rule) : Registry :=
  { r with index := .build rules (r.revision + 1) }

/-- Compiles a definition; a refusal is counted. -/
def compile (r : Registry) (s : RuleSpec) (source : RuleSource) (now : Instant) :
    Except RegistryError Rule × Registry :=
  match Rule.compile r.functions s source now with
  | .ok rule => (.ok rule, r)
  | .error e => (.error e, { r with counters := r.counters.compileFailure })

/-- The rule of an identifier in a list. -/
def holder? (rules : List Rule) (routeId : String) : Option Rule :=
  rules.find? fun x => x.routeId == routeId

/-- Whether a rule in force has an identifier. -/
def isTaken (rules : List Rule) (routeId : String) (now : Instant) : Bool :=
  (holder? rules routeId).any fun x => !x.isExpired now

/-- The rules without those of an identifier. -/
def without (rules : List Rule) (routeId : String) : List Rule :=
  rules.filter fun x => x.routeId != routeId

/-- The rules with the one of the same identifier replaced where it stands. -/
def replaced (rules : List Rule) (rule : Rule) : List Rule :=
  rules.map fun x => if x.routeId == rule.routeId then rule else x

/-- The rules with one put in: in place of a rule in force, else at the end. -/
def place (rules : List Rule) (rule : Rule) (now : Instant) : List Rule :=
  if isTaken rules rule.routeId now then replaced rules rule
  else without rules rule.routeId ++ [rule]

/-- Compiles and publishes a definition. -/
def publish (r : Registry) (s : RuleSpec) (source : RuleSource) (mode : WriteMode)
    (now : Instant) : Except RegistryError Published × Registry :=
  match r.compile s source now with
  | (.error e, r) => (.error e, r)
  | (.ok rule, r) =>
    let taken := isTaken r.rules s.routeId now
    match mode, taken with
    | .add, true => (.error (.duplicateRoute s.routeId), r)
    | .update, false => (.error (.routeNotFound s.routeId), r)
    | _, _ =>
      let revision := r.revision + 1
      let rules := place r.rules (rule.withRevision revision) now
      (.ok ⟨revision, taken⟩, { r.commit rules with counters := r.counters.track s.routeId })

/-- Adds a rule; the identifier must be free. -/
def add (r : Registry) (s : RuleSpec) (now : Instant) : Except RegistryError Published × Registry :=
  r.publish s .api .add now

/-- Adds a rule, in place of the one in force if there is one. -/
def addOrReplace (r : Registry) (s : RuleSpec) (now : Instant) :
    Except RegistryError Published × Registry :=
  r.publish s .api .upsert now

/-- Replaces a rule in force. -/
def update (r : Registry) (s : RuleSpec) (now : Instant) :
    Except RegistryError Published × Registry :=
  r.publish s .api .update now

/-- Takes the rules that fail a test out of the list, with their statistics. Nothing is published
if there are none. -/
def keepOnly (r : Registry) (keep : Rule → Bool) : Registry :=
  let gone := r.rules.filter fun x => !keep x
  if gone.isEmpty then r
  else
    { r.commit (r.rules.filter keep) with
      counters := gone.foldl (fun c x => c.forget x.routeId) r.counters }

/-- Removes a rule, in force or not. Also says whether there was one. -/
def remove (r : Registry) (routeId : String) : Bool × Registry :=
  ((holder? r.rules routeId).isSome, r.keepOnly fun x => x.routeId != routeId)

/-- Removes the rules that have expired. Also says how many. -/
def sweep (r : Registry) (now : Instant) : Nat × Registry :=
  ((r.rules.filter fun x => x.isExpired now).length, r.keepOnly fun x => !x.isExpired now)

/-- The definitions of the rules in force. -/
def exported (r : Registry) (now : Instant) : List RuleSpec :=
  (r.rules.filter fun x => !x.isExpired now).map (·.spec)

/-- Carries out a command. -/
def apply (r : Registry) (c : RuleCommand) (now : Instant) :
    Except RegistryError CommandOutcome × Registry :=
  match c with
  | .add s replace =>
    let (result, r) := r.publish s .api (if replace then .upsert else .add) now
    (result.map fun p =>
      if p.replaced then .replaced s.routeId p.revision else .added s.routeId p.revision, r)
  | .update s =>
    let (result, r) := r.update s now
    (result.map fun p => .updated s.routeId p.revision, r)
  | .remove routeId =>
    match r.remove routeId with
    | (true, r) => (.ok (.removed routeId), r)
    | (false, r) => (.error (.routeNotFound routeId), r)

end Registry

end Switchyard
