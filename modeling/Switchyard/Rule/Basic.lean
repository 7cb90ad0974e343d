import Switchyard.Filter.Compile
import Switchyard.Rule.Error
import Switchyard.Rule.Spec

/-!
# Rules

A rule is a definition that has been checked and compiled. `Rule.compile` says which definitions are
accepted and, of several faults, which one is reported.
-/

namespace Switchyard

/-- How a rule decides on the events of its subjects. -/
inductive RuleFilter where
  | always
  /-- Every field must have its value. -/
  | simple (conditions : List (Filter.Field × Value))
  | expression (e : Filter.Expression)

namespace RuleFilter

/-- The word for the kind of a filter. -/
def kind : RuleFilter → String
  | .always => "none"
  | .simple _ => "simple"
  | .expression _ => "expression"

/-- Whether a field has a value; null is no value. -/
def condition (event : Event) (c : Filter.Field × Value) : Bool :=
  match c.1.find? event with
  | some actual => !actual.isNull && !c.2.isNull && actual.strictEq c.2
  | none => false

/-- The verdict on an event, and what it took. -/
def evaluate (f : RuleFilter) (event : Event) (b : Filter.Budget) (now : Instant) :
    Filter.Verdict × Filter.Meter :=
  match f with
  | .always => (.ok true, .zero)
  | .simple conditions => (.ok (conditions.all (condition event)), .zero)
  | .expression e => e.evaluate event b now

end RuleFilter

/-- A target with its templates read. -/
structure TargetTemplate where
  kind : String
  destination : Template
  fields : List (String × Template)
deriving DecidableEq, Repr

/-- A compiled rule. Its definition has no life time left in it: that has become an expiry. -/
structure Rule where
  spec : RuleSpec
  pattern : SubjectPattern
  filter : RuleFilter
  targets : List TargetTemplate
  /-- The revision that published the rule; zero before it is published. -/
  revision : Nat
  source : RuleSource

namespace Rule

/-- The identifier of the rule. -/
def routeId (r : Rule) : String := r.spec.routeId

/-- When the rule ends, if it does. -/
def expiresAt (r : Rule) : Option Instant := r.spec.expiresAt

/-- Whether the rule has ended by now. -/
def isExpired (r : Rule) (now : Instant) : Bool :=
  r.expiresAt.any fun t => t.atOrBefore now

/-- The rule as of another revision. -/
def withRevision (r : Rule) (revision : Nat) : Rule := { r with revision }

/-- Whether the rule is what a definition stands for. A definition with a life time is never the
same as one that was read before. -/
def sameDefinition (r : Rule) (spec : RuleSpec) : Bool :=
  spec.ttlSeconds.isNone && r.spec.same spec

/-! ## Compiling -/

/-- The longest route identifier, in bytes. -/
def maxRouteIdLength : Nat := 128

/-- The first fault of the plain parts that can be seen without reading any of the texts. -/
def fault? (s : RuleSpec) : Option RuleFault :=
  if s.routeId = "" then some .emptyRouteId
  else if maxRouteIdLength < Text.byteLength s.routeId.toList || s.routeId.toList.any Text.isBlank
  then some .badRouteId
  else if s.targets.isEmpty then some .noTargets
  else if !s.filter.isEmpty && s.filterExpr.isSome then some .twoFilters
  else if s.expiresAt.isSome && s.ttlSeconds.isSome then some .twoExpiries
  else none

/-- The conditions of a simple filter. -/
def conditions : List (String × Document) → Except Filter.CompileError (List (Filter.Field × Value))
  | [] => .ok []
  | (path, literal) :: rest => do
    let field ← Filter.Field.parse path
    let more ← conditions rest
    .ok ((field, .ofJson literal.json) :: more)

/-- The filter of a definition. -/
def filterOf (fs : Filter.HostFunctions) (s : RuleSpec) :
    Except Filter.CompileError RuleFilter :=
  match s.filterExpr with
  | some text => (Filter.compile fs text).map .expression
  | none => if s.filter.isEmpty then .ok .always else (conditions s.filter.pairs).map .simple

/-- The templates of named fields. -/
def fieldTemplates : List (String × String) → Except TemplateError (List (String × Template))
  | [] => .ok []
  | (name, text) :: rest => do
    let t ← Template.parse text
    let more ← fieldTemplates rest
    .ok ((name, t) :: more)

/-- The target of a definition: its kind is checked first, then its fields and its destination. -/
def targetOf (routeId : String) (t : TargetSpec) : Except RegistryError TargetTemplate :=
  if (Text.trim t.kind.toList).isEmpty then .error (.invalidRule routeId .emptyTargetKind)
  else do
    let fields ← (fieldTemplates t.fields.pairs).mapError (.invalidTemplate routeId)
    let destination ← (Template.parse t.destination).mapError (.invalidTemplate routeId)
    .ok ⟨t.kind, destination, fields⟩

/-- The targets of a rule; of several at fault the first decides the error. -/
def targetsOf (routeId : String) : List TargetSpec → Except RegistryError (List TargetTemplate)
  | [] => .ok []
  | t :: ts => do
    let target ← targetOf routeId t
    let more ← targetsOf routeId ts
    .ok (target :: more)

/-- The definition with its life time turned into an expiry. -/
def resolveTtl? (s : RuleSpec) (now : Instant) : Option RuleSpec :=
  match s.ttlSeconds with
  | none => some s
  | some ttl =>
    (now.addSeconds? ttl.toNat).map fun t => { s with expiresAt := some t, ttlSeconds := none }

/-- Checks and compiles a definition. -/
def compile (fs : Filter.HostFunctions) (s : RuleSpec) (source : RuleSource) (now : Instant) :
    Except RegistryError Rule := do
  let id := s.routeId
  match fault? s with
  | some fault => .error (.invalidRule id fault)
  | none =>
    let pattern ← (SubjectPattern.parse s.subject).mapError (.invalidPattern id)
    let filter ← (filterOf fs s).mapError (.filterRejected id)
    let targets ← targetsOf id s.targets
    match resolveTtl? s now with
    | some spec => .ok { spec, pattern, filter, targets, revision := 0, source }
    | none => .error (.invalidRule id .ttlOutOfRange)

end Rule

end Switchyard
