import Switchyard.Subject
import Switchyard.Template

/-!
# Errors of the registry

Why a rule definition or a change to the registry is refused. Two causes are conflicts with what the
registry holds; all others are faults of the definition itself.
-/

namespace Switchyard

/-- What is wrong with the plain parts of a definition. -/
inductive RuleFault where
  | emptyRouteId
  | badRouteId
  | noTargets
  | twoFilters
  | twoExpiries
  | emptyTargetKind
  | ttlOutOfRange
deriving DecidableEq, Repr

/-- The text of the fault. -/
def RuleFault.message : RuleFault → String
  | .emptyRouteId => "route_id must not be empty"
  | .badRouteId => "route_id must be at most 128 characters without whitespace"
  | .noTargets => "rule needs at least one forward target"
  | .twoFilters => "filter and filter_expr are mutually exclusive"
  | .twoExpiries => "expires_at and ttl_secs are mutually exclusive"
  | .emptyTargetKind => "target kind must not be empty"
  | .ttlOutOfRange => "ttl_secs out of range"

/-- Why a definition or a change is refused. -/
inductive RegistryError where
  | duplicateRoute (routeId : String)
  | routeNotFound (routeId : String)
  | invalidPattern (routeId : String) (error : SubjectError)
  | filterRejected (routeId : String) (error : Filter.CompileError)
  | invalidRule (routeId : String) (fault : RuleFault)
  | invalidTemplate (routeId : String) (error : TemplateError)
deriving DecidableEq, Repr

namespace RegistryError

/-- The name of the kind of an error. -/
def kind : RegistryError → String
  | .duplicateRoute _ => "duplicate_route"
  | .routeNotFound _ => "route_not_found"
  | .invalidPattern .. => "invalid_pattern"
  | .filterRejected _ e => if e.fault.isTypeFault then "type_error" else "syntax_error"
  | .invalidRule .. => "invalid_rule"
  | .invalidTemplate .. => "invalid_template"

/-- The text of the error; it names the route. -/
def message : RegistryError → String
  | .duplicateRoute id => s!"route '{id}' already exists"
  | .routeNotFound id => s!"route '{id}' not found"
  | .invalidPattern id e => s!"route '{id}': {e.message}"
  | .filterRejected id e => s!"route '{id}': filter rejected: {e.message}"
  | .invalidRule id fault => s!"route '{id}': {fault.message}"
  | .invalidTemplate id e => s!"route '{id}': invalid template: {e.message}"

/-- A fault of the definition, as opposed to a conflict with the registry. -/
def isDefinitionError : RegistryError → Bool
  | .duplicateRoute _ | .routeNotFound _ => false
  | _ => true

end RegistryError

end Switchyard
