import Switchyard.Config.Basic
import Switchyard.Config.LogFilter
import Switchyard.Config.SocketAddress
import Switchyard.Subject
import Switchyard.Toml.Reader

/-!
# Validating a configuration

A configuration that can be decoded may still hold settings that make no sense. All of them are
reported, in the order of the sections. Filters are not looked at; a rule whose filter is refused is
a matter of the registry.

* `RouterConfig.issues`: what is wrong with a configuration.
* `RouterConfig.parse`: the configuration of a TOML text.
-/

namespace Switchyard.Config

/-- What is wrong with a setting. -/
inductive Fault where
  | badAddress (text : String)
  | badLogFilter (text : String)
  | emptyText
  | zero
  | duplicateRoute (routeId : String)
  | subject (fault : SubjectFault)
  | noTargets
deriving DecidableEq, Repr

/-- The text of the fault. -/
def Fault.message : Fault → String
  | .badAddress text => s!"'{text}' is not a socket address"
  | .badLogFilter text => s!"'{text}' is not a valid filter directive"
  | .emptyText => "must not be empty"
  | .zero => "must be > 0"
  | .duplicateRoute routeId => s!"duplicate route_id '{routeId}'"
  | .subject fault => fault.message
  | .noTargets => "at least one target required"

/-- A setting, by its path, and what is wrong with it. -/
structure Issue where
  field : String
  fault : Fault
deriving DecidableEq, Repr

/-- The text of the issue: where it is and what it is. -/
def Issue.message (i : Issue) : String := i.field ++ ": " ++ i.fault.message

/-- A fault of a field, reported if a condition holds. -/
def issueIf (condition : Bool) (field : String) (fault : Fault) : List Issue :=
  if condition then [⟨field, fault⟩] else []

/-- What is wrong with the interface. Nothing is looked at if it is turned off. -/
def AdminSettings.issues (s : AdminSettings) : List Issue :=
  if s.isEnabled then
    issueIf (!isSocketAddress s.bindAddress) "admin.bind_address" (.badAddress s.bindAddress) ++
      issueIf (Text.trim s.apiKey.toList).isEmpty "admin.api_key" .emptyText
  else []

/-- What is wrong with the settings of logs and metrics. The address counts if metrics are on. -/
def ObservabilitySettings.issues (s : ObservabilitySettings) : List Issue :=
  issueIf (!isLogFilter s.logLevel) "observability.log_level" (.badLogFilter s.logLevel) ++
    issueIf (s.metricsEnabled && !isSocketAddress s.metricsAddress)
      "observability.metrics_address" (.badAddress s.metricsAddress)

/-- What is wrong with a rule; `before` are the rules declared before it. -/
def ruleIssues (before : List RuleSpec) (s : RuleSpec) : List Issue :=
  let field (name : String) : String := s!"rules[{before.length}].{name}"
  let isSeen := (before.map (·.routeId)).contains s.routeId
  let subject := match SubjectPattern.parse s.subject with
    | .ok _ => []
    | .error e => [Issue.mk (field "subject") (.subject e.fault)]
  issueIf (s.routeId == "") (field "route_id") .emptyText ++
    issueIf (s.routeId != "" && isSeen) (field "route_id") (.duplicateRoute s.routeId) ++
    subject ++ issueIf s.targets.isEmpty (field "targets") .noTargets

/-- What is wrong with rules, of which some have been looked at. -/
def rulesIssues (before : List RuleSpec) : List RuleSpec → List Issue
  | [] => []
  | s :: rest => ruleIssues before s ++ rulesIssues (before ++ [s]) rest

/-- What is wrong with a configuration. -/
def RouterConfig.issues (c : RouterConfig) : List Issue :=
  c.admin.issues ++ c.observability.issues ++
    issueIf (c.registry.sweepInterval == 0) "registry.sweep_interval_secs" .zero ++
    issueIf (c.evaluation.maxNodeVisits == 0) "evaluation.max_node_visits" .zero ++
    rulesIssues [] c.rules

/-- Why there is no configuration. -/
inductive Error where
  | unreadable
  | malformed
  | invalid (issues : List Issue)
deriving DecidableEq, Repr

/-- The text of the issues of a configuration. -/
def issuesMessage (issues : List Issue) : String :=
  "Validation failed: " ++ ", ".intercalate (issues.map Issue.message)

/-- The configuration, if nothing is wrong with it. -/
def RouterConfig.validated (c : RouterConfig) : Except Error RouterConfig :=
  if c.issues.isEmpty then .ok c else .error (.invalid c.issues)

/-- The configuration of a TOML text. -/
def RouterConfig.parse (text : String) : Except Error RouterConfig :=
  match (Toml.read? text).bind (RouterConfig.decoder false) with
  | some c => c.validated
  | none => .error .malformed

/-- The configuration of a file, given its text if there is one that can be read. -/
def RouterConfig.load (text? : Option String) : Except Error RouterConfig :=
  match text? with
  | some text => parse text
  | none => .error .unreadable

end Switchyard.Config
