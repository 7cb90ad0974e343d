import Switchyard.Rule.Spec

/-!
# Configuration

The settings of a router: the control interface, logging and metrics, maintenance of the registry,
limits on evaluation, and the rules of the file. Every section and every setting but the rules' own
members may be left out.
-/

namespace Switchyard.Config

/-- Whether and where the control interface listens, and its key. -/
structure AdminSettings where
  isEnabled : Bool
  apiKey : String
  bindAddress : String
deriving DecidableEq, Inhabited, Repr

/-- What is logged, and where the counters can be read. -/
structure ObservabilitySettings where
  logLevel : String
  jsonLogs : Bool
  metricsEnabled : Bool
  metricsAddress : String
deriving DecidableEq, Inhabited, Repr

/-- How often expired rules are swept. -/
structure RegistrySettings where
  /-- The seconds between two sweeps. -/
  sweepInterval : Nat
deriving DecidableEq, Inhabited, Repr

/-- The limits on filters and decisions. -/
structure EvaluationSettings where
  maxNodeVisits : Nat
  /-- The milliseconds that one filter may take; zero is no limit. -/
  maxEvalMillis : Nat
  /-- The milliseconds that one decision may take; zero is no limit. -/
  routeTimeout : Nat
deriving DecidableEq, Inhabited, Repr

/-- The configuration of a router. -/
structure RouterConfig where
  admin : AdminSettings
  observability : ObservabilitySettings
  registry : RegistrySettings
  evaluation : EvaluationSettings
  rules : List RuleSpec
deriving Inhabited, Repr

namespace AdminSettings

/-- The settings of a file that says nothing about the interface. -/
def default : AdminSettings := ⟨false, "CHANGE_ME_IN_PRODUCTION", "127.0.0.1:8081"⟩

/-- The document of the settings. -/
def encode (s : AdminSettings) : Json :=
  .object [("enabled", .bool s.isEnabled), ("api_key", .string s.apiKey),
    ("bind_address", .string s.bindAddress)]

/-- The settings in a document; what it leaves out has its default. -/
def decoder (isStrict : Bool) : Decoder AdminSettings := fun j => do
  let r ← Record.ofJson? isStrict ["enabled", "api_key", "bind_address"] j
  some {
    isEnabled := ← r.withDefault "enabled" .bool default.isEnabled
    apiKey := ← r.withDefault "api_key" .string default.apiKey
    bindAddress := ← r.withDefault "bind_address" .string default.bindAddress }

end AdminSettings

namespace ObservabilitySettings

/-- The settings of a file that says nothing about logs and metrics. -/
def default : ObservabilitySettings := ⟨"info", false, false, "0.0.0.0:9090"⟩

/-- The document of the settings. -/
def encode (s : ObservabilitySettings) : Json :=
  .object [("log_level", .string s.logLevel), ("json_logs", .bool s.jsonLogs),
    ("metrics_enabled", .bool s.metricsEnabled), ("metrics_address", .string s.metricsAddress)]

/-- The settings in a document; what it leaves out has its default. -/
def decoder (isStrict : Bool) : Decoder ObservabilitySettings := fun j => do
  let r ← Record.ofJson? isStrict
    ["log_level", "json_logs", "metrics_enabled", "metrics_address"] j
  some {
    logLevel := ← r.withDefault "log_level" .string default.logLevel
    jsonLogs := ← r.withDefault "json_logs" .bool default.jsonLogs
    metricsEnabled := ← r.withDefault "metrics_enabled" .bool default.metricsEnabled
    metricsAddress := ← r.withDefault "metrics_address" .string default.metricsAddress }

end ObservabilitySettings

namespace RegistrySettings

/-- The settings of a file that says nothing about the registry. -/
def default : RegistrySettings := ⟨5⟩

/-- The document of the settings. -/
def encode (s : RegistrySettings) : Json :=
  .object [("sweep_interval_secs", .whole s.sweepInterval)]

/-- The settings in a document; what it leaves out has its default. -/
def decoder (isStrict : Bool) : Decoder RegistrySettings := fun j => do
  let r ← Record.ofJson? isStrict ["sweep_interval_secs"] j
  some { sweepInterval := ← r.withDefault "sweep_interval_secs" .nat64 default.sweepInterval }

/-- The milliseconds between two sweeps. -/
def sweepMillis (s : RegistrySettings) : Nat := s.sweepInterval * 1000

end RegistrySettings

/-- A limit that zero turns off. -/
def limitOf (n : Nat) : Option Nat := if n = 0 then none else some n

namespace EvaluationSettings

/-- The settings of a file that says nothing about evaluation. -/
def default : EvaluationSettings := ⟨10000, 50, 0⟩

/-- The document of the settings. -/
def encode (s : EvaluationSettings) : Json :=
  .object [("max_node_visits", .whole s.maxNodeVisits),
    ("max_eval_millis", .whole s.maxEvalMillis), ("route_timeout_ms", .whole s.routeTimeout)]

/-- The settings in a document; what it leaves out has its default. -/
def decoder (isStrict : Bool) : Decoder EvaluationSettings := fun j => do
  let r ← Record.ofJson? isStrict ["max_node_visits", "max_eval_millis", "route_timeout_ms"] j
  some {
    maxNodeVisits := ← r.withDefault "max_node_visits" .nat64 default.maxNodeVisits
    maxEvalMillis := ← r.withDefault "max_eval_millis" .nat64 default.maxEvalMillis
    routeTimeout := ← r.withDefault "route_timeout_ms" .nat64 default.routeTimeout }

/-- The milliseconds that one filter may take. -/
def evalLimit (s : EvaluationSettings) : Option Nat := limitOf s.maxEvalMillis

/-- The milliseconds that one decision may take. -/
def routeLimit (s : EvaluationSettings) : Option Nat := limitOf s.routeTimeout

end EvaluationSettings

namespace RouterConfig

/-- The configuration of an empty file. -/
def default : RouterConfig := ⟨.default, .default, .default, .default, []⟩

/-- The document of the configuration. -/
def encode (c : RouterConfig) : Json :=
  .object [("admin", c.admin.encode), ("observability", c.observability.encode),
    ("registry", c.registry.encode), ("evaluation", c.evaluation.encode),
    ("rules", .array (c.rules.map RuleSpec.encode))]

/-- The configuration in a document; a group that it leaves out has its defaults. -/
def decoder (isStrict : Bool) : Decoder RouterConfig := fun j => do
  let r ← Record.ofJson? isStrict
    ["admin", "observability", "registry", "evaluation", "rules"] j
  some {
    admin := ← r.withDefault "admin" (AdminSettings.decoder isStrict) .default
    observability := ←
      r.withDefault "observability" (ObservabilitySettings.decoder isStrict) .default
    registry := ← r.withDefault "registry" (RegistrySettings.decoder isStrict) .default
    evaluation := ← r.withDefault "evaluation" (EvaluationSettings.decoder isStrict) .default
    rules := ← r.withDefault "rules" (.list (RuleSpec.decoder isStrict)) [] }

/-- The configuration in a document by itself, in which no array has more items than a record has
members. -/
def decode? : Decoder RouterConfig := decoder true

end RouterConfig

end Switchyard.Config
