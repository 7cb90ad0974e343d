import Switchyard.Json.Decode
import Switchyard.Time.Rfc3339

/-!
# Rule definitions

A rule as it is written down: which events it is for, where they go, and when it ends. Definitions
are read from and written to JSON documents; members that have nothing to say are not written.
-/

namespace Switchyard

/-- Where a rule sends events: the kind of forwarder, a destination and named fields, all of them
templates but the kind. -/
structure TargetSpec where
  kind : String
  destination : String
  fields : Dict String
deriving DecidableEq, Inhabited, Repr

/-- The definition of a rule. -/
structure RuleSpec where
  routeId : String
  subject : String
  /-- Fields and the values they must have. -/
  filter : Dict Document
  /-- A filter expression, instead of `filter`. -/
  filterExpr : Option String
  targets : List TargetSpec
  expiresAt : Option Instant
  /-- A life time in seconds, instead of `expiresAt`. -/
  ttlSeconds : Option UInt64
deriving Inhabited, Repr

/-- Who manages a rule. -/
inductive RuleSource where
  | api
  | file
deriving DecidableEq, Inhabited, Repr

/-- The word for the source. -/
def RuleSource.name : RuleSource → String
  | .api => "api"
  | .file => "file"

/-- A member of an object that is left out if there is nothing to write. -/
def memberUnless (isAbsent : Bool) (name : String) (j : Json) : List (String × Json) :=
  if isAbsent then [] else [(name, j)]

/-- A member of an object that is left out if there is no value. -/
def optionalMember (name : String) (encode : α → Json) (x : Option α) : List (String × Json) :=
  match x with
  | none => []
  | some x => [(name, encode x)]

namespace Instant

/-- The document of an instant is its text. -/
def encode (t : Instant) : Json := .string (Rfc3339.write t)

/-- The instant in a document, from any text that denotes one. -/
def decode? : Decoder Instant
  | .string s => Rfc3339.readRelaxed? s.toList
  | _ => none

end Instant

namespace TargetSpec

/-- The document of a target; without fields it has no member for them. -/
def encode (t : TargetSpec) : Json :=
  .object ([("kind", .string t.kind), ("destination", .string t.destination)] ++
    memberUnless t.fields.isEmpty "fields" (.ofDict (t.fields.map .string)))

/-- The target in a document; only the kind must be there. -/
def decoder (isStrict : Bool) : Decoder TargetSpec := fun j => do
  let r ← Record.ofJson? isStrict ["kind", "destination", "fields"] j
  some {
    kind := ← r.required "kind" .string
    destination := ← r.withDefault "destination" .string ""
    fields := ← r.withDefault "fields" (.dict .string) .empty }

end TargetSpec

namespace RuleSpec

/-- The names of the members, in the order in which an array lists them. -/
def names : List String :=
  ["route_id", "subject", "filter", "filter_expr", "targets", "expires_at", "ttl_secs"]

/-- The fields and values of the filter as one object. -/
def filterDocument (s : RuleSpec) : Json := .ofDict (s.filter.map Document.json)

/-- The members of the document of a definition. -/
def members (s : RuleSpec) : List (String × Json) :=
  [("route_id", .string s.routeId), ("subject", .string s.subject)] ++
    memberUnless s.filter.isEmpty "filter" s.filterDocument ++
    optionalMember "filter_expr" .string s.filterExpr ++
    [("targets", .array (s.targets.map TargetSpec.encode))] ++
    optionalMember "expires_at" Instant.encode s.expiresAt ++
    optionalMember "ttl_secs" (fun n => .whole n.toNat) s.ttlSeconds

/-- The document of a definition. -/
def encode (s : RuleSpec) : Json := .object s.members

/-- The definition with the given members. -/
def ofRecord? (isStrict : Bool) (r : Record) : Option RuleSpec := do
  some {
    routeId := ← r.required "route_id" .string
    subject := ← r.required "subject" .string
    filter := ← r.withDefault "filter" (.dict .document) .empty
    filterExpr := ← r.optional "filter_expr" .string
    targets := ← r.withDefault "targets" (.list (TargetSpec.decoder isStrict)) []
    expiresAt := ← r.optional "expires_at" Instant.decode?
    ttlSeconds := ← r.optional "ttl_secs" .word }

/-- The definition in a document, an object or an array. -/
def decoder (isStrict : Bool) : Decoder RuleSpec := fun j =>
  (Record.ofJson? isStrict names j).bind (ofRecord? isStrict)

/-- The definition in a document by itself. -/
def decode? : Decoder RuleSpec := decoder true

/-- Whether two definitions are the same. The values of filters are compared as documents. -/
def same (a b : RuleSpec) : Bool :=
  a.routeId == b.routeId && a.subject == b.subject &&
    a.filterDocument.same b.filterDocument && a.filterExpr == b.filterExpr &&
    a.targets == b.targets && a.expiresAt == b.expiresAt && a.ttlSeconds == b.ttlSeconds

end RuleSpec

end Switchyard
