import Switchyard.Rule.Spec

/-!
# Commands

What the control plane asks of the registry: to add, update or remove a rule. The document of a
command names its operation and, but for a removal, has the members of the definition beside it.
-/

namespace Switchyard

/-- A request to change the registry. -/
inductive RuleCommand where
  | add (rule : RuleSpec) (replace : Bool)
  | update (rule : RuleSpec)
  | remove (routeId : String)
deriving Inhabited, Repr

namespace RuleCommand

/-- The identifier that a command is about. -/
def routeId : RuleCommand → String
  | .add rule _ | .update rule => rule.routeId
  | .remove id => id

/-- The definition that a command brings in. -/
def spec? : RuleCommand → Option RuleSpec
  | .add s _ | .update s => some s
  | .remove _ => none

/-- The document of a command: the operation, and the definition spread out beside it. -/
def encode : RuleCommand → Json
  | .add rule replace =>
    .object (("op", .string "add") :: ("replace", .bool replace) :: rule.members)
  | .update rule => .object (("op", .string "update") :: rule.members)
  | .remove id => .object [("op", .string "remove"), ("route_id", .string id)]

/-- The command of an operation from the other members of its document. An array can hold a removal
only. -/
def ofParts? (op : String) (rest : Json) : Option RuleCommand :=
  match op, rest with
  | "add", .object members => do
    let r ← Record.ofJson? true ("replace" :: RuleSpec.names) (.object members)
    some (.add (← RuleSpec.ofRecord? true r) (← r.withDefault "replace" .bool false))
  | "update", .object members => do
    let r ← Record.ofJson? true RuleSpec.names (.object members)
    some (.update (← RuleSpec.ofRecord? true r))
  | "remove", rest => do
    let r ← Record.ofJson? true ["route_id"] rest
    some (.remove (← r.required "route_id" .string))
  | _, _ => none

/-- The command in a document. The operation must stand in it once, in an array at the front. -/
def decode? : Decoder RuleCommand
  | .object members =>
    match members.filter fun m => m.1 == "op" with
    | [(_, .string op)] => ofParts? op (.object (members.filter fun m => m.1 != "op"))
    | _ => none
  | .array (.string op :: rest) => ofParts? op (.array rest)
  | _ => none

end RuleCommand

/-- What a command came to. -/
inductive CommandOutcome where
  | added (routeId : String) (revision : Nat)
  | replaced (routeId : String) (revision : Nat)
  | updated (routeId : String) (revision : Nat)
  | removed (routeId : String)
deriving DecidableEq, Inhabited, Repr

namespace CommandOutcome

/-- The document of an outcome; a removal has no revision. -/
def encode (o : CommandOutcome) : Json :=
  let published (result routeId : String) (revision : Nat) : Json :=
    .object [("result", .string result), ("route_id", .string routeId),
      ("revision", .whole revision)]
  match o with
  | .added id revision => published "added" id revision
  | .replaced id revision => published "replaced" id revision
  | .updated id revision => published "updated" id revision
  | .removed id => .object [("result", .string "removed"), ("route_id", .string id)]

end CommandOutcome

end Switchyard
