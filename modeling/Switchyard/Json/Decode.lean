import Switchyard.Json.Document

/-!
# Decoding documents

A decoder takes a document to a value of a wanted type, or refuses it. A record is decoded from an
object, whose unknown members are passed over, or from an array that lists its members in order. A
strict decoder refuses an array that lists more than the members; formats differ in that.
-/

namespace Switchyard

/-- What a document of type `α` is read as. -/
abbrev Decoder (α : Type) := Json → Option α

namespace Decoder

/-- A text. -/
def string : Decoder String
  | .string s => some s
  | _ => none

/-- A truth value. -/
def bool : Decoder Bool
  | .bool b => some b
  | _ => none

/-- A natural number below `2 ^ 64`, written as an integer. -/
def nat64 : Decoder Nat
  | .whole n => if 0 ≤ n ∧ n < Int.pow 2 64 then some n.toNat else none
  | _ => none

/-- A word of 64 bits, written as an integer. -/
def word : Decoder UInt64 := fun j => (nat64 j).map .ofNat

/-- Any document, as it is kept. -/
def document : Decoder Document := fun j => some (.ofJson j)

/-- A list; all of its items must be readable. -/
def list (item : Decoder α) : Decoder (List α)
  | .array items => items.mapM item
  | _ => none

/-- A map by key; of members with one key the last counts. -/
def dict (item : Decoder α) : Decoder (Dict α)
  | .object members =>
    (members.mapM fun (m : String × Json) => (item m.2).map fun x => (m.1, x)).map .ofList
  | _ => none

/-- A value that may be null. -/
def nullable (item : Decoder α) : Decoder (Option α)
  | .null => some none
  | j => (item j).map some

end Decoder

/-- The members of a record that are present, by name. -/
abbrev Record := List (String × Json)

namespace Record

/-- The members of a record with the given names. No known member may stand twice. -/
def ofJson? (isStrict : Bool) (names : List String) : Json → Option Record
  | .object members =>
    let known := members.filter fun m => names.contains m.1
    if (known.map (·.1)).eraseDups.length = known.length then some known else none
  | .array items =>
    if isStrict && names.length < items.length then none else some (List.zip names items)
  | _ => none

/-- The member of a name. -/
def find? (r : Record) (name : String) : Option Json :=
  (List.find? (fun m => m.1 == name) r).map (·.2)

/-- A member that must be present. -/
def required (r : Record) (name : String) (item : Decoder α) : Option α :=
  (r.find? name).bind item

/-- A member that has a value of its own if it is absent. -/
def withDefault (r : Record) (name : String) (item : Decoder α) (value : α) : Option α :=
  match r.find? name with
  | none => some value
  | some j => item j

/-- A member that may be absent or null. -/
def optional (r : Record) (name : String) (item : Decoder α) : Option (Option α) :=
  r.withDefault name (.nullable item) none

end Record

end Switchyard
