import Switchyard.Assoc
import Switchyard.Binary64

/-!
# JSON documents

A document as it is read: numbers keep whether they were written as integers, and the members of
an object stand in the order of the text with repeated keys kept. `Json.canonical` is the document
with every object in key order, the last of several equal keys winning; it is the form that is
stored, compared and written again.
-/

namespace Switchyard

/-- A JSON document. `whole` holds the integers from `-2^63` up to `2^64 - 1` that were written
without fraction and exponent; every other number is `real`. -/
inductive Json where
  | null
  | bool (b : Bool)
  | whole (n : Int)
  | real (x : Binary64)
  | string (s : String)
  | array (items : List Json)
  | object (members : List (String × Json))
deriving Inhabited, Repr

namespace Json

mutual

/-- The document with the members of every object in key order and each key once. A real that is
not finite becomes null, since no document is written with it. -/
def canonical : Json → Json
  | .real x => if x.isFinite then .real x else .null
  | .array items => .array (canonicalItems items)
  | .object members => .object (Assoc.ofList (canonicalMembers members))
  | other => other

/-- The items of an array in canonical form. -/
def canonicalItems : List Json → List Json
  | [] => []
  | x :: xs => x.canonical :: canonicalItems xs

/-- The members of an object with canonical values, in the order in which they stand. -/
def canonicalMembers : List (String × Json) → List (String × Json)
  | [] => []
  | (k, x) :: xs => (k, x.canonical) :: canonicalMembers xs

end

mutual

/-- Equality of canonical documents. An integer and a real are never equal; reals are compared by
value, so the two zeros are equal. -/
def same : Json → Json → Bool
  | .null, .null => true
  | .bool a, .bool b => a == b
  | .whole a, .whole b => a == b
  | .real a, .real b => a.level b
  | .string a, .string b => a == b
  | .array xs, .array ys => sameItems xs ys
  | .object xs, .object ys => sameMembers xs ys
  | _, _ => false

/-- Equality of items, place by place. -/
def sameItems : List Json → List Json → Bool
  | [], [] => true
  | x :: xs, y :: ys => x.same y && sameItems xs ys
  | _, _ => false

/-- Equality of members, place by place. -/
def sameMembers : List (String × Json) → List (String × Json) → Bool
  | [], [] => true
  | (k, x) :: xs, (l, y) :: ys => k == l && x.same y && sameMembers xs ys
  | _, _ => false

end

end Json

end Switchyard
