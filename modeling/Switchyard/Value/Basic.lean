import Switchyard.Json.Basic
import Switchyard.Text.Utf8
import Switchyard.Time.Instant

/-!
# Values

What a filter computes with: the payload tree of an event, and the timestamps and durations that
the time functions make. Two values are equal (`Value.strictEq`) only if they have one type and the
same content; they are ordered (`Value.compare?`) only within numbers, strings, timestamps and
durations.
-/

namespace Switchyard

/-- The type of a value. -/
inductive ValueType where
  | null
  | bool
  | number
  | string
  | array
  | object
  | timestamp
  | duration
deriving DecidableEq, Inhabited, Repr

namespace ValueType

/-- The word for a type in error texts. -/
def name : ValueType → String
  | .null => "null"
  | .bool => "bool"
  | .number => "number"
  | .string => "string"
  | .array => "array"
  | .object => "object"
  | .timestamp => "timestamp"
  | .duration => "duration"

end ValueType

/-- A value. The members of an object stand in key order. -/
inductive Value where
  | null
  | bool (b : Bool)
  | number (x : Binary64)
  | string (s : String)
  | array (items : List Value)
  | object (members : List (String × Value))
  | timestamp (t : Instant)
  | duration (d : Span)
deriving Inhabited, Repr

namespace Value

/-- The type of a value. -/
def type : Value → ValueType
  | .null => .null
  | .bool _ => .bool
  | .number _ => .number
  | .string _ => .string
  | .array _ => .array
  | .object _ => .object
  | .timestamp _ => .timestamp
  | .duration _ => .duration

/-- Whether the value is null. -/
def isNull : Value → Bool
  | .null => true
  | _ => false

/-- The member of an object under a key. -/
def member? (k : String) : Value → Option Value
  | .object members => Assoc.find? k members
  | _ => none

/-- The item of an array at an index. -/
def item? (i : Nat) : Value → Option Value
  | .array items => items[i]?
  | _ => none

mutual

/-- The equality of `==`, `IN` and simple filters. Numbers are equal when their bits are. -/
def strictEq : Value → Value → Bool
  | .null, .null => true
  | .bool a, .bool b => a == b
  | .number a, .number b => a == b
  | .string a, .string b => a == b
  | .timestamp a, .timestamp b => a == b
  | .duration a, .duration b => a == b
  | .array xs, .array ys => strictEqItems xs ys
  | .object xs, .object ys => strictEqMembers xs ys
  | _, _ => false

/-- Equality of items, place by place. -/
def strictEqItems : List Value → List Value → Bool
  | [], [] => true
  | x :: xs, y :: ys => x.strictEq y && strictEqItems xs ys
  | _, _ => false

/-- Equality of members, place by place. -/
def strictEqMembers : List (String × Value) → List (String × Value) → Bool
  | [], [] => true
  | (k, x) :: xs, (l, y) :: ys => k == l && x.strictEq y && strictEqMembers xs ys
  | _, _ => false

end

/-- The order of `<`, `BETWEEN`, `min` and `max`; none if the two values have no common order. -/
def compare? : Value → Value → Option Ordering
  | .number a, .number b => a.compare? b
  | .string a, .string b => some (Text.order a b)
  | .timestamp a, .timestamp b => some (a.compare b)
  | .duration a, .duration b => some (a.compare b)
  | _, _ => none

mutual

/-- The value of a canonical document. -/
def ofJson : Json → Value
  | .null => .null
  | .bool b => .bool b
  | .whole n => .number (.ofInt n)
  | .real x => .number x
  | .string s => .string s
  | .array items => .array (ofJsonItems items)
  | .object members => .object (ofJsonMembers members)

/-- The values of items. -/
def ofJsonItems : List Json → List Value
  | [] => []
  | x :: xs => ofJson x :: ofJsonItems xs

/-- The values of members, under the same keys. -/
def ofJsonMembers : List (String × Json) → List (String × Value)
  | [] => []
  | (k, x) :: xs => (k, ofJson x) :: ofJsonMembers xs

end

end Value

end Switchyard
