import Switchyard.Json.Writer
import Switchyard.Time.Rfc3339
import Switchyard.Value.Basic

/-!
# Values as text

`Value.render` is the text that target templates and `concat` insert: nothing for null, strings as
they are, numbers without an exponent, arrays and objects as compact JSON. `Value.toJson` is the
document of a value; timestamps and durations become strings.
-/

namespace Switchyard.Value

/-- Numbers are written positionally, whatever their size, and integers have no point. -/
def numberLayout : Decimal.Layout :=
  { positionalFrom := none, positionalBelow := none, keepsPoint := false }

/-- The text of a number. Negative zero is an integer and so has no sign. -/
def renderNumber (x : Binary64) : String :=
  if x.isNaN then "NaN"
  else if !x.isFinite then (if x.isNegative then "-inf" else "inf")
  else if x.magnitude = 0 then "0"
  else numberLayout.writeFinite x

mutual

/-- The document of a value. -/
def toJson : Value → Json
  | .null => .null
  | .bool b => .bool b
  | .number x => if x.isFinite then .real x else .null
  | .string s => .string s
  | .array items => .array (toJsonItems items)
  | .object members => .object (toJsonMembers members)
  | .timestamp t => .string (Rfc3339.write t)
  | .duration d => .string d.render

/-- The documents of items. -/
def toJsonItems : List Value → List Json
  | [] => []
  | x :: xs => x.toJson :: toJsonItems xs

/-- The documents of members, under the same keys. -/
def toJsonMembers : List (String × Value) → List (String × Json)
  | [] => []
  | (k, x) :: xs => (k, x.toJson) :: toJsonMembers xs

end

/-- The text of a value. -/
def render : Value → String
  | .null => ""
  | .bool true => "true"
  | .bool false => "false"
  | .number x => renderNumber x
  | .string s => s
  | .timestamp t => Rfc3339.write t
  | .duration d => d.render
  | v => v.toJson.render

end Switchyard.Value
