import Switchyard.Json.Basic
import Switchyard.Decimal.Layout

/-!
# Writing JSON

The compact text of a document: no blanks, members in the order they stand in, and only what must
be escaped is escaped.
-/

namespace Switchyard.Json

/-- Reals keep their point; the exponent form is used below `10 ^ -5` and from `10 ^ 16` on. -/
def realLayout : Decimal.Layout :=
  { positionalFrom := some (-5), positionalBelow := some 16, keepsPoint := true }

/-- The text of a real; infinities and NaN have none and become `null`. -/
def renderReal (x : Binary64) : String :=
  if x.isFinite then realLayout.writeFinite x else "null"

/-- The two hexadecimal digits of a number below 256. -/
def hex2 (n : Nat) : List Char :=
  [Nat.digitChar (n / 16), Nat.digitChar (n % 16)]

/-- A character as it stands in a string. -/
def escapeChar (c : Char) : List Char :=
  match c with
  | '"' => ['\\', '"']
  | '\\' => ['\\', '\\']
  | '\n' => ['\\', 'n']
  | '\r' => ['\\', 'r']
  | '\t' => ['\\', 't']
  | '\x08' => ['\\', 'b']
  | '\x0c' => ['\\', 'f']
  | _ => if c.toNat < 0x20 then ['\\', 'u', '0', '0'] ++ hex2 c.toNat else [c]

/-- A text as a string of a document, in quotes. -/
def renderString (s : String) : String :=
  String.ofList ('"' :: s.toList.flatMap escapeChar ++ ['"'])

mutual

/-- The compact text of a document. -/
def render : Json → String
  | .null => "null"
  | .bool true => "true"
  | .bool false => "false"
  | .whole n => toString n
  | .real x => renderReal x
  | .string s => renderString s
  | .array items => "[" ++ ",".intercalate (renderItems items) ++ "]"
  | .object members => "\x7b" ++ ",".intercalate (renderMembers members) ++ "\x7d"

/-- The texts of items. -/
def renderItems : List Json → List String
  | [] => []
  | x :: xs => x.render :: renderItems xs

/-- The texts of members, a colon between name and value. -/
def renderMembers : List (String × Json) → List String
  | [] => []
  | (k, x) :: xs => (renderString k ++ ":" ++ x.render) :: renderMembers xs

end

end Switchyard.Json
