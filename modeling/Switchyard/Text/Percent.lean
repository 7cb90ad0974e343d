/-!
# Percent-encoding

In a path a byte may be written as a percent sign and two hexadecimal digits. A percent sign that is
not followed by two of them stands for itself.
-/

namespace Switchyard.Text

/-- The value of a hexadecimal digit. -/
def hexByte? (b : UInt8) : Option UInt8 :=
  if 48 ≤ b ∧ b ≤ 57 then some (b - 48)
  else if 97 ≤ b ∧ b ≤ 102 then some (b - 87)
  else if 65 ≤ b ∧ b ≤ 70 then some (b - 55)
  else none

/-- The bytes that a text in percent-encoding stands for. -/
def percentDecodeBytes : List UInt8 → List UInt8
  | [] => []
  | 37 :: high :: low :: rest =>
    match hexByte? high, hexByte? low with
    | some h, some l => (16 * h + l) :: percentDecodeBytes rest
    | _, _ => 37 :: percentDecodeBytes (high :: low :: rest)
  | b :: rest => b :: percentDecodeBytes rest

/-- The text that a text in percent-encoding stands for, if its bytes are one. -/
def percentDecode? (s : String) : Option String :=
  String.fromUTF8? ⟨(percentDecodeBytes s.toUTF8.toList).toArray⟩

end Switchyard.Text
