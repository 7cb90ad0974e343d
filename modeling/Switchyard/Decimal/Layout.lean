import Switchyard.Decimal.Shortest

/-!
# Layout of decimals

How the digits of a number are laid out as text. A layout says which exponents are written
positionally, whether a number without a fraction keeps its point, and how the exponent mark looks.
The layouts in use are values of `Layout` in the modules that write the text.
-/

namespace Switchyard.Decimal

/-- The choices of a number format. -/
structure Layout where
  /-- The least leading exponent written positionally; none means every one. -/
  positionalFrom : Option Int
  /-- The leading exponent from which on the exponent form is used; none means never. -/
  positionalBelow : Option Int
  /-- Whether a number without a fraction is written with `.0`. -/
  keepsPoint : Bool

/-- Whether a leading exponent is written positionally. -/
def Layout.isPositional (l : Layout) (e : Int) : Bool :=
  (l.positionalFrom.all (· ≤ e)) && (l.positionalBelow.all (e < ·))

/-- The digits of a numeral with the point at its place and no exponent. -/
def positional (x : Numeral) (keepsPoint : Bool) : String :=
  let digits := toString x.digits
  if 0 ≤ x.scale then
    digits ++ "".pushn '0' x.scale.toNat ++ (if keepsPoint then ".0" else "")
  else
    let places := (-x.scale).toNat
    let cs := digits.toList
    if places < cs.length then
      String.ofList (cs.take (cs.length - places)) ++ "." ++
        String.ofList (cs.drop (cs.length - places))
    else
      "0." ++ "".pushn '0' (places - cs.length) ++ digits

/-- One digit, the point and the others, then the exponent with its sign. -/
def scientific (x : Numeral) (e : Int) : String :=
  let mark := if 0 ≤ e then "e+" ++ toString e.natAbs else "e-" ++ toString e.natAbs
  match (toString x.digits).toList with
  | [] => mark
  | [d] => d.toString ++ mark
  | d :: ds => d.toString ++ "." ++ String.ofList ds ++ mark

/-- The text of a positive numeral. -/
def Layout.write (l : Layout) (x : Numeral) : String :=
  let e := x.scale + Numeral.width x.digits - 1
  if l.isPositional e then positional x l.keepsPoint else scientific x e

/-- The text of a finite double. -/
def Layout.writeFinite (l : Layout) (x : Binary64) : String :=
  let sign := if x.isNegative then "-" else ""
  if x.magnitude = 0 then sign ++ (if l.keepsPoint then "0.0" else "0")
  else sign ++ l.write (shortest x)

end Switchyard.Decimal
