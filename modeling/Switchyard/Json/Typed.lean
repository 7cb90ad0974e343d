import Switchyard.Json.Reader

/-!
# Reading a document of a wanted shape

Here a text is read and matched with the shape it should have at once, from front to back. Of a
fault of syntax and a fault of shape the one that comes first in the text is reported. What stands
behind the last thing that is wanted is looked at only if all before it is right.

* `Typed.value`, `Typed.string`, `Typed.map`: readers of a wanted shape.
* `Typed.members`, `Typed.nextItem?`: the parts of an object, and of an array that is read like one.
* `Typed.whole`: reading a text to its end.
-/

namespace Switchyard.Json

/-- Why a text is not what is wanted. -/
inductive TypedFault where
  /-- It is no document. -/
  | malformed
  /-- It has another shape. -/
  | mismatched
deriving DecidableEq, Repr

/-- What reads a piece of a wanted shape off the front of a text. -/
abbrev Typed (α : Type) := List Char → Except TypedFault (α × List Char)

/-! ## Passing over what is not wanted -/

/-- A string that is passed over, after its opening quote. Escapes need not name a character. -/
def ignoredString : Reader Unit
  | [] => none
  | '"' :: cs => some ((), cs)
  | '\\' :: 'u' :: a :: b :: c :: d :: cs => (hex4? a b c d).bind fun _ => ignoredString cs
  | '\\' :: c :: cs => (escaped? c).bind fun _ => ignoredString cs
  | c :: cs => if c = '\\' ∨ c.toNat < 0x20 then none else ignoredString cs

/-- A number that is passed over, after its sign. It may be too large for any type. -/
def ignoredNumber (cs : List Char) : Option (Unit × List Char) :=
  let whole := cs.takeWhile Char.isDigit
  let rest := cs.dropWhile Char.isDigit
  if whole.isEmpty ∨ (whole.head? = some '0' ∧ 1 < whole.length) then none
  else
    let n := Numeral.fractionLength rest
    let rest := rest.drop n
    let e := Numeral.exponentLength rest
    let behind := rest.drop e
    if behind.head? = some '.' ∨ behind.head? = some 'e' ∨ behind.head? = some 'E' then none
    else some ((), behind)

/-- A document that is passed over; `depth` more arrays and objects may be opened. -/
def ignored : Nat → Reader Unit
  | depth, cs =>
    match cs with
    | 'n' :: 'u' :: 'l' :: 'l' :: rest => some ((), rest)
    | 't' :: 'r' :: 'u' :: 'e' :: rest => some ((), rest)
    | 'f' :: 'a' :: 'l' :: 's' :: 'e' :: rest => some ((), rest)
    | '"' :: rest => ignoredString rest
    | '-' :: rest => ignoredNumber rest
    | '[' :: rest =>
      match depth with
      | 0 => none
      | depth + 1 =>
        match skipSpace rest with
        | ']' :: more => some ((), more)
        | _ => (items (ignored depth) rest.length rest).map fun (_, more) => ((), more)
    | '\x7b' :: rest =>
      match depth with
      | 0 => none
      | depth + 1 =>
        match skipSpace rest with
        | '\x7d' :: more => some ((), more)
        | _ =>
          (members ignoredString (ignored depth) rest.length rest).map fun (_, more) => ((), more)
    | _ => ignoredNumber cs

namespace Typed

/-- A reader whose failures are faults of syntax. -/
def ofReader (r : Reader α) : Typed α := fun cs =>
  match r cs with
  | some x => .ok x
  | none => .error .malformed

/-- Why the value at the front of a text is refused where another kind is wanted: it must be
readable, but of an array or object only the first character is looked at. -/
def otherKind (cs : List Char) : TypedFault :=
  match cs with
  | '[' :: _ | '\x7b' :: _ => .mismatched
  | _ => if (Json.value 0 cs).isSome then .mismatched else .malformed

/-- Any document, nested at most so deep. -/
def value (depth : Nat) : Typed Json := fun cs => ofReader (Json.value depth) (skipSpace cs)

/-- A string. -/
def string : Typed String := fun cs =>
  match skipSpace cs with
  | '"' :: rest => ofReader stringRest rest
  | rest => .error (otherKind rest)

/-- A document of any kind that is not looked into. -/
def skip : Typed Unit := fun cs => ofReader (ignored cs.length) (skipSpace cs)

/-- What a record does with one of its members: nothing, if the member is not known, or reads its
value into the record, or refuses the key. -/
abbrev OnMember (σ : Type) := String → σ → Except TypedFault (Option (Typed σ))

/-- The members of an object after its opening brace (`isFirst`) or a value, up to its closing
brace. Every key is offered to the record before its value is looked at. -/
def members (onMember : OnMember σ) (unknown : Typed Unit) :
    Nat → Bool → σ → List Char → Except TypedFault (σ × List Char)
  | 0, _, _, _ => .error .malformed
  | fuel + 1, isFirst, state, cs => do
    let cs ← match isFirst, skipSpace cs with
      | _, '\x7d' :: rest => return (state, rest)
      | false, ',' :: rest => .ok (skipSpace rest)
      | true, rest => .ok rest
      | false, _ => .error .malformed
    let '"' :: cs := cs | .error .malformed
    let (key, cs) ← ofReader stringRest cs
    let known ← onMember key state
    let ':' :: cs := skipSpace cs | .error .malformed
    match known with
    | some item =>
      let (state, cs) ← item cs
      members onMember unknown fuel false state cs
    | none =>
      let ((), cs) ← unknown cs
      members onMember unknown fuel false state cs

/-- An object whose values are read by `item`; of values with one key the last counts. -/
def map (item : Typed α) : Typed (Dict α) := fun cs =>
  match skipSpace cs with
  | '\x7b' :: rest =>
    let onMember : OnMember (Dict α) := fun key m =>
      .ok (some fun cs => do
        let (x, cs) ← item cs
        .ok (m.insert key x, cs))
    members onMember skip (rest.length + 1) true .empty rest
  | rest => .error (otherKind rest)

/-- The next item of an array after its opening bracket (`isFirst`) or an item; none at its closing
bracket, which is left where it is. -/
def nextItem? (isFirst : Bool) (item : Typed α) (cs : List Char) :
    Except TypedFault (Option (α × List Char)) :=
  match isFirst, skipSpace cs with
  | _, ']' :: _ => .ok none
  | true, rest => (item rest).map some
  | false, ',' :: rest =>
    if (skipSpace rest).head? = some ']' then .error .malformed else (item rest).map some
  | false, _ => .error .malformed

/-- The closing bracket of an array. -/
def closeArray (cs : List Char) : Except TypedFault (List Char) :=
  match skipSpace cs with
  | ']' :: rest => .ok rest
  | _ => .error .malformed

/-- The text of which all is read. -/
def whole (r : Typed α) (text : String) : Except TypedFault α :=
  match r text.toList with
  | .ok (x, rest) => if (skipSpace rest).isEmpty then .ok x else .error .malformed
  | .error fault => .error fault

end Typed

end Switchyard.Json
