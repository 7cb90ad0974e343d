import Switchyard.Regex.Basic

/-!
# Matching regular expressions

The places of a text are the ends of it and between its characters, numbered from the start. A set
of places is a natural number: the binary digit `p` says whether place `p` is in it.

`Regex.reach` is the meaning of an expression: from the places where it may start to the places
where it may end. An expression matches a text if it reaches any place from any place.
-/

namespace Switchyard.Regex

/-- A text to be searched: its characters, and for every place what stands before and after it. -/
structure Haystack where
  chars : List Char
  places : List (Option Char × Option Char)

namespace Haystack

/-- The places of the rest of a text behind the character `before`. -/
def placesFrom (before : Option Char) : List Char → List (Option Char × Option Char)
  | [] => [(before, none)]
  | c :: cs => (before, some c) :: placesFrom (some c) cs

/-- A whole text, to be searched from its start. -/
def ofString (text : String) : Haystack :=
  ⟨text.toList, placesFrom none text.toList⟩

end Haystack

/-- The set of the numbers at which a list has what is asked for. -/
def positions (p : α → Bool) (xs : List α) : Nat :=
  xs.foldr (fun x set => 2 * set + if p x then 1 else 0) 0

/-- The places that are reached from `set` by any number of steps; `fuel` bounds the steps that
find a new place. -/
def closure (step : Nat → Nat) : Nat → Nat → Nat
  | 0, set => set
  | fuel + 1, set =>
    let more := set ||| step set
    if more = set then set else closure step fuel more

mutual

/-- The places where the expression may end if it starts at a place of the set. -/
def reach (h : Haystack) : Regex → Nat → Nat
  | .empty, starts => starts
  | .chars set, starts =>
    if starts = 0 then 0 else 2 * (starts &&& positions set.contains h.chars)
  | .look l, starts =>
    if starts = 0 then 0 else starts &&& positions (fun (b, a) => l.holds b a) h.places
  | .capture r, starts => reach h r starts
  | .repeat r least most, starts =>
    let step := fun set => if set = 0 then 0 else reach h r set
    let atLeast := Nat.repeat step least starts
    match most with
    | none => closure step h.places.length atLeast
    | some most => Nat.repeat (fun set => set ||| step set) (most - least) atLeast
  | .seq rs, starts => reachAll h rs starts
  | .alt rs, starts => reachAny h rs starts

/-- The places where expressions one after the other may end. -/
def reachAll (h : Haystack) : List Regex → Nat → Nat
  | [], starts => starts
  | r :: rs, starts => reachAll h rs (reach h r starts)

/-- The places where one of several expressions may end. -/
def reachAny (h : Haystack) : List Regex → Nat → Nat
  | [], _ => 0
  | r :: rs, starts => reach h r starts ||| reachAny h rs starts

end

/-- Whether the expression matches some part of the text. -/
def isMatch (r : Regex) (text : String) : Bool :=
  let h := Haystack.ofString text
  reach h r (Nat.pow 2 h.places.length - 1) != 0

end Switchyard.Regex
