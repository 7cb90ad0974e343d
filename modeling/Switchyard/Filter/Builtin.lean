import Switchyard.Filter.Error
import Switchyard.Text.CaseMap
import Switchyard.Text.Search
import Switchyard.Time.Rfc3339
import Switchyard.Time.SpanText
import Switchyard.Value.Render

/-!
# Built-in functions

The functions that every filter can call: their names, how many arguments they take, what types
they accept and return, and what they compute. A null argument makes the result null, so a missing
field falls through to a comparison that does not hold.
-/

namespace Switchyard.Filter

/-- A built-in function. -/
inductive Builtin where
  | length
  | concat
  | substring
  | upper
  | lower
  | abs
  | round
  | min
  | max
  | now
  | date
  | duration
  | timeSince
  | count
  | contains
deriving DecidableEq, Repr

/-- The three ways to quantify over the elements of an array. -/
inductive Quantifier where
  | any
  | all
  | count
deriving DecidableEq, Repr

namespace Quantifier

/-- The name by which a filter calls the quantifier. -/
def name : Quantifier → String
  | .any => "any"
  | .all => "all"
  | .count => "count"

/-- The quantifier of a name. -/
def ofName? (name : String) : Option Quantifier :=
  [any, all, count].find? fun q => q.name == name

end Quantifier

namespace Builtin

/-- The name by which a filter calls the function. -/
def name : Builtin → String
  | .length => "length"
  | .concat => "concat"
  | .substring => "substring"
  | .upper => "upper"
  | .lower => "lower"
  | .abs => "abs"
  | .round => "round"
  | .min => "min"
  | .max => "max"
  | .now => "now"
  | .date => "date"
  | .duration => "duration"
  | .timeSince => "timeSince"
  | .count => "count"
  | .contains => "contains"

/-- Every built-in function. -/
def all : List Builtin :=
  [.length, .concat, .substring, .upper, .lower, .abs, .round, .min, .max, .now, .date, .duration,
    .timeSince, .count, .contains]

/-- The function of a name. -/
def ofName? (name : String) : Option Builtin :=
  all.find? fun f => f.name == name

/-- The least and the largest number of arguments; none if there is no largest. -/
def arity : Builtin → Nat × Option Nat
  | .now => (0, some 0)
  | .length | .upper | .lower | .abs | .date | .duration | .timeSince | .count => (1, some 1)
  | .round => (1, some 2)
  | .substring => (2, some 3)
  | .contains => (2, some 2)
  | .concat | .min | .max => (1, none)

/-- Whether the function can be called with so many arguments. -/
def takes (f : Builtin) (n : Nat) : Bool :=
  decide (f.arity.1 ≤ n) && f.arity.2.all fun most => decide (n ≤ most)

/-- Whether the result depends on the arguments alone and not on the clock. -/
def isPure : Builtin → Bool
  | .now | .timeSince => false
  | _ => true

/-! ## Types -/

/-- The type of the result, given the types of the arguments. -/
def returnType (f : Builtin) (args : List StaticType) : StaticType :=
  match f with
  | .length | .abs | .round | .count => some .number
  | .concat | .substring | .upper | .lower => some .string
  | .min | .max =>
    let first := args.headD none
    if args.all (· == first) then first else none
  | .now | .date => some .timestamp
  | .duration | .timeSince => some .duration
  | .contains => some .bool

/-- The types whose values have an order. -/
def ordered : List ValueType := [.number, .string, .timestamp, .duration]

/-- The types that each argument may have; arguments beyond the list may have any. -/
def accepted (f : Builtin) (args : List StaticType) : List (List ValueType) :=
  match f with
  | .length => [[.string, .array, .object]]
  | .upper | .lower => [[.string]]
  | .substring => [[.string], [.number], [.number]]
  | .abs => [[.number]]
  | .round => [[.number], [.number]]
  | .min | .max => args.map fun _ => ordered
  | .date => [[.string, .number, .timestamp]]
  | .duration => [[.string, .number, .duration]]
  | .timeSince => [[.timestamp]]
  | .count => [[.array, .object]]
  | .contains => [[.string, .array]]
  | .now | .concat => []

/-- Whether an argument of a type may be where the given types are accepted. -/
def fits (allowed : List ValueType) (t : StaticType) : Bool :=
  match t with
  | none | some .null => true
  | some t => allowed.contains t

/-- The first argument, counted from one, that can never be accepted. -/
def firstMisfit? (allowed : List (List ValueType)) (args : List StaticType) :
    Option (Nat × List ValueType × StaticType) :=
  ((List.zip allowed args).zipIdx 1).findSome? fun ((allowed, t), position) =>
    if fits allowed t then none else some (position, allowed, t)

/-- Refuses argument types that the function can never work with. -/
def check (f : Builtin) (args : List StaticType) : Except CompileFault Unit :=
  match firstMisfit? (f.accepted args) args with
  | none => .ok ()
  | some (position, allowed, t) => .error (.badArgument f.name position allowed t)

/-! ## Results -/

/-- The number of decimals to round to, from 0 to 15. -/
def decimals (x : Binary64) : Nat := Nat.min x.toNat64 15

/-- A number rounded to so many decimals. -/
def roundTo (x : Binary64) (digits : Nat) : Binary64 :=
  let factor := (Binary64.ofNat (Nat.pow 10 digits)).toFloat
  .ofFloat ((x.toFloat * factor).round / factor)

/-- Seconds as a whole number of milliseconds. -/
def toMilliseconds (seconds : Binary64) : Int :=
  (Binary64.ofFloat (seconds.toFloat * 1000)).round.toInt64

/-- The first of the values that no other one beats; `wins` says which order beats. Two values
without a common order are an error, and so is a single value that has none with itself. -/
def extremum (name : String) (wins : Ordering → Bool) (best : Value) :
    List Value → Except EvalError Value
  | [] =>
    match best.compare? best with
    | some _ => .ok best
    | none => .error (.invalidArgument name (.unsupported best.type))
  | candidate :: rest =>
    match candidate.compare? best with
    | some order => extremum name wins (if wins order then candidate else best) rest
    | none => .error (.typeMismatch name candidate.type best.type)

/-- The value of a function whose arguments are not null. -/
def apply (f : Builtin) (args : List Value) (now : Instant) : Except EvalError Value :=
  let fail (fault : ArgumentFault) : Except EvalError Value :=
    .error (.invalidArgument f.name fault)
  let unsupported (v : Value) : Except EvalError Value := fail (.unsupported v.type)
  match f, args with
  | .length, .string s :: _ => .ok (.number (.ofNat s.length))
  | .length, .array items :: _ | .count, .array items :: _ => .ok (.number (.ofNat items.length))
  | .length, .object members :: _ | .count, .object members :: _ =>
    .ok (.number (.ofNat members.length))
  | .concat, args => .ok (.string (String.join (args.map Value.render)))
  | .substring, .string s :: .number start :: more =>
    let tail := s.toList.drop start.toNat64
    match more with
    | [] => .ok (.string (String.ofList tail))
    | .number len :: _ => .ok (.string (String.ofList (tail.take len.toNat64)))
    | v :: _ => unsupported v
  | .substring, .string _ :: v :: _ => unsupported v
  | .upper, .string s :: _ => .ok (.string (Text.CaseMap.upper s))
  | .lower, .string s :: _ => .ok (.string (Text.CaseMap.lower s))
  | .abs, .number x :: _ => .ok (.number x.abs)
  | .round, [.number x] => .ok (.number (roundTo x 0))
  | .round, .number x :: .number digits :: _ => .ok (.number (roundTo x (decimals digits)))
  | .round, .number _ :: v :: _ => unsupported v
  | .min, best :: rest => extremum f.name (· == .lt) best rest
  | .max, best :: rest => extremum f.name (· == .gt) best rest
  | .now, _ => .ok (.timestamp now)
  | .date, .timestamp t :: _ => .ok (.timestamp t)
  | .date, .string s :: _ =>
    match Rfc3339.readDate? s with
    | some t => .ok (.timestamp t)
    | none => fail (.unrecognisedDate s)
  | .date, .number x :: _ =>
    match Instant.ofMilliseconds? (toMilliseconds x) with
    | some t => .ok (.timestamp t)
    | none => fail .epochOutOfRange
  | .duration, .duration d :: _ => .ok (.duration d)
  | .duration, .string s :: _ =>
    match Span.read? s with
    | some d => .ok (.duration d)
    | none => fail (.unrecognisedDuration s)
  | .duration, .number x :: _ =>
    match Span.ofMilliseconds? (toMilliseconds x) with
    | some d => .ok (.duration d)
    | none => fail .durationOutOfRange
  | .timeSince, .timestamp t :: _ => .ok (.duration (now.since t))
  | .contains, .string s :: .string needle :: _ =>
    .ok (.bool (Text.hasInfix needle.toList s.toList))
  | .contains, .array items :: needle :: _ => .ok (.bool (items.any (·.strictEq needle)))
  | _, v :: _ => unsupported v
  | _, [] => .ok .null

/-- The value of a call: null as soon as one argument is null. -/
def call (f : Builtin) (args : List Value) (now : Instant) : Except EvalError Value :=
  if args.any Value.isNull then .ok .null else f.apply args now

end Builtin

end Switchyard.Filter
