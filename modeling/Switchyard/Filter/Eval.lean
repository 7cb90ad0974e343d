import Switchyard.Filter.Node

/-!
# Evaluating filters

`Node.eval` walks a compiled filter under a budget. A meter counts the visits to nodes, the time
that host functions took and the calls made to them.

Where a truth value is wanted, an error makes the operand unknown: `NOT` keeps it unknown, `AND` and
`OR` are decided by a deciding operand wherever it stands, and only what stays unknown to the top is
an error of the filter. An overrun of the budget is not like that: it ends the evaluation at once.
-/

namespace Switchyard.Filter

/-- The limits of one evaluation; none stands for no limit. -/
structure Budget where
  maxVisits : Option Nat
  maxMillis : Option Nat
deriving DecidableEq, Repr

namespace Budget

/-- No limit on visits or time. -/
def unlimited : Budget := ⟨none, none⟩

/-- A limit on visits alone. -/
def visits (n : Nat) : Budget := ⟨some n, none⟩

/-- How many visits lie between two looks at the clock. -/
def clockInterval : Nat := 256

/-- The budget for folding constants. -/
def folding : Budget := visits 100000

end Budget

/-- What an evaluation can see beside the bound elements. There is no event when constants are
folded. -/
structure Context where
  event : Option Event
  now : Instant
  budget : Budget

/-- What an evaluation has used so far. -/
structure Meter where
  visits : Nat
  /-- How long the host functions took. -/
  millis : Nat
  /-- The calls of host functions, in order. -/
  calls : List (String × List Value)

/-- The meter before an evaluation. -/
def Meter.zero : Meter := ⟨0, 0, []⟩

/-- A step of an evaluation: it moves the meter on and has a result or an error. -/
abbrev Evaluation (α : Type) := ExceptT EvalError (StateM Meter) α

/-- A truth value, or the error that makes it unknown. -/
abbrev Verdict := Except EvalError Bool

namespace Evaluation

/-- What a visit is refused for, if the meter then shows `m`. The clock is looked at only now and
then. -/
def overrun? (b : Budget) (m : Meter) : Option EvalError :=
  match b.maxVisits.filter (· < m.visits) with
  | some limit => some (.budgetExceeded limit)
  | none =>
    match b.maxMillis.filter (· ≤ m.millis) with
    | some limit => if m.visits % Budget.clockInterval = 0 then some (.timeout limit) else none
    | none => none

/-- Counts a visit to a node. -/
def visit (b : Budget) : Evaluation Unit := fun m =>
  let next := { m with visits := m.visits + 1 }
  match overrun? b next with
  | some e => (.error e, next)
  | none => (.ok (), next)

/-- Calls a host function. -/
def callHost (f : HostFunction) (args : List Value) : Evaluation Value := fun m =>
  let reply := f.run args
  (reply.result, { m with millis := m.millis + reply.millis, calls := m.calls ++ [(f.name, args)] })

/-- The truth value of a value; null counts as false. -/
def truth (v : Value) : Verdict :=
  match v with
  | .bool b => .ok b
  | .null => .ok false
  | v => .error (.notBoolean v.type)

/-- Takes the result of a step as a truth value. An error makes it unknown unless it is an
overrun. -/
def judge (x : Evaluation Value) : Evaluation Verdict := fun m =>
  match x m with
  | (.ok v, m) => (.ok (truth v), m)
  | (.error e, m) => if e.isOverrun then (.error e, m) else (.ok (.error e), m)

/-- The value of a verdict; what is unknown is an error. -/
def ofVerdict (v : Verdict) : Evaluation Value :=
  match v with
  | .ok b => pure (.bool b)
  | .error e => throw e

end Evaluation

open Evaluation

/-- The value of a field: of the element bound at its slot or of the event. -/
def Field.lookup? (c : Context) (bindings : List Value) (f : Field) : Option Value :=
  match f.root with
  | .binding slot => (bindings[slot]?).bind fun v => walk? v f.segments
  | _ => c.event.bind f.find?

/-- The order of two values, which an operator needs. -/
def ordering (op : String) (l r : Value) : Except EvalError Ordering :=
  match l.compare? r with
  | some o => .ok o
  | none => .error (.typeMismatch op l.type r.type)

/-- The value of a comparison. With null nothing holds. -/
def CompareOp.apply (op : CompareOp) (l r : Value) : Verdict :=
  if l.isNull || r.isNull then .ok false
  else
    match op with
    | .eq => .ok (l.strictEq r)
    | .ne => .ok (!l.strictEq r)
    | .lt => (ordering op.symbol l r).map (· == .lt)
    | .le => (ordering op.symbol l r).map (· != .gt)
    | .gt => (ordering op.symbol l r).map (· == .gt)
    | .ge => (ordering op.symbol l r).map (· != .lt)

/-- The value of a `BETWEEN`, whose ends are part of the range. -/
def inRange (v low high : Value) (negated : Bool) : Verdict :=
  if v.isNull || low.isNull || high.isNull then .ok false
  else do
    let above ← ordering "BETWEEN" v low
    let below ← ordering "BETWEEN" v high
    .ok ((above != .lt && below != .gt) != negated)

/-- The value of a test that applies to texts. -/
def testText (op : String) (test : String → Bool) (v : Value) (negated : Bool) : Verdict :=
  match v with
  | .null => .ok false
  | .string s => .ok (test s != negated)
  | v => .error (.typeMismatch op v.type .string)

/-- The value of an `IN`. -/
def isMember (v : Value) (set : List Value) (negated : Bool) : Verdict :=
  if v.isNull then .ok false else .ok (set.any (·.strictEq v) != negated)

/-- The value of a minus sign. -/
def negative (v : Value) : Except EvalError Value :=
  match v with
  | .number x => .ok (.number x.neg)
  | .duration d => .ok (.duration d.neg)
  | .null => .ok .null
  | v => .error (.invalidArgument "-" (.notNegatable v.type))

/-- The rest of a quantifier over elements, after `hits` elements that hold and with the first
unknown one. `any` ends at an element that holds and `all` at one that does not; `count` passes over
the unknown ones. -/
def quantify (kind : Quantifier) (test : Value → Evaluation Verdict) :
    List Value → Nat → Option EvalError → Evaluation Value
  | [], hits, unknown =>
    match kind, unknown with
    | .count, _ => pure (.number (.ofNat hits))
    | _, some e => throw e
    | .any, none => pure (.bool false)
    | .all, none => pure (.bool true)
  | item :: items, hits, unknown => do
    match kind, ← test item with
    | .any, .ok true => pure (.bool true)
    | .all, .ok false => pure (.bool false)
    | _, .ok true => quantify kind test items (hits + 1) unknown
    | _, .ok false => quantify kind test items hits unknown
    | _, .error e => quantify kind test items hits (unknown.or (some e))

/-- The value of a quantifier over the value of its collection. -/
def quantifyOver (kind : Quantifier) (test : Value → Evaluation Verdict) (collection : Value) :
    Evaluation Value :=
  match collection with
  | .array items => quantify kind test items 0 none
  | .null => pure (if kind = .count then .null else .bool false)
  | v => throw (.typeMismatch kind.name v.type .array)

namespace Node

mutual

/-- The value of a node, where `bindings` are the elements that the enclosing quantifiers look at,
outermost first. -/
def eval (c : Context) : Node → List Value → Evaluation Value
  | .const v, _ => do
    visit c.budget
    pure v
  | .field f, bindings => do
    visit c.budget
    pure ((f.lookup? c bindings).getD .null)
  | .existing f, bindings => do
    visit c.budget
    pure (.bool (f.lookup? c bindings).isSome)
  | .neg n, bindings => do
    visit c.budget
    ExceptT.mk (pure (negative (← n.eval c bindings)))
  | .not n, bindings => do
    visit c.budget
    ofVerdict ((← judge (n.eval c bindings)).map (!·))
  | .and ns, bindings => do
    visit c.budget
    connect c false ns none bindings
  | .or ns, bindings => do
    visit c.budget
    connect c true ns none bindings
  | .compare op l r, bindings => do
    visit c.budget
    let x ← l.eval c bindings
    let y ← r.eval c bindings
    ofVerdict (op.apply x y)
  | .like n pattern negated, bindings => do
    visit c.budget
    ofVerdict (testText "LIKE" pattern.accepts (← n.eval c bindings) negated)
  | .matching n pattern negated, bindings => do
    visit c.budget
    ofVerdict (testText "MATCHES" pattern.accepts (← n.eval c bindings) negated)
  | .between n low high negated, bindings => do
    visit c.budget
    let v ← n.eval c bindings
    let lo ← low.eval c bindings
    let hi ← high.eval c bindings
    ofVerdict (inRange v lo hi negated)
  | .within n set negated, bindings => do
    visit c.budget
    ofVerdict (isMember (← n.eval c bindings) set negated)
  | .isNull n negated, bindings => do
    visit c.budget
    pure (.bool ((← n.eval c bindings).isNull != negated))
  | .call f args, bindings => do
    visit c.budget
    ExceptT.mk (pure (f.call (← evalAll c args bindings) c.now))
  | .host f args, bindings => do
    visit c.budget
    callHost f (← evalAll c args bindings)
  | .quantifier kind collection _ predicate, bindings => do
    visit c.budget
    quantifyOver kind (fun item => judge (predicate.eval c (bindings ++ [item])))
      (← collection.eval c bindings)

/-- The values of nodes, in order. -/
def evalAll (c : Context) : List Node → List Value → Evaluation (List Value)
  | [], _ => pure []
  | n :: ns, bindings => do
    let v ← n.eval c bindings
    let vs ← evalAll c ns bindings
    pure (v :: vs)

/-- The value of the operands of an `AND` or `OR` that are left, with the first unknown one so far.
The first operand whose value is `decisive` ends it. -/
def connect (c : Context) (decisive : Bool) :
    List Node → Option EvalError → List Value → Evaluation Value
  | [], none, _ => pure (.bool !decisive)
  | [], some e, _ => throw e
  | n :: ns, unknown, bindings => do
    match ← judge (n.eval c bindings) with
    | .ok b =>
      if b = decisive then pure (.bool decisive) else connect c decisive ns unknown bindings
    | .error e => connect c decisive ns (unknown.or (some e)) bindings

end

end Node

/-- The value of a node whose inputs are constants. -/
def Node.foldedValue (n : Node) : Except EvalError Value :=
  (n.eval ⟨none, ⟨0, 0⟩, .folding⟩ [] Meter.zero).1

namespace Expression

/-- The value of a filter for an event, and what the evaluation used. -/
def value (e : Expression) (event : Event) (b : Budget) (now : Instant) :
    Except EvalError Value × Meter :=
  e.root.eval ⟨some event, now, b⟩ [] Meter.zero

/-- The truth value of a filter for an event, and what the evaluation used. -/
def evaluate (e : Expression) (event : Event) (b : Budget) (now : Instant) : Verdict × Meter :=
  match judge (e.root.eval ⟨some event, now, b⟩ []) Meter.zero with
  | (.ok verdict, m) => (verdict, m)
  | (.error e, m) => (.error e, m)

/-- How many nodes the evaluation of a filter visits. -/
def visits (e : Expression) (event : Event) (now : Instant) : Nat :=
  (e.evaluate event .unlimited now).2.visits

end Expression

end Switchyard.Filter
