import Switchyard.Filter.Compile
import Switchyard.Proofs.Filter.ThreeValued

/-!
# What a filter means

The meaning of a filter text, read off its syntax tree: nothing is folded, no operand is left out
and the operands of `AND` and `OR` are taken in the order in which they are written. Bound names
stand for the elements of an environment, innermost first.

* `Expr.denote`: the value of an expression for an event.
* `Expr.holds`: its truth value.

A part that cannot be resolved (an unknown name, a call that fits no function, a pattern that is no
regular expression) has no value; as an operand of `AND` or `OR` it is unknown.
-/

namespace Switchyard.Filter

/-- Why an expression has no value. -/
inductive Fault where
  /-- A name, call or pattern that stands for nothing. -/
  | unresolved
  | failed (error : EvalError)
deriving DecidableEq, Repr

/-- The elements of the enclosing quantifiers under the names that they are bound to, innermost
first. -/
abbrev Environment := List (String × Value)

/-- The value of an operation on values. -/
def ofResult {α : Type} (r : Except EvalError α) : Except Fault α := r.mapError .failed

/-- What a path denotes: in the element bound to its root, or else in the event. -/
def Path.find? (event : Event) (env : Environment) (p : Path) : Except Fault (Option Value) :=
  match env.lookup p.root with
  | some v => .ok (walk? v p.segments)
  | none =>
    if p.root = "payload" then .ok (Field.find? ⟨.payload, p.segments⟩ event)
    else if p.root = "headers" then .ok (Field.find? ⟨.headers, p.segments⟩ event)
    else if p.root = "subject" ∧ p.segments = [] then .ok (some (.string event.subject))
    else .error .unresolved

/-- The value of a call of a built-in function or, if there is none of the name, of a host
function. -/
def callValue (fs : HostFunctions) (name : String) (args : List Value) (now : Instant) :
    Except Fault Value :=
  match Builtin.ofName? name with
  | some f => if f.takes args.length then ofResult (f.call args now) else .error .unresolved
  | none =>
    match fs.find? name with
    | some f => if args.length = f.arity then ofResult (f.run args).result else .error .unresolved
    | none => .error .unresolved

mutual

/-- The value of an expression for an event, as it is written. -/
def Expr.denote (fs : HostFunctions) (event : Event) (now : Instant) :
    Expr → Environment → Except Fault Value
  | .literal v _, _ => .ok v
  | .path p, env => (p.find? event env).map fun v => v.getD .null
  | .existing p, env => (p.find? event env).map fun v => .bool v.isSome
  | .neg e _, env => (e.denote fs event now env).bind fun v => ofResult (negative v)
  | .not e _, env =>
    (((e.denote fs event now env).bind fun v => ofResult (Evaluation.truth v)).map (!·)).map .bool
  | .and es, env => (connectFrom false none (denoteTruths fs event now es env)).map .bool
  | .or es, env => (connectFrom true none (denoteTruths fs event now es env)).map .bool
  | .compare op l r _, env =>
    (l.denote fs event now env).bind fun x =>
      (r.denote fs event now env).bind fun y => (ofResult (op.apply x y)).map .bool
  | .like e pattern negated _, env =>
    (e.denote fs event now env).bind fun v =>
      (ofResult (testText "LIKE" (Glob.ofString pattern).accepts v negated)).map .bool
  | .matching e pattern negated _, env =>
    match TextPattern.compile? fs.patterns pattern with
    | some p =>
      (e.denote fs event now env).bind fun v =>
        (ofResult (testText "MATCHES" p.accepts v negated)).map .bool
    | none => .error .unresolved
  | .between e low high negated _, env =>
    (e.denote fs event now env).bind fun v =>
      (low.denote fs event now env).bind fun lo =>
        (high.denote fs event now env).bind fun hi =>
          (ofResult (inRange v lo hi negated)).map .bool
  | .within e set negated _, env =>
    (e.denote fs event now env).bind fun v =>
      (denoteAll fs event now set env).bind fun vs => (ofResult (isMember v vs negated)).map .bool
  | .isNull e negated _, env =>
    (e.denote fs event now env).map fun v => .bool (v.isNull != negated)
  | .call name args _, env =>
    match quantifierOf? name args.length with
    | some kind =>
      match args with
      | [.expr collection, .lambda param body _] =>
        (collection.denote fs event now env).bind
          (quantifyItems kind .failed fun item =>
            (body.denote fs event now ((param, item) :: env)).bind fun v =>
              ofResult (Evaluation.truth v))
      | _ => .error .unresolved
    | none => (denoteArgs fs event now args env).bind fun vs => callValue fs name vs now

/-- The values of expressions, in order. -/
def denoteAll (fs : HostFunctions) (event : Event) (now : Instant) :
    List Expr → Environment → Except Fault (List Value)
  | [], _ => .ok []
  | e :: es, env =>
    (e.denote fs event now env).bind fun v => (denoteAll fs event now es env).map (v :: ·)

/-- The truth values of operands, in order. -/
def denoteTruths (fs : HostFunctions) (event : Event) (now : Instant) :
    List Expr → Environment → List (Except Fault Bool)
  | [], _ => []
  | e :: es, env =>
    ((e.denote fs event now env).bind fun v => ofResult (Evaluation.truth v)) ::
      denoteTruths fs event now es env

/-- The values of the arguments of a function that takes no predicate. -/
def denoteArgs (fs : HostFunctions) (event : Event) (now : Instant) :
    List Arg → Environment → Except Fault (List Value)
  | [], _ => .ok []
  | .expr e :: args, env =>
    (e.denote fs event now env).bind fun v => (denoteArgs fs event now args env).map (v :: ·)
  | .lambda .. :: _, _ => .error .unresolved

end

/-- Whether an expression holds for an event, as it is written. -/
def Expr.holds (fs : HostFunctions) (event : Event) (now : Instant) (e : Expr) :
    Except Fault Bool :=
  (e.denote fs event now []).bind fun v => ofResult (Evaluation.truth v)

end Switchyard.Filter
