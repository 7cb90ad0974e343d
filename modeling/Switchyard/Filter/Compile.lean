import Switchyard.Filter.Eval

/-!
# Compiling filters

From the syntax tree to the tree that is evaluated. On the way names are resolved, types that can
never fit are refused, nodes over constants are replaced by their value, and the operands of `AND`
and `OR` are put in the order of their cost. None of this changes what a filter means.

* `Expr.lower`: the node and the type of an expression.
* `compile`: the filter of a text.
-/

namespace Switchyard.Filter

/-- A compiled node with its static type. -/
abbrev Typed := Node × StaticType

/-- What compiling a phrase comes to. -/
abbrev Compiled (α : Type) := Except CompileError α

namespace Compiled

/-- Refuses a phrase with a fault at its place. -/
def fail (pos : Nat) (fault : CompileFault) : Compiled α := .error ⟨pos, fault⟩

/-- Refuses a phrase with a fault unless something holds. -/
def require (holds : Bool) (pos : Nat) (fault : CompileFault) : Compiled Unit :=
  if holds then .ok () else fail pos fault

end Compiled

open Compiled

/-! ## Checks -/

/-- Whether a type may stand where one of the given types is wanted. -/
def StaticType.mayBe (t : StaticType) (wanted : List ValueType) : Bool := Builtin.fits wanted t

/-- Whether two types may have an order in common. -/
def StaticType.mayCompare (a b : StaticType) : Bool :=
  a.mayBe Builtin.ordered && b.mayBe Builtin.ordered && (!a.isKnown || !b.isKnown || a == b)

/-- Refuses an operand that cannot be a boolean. -/
def requireBool (context : String) (pos : Nat) (t : StaticType) : Compiled Unit :=
  require (t.mayBe [.bool]) pos (.operandNotBoolean context t)

/-- Refuses an operand that cannot be a string. -/
def requireString (op : String) (pos : Nat) (t : StaticType) : Compiled Unit :=
  require (t.mayBe [.string]) pos (.operandNotString op t)

/-- Refuses two operands that cannot have an order in common. -/
def requireOrder (op : String) (pos : Nat) (a b : StaticType) : Compiled Unit :=
  require (a.mayCompare b) pos (.notOrdered op a b)

/-! ## Names -/

/-- The slot of the innermost quantifier that binds a name; `scope` has the outermost name first. -/
def slot? (scope : List String) (name : String) : Option Nat :=
  (scope.zipIdx.filter fun p => p.1 == name).getLast?.map (·.2)

/-- The field that a path denotes among the bound names. -/
def resolve (scope : List String) (p : Path) : Compiled Field :=
  match slot? scope p.root with
  | some slot => .ok ⟨.binding slot, p.segments⟩
  | none =>
    if p.root = "payload" then .ok ⟨.payload, p.segments⟩
    else if p.root = "headers" then .ok ⟨.headers, p.segments⟩
    else if p.root = "subject" then
      if p.segments = [] then .ok ⟨.subject, []⟩ else fail p.pos .subjectHasNoFields
    else fail p.pos (.unknownIdentifier p.root)

/-! ## Folding -/

/-- The static type of a node that is not folded, as far as its kind tells. -/
def Node.kindType : Node → StaticType
  | .neg _ | .call .. | .field _ | .host .. => none
  | _ => some .bool

/-- Replaces a node over constants by its value; a node that then has no value is refused. -/
def fold (n : Node) (pos : Nat) : Compiled Typed :=
  if n.isFoldable then
    match n.foldedValue with
    | .ok v => .ok (.const v, some v.type)
    | .error e => fail pos (.constantFails e)
  else .ok (n, n.kindType)

/-- The truth value that a constant has as an operand. -/
def Node.constTruth? : Node → Option Bool
  | .const (.bool b) => some b
  | .const .null => some false
  | _ => none

/-- An `AND` or `OR` over operands that are not constant, cheap ones first. -/
def connective (isAnd : Bool) (operands : List Node) : Node :=
  let sorted := operands.mergeSort fun a b => a.cost ≤ b.cost
  match sorted with
  | [] => .const (.bool isAnd)
  | sorted => if isAnd then .and sorted else .or sorted

/-- The quantifier that a call with so many arguments is. -/
def quantifierOf? (name : String) (args : Nat) : Option Quantifier :=
  match Quantifier.ofName? name with
  | some .count => if args = 2 then some .count else none
  | q => q

/-- The node of a call, once its arguments are compiled. -/
def callNode (fs : HostFunctions) (name : String) (args : List Typed) (pos : Nat) :
    Compiled Typed :=
  let nodes := args.map (·.1)
  let types := args.map (·.2)
  match Builtin.ofName? name with
  | some f => do
    require (f.takes nodes.length) pos (.argumentCount name nodes.length)
    match f.check types with
    | .error fault => fail pos fault
    | .ok () =>
      let (n, t) ← fold (.call f nodes) pos
      .ok (n, t.or (f.returnType types))
  | none =>
    match fs.find? name with
    | some f => do
      require (nodes.length == f.arity) pos (.hostArgumentCount name f.arity nodes.length)
      .ok (.host f nodes, none)
    | none => fail pos (.unknownFunction name)

/-! ## The compiler -/

mutual

/-- Compiles an expression in which the names of `scope` are bound, outermost first. -/
def Expr.lower (fs : HostFunctions) : Expr → List String → Compiled Typed
  | .literal v _, _ => .ok (.const v, some v.type)
  | .path p, scope => do
    let f ← resolve scope p
    .ok (.field f, if f.root = .subject then some .string else none)
  | .existing p, scope => do .ok (.existing (← resolve scope p), some .bool)
  | .neg e pos, scope => do
    let (n, t) ← e.lower fs scope
    require (t.mayBe [.number, .duration]) pos (.notNegatable t)
    fold (.neg n) pos
  | .not e pos, scope => do
    let (n, t) ← e.lower fs scope
    requireBool "NOT" e.pos t
    fold (.not n) pos
  | .and es, scope => lowerOperands fs true es [] scope
  | .or es, scope => lowerOperands fs false es [] scope
  | .compare op l r pos, scope => do
    let (m, s) ← l.lower fs scope
    let (n, t) ← r.lower fs scope
    if op.isOrdering then requireOrder op.symbol pos s t
    fold (.compare op m n) pos
  | .like e pattern negated pos, scope => do
    let (n, t) ← e.lower fs scope
    requireString "LIKE" pos t
    fold (.like n (.ofString pattern) negated) pos
  | .matching e pattern negated pos, scope => do
    let (n, t) ← e.lower fs scope
    requireString "MATCHES" pos t
    match TextPattern.compile? fs.patterns pattern with
    | some p => fold (.matching n p negated) pos
    | none => fail pos .invalidRegex
  | .between e low high negated pos, scope => do
    let (n, t) ← e.lower fs scope
    let (lo, s) ← low.lower fs scope
    let (hi, u) ← high.lower fs scope
    requireOrder "BETWEEN" pos t s
    requireOrder "BETWEEN" pos t u
    requireOrder "BETWEEN" pos s u
    fold (.between n lo hi negated) pos
  | .within e set negated pos, scope => do
    let (n, _) ← e.lower fs scope
    let vs ← lowerSet fs set scope
    fold (.within n vs negated) pos
  | .isNull e negated pos, scope => do
    let (n, _) ← e.lower fs scope
    fold (.isNull n negated) pos
  | .call name args pos, scope =>
    match quantifierOf? name args.length with
    | some kind =>
      match args with
      | [.expr collection, .lambda param body _] => do
        let (c, t) ← collection.lower fs scope
        require (t.mayBe [.array]) collection.pos (.collectionNotArray kind.name t)
        let (p, s) ← body.lower fs (scope ++ [param])
        requireBool kind.name body.pos s
        .ok (.quantifier kind c scope.length p, some (if kind = .count then .number else .bool))
      | _ => fail pos (.quantifierShape kind.name)
    | none => do callNode fs name (← lowerArgs fs name args scope) pos

/-- Compiles the operands of an `AND` or `OR` that are left, behind the operands already kept. A
constant that cannot decide is dropped and one that decides ends the list. -/
def lowerOperands (fs : HostFunctions) (isAnd : Bool) :
    List Expr → List Node → List String → Compiled Typed
  | [], kept, _ => .ok (connective isAnd kept, some .bool)
  | e :: es, kept, scope => do
    let (n, t) ← e.lower fs scope
    requireBool (if isAnd then "AND" else "OR") e.pos t
    match n.constTruth? with
    | some b =>
      if b = isAnd then lowerOperands fs isAnd es kept scope
      else .ok (.const (.bool !isAnd), some .bool)
    | none => lowerOperands fs isAnd es (kept ++ [n]) scope

/-- Compiles the items of a set, which must be constants. -/
def lowerSet (fs : HostFunctions) : List Expr → List String → Compiled (List Value)
  | [], _ => .ok []
  | e :: es, scope => do
    let (n, _) ← e.lower fs scope
    match n.const? with
    | some v => .ok (v :: (← lowerSet fs es scope))
    | none => fail e.pos .setNotConstant

/-- Compiles the arguments of a call that takes no predicate. -/
def lowerArgs (fs : HostFunctions) (name : String) : List Arg → List String → Compiled (List Typed)
  | [], _ => .ok []
  | .expr e :: args, scope => do
    let t ← e.lower fs scope
    .ok (t :: (← lowerArgs fs name args scope))
  | .lambda _ _ pos :: _, _ => fail pos (.unexpectedPredicate name)

end

/-- Compiles a filter text. -/
def compile (fs : HostFunctions) (source : String) : Compiled Expression := do
  let e ← parse source
  let (root, t) ← e.lower fs []
  require (t.mayBe [.bool]) e.pos (.filterNotBoolean t)
  .ok ⟨source, root⟩

end Switchyard.Filter
