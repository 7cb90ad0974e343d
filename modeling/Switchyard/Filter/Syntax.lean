import Switchyard.Value.Basic

/-!
# The syntax tree of a filter

What the parser builds and the compiler checks. Names are not resolved yet. Every node knows the
byte offset that errors about it point at: of a comparison or predicate it is the operator, of
`AND` and `OR` the first operand, of anything else its first token.
-/

namespace Switchyard.Filter

/-- A comparison operator. -/
inductive CompareOp where
  | eq
  | ne
  | lt
  | le
  | gt
  | ge
deriving DecidableEq, Repr

namespace CompareOp

/-- The operator as it is written. -/
def symbol : CompareOp → String
  | .eq => "=="
  | .ne => "!="
  | .lt => "<"
  | .le => "<="
  | .gt => ">"
  | .ge => ">="

/-- Whether the operator needs an order and not only equality. -/
def isOrdering : CompareOp → Bool
  | .eq | .ne => false
  | _ => true

end CompareOp

/-- One step of a field path: into an object or into an array. -/
inductive Segment where
  | key (name : String)
  | index (i : Nat)
deriving DecidableEq, Repr

/-- A field path such as `payload.items[0].x`. -/
structure Path where
  root : String
  segments : List Segment
  pos : Nat
deriving DecidableEq, Repr

mutual

/-- A filter expression. -/
inductive Expr where
  | literal (value : Value) (pos : Nat)
  | path (p : Path)
  | neg (operand : Expr) (pos : Nat)
  | not (operand : Expr) (pos : Nat)
  | and (operands : List Expr)
  | or (operands : List Expr)
  | compare (op : CompareOp) (left right : Expr) (pos : Nat)
  | like (operand : Expr) (pattern : String) (negated : Bool) (pos : Nat)
  | matching (operand : Expr) (pattern : String) (negated : Bool) (pos : Nat)
  | between (operand low high : Expr) (negated : Bool) (pos : Nat)
  | within (operand : Expr) (set : List Expr) (negated : Bool) (pos : Nat)
  | existing (p : Path)
  | isNull (operand : Expr) (negated : Bool) (pos : Nat)
  | call (name : String) (args : List Arg) (pos : Nat)

/-- An argument of a call: an expression, or a predicate over a named variable. -/
inductive Arg where
  | expr (e : Expr)
  | lambda (param : String) (body : Expr) (pos : Nat)

end

deriving instance Inhabited for Expr
deriving instance Repr for Expr, Arg

/-- The byte offset that errors about an expression point at. -/
def Expr.pos : Expr → Nat
  | .literal _ pos | .neg _ pos | .not _ pos | .compare _ _ _ pos | .like _ _ _ pos
  | .matching _ _ _ pos | .between _ _ _ _ pos | .within _ _ _ pos | .isNull _ _ pos
  | .call _ _ pos => pos
  | .path p | .existing p => p.pos
  | .and operands | .or operands =>
    match operands with
    | [] => 0
    | e :: _ => e.pos

end Switchyard.Filter
