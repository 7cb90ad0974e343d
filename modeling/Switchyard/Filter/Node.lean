import Switchyard.Filter.Field
import Switchyard.Filter.Host
import Switchyard.Glob

/-!
# Compiled filters

The tree that is evaluated: names are resolved, constants are folded, patterns are compiled. The
static cost of a node (`Node.cost`) decides in which order the operands of `AND` and `OR` run.
-/

namespace Switchyard.Filter

/-- A node of a compiled filter. -/
inductive Node where
  | const (value : Value)
  | field (f : Field)
  | neg (operand : Node)
  | not (operand : Node)
  | and (operands : List Node)
  | or (operands : List Node)
  | compare (op : CompareOp) (left right : Node)
  | like (operand : Node) (pattern : Glob) (negated : Bool)
  | matching (operand : Node) (pattern : TextPattern) (negated : Bool)
  | between (operand low high : Node) (negated : Bool)
  | within (operand : Node) (set : List Value) (negated : Bool)
  | existing (f : Field)
  | isNull (operand : Node) (negated : Bool)
  | call (function : Builtin) (args : List Node)
  | host (function : HostFunction) (args : List Node)
  /-- A quantifier; `slot` is how many quantifiers are around it. -/
  | quantifier (kind : Quantifier) (collection : Node) (slot : Nat) (predicate : Node)

instance : Inhabited Node := ⟨.const .null⟩

namespace Node

mutual

/-- The relative cost of evaluating a node, known before any event. -/
def cost : Node → Nat
  | .const _ => 0
  | .field _ | .existing _ => 1
  | .isNull n _ | .neg n | .not n => 1 + n.cost
  | .compare _ l r => 2 + l.cost + r.cost
  | .within n _ _ => 3 + n.cost
  | .between n lo hi _ => 3 + n.cost + lo.cost + hi.cost
  | .and ns | .or ns => costs ns
  | .like n _ _ => 8 + n.cost
  | .call _ args => 10 + costs args
  | .host _ args => 25 + costs args
  | .matching n _ _ => 30 + n.cost
  | .quantifier _ c _ p => 50 + c.cost + p.cost

/-- The costs of several nodes together. -/
def costs : List Node → Nat
  | [] => 0
  | n :: ns => n.cost + costs ns

end

mutual

/-- How many nodes a tree has. -/
def count : Node → Nat
  | .const _ | .field _ | .existing _ => 1
  | .isNull n _ | .neg n | .not n | .like n _ _ | .matching n _ _ | .within n _ _ => 1 + n.count
  | .compare _ l r => 1 + l.count + r.count
  | .between n lo hi _ => 1 + n.count + lo.count + hi.count
  | .and ns | .or ns | .call _ ns | .host _ ns => 1 + counts ns
  | .quantifier _ c _ p => 1 + c.count + p.count

/-- How many nodes several trees have together. -/
def counts : List Node → Nat
  | [] => 0
  | n :: ns => n.count + counts ns

end

/-- The value of a node that is a constant. -/
def const? : Node → Option Value
  | .const v => some v
  | _ => none

/-- Whether the node is a constant. -/
def isConst (n : Node) : Bool := n.const?.isSome

/-- A node whose inputs are constants and whose value depends on nothing else. -/
def isFoldable : Node → Bool
  | .neg n | .not n | .like n _ _ | .matching n _ _ | .within n _ _ | .isNull n _ => n.isConst
  | .compare _ l r => l.isConst && r.isConst
  | .between n lo hi _ => n.isConst && lo.isConst && hi.isConst
  | .call f args => f.isPure && args.all isConst
  | _ => false

end Node

/-- A compiled filter: its text and its tree. -/
structure Expression where
  source : String
  root : Node
deriving Inhabited

end Switchyard.Filter
