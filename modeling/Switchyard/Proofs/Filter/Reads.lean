import Switchyard.Filter.Eval

/-!
# What a filter reads

All that an evaluation sees of an event are the fields that occur in the tree.

* `Node.fields`: the fields of a node.
* `Node.eval_congr`: between events in which these are the same, evaluation makes no difference,
  whatever it comes to and uses.
* `Expression.evaluate_congr`: the same of a filter.
-/

namespace Switchyard.Filter

namespace Node

mutual

/-- The fields that a node may look up. -/
def fields : Node → List Field
  | .const _ => []
  | .field f | .existing f => [f]
  | .isNull n _ | .neg n | .not n | .like n _ _ | .matching n _ _ | .within n _ _ => n.fields
  | .compare _ l r => l.fields ++ r.fields
  | .between n lo hi _ => n.fields ++ lo.fields ++ hi.fields
  | .and ns | .or ns | .call _ ns | .host _ ns => fieldsAll ns
  | .quantifier _ c _ p => c.fields ++ p.fields

/-- The fields that one of several nodes may look up. -/
def fieldsAll : List Node → List Field
  | [] => []
  | n :: ns => n.fields ++ fieldsAll ns

end

variable {e e' : Event} (now : Instant) (b : Budget)

theorem lookup?_congr {f : Field} (h : f.find? e = f.find? e') (bindings : List Value) :
    f.lookup? ⟨some e, now, b⟩ bindings = f.lookup? ⟨some e', now, b⟩ bindings := by
  unfold Field.lookup?
  split
  · rfl
  · exact h

mutual

/-- An evaluation sees no more of an event than the fields of the node. -/
theorem eval_congr (n : Node) (h : ∀ f ∈ n.fields, f.find? e = f.find? e')
    (bindings : List Value) :
    n.eval ⟨some e, now, b⟩ bindings = n.eval ⟨some e', now, b⟩ bindings := by
  cases n with
  | const v => rw [eval, eval]
  | field f =>
    rw [eval, eval, lookup?_congr now b (h f List.mem_cons_self)]
  | existing f =>
    rw [eval, eval, lookup?_congr now b (h f List.mem_cons_self)]
  | neg a => rw [eval, eval, eval_congr a h]
  | not a => rw [eval, eval, eval_congr a h]
  | and ns => rw [eval, eval, connect_congr false ns h]
  | or ns => rw [eval, eval, connect_congr true ns h]
  | compare op l r =>
    obtain ⟨hl, hr⟩ := List.forall_mem_append.mp h
    rw [eval, eval, eval_congr l hl, eval_congr r hr]
  | like a pattern negated => rw [eval, eval, eval_congr a h]
  | matching a pattern negated => rw [eval, eval, eval_congr a h]
  | between a low high negated =>
    obtain ⟨h, hhigh⟩ := List.forall_mem_append.mp h
    obtain ⟨ha, hlow⟩ := List.forall_mem_append.mp h
    rw [eval, eval, eval_congr a ha, eval_congr low hlow, eval_congr high hhigh]
  | within a set negated => rw [eval, eval, eval_congr a h]
  | isNull a negated => rw [eval, eval, eval_congr a h]
  | call f args => rw [eval, eval, evalAll_congr args h]
  | host f args => rw [eval, eval, evalAll_congr args h]
  | quantifier kind collection slot predicate =>
    obtain ⟨hc, hp⟩ := List.forall_mem_append.mp h
    -- The predicate sees the same event for each item; only the bindings differ.
    have hitem : ∀ item, predicate.eval ⟨some e, now, b⟩ (bindings ++ [item]) =
        predicate.eval ⟨some e', now, b⟩ (bindings ++ [item]) :=
      fun item => eval_congr predicate hp _
    rw [eval, eval, eval_congr collection hc]
    simp only [hitem]

theorem evalAll_congr (ns : List Node) (h : ∀ f ∈ fieldsAll ns, f.find? e = f.find? e')
    (bindings : List Value) :
    evalAll ⟨some e, now, b⟩ ns bindings = evalAll ⟨some e', now, b⟩ ns bindings := by
  cases ns with
  | nil => rw [evalAll, evalAll]
  | cons n ns =>
    obtain ⟨hn, hns⟩ := List.forall_mem_append.mp h
    rw [evalAll, evalAll, eval_congr n hn, evalAll_congr ns hns]

theorem connect_congr (decisive : Bool) (ns : List Node)
    (h : ∀ f ∈ fieldsAll ns, f.find? e = f.find? e') (unknown : Option EvalError)
    (bindings : List Value) :
    connect ⟨some e, now, b⟩ decisive ns unknown bindings =
      connect ⟨some e', now, b⟩ decisive ns unknown bindings := by
  cases ns with
  | nil => cases unknown <;> rw [connect, connect]
  | cons n ns =>
    obtain ⟨hn, hns⟩ := List.forall_mem_append.mp h
    have hrest : ∀ unknown, connect ⟨some e, now, b⟩ decisive ns unknown bindings =
        connect ⟨some e', now, b⟩ decisive ns unknown bindings :=
      fun unknown => connect_congr decisive ns hns unknown bindings
    rw [connect, connect, eval_congr n hn]
    simp only [hrest]

end

end Node

theorem Expression.evaluate_congr {x : Expression} {e e' : Event}
    (h : ∀ f ∈ x.root.fields, f.find? e = f.find? e') (b : Budget) (now : Instant) :
    x.evaluate e b now = x.evaluate e' b now := by
  rw [Expression.evaluate, Expression.evaluate, Node.eval_congr now b x.root h]

end Switchyard.Filter
