import Mathlib.Data.List.Induction
import Switchyard.Filter.Compile
import Switchyard.Proofs.Filter.Outcome

/-!
# What compiling comes to

Each form of expression compiles exactly if its parts do and some checks hold: the `lower_*`
lemmas say so, one for each form, so that later proofs need not look into the compiler.

* `fold_eq_ok`: folding keeps a node or replaces it by its value.
* `Lowered`, `lowered_of_lower`: what compiling comes to, by the form of the node that is left. An
  induction on it needs to know nothing of the compiler.
* `registered_of_lower`: a compiled tree calls registered host functions only.
-/

namespace Switchyard.Filter

open Compiled

namespace Compiled

theorem require_eq_ok {holds : Bool} {pos : Nat} {fault : CompileFault} {u : Unit} :
    require holds pos fault = .ok u ↔ holds = true := by
  cases holds with
  | true => exact ⟨fun _ => rfl, fun _ => rfl⟩
  | false => exact ⟨nofun, nofun⟩

theorem fail_ne_ok {α : Type} {pos : Nat} {fault : CompileFault} {a : α} :
    fail pos fault ≠ .ok a := nofun

end Compiled

/-! ## Names -/

theorem slot?_append (scope : List String) (last name : String) :
    slot? (scope ++ [last]) name = if last = name then some scope.length else slot? scope name := by
  unfold slot?
  rw [List.zipIdx_append, List.filter_append]
  by_cases h : last = name
  · simp [h]
  · simp [h]

/-- A name belongs to the last slot that has it. -/
theorem slot?_eq_some {scope : List String} {name : String} {k : Nat} :
    slot? scope name = some k ↔
      scope[k]? = some name ∧ ∀ j, k < j → scope[j]? ≠ some name := by
  -- From the end: a name that has just been bound hides those of the same name before it.
  induction scope using List.reverseRecOn with
  | nil => simp [slot?]
  | append_singleton scope last ih =>
    rw [slot?_append]
    by_cases hl : last = name
    · subst hl
      rw [if_pos rfl, Option.some.injEq]
      constructor
      · rintro rfl
        refine ⟨List.getElem?_concat_length, fun j hj => ?_⟩
        rw [List.getElem?_eq_none (by rw [List.length_append, List.length_singleton]; omega)]
        nofun
      · rintro ⟨hk, hlast⟩
        have hlt : k < scope.length + 1 := by
          simpa using (List.getElem?_eq_some_iff.mp hk).1
        by_contra hne
        exact hlast scope.length (by omega) List.getElem?_concat_length
    · rw [if_neg hl, ih]
      have hget : ∀ j : Nat, (scope ++ [last])[j]? = some name ↔ scope[j]? = some name := by
        intro j
        rw [List.getElem?_append]
        split
        · rfl
        · next hj =>
          have hnone : scope[j]? = none := List.getElem?_eq_none (Nat.le_of_not_lt hj)
          rw [hnone, List.getElem?_singleton]
          split <;> simp [hl]
      simp only [hget, ne_eq]

/-- A path whose root is bound starts in the element of the innermost quantifier that binds it. -/
theorem resolve_binding {scope : List String} {p : Path} {f : Field} {k : Nat}
    (h : resolve scope p = .ok f) :
    f.root = .binding k ↔ scope[k]? = some p.root ∧ ∀ j, k < j → scope[j]? ≠ some p.root := by
  rw [← slot?_eq_some]
  unfold resolve at h
  split at h
  · next slot hs =>
    obtain rfl := Except.ok.inj h
    simp [hs]
  · next hs =>
    rw [hs]
    refine iff_of_false (fun hf => ?_) nofun
    split at h
    · obtain rfl := Except.ok.inj h
      cases hf
    · split at h
      · obtain rfl := Except.ok.inj h
        cases hf
      · split at h
        · split at h
          · obtain rfl := Except.ok.inj h
            cases hf
          · exact absurd h fail_ne_ok
        · exact absurd h fail_ne_ok

/-! ## Constants and folding -/

theorem const?_eq_some {n : Node} {v : Value} : n.const? = some v ↔ n = .const v := by
  cases n <;> simp [Node.const?]

theorem fold_eq_ok {n m : Node} {pos : Nat} {t : StaticType} :
    fold n pos = .ok (m, t) ↔
      (n.isFoldable = true ∧ ∃ v, n.foldedValue = .ok v ∧ m = .const v ∧ t = some v.type) ∨
      (n.isFoldable = false ∧ m = n ∧ t = n.kindType) := by
  unfold fold
  cases hf : n.isFoldable with
  | false =>
    simp only [Bool.false_eq_true, ↓reduceIte, Except.ok.injEq, Prod.mk.injEq, false_and, true_and,
      false_or]
    exact ⟨fun ⟨h, ht⟩ => ⟨h.symm, ht.symm⟩, fun ⟨h, ht⟩ => ⟨h.symm, ht.symm⟩⟩
  | true =>
    cases hv : n.foldedValue with
    | error e =>
      simp only [↓reduceIte, reduceCtorEq, false_and, exists_false, and_false, or_false, iff_false]
      exact fail_ne_ok
    | ok v =>
      simp only [↓reduceIte, Except.ok.injEq, Prod.mk.injEq, exists_eq_left', true_and,
        reduceCtorEq, false_and, or_false]
      exact ⟨fun ⟨h, ht⟩ => ⟨h.symm, ht.symm⟩, fun ⟨h, ht⟩ => ⟨h.symm, ht.symm⟩⟩

theorem hosts_of_fold {n : Node} {pos : Nat} {res : Typed} (h : fold n pos = .ok res) :
    res.1.hosts ⊆ n.hosts := by
  obtain ⟨m, t⟩ := res
  rcases fold_eq_ok.mp h with ⟨-, v, -, rfl, -⟩ | ⟨-, rfl, -⟩
  · exact List.nil_subset _
  · exact List.Subset.refl _

/-! ## One form at a time -/

section Forms

variable {fs : HostFunctions} {scope : List String} {e l r low high : Expr} {es set : List Expr}
  {pos : Nat} {negated : Bool} {kept : List Node} {res : Typed}

theorem lower_literal {v : Value} :
    (Expr.literal v pos).lower fs scope = .ok res ↔ (.const v, some v.type) = res :=
  ⟨fun h => Except.ok.inj h, fun h => congrArg Except.ok h⟩

theorem lower_path {p : Path} : (Expr.path p).lower fs scope = .ok res ↔
    ∃ f, resolve scope p = .ok f ∧
      (.field f, if f.root = .subject then some .string else none) = res := by
  refine bind_eq_ok.trans ?_
  simp only [Except.ok.injEq]

theorem lower_existing {p : Path} : (Expr.existing p).lower fs scope = .ok res ↔
    ∃ f, resolve scope p = .ok f ∧ (.existing f, some .bool) = res := by
  refine bind_eq_ok.trans ?_
  simp only [Except.ok.injEq]

theorem lower_neg : (Expr.neg e pos).lower fs scope = .ok res ↔
    ∃ n t, e.lower fs scope = .ok (n, t) ∧ t.mayBe [.number, .duration] = true ∧
      fold (.neg n) pos = .ok res := by
  refine bind_eq_ok.trans ?_
  simp only [bind_eq_ok, Prod.exists, require_eq_ok, exists_const]

theorem lower_not : (Expr.not e pos).lower fs scope = .ok res ↔
    ∃ n t, e.lower fs scope = .ok (n, t) ∧ t.mayBe [.bool] = true ∧
      fold (.not n) pos = .ok res := by
  refine bind_eq_ok.trans ?_
  simp only [bind_eq_ok, Prod.exists, requireBool, require_eq_ok, exists_const]

theorem lower_compare {op : CompareOp} : (Expr.compare op l r pos).lower fs scope = .ok res ↔
    ∃ a s b t, l.lower fs scope = .ok (a, s) ∧ r.lower fs scope = .ok (b, t) ∧
      (op.isOrdering = true → s.mayCompare t = true) ∧ fold (.compare op a b) pos = .ok res := by
  refine bind_eq_ok.trans ?_
  simp only [bind_eq_ok, Prod.exists]
  cases op.isOrdering <;>
    simp [requireOrder, require_eq_ok, bind_eq_ok, exists_and_left]

theorem lower_like {pattern : String} : (Expr.like e pattern negated pos).lower fs scope = .ok res ↔
    ∃ n t, e.lower fs scope = .ok (n, t) ∧ t.mayBe [.string] = true ∧
      fold (.like n (.ofString pattern) negated) pos = .ok res := by
  refine bind_eq_ok.trans ?_
  simp only [bind_eq_ok, Prod.exists, requireString, require_eq_ok, exists_const]

theorem lower_matching {pattern : String} :
    (Expr.matching e pattern negated pos).lower fs scope = .ok res ↔
      ∃ n t p, e.lower fs scope = .ok (n, t) ∧ t.mayBe [.string] = true ∧
        TextPattern.compile? fs.patterns pattern = some p ∧
        fold (.matching n p negated) pos = .ok res := by
  refine bind_eq_ok.trans ?_
  simp only [bind_eq_ok, Prod.exists, requireString, require_eq_ok, exists_const]
  cases TextPattern.compile? fs.patterns pattern <;> simp [fail_ne_ok]

theorem lower_between : (Expr.between e low high negated pos).lower fs scope = .ok res ↔
    ∃ n t a s b u, e.lower fs scope = .ok (n, t) ∧ low.lower fs scope = .ok (a, s) ∧
      high.lower fs scope = .ok (b, u) ∧ t.mayCompare s = true ∧ t.mayCompare u = true ∧
      s.mayCompare u = true ∧ fold (.between n a b negated) pos = .ok res := by
  refine bind_eq_ok.trans ?_
  simp only [bind_eq_ok, Prod.exists, requireOrder, require_eq_ok, exists_const,
    exists_and_left]

theorem lower_within : (Expr.within e set negated pos).lower fs scope = .ok res ↔
    ∃ n t vs, e.lower fs scope = .ok (n, t) ∧ lowerSet fs set scope = .ok vs ∧
      fold (.within n vs negated) pos = .ok res := by
  refine bind_eq_ok.trans ?_
  simp only [bind_eq_ok, Prod.exists, exists_and_left]

theorem lower_isNull : (Expr.isNull e negated pos).lower fs scope = .ok res ↔
    ∃ n t, e.lower fs scope = .ok (n, t) ∧ fold (.isNull n negated) pos = .ok res := by
  refine bind_eq_ok.trans ?_
  simp only [Prod.exists]

theorem lower_and : (Expr.and es).lower fs scope = lowerOperands fs true es [] scope := rfl

theorem lower_or : (Expr.or es).lower fs scope = lowerOperands fs false es [] scope := rfl

/-- A quantifier takes a collection and a predicate over its elements. -/
theorem lower_quantifier {name : String} {args : List Arg} {kind : Quantifier}
    (hk : quantifierOf? name args.length = some kind) :
    (Expr.call name args pos).lower fs scope = .ok res ↔
      ∃ collection param body at_ c t p s, args = [.expr collection, .lambda param body at_] ∧
        collection.lower fs scope = .ok (c, t) ∧ t.mayBe [.array] = true ∧
        body.lower fs (scope ++ [param]) = .ok (p, s) ∧ s.mayBe [.bool] = true ∧
        (.quantifier kind c scope.length p, some (if kind = .count then .number else .bool)) =
          res := by
  rw [Expr.lower, hk]
  dsimp only
  split
  · next _ collection param body at_ =>
    simp only [bind_eq_ok, Prod.exists, requireBool, require_eq_ok, exists_const, Except.ok.injEq]
    constructor
    · rintro ⟨c, t, hc, ht, p, s, hp, hs, rfl⟩
      exact ⟨collection, param, body, at_, c, t, p, s, rfl, hc, ht, hp, hs, rfl⟩
    · rintro ⟨_, _, _, _, c, t, p, s, ⟨⟩, hc, ht, hp, hs, rfl⟩
      exact ⟨c, t, hc, ht, p, s, hp, hs, rfl⟩
  · next h =>
    constructor
    · exact fun hf => absurd hf fail_ne_ok
    · rintro ⟨collection, param, body, at_, _, _, _, _, hargs, -⟩
      exact (h collection param body at_ hargs).elim

theorem lower_call {name : String} {args : List Arg}
    (hk : quantifierOf? name args.length = none) :
    (Expr.call name args pos).lower fs scope = .ok res ↔
      ∃ ts, lowerArgs fs name args scope = .ok ts ∧ callNode fs name ts pos = .ok res := by
  rw [Expr.lower, hk]
  exact bind_eq_ok

theorem callNode_eq_ok {name : String} {ts : List Typed} :
    callNode fs name ts pos = .ok res ↔
      (∃ f, Builtin.ofName? name = some f ∧ f.takes ts.length = true ∧
        f.check (ts.map (·.2)) = .ok () ∧
        ∃ n t, fold (.call f (ts.map (·.1))) pos = .ok (n, t) ∧
          (n, t.or (f.returnType (ts.map (·.2)))) = res) ∨
      (Builtin.ofName? name = none ∧ ∃ f, fs.find? name = some f ∧ ts.length = f.arity ∧
        (.host f (ts.map (·.1)), none) = res) := by
  unfold callNode
  cases Builtin.ofName? name with
  | some f =>
    cases hc : f.check (ts.map (·.2)) with
    | error fault => simp [bind_eq_ok, require_eq_ok, hc, fail_ne_ok]
    | ok u => simp [bind_eq_ok, require_eq_ok, hc]
  | none =>
    cases fs.find? name with
    | none => simp [fail_ne_ok]
    | some f => simp [bind_eq_ok, require_eq_ok]

theorem lowerOperands_nil {isAnd : Bool} :
    lowerOperands fs isAnd [] kept scope = .ok res ↔ (connective isAnd kept, some .bool) = res :=
  ⟨fun h => Except.ok.inj h, fun h => congrArg Except.ok h⟩

theorem lowerOperands_cons {isAnd : Bool} :
    lowerOperands fs isAnd (e :: es) kept scope = .ok res ↔
      ∃ n t, e.lower fs scope = .ok (n, t) ∧ t.mayBe [.bool] = true ∧
        match n.constTruth? with
        | some b =>
          if b = isAnd then lowerOperands fs isAnd es kept scope = .ok res
          else (.const (.bool !isAnd), some .bool) = res
        | none => lowerOperands fs isAnd es (kept ++ [n]) scope = .ok res := by
  refine bind_eq_ok.trans ?_
  simp only [bind_eq_ok, Prod.exists, requireBool, require_eq_ok, exists_const]
  refine exists_congr fun n => exists_congr fun t => and_congr_right fun _ => and_congr_right ?_
  intro _
  cases n.constTruth? with
  | none => rfl
  | some b => by_cases hb : b = isAnd <;> simp [hb]

theorem lowerSet_cons {vs : List Value} : lowerSet fs (e :: es) scope = .ok vs ↔
    ∃ v t ws, e.lower fs scope = .ok (.const v, t) ∧ lowerSet fs es scope = .ok ws ∧
      v :: ws = vs := by
  refine bind_eq_ok.trans ?_
  simp only [Prod.exists]
  constructor
  · rintro ⟨n, t, he, h⟩
    split at h
    · next v hv =>
      obtain ⟨ws, hws, hvs⟩ := bind_eq_ok.mp h
      exact ⟨v, t, ws, const?_eq_some.mp hv ▸ he, hws, Except.ok.inj hvs⟩
    · exact absurd h fail_ne_ok
  · rintro ⟨v, t, ws, he, hws, rfl⟩
    exact ⟨.const v, t, he, bind_eq_ok.mpr ⟨ws, hws, rfl⟩⟩

theorem lowerArgs_expr {name : String} {args : List Arg} {ts : List Typed} :
    lowerArgs fs name (.expr e :: args) scope = .ok ts ↔
      ∃ t us, e.lower fs scope = .ok t ∧ lowerArgs fs name args scope = .ok us ∧ t :: us = ts := by
  refine bind_eq_ok.trans ?_
  simp only [bind_eq_ok, Except.ok.injEq, exists_and_left]

end Forms

/-! ## Operands that are kept -/

theorem connective_nil (isAnd : Bool) : connective isAnd [] = .const (.bool isAnd) := by
  simp [connective]

/-- The operands in the order in which they are evaluated. -/
def sortedOperands (kept : List Node) : List Node :=
  kept.mergeSort fun a b => a.cost ≤ b.cost

theorem sortedOperands_perm (kept : List Node) : (sortedOperands kept).Perm kept :=
  List.mergeSort_perm _ _

theorem sortedOperands_sorted (kept : List Node) :
    (sortedOperands kept).Pairwise fun a b => a.cost ≤ b.cost := by
  have htrans (a b c : Node) (hab : decide (a.cost ≤ b.cost) = true)
      (hbc : decide (b.cost ≤ c.cost) = true) : decide (a.cost ≤ c.cost) = true :=
    decide_eq_true (Nat.le_trans (of_decide_eq_true hab) (of_decide_eq_true hbc))
  have htotal (a b : Node) : (decide (a.cost ≤ b.cost) || decide (b.cost ≤ a.cost)) = true := by
    simpa using Nat.le_total a.cost b.cost
  exact (List.pairwise_mergeSort htrans htotal kept).imp of_decide_eq_true

theorem connective_of_ne_nil {kept : List Node} (h : kept ≠ []) (isAnd : Bool) :
    connective isAnd kept =
      if isAnd then .and (sortedOperands kept) else .or (sortedOperands kept) := by
  unfold connective
  dsimp only
  split
  · next hs =>
    exact absurd ((hs ▸ sortedOperands_perm kept : ([] : List Node).Perm kept).nil_eq.symm) h
  · rfl

/-- A text compiles to the tree of what it parses to, unless that can never be a truth value. -/
theorem compile_eq_ok {fs : HostFunctions} {source : String} {e : Expression} :
    compile fs source = .ok e ↔
      ∃ ast root t, parse source = .ok ast ∧ ast.lower fs [] = .ok (root, t) ∧
        t.mayBe [.bool] = true ∧ ⟨source, root⟩ = e := by
  simp only [compile, bind_eq_ok, Prod.exists, require_eq_ok, exists_const,
    Except.ok.injEq, exists_and_left]

/-! ## What a compiled tree is made of -/

/-- What compiling under the names of a scope comes to, by the form of the node that is left. The
parts of the node have been compiled under the same names, the predicate of a quantifier under one
name more. -/
inductive Lowered (fs : HostFunctions) : List String → Typed → Prop where
  | literal {scope : List String} (v : Value) : Lowered fs scope (.const v, some v.type)
  | field {scope : List String} {p : Path} {f : Field} (hf : resolve scope p = .ok f) :
      Lowered fs scope (.field f, if f.root = .subject then some .string else none)
  | existing {scope : List String} {p : Path} {f : Field} (hf : resolve scope p = .ok f) :
      Lowered fs scope (.existing f, some .bool)
  | neg {scope : List String} {n : Node} {t : StaticType} {pos : Nat} {res : Typed}
      (hn : Lowered fs scope (n, t)) (ht : t.mayBe [.number, .duration] = true)
      (hf : fold (.neg n) pos = .ok res) : Lowered fs scope res
  | not {scope : List String} {n : Node} {t : StaticType} {pos : Nat} {res : Typed}
      (hn : Lowered fs scope (n, t)) (ht : t.mayBe [.bool] = true)
      (hf : fold (.not n) pos = .ok res) : Lowered fs scope res
  | compare {scope : List String} {op : CompareOp} {l r : Node} {s t : StaticType} {pos : Nat}
      {res : Typed} (hl : Lowered fs scope (l, s)) (hr : Lowered fs scope (r, t))
      (ht : op.isOrdering = true → s.mayCompare t = true)
      (hf : fold (.compare op l r) pos = .ok res) : Lowered fs scope res
  | like {scope : List String} {n : Node} {t : StaticType} {pattern : Glob} {negated : Bool}
      {pos : Nat} {res : Typed} (hn : Lowered fs scope (n, t)) (ht : t.mayBe [.string] = true)
      (hf : fold (.like n pattern negated) pos = .ok res) : Lowered fs scope res
  | matching {scope : List String} {n : Node} {t : StaticType} {pattern : TextPattern}
      {negated : Bool} {pos : Nat} {res : Typed} (hn : Lowered fs scope (n, t))
      (ht : t.mayBe [.string] = true) (hf : fold (.matching n pattern negated) pos = .ok res) :
      Lowered fs scope res
  | between {scope : List String} {n low high : Node} {t s u : StaticType} {negated : Bool}
      {pos : Nat} {res : Typed} (hn : Lowered fs scope (n, t)) (hl : Lowered fs scope (low, s))
      (hh : Lowered fs scope (high, u)) (hf : fold (.between n low high negated) pos = .ok res) :
      Lowered fs scope res
  | within {scope : List String} {n : Node} {t : StaticType} {set : List Value} {negated : Bool}
      {pos : Nat} {res : Typed} (hn : Lowered fs scope (n, t))
      (hf : fold (.within n set negated) pos = .ok res) : Lowered fs scope res
  | isNull {scope : List String} {n : Node} {t : StaticType} {negated : Bool} {pos : Nat}
      {res : Typed} (hn : Lowered fs scope (n, t)) (hf : fold (.isNull n negated) pos = .ok res) :
      Lowered fs scope res
  | connective {scope : List String} {isAnd : Bool} {kept : List Typed} (hne : kept ≠ [])
      (hk : ∀ k ∈ kept, Lowered fs scope k)
      (ht : ∀ k ∈ kept, k.2.mayBe [.bool] = true ∧ k.1.constTruth? = none) :
      Lowered fs scope (Filter.connective isAnd (kept.map (·.1)), some .bool)
  | builtin {scope : List String} {f : Builtin} {ts : List Typed} {pos : Nat} {n : Node}
      {t : StaticType} (hts : ∀ t ∈ ts, Lowered fs scope t) (htakes : f.takes ts.length = true)
      (hcheck : f.check (ts.map (·.2)) = .ok ())
      (hf : fold (.call f (ts.map (·.1))) pos = .ok (n, t)) :
      Lowered fs scope (n, t.or (f.returnType (ts.map (·.2))))
  | host {scope : List String} {name : String} {f : HostFunction} {ts : List Typed}
      (hts : ∀ t ∈ ts, Lowered fs scope t) (hfind : fs.find? name = some f)
      (harity : ts.length = f.arity) : Lowered fs scope (.host f (ts.map (·.1)), none)
  | quantifier {scope : List String} {kind : Quantifier} {c p : Node} {t s : StaticType}
      {param : String} (hc : Lowered fs scope (c, t)) (ht : t.mayBe [.array] = true)
      (hp : Lowered fs (scope ++ [param]) (p, s)) (hs : s.mayBe [.bool] = true) :
      Lowered fs scope
        (.quantifier kind c scope.length p, some (if kind = .count then .number else .bool))

section Forms

variable {fs : HostFunctions}

mutual

theorem lowered_of_lower (e : Expr) {scope : List String} {res : Typed}
    (h : e.lower fs scope = .ok res) : Lowered fs scope res := by
  cases e with
  | literal v pos =>
    obtain rfl := lower_literal.mp h
    exact .literal v
  | path p =>
    obtain ⟨f, hf, rfl⟩ := lower_path.mp h
    exact .field hf
  | existing p =>
    obtain ⟨f, hf, rfl⟩ := lower_existing.mp h
    exact .existing hf
  | neg e pos =>
    obtain ⟨n, t, he, ht, hf⟩ := lower_neg.mp h
    exact .neg (lowered_of_lower e he) ht hf
  | not e pos =>
    obtain ⟨n, t, he, ht, hf⟩ := lower_not.mp h
    exact .not (lowered_of_lower e he) ht hf
  -- No operand is kept yet, so nothing needs to be said of those that are.
  | and es =>
    rw [lower_and] at h
    exact lowered_of_lowerOperands es [] nofun h
  | or es =>
    rw [lower_or] at h
    exact lowered_of_lowerOperands es [] nofun h
  | compare op l r pos =>
    obtain ⟨a, s, b, t, hl, hr, ht, hf⟩ := lower_compare.mp h
    exact .compare (lowered_of_lower l hl) (lowered_of_lower r hr) ht hf
  | like e pattern negated pos =>
    obtain ⟨n, t, he, ht, hf⟩ := lower_like.mp h
    exact .like (lowered_of_lower e he) ht hf
  | matching e pattern negated pos =>
    obtain ⟨n, t, p, he, ht, -, hf⟩ := lower_matching.mp h
    exact .matching (lowered_of_lower e he) ht hf
  | between e low high negated pos =>
    obtain ⟨n, t, a, s, b, u, he, hl, hh, -, -, -, hf⟩ := lower_between.mp h
    exact .between (lowered_of_lower e he) (lowered_of_lower low hl) (lowered_of_lower high hh) hf
  | within e set negated pos =>
    obtain ⟨n, t, vs, he, -, hf⟩ := lower_within.mp h
    exact .within (lowered_of_lower e he) hf
  | isNull e negated pos =>
    obtain ⟨n, t, he, hf⟩ := lower_isNull.mp h
    exact .isNull (lowered_of_lower e he) hf
  | call name args pos =>
    cases hk : quantifierOf? name args.length with
    | some kind =>
      match args, hk, h with
      | [.expr collection, .lambda param body at_], hk, h =>
        obtain ⟨_, _, _, _, c, t, p, s, ⟨⟩, hc, ht, hp, hs, rfl⟩ := (lower_quantifier hk).mp h
        exact .quantifier (lowered_of_lower collection hc) ht (lowered_of_lower body hp) hs
      | [], hk, h | [_], hk, h | .lambda .. :: _, hk, h | _ :: .expr _ :: _, hk, h
      | _ :: _ :: _ :: _, hk, h =>
        obtain ⟨_, _, _, _, _, _, _, _, ⟨⟩, -⟩ := (lower_quantifier hk).mp h
    | none =>
      obtain ⟨ts, hts, hn⟩ := (lower_call hk).mp h
      have ha := lowered_of_lowerArgs args hts
      rcases callNode_eq_ok.mp hn with
        ⟨f, -, htakes, hcheck, n, t, hf, rfl⟩ | ⟨-, f, hfind, harity, rfl⟩
      · exact .builtin ha htakes hcheck hf
      · exact .host ha hfind harity
termination_by structural e

theorem lowered_of_lowerOperands (es : List Expr) (kept : List Typed) {isAnd : Bool}
    {scope : List String} {res : Typed}
    (hkept : ∀ k ∈ kept,
      Lowered fs scope k ∧ k.2.mayBe [.bool] = true ∧ k.1.constTruth? = none)
    (h : lowerOperands fs isAnd es (kept.map (·.1)) scope = .ok res) : Lowered fs scope res := by
  cases es with
  | nil =>
    obtain rfl := lowerOperands_nil.mp h
    by_cases hk : kept = []
    · subst hk
      rw [List.map_nil, connective_nil]
      exact .literal (.bool isAnd)
    · exact .connective hk (fun k hm => (hkept k hm).1) fun k hm => (hkept k hm).2
  | cons e es =>
    obtain ⟨n, t, he, ht, h⟩ := lowerOperands_cons.mp h
    split at h
    · split at h
      · exact lowered_of_lowerOperands es kept hkept h
      · obtain rfl := h
        exact .literal (.bool !isAnd)
    · next hn =>
      refine lowered_of_lowerOperands es (kept ++ [(n, t)]) (fun k hk => ?_)
        (by rw [List.map_append]; exact h)
      rcases List.mem_append.mp hk with hk | hk
      · exact hkept k hk
      · obtain rfl := List.mem_singleton.mp hk
        exact ⟨lowered_of_lower e he, ht, hn⟩

theorem lowered_of_lowerArgs (args : List Arg) {name : String} {scope : List String}
    {ts : List Typed} (h : lowerArgs fs name args scope = .ok ts) :
    ∀ t ∈ ts, Lowered fs scope t := by
  match args with
  | [] =>
    obtain rfl : [] = ts := by simpa only [lowerArgs, Except.ok.injEq] using h
    exact nofun
  | .expr e :: args =>
    obtain ⟨t, us, he, hus, rfl⟩ := lowerArgs_expr.mp h
    exact List.forall_mem_cons.mpr ⟨lowered_of_lower e he, lowered_of_lowerArgs args hus⟩
  | .lambda _ _ _ :: _ => exact absurd h fail_ne_ok

end

end Forms

/-! ## Host functions of a compiled tree -/

/-- A tree that calls registered host functions only. -/
def Node.IsRegistered (fs : HostFunctions) (n : Node) : Prop :=
  ∀ f ∈ n.hosts, ∃ name, fs.find? name = some f

section Hosts

variable {fs : HostFunctions}

theorem registered_const (v : Value) : (Node.const v).IsRegistered fs := List.forall_mem_nil _

theorem registered_fold {n : Node} {pos : Nat} {res : Typed} (hf : fold n pos = .ok res)
    (h : n.IsRegistered fs) : res.1.IsRegistered fs := fun f hm => h f (hosts_of_fold hf hm)

theorem registered_connective {kept : List Node} (h : ∀ k ∈ kept, k.IsRegistered fs)
    (isAnd : Bool) : (connective isAnd kept).IsRegistered fs := by
  by_cases hk : kept = []
  · subst hk
    rw [connective_nil]
    exact registered_const _
  · have hs : ∀ f ∈ Node.hostsAll (sortedOperands kept), ∃ name, fs.find? name = some f := by
      intro f hf
      rw [Node.hostsAll_eq_flatMap] at hf
      obtain ⟨n, hn, hf⟩ := List.mem_flatMap.mp hf
      exact h n ((sortedOperands_perm kept).mem_iff.mp hn) f hf
    rw [connective_of_ne_nil hk]
    cases isAnd <;> exact hs

theorem registered_hostsAll {ts : List Typed} (h : ∀ t ∈ ts, t.1.IsRegistered fs) :
    ∀ f ∈ Node.hostsAll (ts.map (·.1)), ∃ name, fs.find? name = some f := by
  intro f hf
  rw [Node.hostsAll_eq_flatMap] at hf
  obtain ⟨n, hn, hf⟩ := List.mem_flatMap.mp hf
  obtain ⟨t, ht, rfl⟩ := List.mem_map.mp hn
  exact h t ht f hf

theorem Lowered.registered {scope : List String} {res : Typed} (h : Lowered fs scope res) :
    res.1.IsRegistered fs := by
  induction h with
  | literal v => exact registered_const v
  | field | existing => exact List.forall_mem_nil _
  | neg _ _ hf ih | not _ _ hf ih | like _ _ hf ih | matching _ _ hf ih | within _ hf ih
  | isNull _ hf ih => exact registered_fold hf ih
  | compare _ _ _ hf ihl ihr =>
    exact registered_fold hf (List.forall_mem_append.mpr ⟨ihl, ihr⟩)
  | between _ _ _ hf ih ihl ihh =>
    exact registered_fold hf
      (List.forall_mem_append.mpr ⟨List.forall_mem_append.mpr ⟨ih, ihl⟩, ihh⟩)
  | connective _ _ _ ih =>
    refine registered_connective (fun n hn => ?_) _
    obtain ⟨k, hk, rfl⟩ := List.mem_map.mp hn
    exact ih k hk
  | builtin _ _ _ hf ih =>
    have hr := registered_fold hf (registered_hostsAll ih)
    exact hr
  | @host _ name _ _ _ hfind _ ih =>
    exact List.forall_mem_cons.mpr ⟨⟨name, hfind⟩, registered_hostsAll ih⟩
  | quantifier _ _ _ _ ihc ihp => exact List.forall_mem_append.mpr ⟨ihc, ihp⟩

theorem registered_of_lower (e : Expr) {scope : List String} {res : Typed}
    (h : e.lower fs scope = .ok res) : res.1.IsRegistered fs :=
  (lowered_of_lower e h).registered

end Hosts

end Switchyard.Filter
