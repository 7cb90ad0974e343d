import Switchyard.Proofs.Filter.StaticChecks
import Switchyard.Proofs.Filter.WellFormed

/-!
# Where the nodes of a compiled tree come from

Every node of a compiled tree is what some part of the text compiles to. A part that stands beside a
constant which decides is not among them: nothing is left of it.

* `OperandsOf`: the operands of a compiled `AND` or `OR`, and their order.
* `exists_node_of_lower`: the parts of a node are what the parts of an expression compile to.
* `Expr.Live`: the parts of an expression that no constant has decided.
* `exists_live_source`, `exists_operandsOf`: every node comes from a live part, and an `AND` or `OR`
  from one with these operands.
-/

namespace Switchyard.Filter

namespace Node

variable {isAnd : Bool} {n : Node} {ns : List Node}

/-- The operands of a node that is an `AND` or `OR`, and which of them it is. -/
def operands? : Node → Option (Bool × List Node)
  | .and ns => some (true, ns)
  | .or ns => some (false, ns)
  | _ => none

/-- An `AND` or `OR` of operands. -/
def ofOperands (isAnd : Bool) (ns : List Node) : Node := if isAnd then .and ns else .or ns

theorem operands?_eq_some : n.operands? = some (isAnd, ns) ↔ n = ofOperands isAnd ns := by
  unfold ofOperands
  cases isAnd <;> cases n <;> simp [operands?]

theorem parts_ofOperands {depth : Nat} :
    (ofOperands isAnd ns).parts depth = ns.map (·, depth) := by
  cases isAnd <;> rfl

theorem hosts_ofOperands : (ofOperands isAnd ns).hosts = hostsAll ns := by
  cases isAnd <;> rfl

end Node

/-! ## Where operands come from -/

section Compiling

variable {fs : HostFunctions} {scope names : List String} {isAnd : Bool} {x root : Expr}
  {es : List Expr} {n : Node} {t : StaticType} {depth : Nat}

theorem connective_eq (isAnd : Bool) (kept : List Node) : connective isAnd kept =
    if kept = [] then .const (.bool isAnd) else .ofOperands isAnd (sortedOperands kept) := by
  split
  · next h => rw [h, connective_nil]
  · next h => rw [connective_of_ne_nil h, Node.ofOperands]

theorem lower_of_operands (hx : x.operands? = some (isAnd, es)) :
    x.lower fs scope = lowerOperands fs isAnd es [] scope := by
  cases x <;> cases hx <;> rfl

/-- An `AND` or `OR` compiles to a constant or to the operands that are kept of it. -/
theorem cases_of_operands (hx : x.operands? = some (isAnd, es))
    (h : x.lower fs scope = .ok (n, t)) : (∃ b, n = .const (.bool b)) ∨
      (∀ e ∈ es, e.decides fs isAnd scope = false) ∧
        (∀ e ∈ es, (e.operand? fs scope).isSome = true) ∧
        n = .ofOperands isAnd (sortedOperands (es.filterMap (Expr.varying? fs scope))) := by
  rw [lower_of_operands hx] at h
  obtain ⟨hlooked, hres⟩ := lowerOperands_eq_ok.mp h
  have hn := congrArg Prod.fst hres
  rw [List.nil_append, connective_eq] at hn
  dsimp only at hn
  split at hn
  · exact .inl ⟨_, hn.symm⟩
  · next hd =>
    have hnone : ∀ e ∈ es, e.decides fs isAnd scope = false := by simpa using hd
    rw [looked_eq_self hnone] at hlooked
    split at hn
    · exact .inl ⟨_, hn.symm⟩
    · exact .inr ⟨hnone, hlooked, hn.symm⟩

/-- Operands of the same cost stay in their order. -/
theorem sortedOperands_ties (kept : List Node) (k : Nat) :
    (sortedOperands kept).filter (·.cost == k) = kept.filter (·.cost == k) := by
  have hsame : (kept.filter (·.cost == k)).Pairwise fun a b => decide (a.cost ≤ b.cost) = true := by
    refine List.pairwise_filter.mpr (List.pairwise_of_forall fun a b ha hb => ?_)
    rw [beq_iff_eq] at ha hb
    rw [ha, hb]
    exact decide_eq_true (Nat.le_refl k)
  have hsub : (kept.filter (·.cost == k)).Sublist (sortedOperands kept) := by
    refine List.sublist_mergeSort (fun a b c hab hbc => ?_) (fun a b => ?_) hsame
      List.filter_sublist
    · rw [decide_eq_true_eq] at hab hbc ⊢
      omega
    · rw [Bool.or_eq_true, decide_eq_true_eq, decide_eq_true_eq]
      omega
  have hfiltered := hsub.filter (·.cost == k)
  rw [List.filter_filter] at hfiltered
  simp only [Bool.and_self] at hfiltered
  exact (hfiltered.eq_of_length ((sortedOperands_perm kept).filter _).length_eq.symm).symm

/-- The operands `ns` of a compiled `AND` or `OR` are those of `es` that are no constants, in the
order of their cost and, where they cost the same, in the order of the text. No constant decides,
and those that do not are left out. -/
structure OperandsOf (fs : HostFunctions) (isAnd : Bool) (scope : List String) (es : List Expr)
    (ns : List Node) : Prop where
  undecided : es.any (Expr.decides fs isAnd scope) = false
  kept : ns.Perm (es.filterMap (Expr.varying? fs scope))
  ordered : ns.Pairwise fun a b => a.cost ≤ b.cost
  ties : ∀ k, ns.filter (·.cost == k) =
    (es.filterMap (Expr.varying? fs scope)).filter (·.cost == k)
  dropped : ∀ e ∈ es, e.varying? fs scope = none →
    ∃ n, e.operand? fs scope = some n ∧ n.constTruth? = some isAnd

theorem constTruth_of_dropped {e : Expr} (hsome : (e.operand? fs scope).isSome = true)
    (hdecides : e.decides fs isAnd scope = false) (hdropped : e.varying? fs scope = none) :
    ∃ n, e.operand? fs scope = some n ∧ n.constTruth? = some isAnd := by
  obtain ⟨n, hn⟩ := Option.isSome_iff_exists.mp hsome
  rw [Expr.decides, hn] at hdecides
  rw [Expr.varying?, hn] at hdropped
  refine ⟨n, hn, ?_⟩
  cases hc : n.constTruth? with
  | none => simp [hc] at hdropped
  | some b => cases b <;> cases isAnd <;> simp_all

/-! ## Where nodes come from -/

/-- An expression, with the names bound in it, that compiles to a node with so many predicates
around it. -/
def CompilesTo (fs : HostFunctions) (q : List String × Expr) (p : Node × Nat) : Prop :=
  q.1.length = p.2 ∧ ∃ t, q.2.lower fs q.1 = .ok (p.1, t)

theorem compilesTo (h : x.lower fs scope = .ok (n, t)) :
    CompilesTo fs (scope, x) (n, scope.length) := ⟨rfl, t, h⟩

theorem compilesTo_of_mem_args {name : String} {args : List Arg} {ts : List Typed}
    (h : lowerArgs fs name args scope = .ok ts) :
    ∀ p ∈ (ts.map (·.1)).map (·, scope.length),
      ∃ q ∈ args.map (Arg.part scope), CompilesTo fs q p := by
  induction args generalizing ts with
  | nil =>
    obtain rfl : [] = ts := by simpa only [lowerArgs, Except.ok.injEq] using h
    exact nofun
  | cons a args ih =>
    cases a with
    | lambda param body pos => exact absurd h Compiled.fail_ne_ok
    | expr e =>
      obtain ⟨r, us, he, hus, rfl⟩ := lowerArgs_expr.mp h
      refine List.forall_mem_cons.mpr ⟨⟨_, List.mem_cons_self, compilesTo he⟩, fun p hp => ?_⟩
      obtain ⟨q, hq, hqp⟩ := ih hus p hp
      exact ⟨q, List.mem_cons_of_mem _ hq, hqp⟩

/-- An expression that is no `AND` or `OR` compiles to a node of its own form or to a constant. The
parts of the node are what its own parts compile to. -/
theorem exists_node_of_lower (h : x.lower fs scope = .ok (n, t)) (hx : x.operands? = none) :
    ∃ k : Node, k.operands? = none ∧ (n = k ∨ ∃ v, n = .const v) ∧
      ∀ p ∈ k.parts scope.length, ∃ q ∈ x.parts scope, CompilesTo fs q p := by
  have hfold : ∀ {k : Node} {pos : Nat} {u : StaticType}, fold k pos = .ok (n, u) →
      n = k ∨ ∃ v, n = .const v := by
    intro k pos u hf
    rcases fold_eq_ok.mp hf with ⟨-, v, -, hn, -⟩ | ⟨-, hn, -⟩
    · exact .inr ⟨v, hn⟩
    · exact .inl hn
  -- A node with one part: the part is compiled in the same scope.
  have hone : ∀ {e : Expr} {m : Node} {u : StaticType}, e.lower fs scope = .ok (m, u) →
      ∀ p ∈ [(m, scope.length)], ∃ q ∈ [(scope, e)], CompilesTo fs q p := by
    intro e m u he
    exact List.forall_mem_singleton.mpr ⟨_, List.mem_singleton_self _, compilesTo he⟩
  cases x with
  | literal v pos => exact ⟨n, by cases h; rfl, .inl rfl, by cases h; nofun⟩
  | path p =>
    obtain ⟨f, -, hres⟩ := lower_path.mp h
    cases hres
    exact ⟨_, rfl, .inl rfl, nofun⟩
  | existing p =>
    obtain ⟨f, -, hres⟩ := lower_existing.mp h
    cases hres
    exact ⟨_, rfl, .inl rfl, nofun⟩
  | neg e pos =>
    obtain ⟨m, _, he, -, hf⟩ := lower_neg.mp h
    exact ⟨.neg m, rfl, hfold hf, hone he⟩
  | not e pos =>
    obtain ⟨m, _, he, -, hf⟩ := lower_not.mp h
    exact ⟨.not m, rfl, hfold hf, hone he⟩
  | like e pattern negated pos =>
    obtain ⟨m, _, he, -, hf⟩ := lower_like.mp h
    exact ⟨.like m _ negated, rfl, hfold hf, hone he⟩
  | matching e pattern negated pos =>
    obtain ⟨m, _, _, he, -, -, hf⟩ := lower_matching.mp h
    exact ⟨.matching m _ negated, rfl, hfold hf, hone he⟩
  | isNull e negated pos =>
    obtain ⟨m, _, he, hf⟩ := lower_isNull.mp h
    exact ⟨.isNull m negated, rfl, hfold hf, hone he⟩
  | within e set negated pos =>
    obtain ⟨m, _, vs, he, -, hf⟩ := lower_within.mp h
    refine ⟨.within m vs negated, rfl, hfold hf, List.forall_mem_singleton.mpr ?_⟩
    exact ⟨_, List.mem_cons_self, compilesTo he⟩
  | compare op l r pos =>
    obtain ⟨a, _, b, _, hl, hr, -, hf⟩ := lower_compare.mp h
    refine ⟨.compare op a b, rfl, hfold hf, List.forall_mem_cons.mpr
      ⟨⟨_, List.mem_cons_self, compilesTo hl⟩, List.forall_mem_singleton.mpr ?_⟩⟩
    exact ⟨_, List.mem_cons_of_mem _ List.mem_cons_self, compilesTo hr⟩
  | between e low high negated pos =>
    obtain ⟨m, _, a, _, b, _, he, hl, hh, -, -, -, hf⟩ := lower_between.mp h
    refine ⟨.between m a b negated, rfl, hfold hf, fun p hp => ?_⟩
    simp only [Node.parts, List.mem_cons, List.not_mem_nil, or_false] at hp
    rcases hp with rfl | rfl | rfl
    · exact ⟨(scope, e), by simp [Expr.parts], compilesTo he⟩
    · exact ⟨(scope, low), by simp [Expr.parts], compilesTo hl⟩
    · exact ⟨(scope, high), by simp [Expr.parts], compilesTo hh⟩
  | call name args pos =>
    cases hk : quantifierOf? name args.length with
    | some kind =>
      obtain ⟨collection, param, body, at_, c, _, b, _, rfl, hc, -, hb, -, hres⟩ :=
        (lower_quantifier hk).mp h
      cases hres
      refine ⟨_, rfl, .inl rfl, List.forall_mem_cons.mpr
        ⟨⟨_, List.mem_cons_self, compilesTo hc⟩, List.forall_mem_singleton.mpr ?_⟩⟩
      exact ⟨_, List.mem_cons_of_mem _ List.mem_cons_self, by simp [Arg.part], _, hb⟩
    | none =>
      obtain ⟨ts, hts, hcall⟩ := (lower_call hk).mp h
      have hargs := compilesTo_of_mem_args hts
      rcases callNode_eq_ok.mp hcall with ⟨f, -, -, -, m, u, hf, hres⟩ | ⟨-, f, -, -, hres⟩
      · cases hres
        exact ⟨.call f _, rfl, hfold hf, hargs⟩
      · cases hres
        exact ⟨_, rfl, .inl rfl, hargs⟩
  | and es | or es => cases hx

/-- The parts of an expression that its compiled form may be made of: none of an `AND` or `OR` that
a constant decides, and otherwise the operands of it that are no constants. -/
def Expr.liveParts (fs : HostFunctions) (scope : List String) (x : Expr) :
    List (List String × Expr) :=
  match x.operands? with
  | some (isAnd, es) =>
    if es.any (Expr.decides fs isAnd scope) then []
    else (es.filter fun e => (e.varying? fs scope).isSome).map fun e => (scope, e)
  | none => x.parts scope

/-- `root.Live fs names scope x`: the expression `x` stands in `root` as `Expr.Occurs` says, and no
constant has decided anything around it. -/
inductive Expr.Live (fs : HostFunctions) (names : List String) (root : Expr) :
    List String → Expr → Prop where
  | root : Live fs names root names root
  | part {scope inner : List String} {e x : Expr} (h : Live fs names root scope e)
      (hx : (inner, x) ∈ e.liveParts fs scope) : Live fs names root inner x

theorem exists_live_of_part (h : x.lower fs scope = .ok (n, t)) :
    ∀ p ∈ n.parts scope.length, ∃ q ∈ x.liveParts fs scope, CompilesTo fs q p := by
  cases hx : x.operands? with
  | none =>
    rw [Expr.liveParts, hx]
    obtain ⟨k, -, rfl | ⟨v, rfl⟩, hparts⟩ := exists_node_of_lower h hx
    · exact hparts
    · exact nofun
  | some q =>
    obtain ⟨isAnd, es⟩ := q
    rw [Expr.liveParts, hx]
    rcases cases_of_operands hx h with ⟨b, rfl⟩ | ⟨hnone, -, rfl⟩
    · exact nofun
    · have hany : es.any (Expr.decides fs isAnd scope) = false := by simpa using hnone
      rw [Node.parts_ofOperands]
      dsimp only
      rw [hany]
      refine List.forall_mem_map.mpr fun m hm => ?_
      obtain ⟨e, he, hvarying⟩ := List.mem_filterMap.mp ((sortedOperands_perm _).mem_iff.mp hm)
      obtain ⟨t, hlower, -⟩ := operand?_eq_some.mp (Option.mem_filter_iff.mp hvarying).1
      refine ⟨(scope, e), List.mem_map.mpr ⟨e, List.mem_filter.mpr ⟨he, ?_⟩, rfl⟩,
        compilesTo hlower⟩
      rw [hvarying]
      rfl

/-- Every node of a compiled tree is what a live part of the expression compiles to. -/
theorem exists_live_source (h : root.lower fs [] = .ok (n, t)) {m : Node}
    (hm : n.Occurs m depth) :
    ∃ scope x, root.Live fs [] scope x ∧ CompilesTo fs (scope, x) (m, depth) := by
  induction hm with
  | root => exact ⟨[], root, .root, compilesTo h⟩
  | part _ hpart ih =>
    obtain ⟨scope, x, hlive, rfl, u, hx⟩ := ih
    obtain ⟨q, hq, hqp⟩ := exists_live_of_part hx _ hpart
    exact ⟨q.1, q.2, hlive.part hq, hqp⟩

/-- The operands in a compiled tree are those that are left of an `AND` or `OR` of the text. -/
theorem exists_operandsOf (h : root.lower fs [] = .ok (n, t)) {m : Node} {ns : List Node}
    (hm : n.Occurs m depth) (hns : m.operands? = some (isAnd, ns)) :
    ∃ scope x es, root.Live fs [] scope x ∧ x.operands? = some (isAnd, es) ∧
      OperandsOf fs isAnd scope es ns := by
  obtain ⟨scope, x, hlive, -, u, hx⟩ := exists_live_source h hm
  cases hes : x.operands? with
  | none =>
    obtain ⟨k, hk, rfl | ⟨v, rfl⟩, -⟩ := exists_node_of_lower hx hes
    · rw [hk] at hns
      cases hns
    · cases hns
  | some q =>
    obtain ⟨isAnd', es⟩ := q
    rcases cases_of_operands hes hx with ⟨b, rfl⟩ | ⟨hnone, hsome, rfl⟩
    · cases hns
    · rw [Node.operands?_eq_some.mpr rfl] at hns
      cases hns
      exact ⟨scope, x, es, hlive, hes, by simpa using hnone, sortedOperands_perm _,
        sortedOperands_sorted _, sortedOperands_ties _,
        fun e he => constTruth_of_dropped (hsome e he) (hnone e he)⟩

/-- What is constant decides at once: nothing of the other operands is left. -/
theorem const_of_decides (hx : x.operands? = some (isAnd, es))
    (hd : es.any (Expr.decides fs isAnd scope) = true) : x.liveParts fs scope = [] ∧
      ∀ n t, x.lower fs scope = .ok (n, t) → n = .const (.bool !isAnd) := by
  refine ⟨by rw [Expr.liveParts, hx]; exact if_pos hd, fun n t h => ?_⟩
  rw [lower_of_operands hx] at h
  have hn := congrArg Prod.fst (lowerOperands_eq_ok.mp h).2
  rw [hd] at hn
  exact hn.symm

end Compiling

end Switchyard.Filter
