import Switchyard.Proofs.Filter.Denotation
import Switchyard.Proofs.Filter.Lowering

/-!
# Optimising changes no filter

Compiling folds constants, drops or absorbs constant operands, and sorts the operands of `AND` and
`OR` by their cost. None of it can be observed: a compiled filter says of every event what its text
means.

* `Binds`: an environment of names and the list of bound elements that stands for it.
* `Node.outcome_of_fold`: a folded node has the outcome of the node that it replaces.
* `toOption_outcome_of_lower`: a compiled expression has the value of the expression, or both have
  none.
* `evaluate_of_compile`: the same for whole filters.
-/

namespace Switchyard.Filter

/-! ## Names -/

/-- The bound names of an environment, outermost first, and the elements that they stand for. -/
inductive Binds : Environment → List String → List Value → Prop where
  | nil : Binds [] [] []
  | snoc {env : Environment} {scope : List String} {bindings : List Value}
      (h : Binds env scope bindings) (name : String) (v : Value) :
      Binds ((name, v) :: env) (scope ++ [name]) (bindings ++ [v])

namespace Binds

variable {env : Environment} {scope : List String} {bindings : List Value}

theorem length_eq (h : Binds env scope bindings) : scope.length = bindings.length := by
  induction h with
  | nil => rfl
  | snoc _ _ _ ih => simp [ih]

/-- The slot of a name has the element that the name is bound to. -/
theorem lookup (h : Binds env scope bindings) (name : String) :
    (slot? scope name = none ∧ env.lookup name = none) ∨
      ∃ i v, slot? scope name = some i ∧ bindings[i]? = some v ∧ env.lookup name = some v := by
  induction h with
  | nil => exact .inl ⟨rfl, rfl⟩
  | @snoc env scope bindings hb last v ih =>
    rw [slot?_append]
    by_cases hn : last = name
    · subst hn
      refine .inr ⟨scope.length, v, if_pos rfl, ?_, by simp⟩
      rw [hb.length_eq, List.getElem?_concat_length]
    · have hl : ((last, v) :: env).lookup name = env.lookup name := by
        have hb' : (name == last) = false := beq_eq_false_iff_ne.mpr (Ne.symm hn)
        simp [List.lookup_cons, hb']
      rw [if_neg hn, hl]
      refine ih.imp id fun ⟨i, w, hs, hi, hw⟩ => ⟨i, w, hs, ?_, hw⟩
      rw [List.getElem?_append_left (List.getElem?_eq_some_iff.mp hi).1, hi]

/-- A resolved path finds what the path denotes. -/
theorem find_of_resolve (h : Binds env scope bindings) {p : Path} {f : Field}
    (hf : resolve scope p = .ok f) (event : Event) (now : Instant) (b : Budget) :
    p.find? event env = .ok (f.lookup? ⟨some event, now, b⟩ bindings) := by
  unfold resolve at hf
  unfold Path.find?
  -- A root that is no variable is one of the event, and the two sides check it in the same order.
  -- A variable is found in the slot of its last binding.
  rcases h.lookup p.root with ⟨hs, hl⟩ | ⟨i, v, hs, hi, hl⟩
  · rw [hs] at hf
    rw [hl]
    dsimp only at hf ⊢
    split at hf
    · next hr =>
      obtain rfl := Except.ok.inj hf
      rw [if_pos hr]
      rfl
    · next hr =>
      rw [if_neg hr]
      split at hf
      · next hr =>
        obtain rfl := Except.ok.inj hf
        rw [if_pos hr]
        rfl
      · next hr =>
        rw [if_neg hr]
        split at hf
        · next hr =>
          split at hf
          · next hseg =>
            obtain rfl := Except.ok.inj hf
            rw [if_pos ⟨hr, hseg⟩]
            rfl
          · exact absurd hf Compiled.fail_ne_ok
        · exact absurd hf Compiled.fail_ne_ok
  · rw [hs] at hf
    obtain rfl := Except.ok.inj hf
    rw [hl]
    simp [Field.lookup?, hi]

end Binds

/-! ## Folding -/

theorem isConst_iff {n : Node} : n.isConst = true ↔ ∃ v, n = .const v := by
  simp only [Node.isConst, Option.isSome_iff_exists, const?_eq_some]

theorem call_of_isPure {f : Builtin} (h : f.isPure = true) (args : List Value)
    (now now' : Instant) : f.call args now = f.call args now' := by
  have ha : f.apply args now = f.apply args now' := by
    unfold Builtin.apply
    dsimp only
    split
    all_goals first | rfl | cases h
  rw [Builtin.call, Builtin.call, ha]

theorem outcomes_of_isConst {ns : List Node} (h : ∀ n ∈ ns, n.isConst = true) (c c' : Context)
    (bs bs' : List Value) : Node.outcomes c ns bs = Node.outcomes c' ns bs' := by
  induction ns with
  | nil => rfl
  | cons n ns ih =>
    obtain ⟨v, rfl⟩ := isConst_iff.mp (h n List.mem_cons_self)
    rw [Node.outcomes, Node.outcomes, Node.outcome, Node.outcome,
      ih fun m hm => h m (List.mem_cons_of_mem _ hm)]

/-- A node over constants has the same outcome for every event. -/
theorem outcome_of_isFoldable {n : Node} (h : n.isFoldable = true) (c c' : Context)
    (bs bs' : List Value) : n.outcome c bs = n.outcome c' bs' := by
  cases n with
  | neg n | not n | like n _ _ | matching n _ _ | within n _ _ | isNull n _ =>
    obtain ⟨v, rfl⟩ := isConst_iff.mp h
    rfl
  | compare op l r =>
    have ⟨hl, hr⟩ := Bool.and_eq_true_iff.mp h
    obtain ⟨v, rfl⟩ := isConst_iff.mp hl
    obtain ⟨w, rfl⟩ := isConst_iff.mp hr
    rfl
  | between n low high negated =>
    have ⟨hb, hh⟩ := Bool.and_eq_true_iff.mp h
    have ⟨hn, hl⟩ := Bool.and_eq_true_iff.mp hb
    obtain ⟨v, rfl⟩ := isConst_iff.mp hn
    obtain ⟨lo, rfl⟩ := isConst_iff.mp hl
    obtain ⟨hi, rfl⟩ := isConst_iff.mp hh
    rfl
  | call f args =>
    have ⟨hf, ha⟩ := Bool.and_eq_true_iff.mp h
    rw [Node.outcome, Node.outcome, outcomes_of_isConst (List.all_eq_true.mp ha) c c' bs bs']
    simp only [call_of_isPure hf _ c.now c'.now]
  | _ => cases h

theorem hosts_of_isConst {n : Node} (h : n.isConst = true) : n.hosts = [] := by
  obtain ⟨v, rfl⟩ := isConst_iff.mp h
  rfl

theorem hosts_of_isFoldable {n : Node} (h : n.isFoldable = true) : n.hosts = [] := by
  cases n with
  | neg n | not n | like n _ _ | matching n _ _ | within n _ _ | isNull n _ =>
    have hn : n.hosts = [] := hosts_of_isConst h
    exact hn
  | compare op l r =>
    obtain ⟨hl, hr⟩ := Bool.and_eq_true_iff.mp h
    rw [Node.hosts, hosts_of_isConst hl, hosts_of_isConst hr, List.append_nil]
  | between n low high negated =>
    obtain ⟨hb, hh⟩ := Bool.and_eq_true_iff.mp h
    obtain ⟨hn, hl⟩ := Bool.and_eq_true_iff.mp hb
    rw [Node.hosts, hosts_of_isConst hn, hosts_of_isConst hl, hosts_of_isConst hh]
    rfl
  | call f args =>
    obtain ⟨-, ha⟩ := Bool.and_eq_true_iff.mp h
    rw [Node.hosts, Node.hostsAll_eq_flatMap]
    exact List.flatMap_eq_nil_iff.mpr fun n hn => hosts_of_isConst (List.all_eq_true.mp ha n hn)
  | _ => cases h

theorem isTame_of_isFoldable {n : Node} (h : n.isFoldable = true) : n.IsTame := by
  rw [Node.IsTame, hosts_of_isFoldable h]
  exact List.forall_mem_nil _

/-- Folding keeps the outcome: the constant is the value that the node has for every event. -/
theorem Node.outcome_of_fold {n : Node} {pos : Nat} {res : Typed} (h : fold n pos = .ok res)
    (c : Context) (bindings : List Value) :
    res.1.outcome c bindings = n.outcome c bindings := by
  obtain ⟨m, t⟩ := res
  rcases fold_eq_ok.mp h with ⟨hf, v, hv, rfl, -⟩ | ⟨-, rfl, -⟩
  · have hs := settles_eval (c := ⟨none, ⟨0, 0⟩, .folding⟩) n (isTame_of_isFoldable hf) []
    rw [outcome_of_isFoldable hf c ⟨none, ⟨0, 0⟩, .folding⟩ bindings [], hs.of_ok hv, outcome]
  · rfl

/-! ## Constant operands -/

theorem verdict_of_constTruth {n : Node} {b : Bool} (h : n.constTruth? = some b) (c : Context)
    (bindings : List Value) : n.verdict c bindings = .ok b := by
  unfold Node.constTruth? at h
  split at h
  · obtain rfl := Option.some.inj h
    rfl
  · obtain rfl := Option.some.inj h
    rfl
  · cases h

/-- The truth values of operands, without the errors of the unknown ones. -/
def Node.truths (c : Context) (ns : List Node) (bindings : List Value) : List (Option Bool) :=
  ns.map fun n => (n.verdict c bindings).toOption

/-- An `AND` or `OR` has the truth value that its operands have in any order. -/
theorem toOption_outcome_of_connective (isAnd : Bool) (kept : List Node) (c : Context)
    (bindings : List Value) :
    ((connective isAnd kept).outcome c bindings).toOption =
      (kleene (!isAnd) (Node.truths c kept bindings)).map .bool := by
  by_cases hk : kept = []
  · subst hk
    rw [connective_nil, Node.truths, List.map_nil, kleene_nil, Bool.not_not]
    rfl
  · have hp : kleene (!isAnd) (Node.truths c (sortedOperands kept) bindings) =
        kleene (!isAnd) (Node.truths c kept bindings) :=
      kleene_perm ((sortedOperands_perm kept).map _) _
    rw [connective_of_ne_nil hk, ← hp]
    cases isAnd with
    | true =>
      rw [if_pos rfl, Node.outcome, toOption_map, toOption_connect, Node.verdicts_eq_map,
        List.map_map]
      rfl
    | false =>
      rw [if_neg Bool.false_ne_true, Node.outcome, toOption_map, toOption_connect,
        Node.verdicts_eq_map, List.map_map]
      rfl

/-! ## Expressions -/

theorem toOption_ofResult {α : Type} (r : Except EvalError α) :
    (ofResult r).toOption = r.toOption := by
  cases r <;> rfl

theorem length_of_outcomes {c : Context} {ns : List Node} {bindings vs : List Value}
    (h : (Node.outcomes c ns bindings).toOption = some vs) : vs.length = ns.length := by
  induction ns generalizing vs with
  | nil =>
    obtain rfl := Option.some.inj h
    rfl
  | cons n ns ih =>
    rw [Node.outcomes, toOption_bind] at h
    obtain ⟨v, -, h⟩ := Option.bind_eq_some_iff.mp h
    rw [toOption_map] at h
    obtain ⟨ws, hws, rfl⟩ := Option.map_eq_some_iff.mp h
    rw [List.length_cons, List.length_cons, ih hws]

section Expressions

variable {fs : HostFunctions} {event : Event} {now : Instant} {b : Budget}

/-- A compiled call has the value that the call has on the same arguments. -/
theorem toOption_outcome_of_callNode {name : String} {ts : List Typed} {pos : Nat} {res : Typed}
    (h : callNode fs name ts pos = .ok res) (bindings : List Value) :
    (res.1.outcome ⟨some event, now, b⟩ bindings).toOption =
      (Node.outcomes ⟨some event, now, b⟩ (ts.map (·.1)) bindings).toOption.bind fun vs =>
        (callValue fs name vs now).toOption := by
  have hlen : ∀ vs, (Node.outcomes ⟨some event, now, b⟩ (ts.map (·.1)) bindings).toOption =
      some vs → vs.length = ts.length :=
    fun vs hvs => (length_of_outcomes hvs).trans (List.length_map _)
  rcases callNode_eq_ok.mp h with ⟨f, hf, htakes, -, n, t, hfold, rfl⟩ | ⟨hf, f, hfind, harity, rfl⟩
  · rw [Node.outcome_of_fold hfold, Node.outcome, toOption_bind]
    refine Option.bind_congr fun vs hvs => ?_
    rw [callValue, hf]
    dsimp only
    rw [hlen vs hvs, if_pos htakes, toOption_ofResult]
  · rw [Node.outcome, toOption_bind]
    refine Option.bind_congr fun vs hvs => ?_
    rw [callValue, hf, hfind]
    dsimp only
    rw [hlen vs hvs, if_pos harity, toOption_ofResult]

mutual

/-- A compiled expression has the value that the expression denotes, or both have none. -/
theorem toOption_outcome_of_lower (e : Expr) {scope : List String} {env : Environment}
    {bindings : List Value} {res : Typed} (hb : Binds env scope bindings)
    (h : e.lower fs scope = .ok res) :
    (res.1.outcome ⟨some event, now, b⟩ bindings).toOption =
      (e.denote fs event now env).toOption := by
  cases e with
  | literal v pos =>
    obtain rfl := lower_literal.mp h
    rw [Expr.denote]
    rfl
  | path p =>
    obtain ⟨f, hf, rfl⟩ := lower_path.mp h
    rw [Expr.denote, hb.find_of_resolve hf event now b]
    rfl
  | existing p =>
    obtain ⟨f, hf, rfl⟩ := lower_existing.mp h
    rw [Expr.denote, hb.find_of_resolve hf event now b]
    rfl
  | neg e pos =>
    obtain ⟨n, t, he, -, hf⟩ := lower_neg.mp h
    rw [Node.outcome_of_fold hf, Node.outcome, Expr.denote]
    simp only [toOption_bind, toOption_ofResult, toOption_outcome_of_lower e hb he]
  | not e pos =>
    obtain ⟨n, t, he, -, hf⟩ := lower_not.mp h
    rw [Node.outcome_of_fold hf, Node.outcome, Expr.denote]
    simp only [toOption_bind, toOption_map, toOption_ofResult, toOption_outcome_of_lower e hb he]
  | and es =>
    rw [lower_and] at h
    rw [Expr.denote, toOption_outcome_of_lowerOperands es hb h, toOption_map, toOption_connect]
    rfl
  | or es =>
    rw [lower_or] at h
    rw [Expr.denote, toOption_outcome_of_lowerOperands es hb h, toOption_map, toOption_connect]
    rfl
  | compare op l r pos =>
    obtain ⟨m, s, n, t, hl, hr, -, hf⟩ := lower_compare.mp h
    rw [Node.outcome_of_fold hf, Node.outcome, Expr.denote]
    simp only [toOption_bind, toOption_map, toOption_ofResult, toOption_outcome_of_lower l hb hl,
      toOption_outcome_of_lower r hb hr]
  | like e pattern negated pos =>
    obtain ⟨n, t, he, -, hf⟩ := lower_like.mp h
    rw [Node.outcome_of_fold hf, Node.outcome, Expr.denote]
    simp only [toOption_bind, toOption_map, toOption_ofResult, toOption_outcome_of_lower e hb he]
  | matching e pattern negated pos =>
    obtain ⟨n, t, p, he, -, hp, hf⟩ := lower_matching.mp h
    rw [Node.outcome_of_fold hf, Node.outcome, Expr.denote, hp]
    simp only [toOption_bind, toOption_map, toOption_ofResult, toOption_outcome_of_lower e hb he]
  | between e low high negated pos =>
    obtain ⟨n, t, m, s, k, u, he, hl, hh, -, -, -, hf⟩ := lower_between.mp h
    rw [Node.outcome_of_fold hf, Node.outcome, Expr.denote]
    simp only [toOption_bind, toOption_map, toOption_ofResult, toOption_outcome_of_lower e hb he,
      toOption_outcome_of_lower low hb hl, toOption_outcome_of_lower high hb hh]
  | within e set negated pos =>
    obtain ⟨n, t, vs, he, hset, hf⟩ := lower_within.mp h
    rw [Node.outcome_of_fold hf, Node.outcome, Expr.denote]
    simp only [toOption_bind, toOption_map, toOption_ofResult, toOption_outcome_of_lower e hb he,
      toOption_denoteAll_of_lowerSet set hb hset, Option.bind_some]
  | isNull e negated pos =>
    obtain ⟨n, t, he, hf⟩ := lower_isNull.mp h
    rw [Node.outcome_of_fold hf, Node.outcome, Expr.denote]
    simp only [toOption_map, toOption_outcome_of_lower e hb he]
  | call name args pos =>
    cases hk : quantifierOf? name args.length with
    | some kind =>
      match args, hk, h with
      | [.expr collection, .lambda param body at_], hk, h =>
        obtain ⟨_, _, _, _, m, t, p, s, ⟨⟩, hc, -, hp, -, rfl⟩ := (lower_quantifier hk).mp h
        rw [Node.outcome, Expr.denote, hk]
        -- The predicate sees the element under its name and, behind the others, in its slot.
        simp only [toOption_bind, toOption_quantifyItems, toOption_ofResult,
          toOption_outcome_of_lower collection hb hc,
          fun item => toOption_outcome_of_lower body (hb.snoc param item) hp]
      | [], hk, h | [_], hk, h | .lambda .. :: _, hk, h | _ :: .expr _ :: _, hk, h
      | _ :: _ :: _ :: _, hk, h =>
        obtain ⟨_, _, _, _, _, _, _, _, ⟨⟩, -⟩ := (lower_quantifier hk).mp h
    | none =>
      obtain ⟨ts, hts, hn⟩ := (lower_call hk).mp h
      rw [toOption_outcome_of_callNode hn, Expr.denote, hk, toOption_bind,
        toOption_outcomes_of_lowerArgs args hb hts]
termination_by structural e

theorem toOption_outcome_of_lowerOperands (es : List Expr) {isAnd : Bool} {kept : List Node}
    {scope : List String} {env : Environment} {bindings : List Value} {res : Typed}
    (hb : Binds env scope bindings) (h : lowerOperands fs isAnd es kept scope = .ok res) :
    (res.1.outcome ⟨some event, now, b⟩ bindings).toOption =
      (kleene (!isAnd) (Node.truths ⟨some event, now, b⟩ kept bindings ++
        (denoteTruths fs event now es env).map Except.toOption)).map .bool := by
  cases es with
  | nil =>
    obtain rfl := lowerOperands_nil.mp h
    rw [toOption_outcome_of_connective, denoteTruths, List.map_nil, List.append_nil]
  | cons e es =>
    obtain ⟨n, t, he, -, h⟩ := lowerOperands_cons.mp h
    have hn : (n.verdict ⟨some event, now, b⟩ bindings).toOption =
        ((e.denote fs event now env).bind fun v => ofResult (Evaluation.truth v)).toOption := by
      rw [Node.verdict, toOption_bind, toOption_bind, toOption_outcome_of_lower e hb he]
      simp only [toOption_ofResult]
    rw [denoteTruths, List.map_cons, ← hn]
    cases hc : n.constTruth? with
    | none =>
      rw [hc] at h
      rw [toOption_outcome_of_lowerOperands es hb h]
      simp [Node.truths]
    | some v =>
      rw [hc] at h
      dsimp only at h
      rw [verdict_of_constTruth hc]
      by_cases hv : v = isAnd
      · -- An operand that can decide nothing is dropped.
        subst hv
        rw [if_pos rfl] at h
        rw [toOption_outcome_of_lowerOperands es hb h, kleene_perm List.perm_middle]
        have hd := kleene_cons_not (!v) (Node.truths ⟨some event, now, b⟩ kept bindings ++
          (denoteTruths fs event now es env).map Except.toOption)
        rw [Bool.not_not] at hd
        exact congrArg _ hd.symm
      · -- An operand that decides is all that is left.
        rw [if_neg hv] at h
        obtain rfl := h
        obtain rfl := Bool.eq_not_of_ne hv
        exact (congrArg (Option.map Value.bool)
          (kleene_of_mem (List.mem_append_right _ List.mem_cons_self))).symm

theorem toOption_denoteAll_of_lowerSet (es : List Expr) {scope : List String} {env : Environment}
    {bindings vs : List Value} (hb : Binds env scope bindings)
    (h : lowerSet fs es scope = .ok vs) : (denoteAll fs event now es env).toOption = some vs := by
  cases es with
  | nil =>
    obtain rfl := Except.ok.inj h
    rw [denoteAll]
    rfl
  | cons e es =>
    obtain ⟨v, t, ws, he, hws, rfl⟩ := lowerSet_cons.mp h
    have hv : some v = (e.denote fs event now env).toOption := toOption_outcome_of_lower e hb he
    rw [denoteAll, toOption_bind, ← hv]
    simp only [toOption_map, toOption_denoteAll_of_lowerSet es hb hws]
    rfl

theorem toOption_outcomes_of_lowerArgs (args : List Arg) {name : String} {scope : List String}
    {env : Environment} {bindings : List Value} {ts : List Typed} (hb : Binds env scope bindings)
    (h : lowerArgs fs name args scope = .ok ts) :
    (Node.outcomes ⟨some event, now, b⟩ (ts.map (·.1)) bindings).toOption =
      (denoteArgs fs event now args env).toOption := by
  match args with
  | [] =>
    obtain rfl := Except.ok.inj h
    rw [denoteArgs]
    rfl
  | .expr e :: args =>
    obtain ⟨t, us, he, hus, rfl⟩ := lowerArgs_expr.mp h
    rw [List.map_cons, Node.outcomes, denoteArgs]
    simp only [toOption_bind, toOption_map, toOption_outcome_of_lower e hb he,
      toOption_outcomes_of_lowerArgs args hb hus]
  | .lambda _ _ _ :: _ => exact absurd h Compiled.fail_ne_ok

end

/-- What a compiled tree says of an event is what the expression says of it, or both say
nothing. -/
theorem toOption_verdict_of_lower {e : Expr} {res : Typed} (h : e.lower fs [] = .ok res) :
    (res.1.verdict ⟨some event, now, b⟩ []).toOption = (e.holds fs event now).toOption := by
  rw [Node.verdict, Expr.holds, toOption_bind, toOption_bind, toOption_outcome_of_lower e .nil h]
  simp only [toOption_ofResult]

end Expressions

/-! ## Whole filters -/

/-- Registered functions that all answer with a value or with an error of their own. -/
def HostFunctions.NeverOverrun (fs : HostFunctions) : Prop :=
  ∀ name f, fs.find? name = some f → f.NeverOverruns

theorem HostFunctions.neverOverrun_empty : HostFunctions.empty.NeverOverrun :=
  fun _ _ h => nomatch h

theorem HostFunctions.NeverOverrun.register {fs gs : HostFunctions} {f : HostFunction}
    (hfs : fs.NeverOverrun) (hf : f.NeverOverruns) (h : fs.register f = .ok gs) :
    gs.NeverOverrun := by
  intro name g hg
  by_cases hn : name = f.name
  · subst hn
    rw [find?_register_self h] at hg
    exact Option.some.inj hg ▸ hf
  · rw [find?_register_of_ne h hn] at hg
    exact hfs name g hg

theorem Node.IsRegistered.isTame {fs : HostFunctions} {n : Node} (h : n.IsRegistered fs)
    (hfs : fs.NeverOverrun) : n.IsTame :=
  fun f hf => have ⟨name, hname⟩ := h f hf; hfs name f hname

/-- A filter text that compiles has a syntax tree, and without limits the compiled filter says of
every event what the tree says as it is written: both have the same truth value, or none. -/
theorem evaluate_of_compile {fs : HostFunctions} (hfs : fs.NeverOverrun) {source : String}
    {e : Expression} (h : compile fs source = .ok e) :
    ∃ ast, parse source = .ok ast ∧ ∀ (event : Event) (now : Instant),
      (e.evaluate event .unlimited now).1.toOption = (ast.holds fs event now).toOption := by
  obtain ⟨ast, root, t, hparse, hlower, -, rfl⟩ := compile_eq_ok.mp h
  have htame : root.IsTame := (registered_of_lower ast hlower).isTame hfs
  refine ⟨ast, hparse, fun event now => ?_⟩
  rw [Expression.evaluate_unlimited htame]
  exact toOption_verdict_of_lower hlower

/-- A registry with one function, which says yes to everything. -/
def approvals : HostFunctions := ⟨[("approved", .constantly "approved" (.bool true))], .standard⟩

/-- Two operands are constant, and the comparison is cheaper than the call before it. -/
def mixedSource : String :=
  "true AND approved() AND payload.n < 'x' AND NOT (1 > 2 OR null)"

theorem evaluate_of_compile_mixed :
    approvals.NeverOverrun ∧ ∃ e ast, compile approvals mixedSource = .ok e ∧
      parse mixedSource = .ok ast ∧ ∀ (event : Event) (now : Instant),
        (e.evaluate event .unlimited now).1.toOption =
          (ast.holds approvals event now).toOption := by
  have hr : HostFunctions.empty.register (.constantly "approved" (.bool true)) = .ok approvals :=
    rfl
  have hfs := HostFunctions.neverOverrun_empty.register
    (HostFunction.neverOverruns_constantly "approved" (.bool true)) hr
  have hc : (compile approvals mixedSource).toOption.isSome = true := by decide +kernel
  cases he : compile approvals mixedSource with
  | error fault => rw [he] at hc; cases hc
  | ok e =>
    obtain ⟨ast, hparse, h⟩ := evaluate_of_compile hfs he
    exact ⟨hfs, e, ast, rfl, hparse, h⟩

end Switchyard.Filter
