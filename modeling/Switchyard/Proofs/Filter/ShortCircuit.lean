import Switchyard.Proofs.Filter.Nesting
import Switchyard.Proofs.Filter.Sources
import Switchyard.Proofs.Filter.VisitBudget

/-!
# Short circuits

An `AND` runs its operands in the order of their cost until one of them is false, and an `OR` until
one is true. What stands behind is not run at all, and what a constant decides is not even compiled.

* `upTo`: the beginning of a list up to the first element with a property.
* `Node.runs_operands`: which operands an `AND` or `OR` runs, under any budget.
* `Node.eval_cheaper`: an operand that decides keeps the more expensive ones from running.
* `short_circuit`: both for compiled filters, whose operands stand in the order of their cost.
-/

namespace Switchyard.Filter

/-! ## The beginning of a list -/

section Lists

variable {α : Type} {p : α → Bool} {a : α} {l : List α}

/-- The shortest prefix of a list that ends in an element with a property, or else the whole list.
-/
def upTo (p : α → Bool) (l : List α) : List α := l.take (l.findIdx p + 1)

theorem upTo_cons : upTo p (a :: l) = if p a then [a] else a :: upTo p l := by
  unfold upTo
  rw [List.findIdx_cons]
  cases p a <;> rfl

theorem head_mem_upTo : a ∈ upTo p (a :: l) := List.mem_cons_self

theorem mem_upTo_of_tail {b : α} (ha : p a = false) (hb : b ∈ upTo p l) : b ∈ upTo p (a :: l) := by
  rw [upTo_cons, ha]
  exact List.mem_cons_of_mem a hb

end Lists

/-! ## Running operands -/

namespace Node

open Evaluation

/-- Whether a node comes to a truth value when nothing limits its evaluation. -/
def comesTo (c : Context) (bindings : List Value) (b : Bool) (n : Node) : Bool :=
  (n.judgement c bindings).toOption == some b

/-- The meter after nodes that are evaluated one behind the other. -/
def meterAfter (c : Context) (bindings : List Value) (ns : List Node) (m : Meter) : Meter :=
  ns.foldl (fun m n => (n.eval c bindings m).2) m

variable {c : Context} {bindings : List Value} {decisive isAnd : Bool} {n x : Node}
  {ns before behind : List Node} {m next : Meter}

theorem eval_ofOperands : (ofOperands isAnd ns).eval c bindings =
    (do visit c.budget; connect c (!isAnd) ns none bindings) := by
  cases isAnd <;> exact eval.eq_def ..

theorem comesTo_of_gives {v : Verdict} {b : Bool} (h : Gives (judge (n.eval c bindings)) v) :
    n.comesTo c bindings b = (v.toOption == some b) := by
  rw [comesTo, judgement_of_gives h]

/-- An operand that comes to a verdict does so wherever it runs, and whatever the limits, unless
they end it. -/
theorem comesTo_eq {v : Verdict} {b : Bool} (h : judge (n.eval c bindings) m = (.ok v, next)) :
    n.comesTo c bindings b = (v.toOption == some b) := comesTo_of_gives ⟨m, by rw [h]⟩

theorem snd_of_judge {r : Except EvalError Verdict}
    (h : judge (n.eval c bindings) m = (r, next)) : (n.eval c bindings m).2 = next := by
  rw [← judge_snd, h]

/-- The operands that are left run up to the first one that is decisive, or up to one that is ended
by an overrun. -/
theorem connect_runs (ns : List Node) (unknown : Option EvalError) (m : Meter) :
    ∃ run, run <+: upTo (comesTo c bindings decisive) ns ∧
      (connect c decisive ns unknown bindings m).2 = meterAfter c bindings run m ∧
      (¬IsOverrun (connect c decisive ns unknown bindings m).1 →
        run = upTo (comesTo c bindings decisive) ns) := by
  induction ns generalizing unknown m with
  | nil =>
    refine ⟨[], List.nil_prefix, ?_, fun _ => rfl⟩
    cases unknown <;> rw [connect] <;> rfl
  | cons n ns ih =>
    rw [connect, upTo_cons]
    rcases hj : judge (n.eval c bindings) m with ⟨e | v, next⟩
    · have hover : IsOverrun (.error e : Except EvalError Value) :=
        ⟨e, rfl, (error_of_judge (congrArg Prod.fst hj)).2⟩
      rw [bind_of_error _ hj]
      refine ⟨[n], ?_, (snd_of_judge hj).symm, fun h => (h hover).elim⟩
      split
      · exact List.prefix_refl _
      · exact ⟨_, rfl⟩
    · rw [bind_of_ok _ hj, comesTo_eq hj]
      -- Unless this operand decides, it is followed by a run of the others.
      have hcons : ∀ unknown, ∃ run, run <+: n :: upTo (comesTo c bindings decisive) ns ∧
          (connect c decisive ns unknown bindings next).2 = meterAfter c bindings run m ∧
          (¬IsOverrun (connect c decisive ns unknown bindings next).1 →
            run = n :: upTo (comesTo c bindings decisive) ns) := by
        intro unknown
        obtain ⟨run, hprefix, hmeter, hall⟩ := ih unknown next
        refine ⟨n :: run, List.cons_prefix_cons.mpr ⟨rfl, hprefix⟩, ?_, fun h => ?_⟩
        · rw [hmeter, meterAfter, meterAfter, List.foldl_cons, snd_of_judge hj]
        · rw [hall h]
      cases v with
      | error e => exact hcons _
      | ok b =>
        by_cases hb : b = decisive
        · subst hb
          simp only [↓reduceIte, Except.toOption, beq_self_eq_true]
          exact ⟨[n], List.prefix_refl _, (snd_of_judge hj).symm, fun _ => rfl⟩
        · have hne : ((Except.ok b : Verdict).toOption == some decisive) = false := by
            simpa [Except.toOption] using hb
          simp only [hb, ↓reduceIte, hne]
          exact hcons unknown

/-- An `AND` runs its operands up to the first one that is false, and an `OR` up to the first one
that is true, each of them once and in order. Under a budget that ends the evaluation it runs the
first of these operands only. -/
theorem runs_operands (isAnd : Bool) (ns : List Node) (c : Context) (bindings : List Value)
    (m : Meter) : ∃ run, run <+: upTo (comesTo c bindings !isAnd) ns ∧
      ((ofOperands isAnd ns).eval c bindings m).2 =
        meterAfter c bindings run { m with visits := m.visits + 1 } ∧
      (¬IsOverrun ((ofOperands isAnd ns).eval c bindings m).1 →
        run = upTo (comesTo c bindings !isAnd) ns) := by
  rw [eval_ofOperands]
  cases ho : overrun? c.budget { m with visits := m.visits + 1 } with
  | none =>
    have hv : visit c.budget m = (.ok (), { m with visits := m.visits + 1 }) := by
      rw [visit, ho]
    rw [bind_of_ok _ hv]
    exact connect_runs ns none _
  | some e =>
    have hv : visit c.budget m = (.error e, { m with visits := m.visits + 1 }) := by
      rw [visit, ho]
    rw [bind_of_error _ hv]
    exact ⟨[], List.nil_prefix, rfl, fun h => (h ⟨e, rfl, isOverrun_of_overrun ho⟩).elim⟩

/-- What stands behind a decisive operand has no influence. -/
theorem connect_append (hx : x.comesTo c bindings decisive = true) (before behind : List Node)
    (unknown : Option EvalError) :
    connect c decisive (before ++ x :: behind) unknown bindings =
      connect c decisive (before ++ [x]) unknown bindings := by
  funext m
  -- On the operands in front; the meter and what is unknown so far change with each of them.
  induction before generalizing unknown m with
  | nil =>
    rw [List.nil_append, List.nil_append, connect, connect]
    rcases hj : judge (x.eval c bindings) m with ⟨e | v, next⟩
    · rw [bind_of_error _ hj, bind_of_error _ hj]
    · rw [comesTo_eq hj] at hx
      rw [bind_of_ok _ hj, bind_of_ok _ hj]
      cases v with
      | error e => simp [Except.toOption] at hx
      | ok b =>
        obtain rfl : b = decisive := by simpa [Except.toOption] using hx
        simp only [↓reduceIte]
  | cons n before ih =>
    rw [List.cons_append, List.cons_append, connect, connect]
    rcases hj : judge (n.eval c bindings) m with ⟨e | v, next⟩
    · rw [bind_of_error _ hj, bind_of_error _ hj]
    · rw [bind_of_ok _ hj, bind_of_ok _ hj]
      cases v with
      | error e => exact ih _ next
      | ok b =>
        by_cases hb : b = decisive
        · simp only [hb, ↓reduceIte]
        · simp only [hb, ↓reduceIte]
          exact ih unknown next

/-- If an operand decides, those that cost more might as well not be there. -/
theorem eval_cheaper (hsorted : ns.Pairwise fun a b => a.cost ≤ b.cost) (hmem : x ∈ ns)
    (hx : x.comesTo c bindings (!isAnd) = true) : (ofOperands isAnd ns).eval c bindings =
      (ofOperands isAnd (ns.filter (·.cost ≤ x.cost))).eval c bindings := by
  obtain ⟨before, behind, rfl⟩ := List.append_of_mem hmem
  have hbefore : ∀ n ∈ before, n.cost ≤ x.cost := fun n hn =>
    (List.pairwise_append.mp hsorted).2.2 n hn x List.mem_cons_self
  have hfilter : (before ++ x :: behind).filter (·.cost ≤ x.cost) =
      before ++ x :: behind.filter (·.cost ≤ x.cost) := by
    rw [List.filter_append, List.filter_cons_of_pos (by simp),
      List.filter_eq_self.mpr fun n hn => decide_eq_true (hbefore n hn)]
  rw [hfilter, eval_ofOperands, eval_ofOperands, connect_append hx,
    connect_append hx before (behind.filter _)]

/-- If an operand decides, host functions are called only in those that cost no more. -/
theorem callsOnly_cheaper (hsorted : ns.Pairwise fun a b => a.cost ≤ b.cost) (hmem : x ∈ ns)
    (hx : x.comesTo c bindings (!isAnd) = true) :
    CallsOnly (fun f => ∃ y ∈ ns, y.cost ≤ x.cost ∧ f ∈ y.hosts)
      ((ofOperands isAnd ns).eval c bindings) := by
  rw [eval_cheaper hsorted hmem hx]
  refine (callsOnly_eval _ c bindings).imp fun f hf => ?_
  rw [hosts_ofOperands, hostsAll_eq_flatMap] at hf
  obtain ⟨y, hy, hf⟩ := List.mem_flatMap.mp hf
  obtain ⟨hmem, hcost⟩ := List.mem_filter.mp hy
  exact ⟨y, hmem, of_decide_eq_true hcost, hf⟩

end Node

/-- For every compiled filter and every `AND` or `OR` in it: its operands are those of one in the
text that are no constants, in the order of their cost and, where they cost the same, of the text.
An evaluation of the node that no limit ends runs them up to the first one that is false (true, for
an `OR`), each of them once and in order; one that a limit ends runs the first of these only. If an
operand decides, all that cost more might as well not be there, and host functions are called in the
others only. Of an `AND` or `OR` that a constant decides nothing is left but its value, and what a
filter calls at all it calls where no constant has decided. -/
theorem short_circuit {fs : HostFunctions} {source : String} {e : Expression}
    (h : compile fs source = .ok e) : ∃ ast, parse source = .ok ast ∧
      (∀ (n : Node) (depth : Nat) (isAnd : Bool) (ns : List Node), e.root.Occurs n depth →
        n.operands? = some (isAnd, ns) →
        (∃ scope x es, ast.Live fs [] scope x ∧ x.operands? = some (isAnd, es) ∧
          OperandsOf fs isAnd scope es ns) ∧
        ∀ (c : Context) (bindings : List Value),
          (∀ y ∈ ns, ∀ m, (y.eval c bindings m).1 = y.answer c bindings ∨
            Evaluation.IsOverrun (y.eval c bindings m).1) ∧
          (∀ m, ∃ run, run <+: upTo (Node.comesTo c bindings !isAnd) ns ∧
            (n.eval c bindings m).2 =
              Node.meterAfter c bindings run { m with visits := m.visits + 1 } ∧
            (¬Evaluation.IsOverrun (n.eval c bindings m).1 →
              run = upTo (Node.comesTo c bindings !isAnd) ns)) ∧
          (∀ x ∈ ns, x.comesTo c bindings (!isAnd) = true →
            n.eval c bindings =
              (Node.ofOperands isAnd (ns.filter (·.cost ≤ x.cost))).eval c bindings ∧
            Evaluation.CallsOnly (fun f => ∃ y ∈ ns, y.cost ≤ x.cost ∧ f ∈ y.hosts)
              (n.eval c bindings))) ∧
      (∀ (scope : List String) (x : Expr) (isAnd : Bool) (es : List Expr),
        x.operands? = some (isAnd, es) → es.any (Expr.decides fs isAnd scope) = true →
        x.liveParts fs scope = [] ∧
          ∀ n t, x.lower fs scope = .ok (n, t) → n = .const (.bool !isAnd)) ∧
      (∀ c, Evaluation.CallsOnly (fun f => ∃ scope x args t, ast.Live fs [] scope x ∧
        x.lower fs scope = .ok (.host f args, t)) (e.root.eval c [])) := by
  obtain ⟨ast, root, t, hparse, hlower, -, rfl⟩ := compile_eq_ok.mp h
  refine ⟨ast, hparse, fun n depth isAnd ns hn hns => ?_, fun scope x isAnd es hx hd =>
    const_of_decides hx hd, fun c => ?_⟩
  · obtain ⟨scope, x, es, hlive, hes, hof⟩ := exists_operandsOf hlower hn hns
    obtain rfl := Node.operands?_eq_some.mp hns
    exact ⟨⟨scope, x, es, hlive, hes, hof⟩, fun c bindings =>
      ⟨fun y _ m => y.answer_or_overrun c bindings m, Node.runs_operands isAnd ns c bindings,
        fun x hx hcomes => ⟨Node.eval_cheaper hof.ordered hx hcomes,
          Node.callsOnly_cheaper hof.ordered hx hcomes⟩⟩⟩
  · -- What is called is called by a node of the tree, and that comes from a live call of the text.
    refine (Node.callsOnly_eval root c []).imp fun f hf => ?_
    obtain ⟨args, depth, hocc⟩ := Node.exists_occurs_host root .root hf
    obtain ⟨scope, x, hlive, -, u, hx⟩ := exists_live_source hlower hocc
    exact ⟨scope, x, args, u, hlive, hx⟩

/-- The host functions of a test. -/
def witnesses : HostFunctions := ⟨[("witnessed", witnessed)], .standard⟩

/-- The comparison is cheaper than the call before it. -/
def guardedSource : String := "witnessed() AND subject = 'a' AND 1 < 2"

/-- An event of another subject. -/
def unguarded (b : Budget) : Context := ⟨some ⟨"e", "b", .empty, .null, true⟩, ⟨0, 0⟩, b⟩

/-- If the comparison is false the function is not called, whatever the limits. -/
theorem short_circuit_guarded : ∃ e ast ns, compile witnesses guardedSource = .ok e ∧
    parse guardedSource = .ok ast ∧ e.root.operands? = some (true, ns) ∧
    (∃ y ∈ ns, y.hosts ≠ []) ∧
    (∃ scope x es, ast.Live witnesses [] scope x ∧ x.operands? = some (true, es) ∧
      OperandsOf witnesses true scope es ns) ∧
    ∀ b m, (e.root.eval (unguarded b) [] m).2.calls = m.calls := by
  -- The call costs 25 and comes first in the text; the comparison costs 3, calls nothing and is
  -- false for the event.
  have hkept : (parse guardedSource).toOption.bind (fun ast => ast.operands?.map fun q =>
      (q.1, q.2.any (Expr.decides witnesses true []),
        (q.2.filterMap (Expr.varying? witnesses [])).map fun n =>
          (n.cost, n.hosts.isEmpty, n.comesTo (unguarded .unlimited) [] false))) =
      some (true, false, [(25, false, false), (3, true, true)]) := by
    decide +kernel
  have hc : (compile witnesses guardedSource).toOption.isSome = true := by decide +kernel
  obtain ⟨e, he⟩ := Option.isSome_iff_exists.mp hc
  have he := toOption_eq_some.mp he
  obtain ⟨ast, root, t, hparse, hlower, -, rfl⟩ := compile_eq_ok.mp he
  rw [hparse] at hkept
  obtain ⟨⟨_, es⟩, hes, hq⟩ := Option.map_eq_some_iff.mp hkept
  obtain ⟨rfl, hq⟩ := Prod.mk.inj hq
  obtain ⟨hnone, hkept⟩ := Prod.mk.inj hq
  obtain ⟨call, rest, hes', hcall, hrest⟩ := List.map_eq_cons_iff.mp hkept
  obtain ⟨comparison, rest, rfl, hcomparison, hnil⟩ := List.map_eq_cons_iff.mp hrest
  obtain rfl := List.map_eq_nil_iff.mp hnil
  simp only [Prod.mk.injEq] at hcall hcomparison
  have hroot : root = .ofOperands true (sortedOperands [call, comparison]) := by
    rw [lower_of_operands hes] at hlower
    have hres := congrArg Prod.fst (lowerOperands_eq_ok.mp hlower).2
    rw [hnone, List.nil_append, hes', connective_eq] at hres
    exact hres.symm
  have hmem : ∀ n, n ∈ sortedOperands [call, comparison] ↔ n ∈ [call, comparison] :=
    fun _ => (sortedOperands_perm _).mem_iff
  obtain ⟨ast', hparse', hall, -⟩ := short_circuit he
  rw [hparse] at hparse'
  obtain rfl := Except.ok.inj hparse'
  obtain ⟨hof, hnode⟩ := hall root 0 true (sortedOperands [call, comparison]) .root
    (Node.operands?_eq_some.mpr hroot)
  refine ⟨_, ast, _, he, hparse, Node.operands?_eq_some.mpr hroot,
    ⟨call, (hmem call).mpr (by simp), fun h => ?_⟩, hof, fun b m => ?_⟩
  · simp [h] at hcall
  · obtain ⟨-, honly⟩ := (hnode (unguarded b) []).2.2 comparison
      ((hmem comparison).mpr (by simp)) hcomparison.2.2
    obtain ⟨calls, hcalls, hcalled⟩ := honly m
    suffices hnone : calls = [] by rw [hcalls, hnone, List.append_nil]
    refine List.eq_nil_iff_forall_not_mem.mpr fun c hc => ?_
    -- Whatever is called stands in an operand that costs at most 3, and that is the comparison.
    obtain ⟨f, ⟨y, hy, hcost, hf⟩, -⟩ := hcalled c hc
    have hy := (hmem y).mp hy
    simp only [List.mem_cons, List.not_mem_nil, or_false] at hy
    rcases hy with rfl | rfl
    · omega
    · rw [List.isEmpty_iff.mp hcomparison.2.1] at hf
      cases hf

end Switchyard.Filter
