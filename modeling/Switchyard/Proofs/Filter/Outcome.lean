import Switchyard.Proofs.Filter.ThreeValued

/-!
# The outcome of a filter

Limits aside, evaluation is a function of the event and the bound elements: the meter only watches.
`Node.outcome` is that function, by recursion on the tree.

* `HostFunction.NeverOverruns`: what is asked of host functions. One that answers with an overrun
  ends the evaluation like a budget does.
* `Evaluation.Settles b x r`: whatever the meter shows, the step `x` has the result `r`, unless a
  limit of the budget `b` ends it. `bind`, `judge` and the others say how results are put together.
* `Node.settles_eval`: the evaluation of a node has its outcome, unless a limit ends it.
* `Expression.evaluate_unlimited`: without limits, a filter has its outcome.
-/

namespace Switchyard.Filter

/-- A host function that answers with a value or with an error of its own. -/
def HostFunction.NeverOverruns (f : HostFunction) : Prop :=
  ∀ args e, (f.run args).result = .error e → e.isOverrun = false

/-- A host function without arguments whose value never changes. -/
def HostFunction.constantly (name : String) (v : Value) : HostFunction :=
  ⟨name, 0, fun _ => ⟨.ok v, 0⟩⟩

theorem HostFunction.neverOverruns_constantly (name : String) (v : Value) :
    (constantly name v).NeverOverruns := fun _ _ h => nomatch h

namespace Node

mutual

/-- The host functions that a node may call. -/
def hosts : Node → List HostFunction
  | .const _ | .field _ | .existing _ => []
  | .isNull n _ | .neg n | .not n | .like n _ _ | .matching n _ _ | .within n _ _ => n.hosts
  | .compare _ l r => l.hosts ++ r.hosts
  | .between n lo hi _ => n.hosts ++ lo.hosts ++ hi.hosts
  | .and ns | .or ns | .call _ ns => hostsAll ns
  | .host f args => f :: hostsAll args
  | .quantifier _ c _ p => c.hosts ++ p.hosts

/-- The host functions of several nodes, in order. -/
def hostsAll : List Node → List HostFunction
  | [] => []
  | n :: ns => n.hosts ++ hostsAll ns

end

/-- A node whose host functions never overrun. -/
def IsTame (n : Node) : Prop := ∀ f ∈ n.hosts, f.NeverOverruns

/-- Nodes whose host functions never overrun. -/
def AreTame (ns : List Node) : Prop := ∀ f ∈ hostsAll ns, f.NeverOverruns

mutual

/-- The value of a node when nothing limits its evaluation. -/
def outcome (c : Context) : Node → List Value → Except EvalError Value
  | .const v, _ => .ok v
  | .field f, bindings => .ok ((f.lookup? c bindings).getD .null)
  | .existing f, bindings => .ok (.bool (f.lookup? c bindings).isSome)
  | .neg n, bindings => (n.outcome c bindings).bind negative
  | .not n, bindings =>
    (((n.outcome c bindings).bind Evaluation.truth).map (!·)).map .bool
  | .and ns, bindings => (connectFrom false none (verdicts c ns bindings)).map .bool
  | .or ns, bindings => (connectFrom true none (verdicts c ns bindings)).map .bool
  | .compare op l r, bindings =>
    (l.outcome c bindings).bind fun x =>
      (r.outcome c bindings).bind fun y => (op.apply x y).map .bool
  | .like n pattern negated, bindings =>
    (n.outcome c bindings).bind fun v => (testText "LIKE" pattern.accepts v negated).map .bool
  | .matching n pattern negated, bindings =>
    (n.outcome c bindings).bind fun v => (testText "MATCHES" pattern.accepts v negated).map .bool
  | .between n low high negated, bindings =>
    (n.outcome c bindings).bind fun v =>
      (low.outcome c bindings).bind fun lo =>
        (high.outcome c bindings).bind fun hi => (inRange v lo hi negated).map .bool
  | .within n set negated, bindings =>
    (n.outcome c bindings).bind fun v => (isMember v set negated).map .bool
  | .isNull n negated, bindings =>
    (n.outcome c bindings).map fun v => .bool (v.isNull != negated)
  | .call f args, bindings => (outcomes c args bindings).bind fun vs => f.call vs c.now
  | .host f args, bindings => (outcomes c args bindings).bind fun vs => (f.run vs).result
  | .quantifier kind collection _ predicate, bindings =>
    (collection.outcome c bindings).bind
      (quantifyItems kind id fun item =>
        (predicate.outcome c (bindings ++ [item])).bind Evaluation.truth)

/-- The values of nodes, or the error of the first one that has none. -/
def outcomes (c : Context) : List Node → List Value → Except EvalError (List Value)
  | [], _ => .ok []
  | n :: ns, bindings =>
    (n.outcome c bindings).bind fun v => (outcomes c ns bindings).map (v :: ·)

/-- The truth values of nodes. -/
def verdicts (c : Context) : List Node → List Value → List Verdict
  | [], _ => []
  | n :: ns, bindings => (n.outcome c bindings).bind Evaluation.truth :: verdicts c ns bindings

end

/-- The truth value of a node when nothing limits its evaluation. -/
def verdict (c : Context) (n : Node) (bindings : List Value) : Verdict :=
  (n.outcome c bindings).bind Evaluation.truth

theorem verdicts_eq_map (c : Context) (ns : List Node) (bindings : List Value) :
    verdicts c ns bindings = ns.map fun n => n.verdict c bindings := by
  induction ns with
  | nil => rfl
  | cons n ns ih => rw [verdicts, ih]; rfl

theorem hostsAll_eq_flatMap (ns : List Node) : hostsAll ns = ns.flatMap hosts := by
  induction ns with
  | nil => rfl
  | cons n ns ih => rw [hostsAll, ih, List.flatMap_cons]

end Node

/-! ## Steps whose result depends on the meter only by a limit -/

/-- A result that is no overrun. -/
def IsOrdinary {α : Type} (r : Except EvalError α) : Prop :=
  ∀ e, r = .error e → e.isOverrun = false

theorem isOrdinary_ok {α : Type} (a : α) : IsOrdinary (.ok a) := fun _ h => nomatch h

theorem isOrdinary_error {α : Type} {e : EvalError} (h : e.isOverrun = false) :
    IsOrdinary (.error e : Except EvalError α) := by
  rintro _ ⟨⟩
  exact h

theorem IsOrdinary.bind {α β : Type} {r : Except EvalError α} {f : α → Except EvalError β}
    (hr : IsOrdinary r) (hf : ∀ a, r = .ok a → IsOrdinary (f a)) : IsOrdinary (r.bind f) := by
  cases r with
  | ok a => exact hf a rfl
  | error e => exact isOrdinary_error (hr e rfl)

theorem IsOrdinary.map {α β : Type} {r : Except EvalError α} (hr : IsOrdinary r) (f : α → β) :
    IsOrdinary (r.map f) := by
  cases r with
  | ok a => exact isOrdinary_ok _
  | error e => exact isOrdinary_error (hr e rfl)

namespace Evaluation

theorem isOverrun_of_overrun {b : Budget} {m : Meter} {e : EvalError}
    (h : overrun? b m = some e) : e.isOverrun = true := by
  unfold overrun? at h
  split at h
  · obtain rfl := Option.some.inj h
    rfl
  · split at h
    · split at h
      · obtain rfl := Option.some.inj h
        rfl
      · cases h
    · cases h

theorem bind_of_ok {α β : Type} {x : Evaluation α} (f : α → Evaluation β) {m m' : Meter} {a : α}
    (h : x m = (.ok a, m')) : (x >>= f) m = f a m' := by
  simp [Bind.bind, ExceptT.bind, ExceptT.mk, StateT.bind, ExceptT.bindCont, h]

theorem bind_of_error {α β : Type} {x : Evaluation α} (f : α → Evaluation β) {m m' : Meter}
    {e : EvalError} (h : x m = (.error e, m')) : (x >>= f) m = (.error e, m') := by
  simp only [Bind.bind, ExceptT.bind, ExceptT.mk, StateT.bind, h]
  rfl

/-- A step and the one behind it have a result only if both do. -/
theorem ok_of_bind {α β : Type} {x : Evaluation α} {f : α → Evaluation β} {m m' : Meter} {b : β}
    (h : (x >>= f) m = (.ok b, m')) :
    ∃ a next, x m = (.ok a, next) ∧ f a next = (.ok b, m') := by
  rcases hx : x m with ⟨e | a, next⟩
  · rw [bind_of_error f hx] at h
    cases h
  · exact ⟨a, next, rfl, bind_of_ok f hx ▸ h⟩

/-- A result that ends the whole evaluation. -/
def IsOverrun {α : Type} (r : Except EvalError α) : Prop :=
  ∃ e, r = .error e ∧ e.isOverrun = true

/-- Whatever the meter shows, the step has the result `r`, which is no overrun, unless a limit of
the budget ends it. -/
structure Settles {α : Type} (b : Budget) (x : Evaluation α) (r : Except EvalError α) : Prop where
  result : ∀ m, (x m).1 = r ∨ b ≠ .unlimited ∧ IsOverrun (x m).1
  ordinary : IsOrdinary r

namespace Settles

variable {α β : Type} {b : Budget} {x : Evaluation α} {r : Except EvalError α}

/-- Without limits there is but one result. -/
theorem exact (h : Settles .unlimited x r) (m : Meter) : (x m).1 = r :=
  (h.result m).resolve_right fun ho => ho.1 rfl

theorem of_ok (h : Settles b x r) {m : Meter} {a : α} (ha : (x m).1 = .ok a) : r = .ok a := by
  rcases h.result m with hr | ⟨-, e, he, -⟩
  · exact hr.symm.trans ha
  · rw [ha] at he
    cases he

theorem of_result (hr : ∀ m, (x m).1 = r) (ho : IsOrdinary r) : Settles b x r :=
  ⟨fun m => .inl (hr m), ho⟩

theorem pure (a : α) : Settles b (pure a) (.ok a) := of_result (fun _ => rfl) (isOrdinary_ok a)

theorem lift (h : IsOrdinary r) : Settles b (ExceptT.mk (Pure.pure r)) r :=
  of_result (fun _ => rfl) h

theorem throw {e : EvalError} (h : e.isOverrun = false) :
    Settles b (throw e : Evaluation α) (.error e) :=
  of_result (fun _ => rfl) (isOrdinary_error h)

theorem bind {f : α → Evaluation β} {g : α → Except EvalError β} (hx : Settles b x r)
    (hf : ∀ a, r = .ok a → Settles b (f a) (g a)) : Settles b (x >>= f) (r.bind g) := by
  refine ⟨fun m => ?_, hx.ordinary.bind fun a ha => (hf a ha).ordinary⟩
  have hm := hx.result m
  rcases hxm : x m with ⟨e | a, m'⟩
  · rw [bind_of_error f hxm]
    rw [hxm] at hm
    refine hm.imp (fun h => ?_) fun ⟨hb, ho⟩ => ⟨hb, ?_⟩
    · rw [← h]
      rfl
    · obtain ⟨_, ⟨⟩, he⟩ := ho
      exact ⟨e, rfl, he⟩
  · rw [bind_of_ok f hxm]
    have ha := hx.of_ok (congrArg Prod.fst hxm)
    rw [ha]
    exact (hf a ha).result m'

/-- A visit leads on to the step behind it, unless a limit is reached. -/
theorem visit (hx : Settles b x r) : Settles b (do visit b; x) r := by
  refine ⟨fun m => ?_, hx.ordinary⟩
  cases ho : overrun? b { m with visits := m.visits + 1 } with
  | none =>
    have hv : Evaluation.visit b m = (.ok (), { m with visits := m.visits + 1 }) := by
      rw [Evaluation.visit, ho]
    rw [bind_of_ok _ hv]
    exact hx.result _
  | some e =>
    have hv : Evaluation.visit b m = (.error e, { m with visits := m.visits + 1 }) := by
      rw [Evaluation.visit, ho]
    rw [bind_of_error _ hv]
    refine .inr ⟨?_, e, rfl, isOverrun_of_overrun ho⟩
    rintro rfl
    cases ho

theorem judge {x : Evaluation Value} {r : Except EvalError Value} (hx : Settles b x r) :
    Settles b (judge x) (.ok (r.bind truth)) := by
  refine ⟨fun m => ?_, isOrdinary_ok _⟩
  have hm := hx.result m
  unfold Evaluation.judge
  rcases hxm : x m with ⟨e | v, m'⟩
  · rw [hxm] at hm
    rcases hm with h | ⟨hb, ho⟩
    · left
      have he := hx.ordinary e h.symm
      simp [he, ← h, Except.bind]
    · right
      obtain ⟨_, ⟨⟩, he⟩ := ho
      exact ⟨hb, e, by simp [he], he⟩
  · left
    simp [hx.of_ok (congrArg Prod.fst hxm), Except.bind]

theorem ofVerdict {v : Verdict} (h : IsOrdinary v) : Settles b (ofVerdict v) (v.map .bool) := by
  cases v with
  | ok a => exact pure _
  | error e => exact throw (h e rfl)

theorem callHost {f : HostFunction} (h : f.NeverOverruns) (args : List Value) :
    Settles b (callHost f args) (f.run args).result := of_result (fun _ => rfl) (h args)

end Settles

end Evaluation

/-! ## Operations on values never overrun -/

theorem isOrdinary_truth (v : Value) : IsOrdinary (Evaluation.truth v) := by
  cases v with
  | bool b => exact isOrdinary_ok b
  | null => exact isOrdinary_ok false
  | _ => exact isOrdinary_error rfl

theorem Evaluation.Settles.ordinary_truth {b : Budget} {x : Evaluation Value}
    {r : Except EvalError Value} (h : Settles b x r) : IsOrdinary (r.bind Evaluation.truth) :=
  h.ordinary.bind fun v _ => isOrdinary_truth v

theorem isOrdinary_negative (v : Value) : IsOrdinary (negative v) := by
  cases v with
  | number x => exact isOrdinary_ok _
  | duration d => exact isOrdinary_ok _
  | null => exact isOrdinary_ok _
  | _ => exact isOrdinary_error rfl

theorem isOrdinary_ordering (op : String) (l r : Value) : IsOrdinary (ordering op l r) := by
  unfold ordering
  split
  · exact isOrdinary_ok _
  · exact isOrdinary_error rfl

theorem isOrdinary_compare (op : CompareOp) (l r : Value) : IsOrdinary (op.apply l r) := by
  unfold CompareOp.apply
  split
  · exact isOrdinary_ok _
  · cases op with
    | eq => exact isOrdinary_ok _
    | ne => exact isOrdinary_ok _
    | _ => exact (isOrdinary_ordering _ l r).map _

theorem isOrdinary_inRange (v low high : Value) (negated : Bool) :
    IsOrdinary (inRange v low high negated) := by
  unfold inRange
  split
  · exact isOrdinary_ok _
  · exact (isOrdinary_ordering _ v low).bind fun _ _ =>
      (isOrdinary_ordering _ v high).bind fun _ _ => isOrdinary_ok _

theorem isOrdinary_testText (op : String) (test : String → Bool) (v : Value) (negated : Bool) :
    IsOrdinary (testText op test v negated) := by
  cases v with
  | null => exact isOrdinary_ok _
  | string s => exact isOrdinary_ok _
  | _ => exact isOrdinary_error rfl

theorem isOrdinary_isMember (v : Value) (set : List Value) (negated : Bool) :
    IsOrdinary (isMember v set negated) := by
  unfold isMember
  split <;> exact isOrdinary_ok _

theorem isOrdinary_extremum (name : String) (wins : Ordering → Bool) (best : Value)
    (vs : List Value) : IsOrdinary (Builtin.extremum name wins best vs) := by
  induction vs generalizing best with
  | nil =>
    unfold Builtin.extremum
    split
    · exact isOrdinary_ok _
    · exact isOrdinary_error rfl
  | cons v vs ih =>
    unfold Builtin.extremum
    split
    · exact ih _
    · exact isOrdinary_error rfl

theorem isOrdinary_builtin (f : Builtin) (args : List Value) (now : Instant) :
    IsOrdinary (f.apply args now) := by
  unfold Builtin.apply
  dsimp only
  split
  all_goals try split
  all_goals
    first
      | exact isOrdinary_ok _
      | exact isOrdinary_error rfl
      | exact isOrdinary_extremum _ _ _ _

theorem isOrdinary_call (f : Builtin) (args : List Value) (now : Instant) :
    IsOrdinary (f.call args now) := by
  unfold Builtin.call
  split
  · exact isOrdinary_ok _
  · exact isOrdinary_builtin f args now

/-! ## Evaluation -/

/-- Before the first operand nothing is unknown. -/
theorem ordinary_none : ∀ e ∈ (none : Option EvalError), e.isOverrun = false := nofun

/-- An error of an operand is ordinary, and so is the first unknown one after it. -/
theorem ordinary_or {v : Verdict} (hv : IsOrdinary v) {unknown : Option EvalError}
    (hu : ∀ e ∈ unknown, e.isOverrun = false) {e : EvalError} (he : v = .error e) :
    ∀ f ∈ unknown.or (some e), f.isOverrun = false := by
  intro f hf
  cases unknown with
  | none => exact hv f (he.trans (congrArg _ (Option.some.inj hf)))
  | some g => exact hu f hf

section Quantifiers

variable {b : Budget} {test : Value → Evaluation Verdict} {truths : Value → Verdict}

/-- What is left of a quantifier that has seen `hits` true elements and a first unknown one. -/
def quantifyFrom (kind : Quantifier) (hits : Nat) (unknown : Option EvalError)
    (vs : List Verdict) : Except EvalError Value :=
  match kind with
  | .any => (connectFrom true unknown vs).map .bool
  | .all => (connectFrom false unknown vs).map .bool
  | .count => .ok (.number (.ofNat (hits + vs.countP isTrue)))

theorem quantifyFrom_start (kind : Quantifier) (vs : List Verdict) :
    quantifyFrom kind 0 none vs = quantifyValues kind vs := by
  cases kind <;> simp [quantifyFrom, quantifyValues]

theorem settles_quantify (ht : ∀ item, Evaluation.Settles b (test item) (.ok (truths item)))
    (ho : ∀ item, IsOrdinary (truths item)) (kind : Quantifier) (items : List Value) (hits : Nat)
    {unknown : Option EvalError} (hu : ∀ e ∈ unknown, e.isOverrun = false) :
    Evaluation.Settles b (quantify kind test items hits unknown)
      (quantifyFrom kind hits unknown (items.map truths)) := by
  induction items generalizing hits unknown with
  -- `count` answers even if items have failed; of the other two, one that has not been decided by
  -- then ends with the first failure.
  | nil =>
    cases unknown with
    | none => cases kind <;> exact .pure _
    | some e =>
      cases kind with
      | count => exact .pure _
      | _ => exact .throw (hu e rfl)
  | cons item items ih =>
    rw [quantify, List.map_cons]
    refine (ht item).bind (g := fun v => quantifyFrom kind hits unknown (v :: items.map truths))
      fun v hv => ?_
    cases v with
    | ok b =>
      cases b with
      | true =>
        cases kind with
        | any => exact .pure _
        | all => exact ih (hits + 1) hu
        | count =>
          have := ih (hits + 1) hu
          simpa [quantifyFrom, List.countP_cons, isTrue, Nat.add_assoc, Nat.add_comm 1] using this
      | false =>
        cases kind with
        | any => exact ih hits hu
        | all => exact .pure _
        | count =>
          have := ih hits hu
          simpa [quantifyFrom, List.countP_cons, isTrue] using this
    | error e =>
      have := ih hits (ordinary_or (ho item) hu (Except.ok.inj hv))
      cases kind with
      | any => exact this
      | all => exact this
      | count => simpa [quantifyFrom, List.countP_cons, isTrue] using this

theorem settles_quantifyOver (ht : ∀ item, Evaluation.Settles b (test item) (.ok (truths item)))
    (ho : ∀ item, IsOrdinary (truths item)) (kind : Quantifier) (v : Value) :
    Evaluation.Settles b (quantifyOver kind test v) (quantifyItems kind id truths v) := by
  cases v with
  | array items =>
    rw [quantifyOver, quantifyItems, ← quantifyFrom_start]
    exact settles_quantify ht ho kind items 0 ordinary_none
  | null => exact .pure _
  | _ => exact .throw rfl

end Quantifiers

namespace Node

open Evaluation

theorem areTame_cons {n : Node} {ns : List Node} :
    AreTame (n :: ns) ↔ n.IsTame ∧ AreTame ns := by
  simp only [AreTame, IsTame, hostsAll, List.forall_mem_append]

variable {c : Context}

mutual

theorem settles_eval (n : Node) (h : n.IsTame) (bindings : List Value) :
    Settles c.budget (n.eval c bindings) (n.outcome c bindings) := by
  cases n with
  | const v => rw [eval, outcome]; exact (Settles.pure _).visit
  | field f => rw [eval, outcome]; exact (Settles.pure _).visit
  | existing f => rw [eval, outcome]; exact (Settles.pure _).visit
  | neg n =>
    rw [eval, outcome]
    exact ((settles_eval n h bindings).bind fun v _ => .lift (isOrdinary_negative v)).visit
  -- The operand is judged first: an error of it that is no overrun is unknown, and so is its `NOT`.
  | not n =>
    rw [eval, outcome]
    have hn := settles_eval n h bindings
    exact (hn.judge.bind fun v hv =>
      .ofVerdict ((Except.ok.inj hv ▸ hn.ordinary_truth).map _)).visit
  | and ns =>
    rw [eval, outcome]
    exact (settles_connect false ns h ordinary_none bindings).visit
  | or ns =>
    rw [eval, outcome]
    exact (settles_connect true ns h ordinary_none bindings).visit
  | compare op l r =>
    have ⟨hl, hr⟩ := List.forall_mem_append.mp h
    rw [eval, outcome]
    exact ((settles_eval l hl bindings).bind fun x _ =>
      (settles_eval r hr bindings).bind fun y _ => .ofVerdict (isOrdinary_compare op x y)).visit
  | like n pattern negated =>
    rw [eval, outcome]
    exact ((settles_eval n h bindings).bind fun v _ =>
      .ofVerdict (isOrdinary_testText _ _ v _)).visit
  | matching n pattern negated =>
    rw [eval, outcome]
    exact ((settles_eval n h bindings).bind fun v _ =>
      .ofVerdict (isOrdinary_testText _ _ v _)).visit
  | between n low high negated =>
    have ⟨hnl, hh⟩ := List.forall_mem_append.mp h
    have ⟨hn, hl⟩ := List.forall_mem_append.mp hnl
    rw [eval, outcome]
    exact ((settles_eval n hn bindings).bind fun v _ =>
      (settles_eval low hl bindings).bind fun lo _ =>
        (settles_eval high hh bindings).bind fun hi _ =>
          .ofVerdict (isOrdinary_inRange v lo hi negated)).visit
  | within n set negated =>
    rw [eval, outcome]
    exact ((settles_eval n h bindings).bind fun v _ =>
      .ofVerdict (isOrdinary_isMember v set negated)).visit
  | isNull n negated =>
    rw [eval, outcome]
    exact ((settles_eval n h bindings).bind fun v _ => .pure _).visit
  | call f args =>
    rw [eval, outcome]
    exact ((settles_evalAll args h bindings).bind fun vs _ =>
      .lift (isOrdinary_call f vs c.now)).visit
  | host f args =>
    have ⟨hf, hargs⟩ := List.forall_mem_cons.mp h
    rw [eval, outcome]
    exact ((settles_evalAll args hargs bindings).bind fun vs _ => .callHost hf vs).visit
  | quantifier kind collection slot predicate =>
    have ⟨hcoll, hpred⟩ := List.forall_mem_append.mp h
    rw [eval, outcome]
    have hp := fun item => settles_eval predicate hpred (bindings ++ [item])
    exact ((settles_eval collection hcoll bindings).bind fun v _ =>
      settles_quantifyOver (fun item => (hp item).judge)
        (fun item => (hp item).ordinary_truth) kind v).visit

theorem settles_evalAll (ns : List Node) (h : AreTame ns) (bindings : List Value) :
    Settles c.budget (evalAll c ns bindings) (outcomes c ns bindings) := by
  cases ns with
  | nil => rw [evalAll, outcomes]; exact .pure _
  | cons n ns =>
    have ⟨hn, hns⟩ := areTame_cons.mp h
    rw [evalAll, outcomes]
    exact (settles_eval n hn bindings).bind fun v _ =>
      (settles_evalAll ns hns bindings).bind fun vs _ => .pure _

theorem settles_connect (decisive : Bool) (ns : List Node)
    (h : AreTame ns) {unknown : Option EvalError} (hu : ∀ e ∈ unknown, e.isOverrun = false)
    (bindings : List Value) :
    Settles c.budget (connect c decisive ns unknown bindings)
      ((connectFrom decisive unknown (verdicts c ns bindings)).map .bool) := by
  cases ns with
  | nil =>
    cases unknown with
    | none => rw [connect, verdicts]; exact .pure _
    | some e => rw [connect, verdicts]; exact .throw (hu e rfl)
  | cons n ns =>
    have ⟨hn, hns⟩ := areTame_cons.mp h
    have hsettles := settles_eval n hn bindings
    rw [connect, verdicts]
    refine hsettles.judge.bind
      (g := fun v => (connectFrom decisive unknown (v :: verdicts c ns bindings)).map Value.bool)
      fun v hv => ?_
    cases v with
    | ok b =>
      by_cases hb : b = decisive
      · simp only [hb, ↓reduceIte, connectFrom]
        exact .pure _
      · simp only [hb, ↓reduceIte, connectFrom]
        exact settles_connect decisive ns hns hu bindings
    | error e =>
      have he := ordinary_or hsettles.ordinary_truth hu (Except.ok.inj hv)
      exact settles_connect decisive ns hns he bindings

end

end Node

/-- What a filter says of an event when nothing limits its evaluation. -/
theorem Expression.evaluate_unlimited {e : Expression} (h : e.root.IsTame) (event : Event)
    (now : Instant) :
    (e.evaluate event .unlimited now).1 = e.root.verdict ⟨some event, now, .unlimited⟩ [] := by
  have hs := (Node.settles_eval (c := ⟨some event, now, .unlimited⟩) e.root h []).judge
  have hr := hs.exact Meter.zero
  unfold Expression.evaluate
  split
  next verdict m hm => rw [hm] at hr; exact Except.ok.inj hr
  next e m hm => rw [hm] at hr; cases hr

end Switchyard.Filter
