import Switchyard.Proofs.Filter.Outcome

/-!
# What an evaluation is put together from

The evaluation of a node is made of visits, calls of host functions, results of its own and the
evaluations of its parts. So what holds of all of these, and of two steps one behind the other,
holds of the evaluation of every node.

* `Evaluation.Closed`: a relation between the steps under two budgets that all of these keep.
* `Node.related_eval`: it relates the evaluations of any node.
* `Evaluation.Steady`: limits and the meter have no influence on a result, except that a limit can
  end the evaluation.
* `Evaluation.CallsOnly`, `Evaluation.Accountable`: which host functions are called, and when the
  limit on visits is exceeded.
* `Node.answer`, `Node.judgement`: what a node comes to when nothing limits its evaluation.
-/

namespace Switchyard.Filter

namespace Evaluation

/-- A value that a step can have, wherever the meter stands before it. -/
def Gives {α : Type} (x : Evaluation α) (a : α) : Prop := ∃ m, (x m).1 = .ok a

theorem judge_fst (x : Evaluation Value) (m : Meter) : (judge x m).1 =
    match (x m).1 with
    | .ok v => .ok (truth v)
    | .error e => if e.isOverrun then .error e else .ok (.error e) := by
  unfold judge
  rcases x m with ⟨e | v, m'⟩
  · dsimp only
    split <;> rfl
  · rfl

theorem judge_snd (x : Evaluation Value) (m : Meter) : (judge x m).2 = (x m).2 := by
  unfold judge
  rcases x m with ⟨e | v, m'⟩
  · dsimp only
    split <;> rfl
  · rfl

/-- What is taken as a truth value lets an overrun through. -/
theorem judge_of_overrun {x : Evaluation Value} {m : Meter} {e : EvalError}
    (h : (x m).1 = .error e) (he : e.isOverrun = true) : (judge x m).1 = .error e := by
  rw [judge_fst, h]
  exact if_pos he

/-- What is taken as a truth value and has none is an overrun. -/
theorem error_of_judge {x : Evaluation Value} {m : Meter} {e : EvalError}
    (h : (judge x m).1 = .error e) : (x m).1 = .error e ∧ e.isOverrun = true := by
  rw [judge_fst] at h
  split at h
  · cases h
  · next f hx =>
    split at h
    · next hf =>
      obtain rfl := Except.error.inj h
      exact ⟨hx, hf⟩
    · cases h

/-- A verdict is the truth value of a value, or an error that is no overrun. -/
theorem ok_of_judge {x : Evaluation Value} {m : Meter} {v : Verdict} (h : (judge x m).1 = .ok v) :
    (x m).1.bind truth = v ∧ IsOrdinary v := by
  rw [judge_fst] at h
  split at h
  · next w hx =>
    obtain rfl := Except.ok.inj h
    rw [hx]
    exact ⟨rfl, isOrdinary_truth w⟩
  · next f hx =>
    split at h
    · cases h
    · next hf =>
      obtain rfl := Except.ok.inj h
      rw [hx]
      exact ⟨rfl, isOrdinary_error (Bool.eq_false_iff.mpr hf)⟩

theorem isOrdinary_of_gives {x y : Evaluation Value} {v : Verdict}
    (h : Gives (judge x) v ∨ Gives (judge y) v) : IsOrdinary v := by
  rcases h with ⟨m, hm⟩ | ⟨m, hm⟩ <;> exact (ok_of_judge hm).2

/-! ## Relations that evaluation keeps -/

/-- A relation between steps that holds of the steps evaluation is made of and of what they make up:
on its left visits are under the budget `b`, on its right under `b'`. Of host functions only those
of `called` are called. -/
structure Closed (R : (α : Type) → Evaluation α → Evaluation α → Prop) (b b' : Budget)
    (called : HostFunction → Prop) : Prop where
  lift : ∀ {α : Type} {r : Except EvalError α}, IsOrdinary r →
    R α (ExceptT.mk (Pure.pure r)) (ExceptT.mk (Pure.pure r))
  visit : R Unit (visit b) (visit b')
  callHost : ∀ {f : HostFunction} (args : List Value), called f →
    R Value (callHost f args) (callHost f args)
  judge : ∀ {x y : Evaluation Value}, R Value x y → R Verdict (judge x) (judge y)
  bind : ∀ {α β : Type} {x y : Evaluation α} {f g : α → Evaluation β}, R α x y →
    (∀ a, Gives x a ∨ Gives y a → R β (f a) (g a)) → R β (x >>= f) (y >>= g)

namespace Closed

variable {R : (α : Type) → Evaluation α → Evaluation α → Prop} {b b' : Budget}
  {called : HostFunction → Prop} {α : Type} {x y : Value → Evaluation Value}

theorem pure (h : Closed R b b' called) (a : α) : R α (pure a) (pure a) := h.lift (isOrdinary_ok a)

theorem throw (h : Closed R b b' called) {e : EvalError} (he : e.isOverrun = false) :
    R α (throw e) (throw e) := h.lift (isOrdinary_error he)

theorem ofVerdict (h : Closed R b b' called) {v : Verdict} (hv : IsOrdinary v) :
    R Value (ofVerdict v) (ofVerdict v) := by
  cases v with
  | ok b => exact h.pure _
  | error e => exact h.throw (hv e rfl)

theorem visiting (h : Closed R b b' called) {x y : Evaluation α} (hx : R α x y) :
    R α (do Evaluation.visit b; x) (do Evaluation.visit b'; y) := h.bind h.visit fun _ _ => hx

theorem quantify (h : Closed R b b' called) (hx : ∀ item, R Value (x item) (y item))
    (kind : Quantifier) (items : List Value) (hits : Nat) {unknown : Option EvalError}
    (hu : ∀ e ∈ unknown, e.isOverrun = false) :
    R Value (quantify kind (fun item => Evaluation.judge (x item)) items hits unknown)
      (quantify kind (fun item => Evaluation.judge (y item)) items hits unknown) := by
  induction items generalizing hits unknown with
  | nil =>
    cases unknown with
    | none => cases kind <;> exact h.pure _
    | some e =>
      cases kind with
      | count => exact h.pure _
      | _ => exact h.throw (hu e rfl)
  -- Both runs judge an item alike, so both end at it or both go on.
  | cons item items ih =>
    rw [Filter.quantify, Filter.quantify]
    refine h.bind (h.judge (hx item)) fun v hv => ?_
    rcases v with e | b
    · have hnext := ordinary_or (isOrdinary_of_gives hv) hu rfl
      cases kind <;> exact ih hits hnext
    · cases b with
      | true =>
        cases kind with
        | any => exact h.pure _
        | all => exact ih (hits + 1) hu
        | count => exact ih (hits + 1) hu
      | false =>
        cases kind with
        | any => exact ih hits hu
        | all => exact h.pure _
        | count => exact ih hits hu

theorem quantifyOver (h : Closed R b b' called) (hx : ∀ item, R Value (x item) (y item))
    (kind : Quantifier) (v : Value) :
    R Value (quantifyOver kind (fun item => Evaluation.judge (x item)) v)
      (quantifyOver kind (fun item => Evaluation.judge (y item)) v) := by
  cases v with
  | array items => exact h.quantify hx kind items 0 ordinary_none
  | null => exact h.pure _
  | _ => exact h.throw rfl

end Closed

end Evaluation

/-! ## Nodes -/

namespace Node

open Evaluation

variable {R : (α : Type) → Evaluation α → Evaluation α → Prop} {b b' : Budget}
  {called : HostFunction → Prop} (h : Closed R b b' called) (event : Option Event) (now : Instant)

include h

mutual

/-- What all steps keep, the evaluation of a node keeps. -/
theorem related_eval (n : Node) (hn : ∀ f ∈ n.hosts, called f) (bindings : List Value) :
    R Value (n.eval ⟨event, now, b⟩ bindings) (n.eval ⟨event, now, b'⟩ bindings) := by
  cases n with
  | const v => rw [eval, eval]; exact h.visiting (h.pure _)
  | field f => rw [eval, eval]; exact h.visiting (h.pure _)
  | existing f => rw [eval, eval]; exact h.visiting (h.pure _)
  | neg a =>
    rw [eval, eval]
    exact h.visiting (h.bind (related_eval a hn bindings) fun v _ =>
      h.lift (isOrdinary_negative v))
  -- What the relation is told of a verdict is that its error is no overrun.
  | not a =>
    rw [eval, eval]
    exact h.visiting (h.bind (h.judge (related_eval a hn bindings)) fun v hv =>
      h.ofVerdict ((isOrdinary_of_gives hv).map _))
  | and ns =>
    rw [eval, eval]
    exact h.visiting (related_connect false ns hn ordinary_none bindings)
  | or ns =>
    rw [eval, eval]
    exact h.visiting (related_connect true ns hn ordinary_none bindings)
  | compare op l r =>
    have ⟨hl, hr⟩ := List.forall_mem_append.mp hn
    rw [eval, eval]
    exact h.visiting (h.bind (related_eval l hl bindings) fun x _ =>
      h.bind (related_eval r hr bindings) fun y _ => h.ofVerdict (isOrdinary_compare op x y))
  | like a pattern negated | matching a pattern negated =>
    rw [eval, eval]
    exact h.visiting (h.bind (related_eval a hn bindings) fun v _ =>
      h.ofVerdict (isOrdinary_testText _ _ v _))
  | between a low high negated =>
    have ⟨hal, hhigh⟩ := List.forall_mem_append.mp hn
    have ⟨ha, hlow⟩ := List.forall_mem_append.mp hal
    rw [eval, eval]
    exact h.visiting (h.bind (related_eval a ha bindings) fun v _ =>
      h.bind (related_eval low hlow bindings) fun lo _ =>
        h.bind (related_eval high hhigh bindings) fun hi _ =>
          h.ofVerdict (isOrdinary_inRange v lo hi negated))
  | within a set negated =>
    rw [eval, eval]
    exact h.visiting (h.bind (related_eval a hn bindings) fun v _ =>
      h.ofVerdict (isOrdinary_isMember v set negated))
  | isNull a negated =>
    rw [eval, eval]
    exact h.visiting (h.bind (related_eval a hn bindings) fun v _ => h.pure _)
  | call f args =>
    rw [eval, eval]
    exact h.visiting (h.bind (related_evalAll args hn bindings) fun vs _ =>
      h.lift (isOrdinary_call f vs now))
  | host f args =>
    have ⟨hf, hargs⟩ := List.forall_mem_cons.mp hn
    rw [eval, eval]
    exact h.visiting (h.bind (related_evalAll args hargs bindings) fun vs _ => h.callHost vs hf)
  | quantifier kind collection slot predicate =>
    have ⟨hcoll, hpred⟩ := List.forall_mem_append.mp hn
    rw [eval, eval]
    exact h.visiting (h.bind (related_eval collection hcoll bindings) fun v _ =>
      h.quantifyOver (fun item => related_eval predicate hpred (bindings ++ [item])) kind v)

theorem related_evalAll (ns : List Node) (hns : ∀ f ∈ hostsAll ns, called f)
    (bindings : List Value) : R (List Value) (evalAll ⟨event, now, b⟩ ns bindings)
      (evalAll ⟨event, now, b'⟩ ns bindings) := by
  cases ns with
  | nil => rw [evalAll, evalAll]; exact h.pure _
  | cons n ns =>
    have ⟨hn, hrest⟩ := List.forall_mem_append.mp hns
    rw [evalAll, evalAll]
    exact h.bind (related_eval n hn bindings) fun v _ =>
      h.bind (related_evalAll ns hrest bindings) fun vs _ => h.pure _

theorem related_connect (decisive : Bool) (ns : List Node) (hns : ∀ f ∈ hostsAll ns, called f)
    {unknown : Option EvalError} (hu : ∀ e ∈ unknown, e.isOverrun = false)
    (bindings : List Value) :
    R Value (connect ⟨event, now, b⟩ decisive ns unknown bindings)
      (connect ⟨event, now, b'⟩ decisive ns unknown bindings) := by
  cases ns with
  | nil =>
    cases unknown with
    | none => rw [connect, connect]; exact h.pure _
    | some e => rw [connect, connect]; exact h.throw (hu e rfl)
  | cons n ns =>
    have ⟨hn, hrest⟩ := List.forall_mem_append.mp hns
    rw [connect, connect]
    refine h.bind (h.judge (related_eval n hn bindings)) fun v hv => ?_
    cases v with
    | ok b =>
      by_cases hb : b = decisive
      · simp only [hb, ↓reduceIte]
        exact h.pure _
      · simp only [hb, ↓reduceIte]
        exact related_connect decisive ns hrest hu bindings
    | error e =>
      exact related_connect decisive ns hrest (ordinary_or (isOrdinary_of_gives hv) hu rfl) bindings

end

end Node

/-! ## What steps keep -/

namespace Evaluation

variable {α : Type} {b b' : Budget} {called : HostFunction → Prop}

/-- The step `x` has the result of the step `y`, or an overrun. The meter is no reason for another
result. -/
def Steady (α : Type) (x y : Evaluation α) : Prop :=
  ∀ m m', (x m).1 = (y m').1 ∨ IsOverrun (x m).1

theorem steady_bind {β : Type} {x y : Evaluation α} {f g : α → Evaluation β}
    (hx : Steady α x y) (hf : ∀ a, Gives x a ∨ Gives y a → Steady β (f a) (g a)) :
    Steady β (x >>= f) (y >>= g) := by
  intro m m'
  rcases hxm : x m with ⟨r, next⟩
  rcases hym : y m' with ⟨r', next'⟩
  have hxy := hx m m'
  rw [hxm, hym] at hxy
  rcases hxy with rfl | ⟨e, rfl, he⟩
  · cases r with
    | error e =>
      rw [bind_of_error f hxm, bind_of_error g hym]
      exact .inl rfl
    | ok a =>
      rw [bind_of_ok f hxm, bind_of_ok g hym]
      exact hf a (.inl ⟨m, by rw [hxm]⟩) next next'
  · rw [bind_of_error f hxm]
    exact .inr ⟨e, rfl, he⟩

theorem steady_judge {x y : Evaluation Value} (h : Steady Value x y) :
    Steady Verdict (judge x) (judge y) := by
  intro m m'
  rcases h m m' with hsame | ⟨e, hx, he⟩
  · rw [judge_fst, judge_fst, hsame]
    exact .inl rfl
  · exact .inr ⟨e, judge_of_overrun hx he, he⟩

/-- Without limits no result depends on the meter, and with limits none but an overrun. -/
theorem closed_steady : Closed Steady b .unlimited fun _ => True where
  lift _ _ _ := .inl rfl
  visit m m' := by
    have hfree : (visit .unlimited m').1 = .ok () := rfl
    rw [hfree, visit]
    cases ho : overrun? b { m with visits := m.visits + 1 } with
    | none => exact .inl rfl
    | some e => exact .inr ⟨e, rfl, isOverrun_of_overrun ho⟩
  callHost _ _ _ _ := .inl rfl
  judge := steady_judge
  bind := steady_bind

/-- A step that adds to the calls of host functions, and only calls of such functions. -/
def CallsOnly (called : HostFunction → Prop) (x : Evaluation α) : Prop :=
  ∀ m, ∃ calls, (x m).2.calls = m.calls ++ calls ∧
    ∀ call ∈ calls, ∃ f, called f ∧ f.name = call.1

theorem callsOnly_of_none {x : Evaluation α} (h : ∀ m, (x m).2.calls = m.calls) :
    CallsOnly called x := fun m => ⟨[], by rw [h, List.append_nil], nofun⟩

theorem CallsOnly.imp {called' : HostFunction → Prop} {x : Evaluation α} (h : CallsOnly called x)
    (hsub : ∀ f, called f → called' f) : CallsOnly called' x := by
  intro m
  obtain ⟨calls, hcalls, hcalled⟩ := h m
  refine ⟨calls, hcalls, fun call hmem => ?_⟩
  obtain ⟨f, hf, hname⟩ := hcalled call hmem
  exact ⟨f, hsub f hf, hname⟩

theorem callsOnly_bind {β : Type} {x : Evaluation α} {f : α → Evaluation β}
    (hx : CallsOnly called x) (hf : ∀ a, Gives x a → CallsOnly called (f a)) :
    CallsOnly called (x >>= f) := by
  intro m
  obtain ⟨first, hfirst, hcalled⟩ := hx m
  rcases hxm : x m with ⟨e | a, next⟩
  · rw [bind_of_error f hxm]
    rw [hxm] at hfirst
    exact ⟨first, hfirst, hcalled⟩
  · rw [bind_of_ok f hxm]
    rw [hxm] at hfirst
    obtain ⟨rest, hrest, hcalled'⟩ := hf a ⟨m, by rw [hxm]⟩ next
    exact ⟨first ++ rest, by rw [hrest, hfirst, List.append_assoc],
      List.forall_mem_append.mpr ⟨hcalled, hcalled'⟩⟩

theorem closed_callsOnly (b b' : Budget) :
    Closed (fun _ x _ => CallsOnly called x) b b' called where
  lift _ := callsOnly_of_none fun _ => rfl
  visit := callsOnly_of_none fun m => by
    unfold visit
    dsimp only
    split <;> rfl
  callHost {f} args hf m :=
    ⟨[(f.name, args)], rfl, List.forall_mem_singleton.mpr ⟨f, hf, rfl⟩⟩
  judge h m := by
    rw [judge_snd]
    exact h m
  bind hx hf := callsOnly_bind hx fun a ha => hf a (.inl ha)

/-- A step that exceeds the limit on visits only if it has made more. -/
def Accountable (b : Budget) (x : Evaluation α) : Prop :=
  ∀ m l, (x m).1 = .error (.budgetExceeded l) → b.maxVisits = some l ∧ l < (x m).2.visits

theorem accountable_of_ordinary {x : Evaluation α} (h : ∀ m, IsOrdinary (x m).1) :
    Accountable b x := fun m _ hl => nomatch h m _ hl

theorem accountable_bind {β : Type} {x : Evaluation α} {f : α → Evaluation β}
    (hx : Accountable b x) (hf : ∀ a, Gives x a → Accountable b (f a)) :
    Accountable b (x >>= f) := by
  intro m l hl
  rcases hxm : x m with ⟨e | a, next⟩
  · rw [bind_of_error f hxm] at hl ⊢
    have hlimit := hx m l (by rw [hxm]; exact congrArg _ (Except.error.inj hl))
    rwa [hxm] at hlimit
  · rw [bind_of_ok f hxm] at hl ⊢
    exact hf a ⟨m, by rw [hxm]⟩ next l hl

theorem maxVisits_of_overrun {m : Meter} {l : Nat}
    (h : overrun? b m = some (.budgetExceeded l)) : b.maxVisits = some l ∧ l < m.visits := by
  unfold overrun? at h
  split at h
  · next limit hlimit =>
    obtain rfl : limit = l := by cases h; rfl
    rw [Option.filter_eq_some_iff] at hlimit
    exact ⟨hlimit.1, of_decide_eq_true hlimit.2⟩
  · split at h
    · split at h <;> cases h
    · cases h

theorem accountable_visit : Accountable b (visit b) := by
  intro m l hl
  unfold visit at hl ⊢
  dsimp only at hl ⊢
  split at hl
  · next e ho =>
    obtain rfl := Except.error.inj hl
    exact maxVisits_of_overrun ho
  · cases hl

theorem closed_accountable (b b' : Budget) :
    Closed (fun _ x _ => Accountable b x) b b' HostFunction.NeverOverruns where
  lift h := accountable_of_ordinary fun _ => h
  visit := accountable_visit
  callHost args hf := accountable_of_ordinary fun _ => hf args
  judge h m l hl := by
    rw [judge_snd]
    exact h m l (error_of_judge hl).1
  bind hx hf := accountable_bind hx fun a ha => hf a (.inl ha)

end Evaluation

namespace Node

open Evaluation

/-- What a node comes to when nothing limits its evaluation. -/
def answer (c : Context) (bindings : List Value) (n : Node) : Except EvalError Value :=
  (n.eval { c with budget := .unlimited } bindings .zero).1

/-- The truth value of a node when nothing limits its evaluation. -/
def judgement (c : Context) (bindings : List Value) (n : Node) : Verdict :=
  (n.answer c bindings).bind truth

variable {c : Context} {bindings : List Value} {n : Node}

/-- Under a budget, a node has its answer or is ended by an overrun. -/
theorem answer_or_overrun (n : Node) (c : Context) (bindings : List Value) (m : Meter) :
    (n.eval c bindings m).1 = n.answer c bindings ∨ IsOverrun (n.eval c bindings m).1 :=
  related_eval closed_steady c.event c.now n (fun _ _ => True.intro) bindings m .zero

theorem answer_of_gives {v : Value} (h : Gives (n.eval c bindings) v) :
    n.answer c bindings = .ok v := by
  obtain ⟨m, hm⟩ := h
  rcases n.answer_or_overrun c bindings m with hsame | ⟨e, he, -⟩
  · exact hsame.symm.trans hm
  · rw [hm] at he
    cases he

theorem judgement_of_gives {v : Verdict} (h : Gives (judge (n.eval c bindings)) v) :
    n.judgement c bindings = v := by
  obtain ⟨m, hm⟩ := h
  obtain ⟨hv, hordinary⟩ := ok_of_judge hm
  rcases n.answer_or_overrun c bindings m with hsame | ⟨e, he, hover⟩
  · rw [judgement, ← hsame, hv]
  · rw [he] at hv
    obtain rfl : .error e = v := hv
    rw [hordinary e rfl] at hover
    cases hover

/-- The evaluation of a node calls the host functions in it, and no others. -/
theorem callsOnly_eval (n : Node) (c : Context) (bindings : List Value) :
    CallsOnly (· ∈ n.hosts) (n.eval c bindings) :=
  related_eval (closed_callsOnly c.budget c.budget) c.event c.now n (fun _ hf => hf) bindings

/-- A node is ended for its visits only if there were too many. -/
theorem accountable_eval (h : n.IsTame) (c : Context) (bindings : List Value) :
    Accountable c.budget (n.eval c bindings) :=
  related_eval (closed_accountable c.budget c.budget) c.event c.now n h bindings

end Node

end Switchyard.Filter
