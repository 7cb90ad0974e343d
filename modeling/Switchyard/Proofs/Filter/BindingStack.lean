import Switchyard.Proofs.Filter.Optimisation
import Switchyard.Proofs.Filter.WellFormed

/-!
# The stack of bound elements

`Node.eval` is handed the bound elements at every node. An evaluator keeps them on one stack that
quantifiers push to and pop from, reads the arguments of a call by their position and trusts the
slots of the tree. `Node.run` is that evaluator; where it would read what is not there, or find the
stack at another height than it relies on, it stops with a `Breach`.

* `Run.Follows`: from a given stack a run has the result of an evaluation, without a breach, and
  leaves the stack as it was. `bind`, `judge` and the others say how this is put together.
* `Node.WellFormed.follows`: running a well-formed tree follows its evaluation.
* `wellFormed_of_compile`: compiled trees are well formed, and running one never is a breach.
-/

namespace Switchyard.Filter

/-- An element on the stack, with the slot of the quantifier that looks at it. -/
structure Bound where
  slot : Nat
  element : Value

/-- What must never happen to an evaluator that does not check. -/
inductive Breach where
  /-- A built-in function reads an argument that it was not given. -/
  | argument (function : Builtin) (position : Nat)
  /-- A host function is called with another number of arguments than it takes. -/
  | hostArguments (function : String) (given : Nat)
  /-- The height of the stack is not the slot of the quantifier that starts or ends there. -/
  | height (slot found : Nat)
  /-- A field refers to an element that is not on the stack, or to that of another quantifier. -/
  | binding (slot : Nat)
deriving DecidableEq, Repr

/-- What an evaluator with one stack keeps, the outermost element first. -/
structure Machine where
  meter : Meter
  stack : List Bound

/-- A step of such an evaluator. A breach ends it without a result. -/
abbrev Run (α : Type) := ExceptT EvalError (StateT Machine (Except Breach)) α

/-! ## Reading arguments by position -/

namespace Builtin

/-- The argument at a position, which a function reads without asking how many there are. -/
def argument (f : Builtin) (args : List Value) (i : Nat) : Except Breach Value :=
  match args[i]? with
  | some v => .ok v
  | none => .error (.argument f i)

/-- The value of a call whose arguments are read by their position: those that the function always
reads, and after them those that it reads only if they are there. -/
def callAt (f : Builtin) (args : List Value) (now : Instant) :
    Except Breach (Except EvalError Value) :=
  if args.any Value.isNull then .ok (.ok .null)
  else
    match f with
    | .now | .concat => .ok (f.apply args now)
    | .length | .upper | .lower | .abs | .date | .duration | .timeSince | .count => do
      let v ← f.argument args 0
      .ok (f.apply [v] now)
    | .round | .min | .max => do
      let v ← f.argument args 0
      .ok (f.apply (v :: args.drop 1) now)
    | .substring | .contains => do
      let v ← f.argument args 0
      let w ← f.argument args 1
      .ok (f.apply (v :: w :: args.drop 2) now)

/-- With as many arguments as it takes, a function reads none that is not there. -/
theorem callAt_of_takes {f : Builtin} {args : List Value} (h : f.takes args.length = true)
    (now : Instant) : f.callAt args now = .ok (f.call args now) := by
  have hleast : f.arity.1 ≤ args.length := by
    simp only [takes, Bool.and_eq_true, decide_eq_true_eq] at h
    exact h.1
  have hmost : ∀ most, f.arity.2 = some most → args.length ≤ most := by
    intro most hm
    simpa [takes, hm] using (Bool.and_eq_true_iff.mp h).2
  unfold callAt call
  split
  · rfl
  · cases f with
    | now | concat => rfl
    | length | upper | lower | abs | date | duration | timeSince | count =>
      obtain ⟨v, rfl⟩ := List.length_eq_one_iff.mp (Nat.le_antisymm (hmost 1 rfl) hleast)
      rfl
    | round | min | max =>
      obtain ⟨v, rest, rfl⟩ := List.exists_cons_of_length_pos hleast
      rfl
    | substring | contains =>
      match args, hleast with
      | v :: w :: rest, _ => rfl

end Builtin

/-! ## The evaluator -/

namespace Run

variable {α β : Type}

/-- A step that does not touch the stack. -/
def step (x : Evaluation α) : Run α := fun s =>
  .ok ((x s.meter).1, { s with meter := (x s.meter).2 })

/-- The value of a field, where bound elements are looked up on the stack. -/
def lookup? (c : Context) (f : Field) : Run (Option Value) := fun s =>
  match f.root with
  | .binding slot =>
    match s.stack[slot]? with
    | some b =>
      if b.slot = slot then .ok (.ok (walk? b.element f.segments), s) else .error (.binding slot)
    | none => .error (.binding slot)
  | _ => .ok (.ok (c.event.bind f.find?), s)

/-- Takes the result of a step as a truth value, as `Evaluation.judge` does. -/
def judge (x : Run Value) : Run Verdict := fun s =>
  match x s with
  | .ok (.ok v, s) => .ok (.ok (Evaluation.truth v), s)
  | .ok (.error e, s) => if e.isOverrun then .ok (.error e, s) else .ok (.ok (.error e), s)
  | .error b => .error b

/-- Requires that the stack is as high as a slot. -/
def atHeight (slot : Nat) : Run Unit := fun s =>
  if s.stack.length = slot then .ok (.ok (), s) else .error (.height slot s.stack.length)

/-- A step that starts and ends at the height of a slot, also where it ends with an error. -/
def leveled (slot : Nat) (x : Run α) : Run α := do
  atHeight slot
  fun s =>
    match x s with
    | .ok (r, s) =>
      if s.stack.length = slot then .ok (r, s) else .error (.height slot s.stack.length)
    | .error b => .error b

/-- A step with one more element on the stack, which is taken off again whatever comes of it. -/
def holding (slot : Nat) (item : Value) (x : Run α) : Run α := fun s =>
  match x { s with stack := s.stack ++ [⟨slot, item⟩] } with
  | .ok (r, s) => .ok (r, { s with stack := s.stack.dropLast })
  | .error b => .error b

/-- Calls a built-in function. -/
def call (f : Builtin) (args : List Value) (now : Instant) : Run Value := fun s =>
  (f.callAt args now).map fun r => (r, s)

/-- Calls a host function. -/
def callHost (f : HostFunction) (args : List Value) : Run Value := fun s =>
  if args.length = f.arity then step (Evaluation.callHost f args) s
  else .error (.hostArguments f.name args.length)

/-- The loop of a quantifier, as `quantify` has it. -/
def scan (kind : Quantifier) (test : Value → Run Verdict) :
    List Value → Nat → Option EvalError → Run Value
  | [], hits, unknown => step (quantify kind (fun _ => pure (.ok false)) [] hits unknown)
  | item :: items, hits, unknown => do
    match kind, ← test item with
    | .any, .ok true => pure (.bool true)
    | .all, .ok false => pure (.bool false)
    | _, .ok true => scan kind test items (hits + 1) unknown
    | _, .ok false => scan kind test items hits unknown
    | _, .error e => scan kind test items hits (unknown.or (some e))

/-- The value of a quantifier over the value of its collection. The loop over an array relies on the
height of the stack. -/
def scanOver (kind : Quantifier) (slot : Nat) (test : Value → Run Verdict) (collection : Value) :
    Run Value :=
  match collection with
  | .array items => do
    atHeight slot
    scan kind test items 0 none
  | .null => pure (if kind = .count then .null else .bool false)
  | v => throw (.typeMismatch kind.name v.type .array)

end Run

namespace Node

open Run Evaluation

mutual

/-- The value of a node, with the bound elements on the stack. -/
def run (c : Context) : Node → Run Value
  | .const v => do
    step (visit c.budget)
    pure v
  | .field f => do
    step (visit c.budget)
    pure ((← Run.lookup? c f).getD .null)
  | .existing f => do
    step (visit c.budget)
    pure (.bool (← Run.lookup? c f).isSome)
  | .neg n => do
    step (visit c.budget)
    step (ExceptT.mk (pure (negative (← n.run c))))
  | .not n => do
    step (visit c.budget)
    step (ofVerdict ((← Run.judge (n.run c)).map (!·)))
  | .and ns => do
    step (visit c.budget)
    runOperands c false ns none
  | .or ns => do
    step (visit c.budget)
    runOperands c true ns none
  | .compare op l r => do
    step (visit c.budget)
    let x ← l.run c
    let y ← r.run c
    step (ofVerdict (op.apply x y))
  | .like n pattern negated => do
    step (visit c.budget)
    step (ofVerdict (testText "LIKE" pattern.accepts (← n.run c) negated))
  | .matching n pattern negated => do
    step (visit c.budget)
    step (ofVerdict (testText "MATCHES" pattern.accepts (← n.run c) negated))
  | .between n low high negated => do
    step (visit c.budget)
    let v ← n.run c
    let lo ← low.run c
    let hi ← high.run c
    step (ofVerdict (inRange v lo hi negated))
  | .within n set negated => do
    step (visit c.budget)
    step (ofVerdict (isMember (← n.run c) set negated))
  | .isNull n negated => do
    step (visit c.budget)
    pure (.bool ((← n.run c).isNull != negated))
  | .call f args => do
    step (visit c.budget)
    Run.call f (← runAll c args) c.now
  | .host f args => do
    step (visit c.budget)
    Run.callHost f (← runAll c args)
  | .quantifier kind collection slot predicate => leveled slot do
    step (visit c.budget)
    scanOver kind slot (fun item => holding slot item (Run.judge (predicate.run c)))
      (← collection.run c)

/-- The values of nodes, in order. -/
def runAll (c : Context) : List Node → Run (List Value)
  | [] => pure []
  | n :: ns => do
    let v ← n.run c
    let vs ← runAll c ns
    pure (v :: vs)

/-- The value of the operands of an `AND` or `OR` that are left, as `connect` has it. -/
def runOperands (c : Context) (decisive : Bool) : List Node → Option EvalError → Run Value
  | [], none => pure (.bool !decisive)
  | [], some e => throw e
  | n :: ns, unknown => do
    match ← Run.judge (n.run c) with
    | .ok b => if b = decisive then pure (.bool decisive) else runOperands c decisive ns unknown
    | .error e => runOperands c decisive ns (unknown.or (some e))

end

end Node

/-- The truth value of a filter for an event, from an empty stack, and the machine after it. -/
def Expression.run (e : Expression) (event : Event) (b : Budget) (now : Instant) :
    Except Breach (Verdict × Machine) :=
  match Run.judge (e.root.run ⟨some event, now, b⟩) ⟨Meter.zero, []⟩ with
  | .ok (.ok verdict, s) => .ok (verdict, s)
  | .ok (.error e, s) => .ok (.error e, s)
  | .error b => .error b

/-! ## Runs that follow an evaluation -/

namespace Run

variable {α β : Type} {stack : List Bound}

/-- From the stack, whatever the meter shows, the run has the result of the evaluation without a
breach and leaves the stack as it was. -/
def Follows (stack : List Bound) (x : Run α) (y : Evaluation α) : Prop :=
  ∀ m, x ⟨m, stack⟩ = .ok ((y m).1, ⟨(y m).2, stack⟩)

theorem bind_of_ok {x : Run α} (f : α → Run β) {s s' : Machine} {a : α}
    (h : x s = .ok (.ok a, s')) : (x >>= f) s = f a s' := by
  simp [Bind.bind, ExceptT.bind, ExceptT.mk, StateT.bind, ExceptT.bindCont, Except.bind, h]

theorem bind_of_error {x : Run α} (f : α → Run β) {s s' : Machine} {e : EvalError}
    (h : x s = .ok (.error e, s')) : (x >>= f) s = .ok (.error e, s') := by
  simp only [Bind.bind, ExceptT.bind, ExceptT.mk, StateT.bind, Except.bind, h]
  rfl

namespace Follows

variable {x : Run α} {y : Evaluation α}

theorem step (y : Evaluation α) : Follows stack (step y) y := fun _ => rfl

theorem pure (a : α) : Follows stack (pure a) (pure a) := fun _ => rfl

theorem throw (e : EvalError) : Follows stack (throw e : Run α) (throw e) := fun _ => rfl

theorem bind {f : α → Run β} {g : α → Evaluation β} (hx : Follows stack x y)
    (hf : ∀ a m m', y m = (.ok a, m') → Follows stack (f a) (g a)) :
    Follows stack (x >>= f) (y >>= g) := by
  intro m
  have hm := hx m
  rcases hy : y m with ⟨e | a, m'⟩
  · rw [hy] at hm
    rw [bind_of_error f hm, Evaluation.bind_of_error g hy]
  · rw [hy] at hm
    rw [bind_of_ok f hm, Evaluation.bind_of_ok g hy]
    exact hf a m m' hy m'

theorem judge {x : Run Value} {y : Evaluation Value} (hx : Follows stack x y) :
    Follows stack (judge x) (Evaluation.judge y) := by
  intro m
  have hm := hx m
  unfold Run.judge Evaluation.judge
  rcases hy : y m with ⟨e | v, m'⟩
  · rw [hy] at hm
    rw [hm]
    dsimp only
    split <;> rfl
  · rw [hy] at hm
    rw [hm]

theorem atHeight {slot : Nat} (h : stack.length = slot) :
    Follows stack (atHeight slot) (Pure.pure ()) := by
  intro m
  rw [Run.atHeight, if_pos h]
  rfl

theorem leveled {slot : Nat} (h : stack.length = slot) (hx : Follows stack x y) :
    Follows stack (leveled slot x) y := by
  intro m
  have ha : Run.atHeight slot ⟨m, stack⟩ = .ok (.ok (), ⟨m, stack⟩) := atHeight h m
  rw [Run.leveled, bind_of_ok _ ha, hx m]
  dsimp only
  rw [if_pos h]

/-- The element is on top of the stack for one step only. -/
theorem holding {slot : Nat} {item : Value} (hx : Follows (stack ++ [⟨slot, item⟩]) x y) :
    Follows stack (holding slot item x) y := by
  intro m
  rw [Run.holding, hx m]
  dsimp only
  rw [List.dropLast_concat]

theorem call {f : Builtin} {args : List Value} (h : f.takes args.length = true)
    (now : Instant) :
    Follows stack (call f args now) (ExceptT.mk (Pure.pure (f.call args now))) := by
  intro m
  rw [Run.call, Builtin.callAt_of_takes h]
  rfl

theorem callHost {f : HostFunction} {args : List Value} (h : args.length = f.arity) :
    Follows stack (callHost f args) (Evaluation.callHost f args) := by
  intro m
  rw [Run.callHost, if_pos h]
  rfl

theorem scan {kind : Quantifier} {test : Value → Run Verdict}
    {test' : Value → Evaluation Verdict} (h : ∀ item, Follows stack (test item) (test' item))
    (items : List Value) (hits : Nat) (unknown : Option EvalError) :
    Follows stack (scan kind test items hits unknown) (quantify kind test' items hits unknown) := by
  induction items generalizing hits unknown with
  | nil => exact step _
  | cons item items ih =>
    refine (h item).bind fun v _ _ _ => ?_
    match kind, v with
    | .any, .ok true | .all, .ok false => exact pure _
    | .all, .ok true | .count, .ok true | .any, .ok false | .count, .ok false
    | .any, .error _ | .all, .error _ | .count, .error _ => exact ih _ _

theorem scanOver {kind : Quantifier} {slot : Nat} {test : Value → Run Verdict}
    {test' : Value → Evaluation Verdict} (hslot : stack.length = slot)
    (h : ∀ item, Follows stack (test item) (test' item)) (v : Value) :
    Follows stack (scanOver kind slot test v) (quantifyOver kind test' v) := by
  cases v with
  | array items =>
    intro m
    rw [Run.scanOver, bind_of_ok _ (atHeight hslot m)]
    exact scan h items 0 none m
  | null => exact pure _
  | _ => exact throw _

end Follows

/-- Every element is in the slot of its quantifier. -/
def Aligned (stack : List Bound) : Prop :=
  ∀ (i : Nat) (b : Bound), stack[i]? = some b → b.slot = i

theorem Aligned.snoc (h : Aligned stack) (item : Value) :
    Aligned (stack ++ [⟨stack.length, item⟩]) := by
  intro i b hb
  rw [List.getElem?_append] at hb
  split at hb
  · exact h i b hb
  · next hi =>
    rw [List.getElem?_singleton] at hb
    split at hb
    · next h0 =>
      obtain rfl := Option.some.inj hb
      dsimp only
      omega
    · cases hb

/-- A field in scope is found on an aligned stack. -/
theorem Follows.lookup (ha : Aligned stack) {f : Field} (hf : f.IsInScope stack.length)
    (c : Context) : Follows stack (lookup? c f)
      (Pure.pure (f.lookup? c (stack.map (·.element)))) := by
  intro m
  unfold Run.lookup? Field.lookup?
  cases hr : f.root with
  | binding slot =>
    have hget := List.getElem?_eq_getElem (hf slot hr)
    dsimp only
    rw [hget]
    dsimp only
    rw [if_pos (ha slot _ hget), List.getElem?_map, hget]
    rfl
  | payload | headers | subject => rfl

end Run

/-! ## Well-formed trees -/

namespace Node

open Run

variable {c : Context} {stack : List Bound} {bindings : List Value}

theorem length_of_evalAll {ns : List Node} {vs : List Value} {m m' : Meter}
    (h : evalAll c ns bindings m = (.ok vs, m')) : vs.length = ns.length := by
  induction ns generalizing vs m m' with
  | nil =>
    obtain ⟨⟩ := h
    rfl
  | cons n ns ih =>
    rw [evalAll] at h
    obtain ⟨v, _, -, h⟩ := Evaluation.ok_of_bind h
    obtain ⟨ws, _, hws, h⟩ := Evaluation.ok_of_bind h
    obtain ⟨⟩ := h
    rw [List.length_cons, List.length_cons, ih hws]

theorem follows_runAll {ns : List Node}
    (h : ∀ n ∈ ns, Follows stack (n.run c) (n.eval c bindings)) :
    Follows stack (runAll c ns) (evalAll c ns bindings) := by
  induction ns with
  | nil => exact .pure _
  | cons n ns ih =>
    have ⟨hn, hns⟩ := List.forall_mem_cons.mp h
    exact hn.bind fun _ _ _ _ => (ih hns).bind fun _ _ _ _ => .pure _

theorem follows_runOperands {ns : List Node}
    (h : ∀ n ∈ ns, Follows stack (n.run c) (n.eval c bindings)) (decisive : Bool)
    (unknown : Option EvalError) :
    Follows stack (runOperands c decisive ns unknown) (connect c decisive ns unknown bindings) := by
  induction ns generalizing unknown with
  | nil =>
    cases unknown with
    | none => exact .pure _
    | some e => exact .throw e
  | cons n ns ih =>
    have ⟨hn, hns⟩ := List.forall_mem_cons.mp h
    refine hn.judge.bind fun v _ _ _ => ?_
    cases v with
    | error e => exact ih hns _
    | ok b =>
      dsimp only
      split
      · exact .pure _
      · exact ih hns _

/-- Running a well-formed node on a stack with one element for each predicate around it follows the
evaluation of the node with these elements. -/
theorem WellFormed.follows {n : Node} {depth : Nat} (h : n.WellFormed depth) (c : Context)
    {stack : List Bound} (ha : Aligned stack) (hl : stack.length = depth) :
    Follows stack (n.run c) (n.eval c (stack.map (·.element))) := by
  induction h generalizing stack with
  | @intro n depth proper parts ih =>
    have hpart {m : Node} (hm : (m, depth) ∈ n.parts depth) :
        Follows stack (m.run c) (m.eval c (stack.map (·.element))) := ih (m, depth) hm ha hl
    have hparts {ns : List Node} (hns : n.parts depth = ns.map fun m => (m, depth)) :
        ∀ m ∈ ns, Follows stack (m.run c) (m.eval c (stack.map (·.element))) :=
      fun m hm => hpart (hns ▸ List.mem_map_of_mem hm)
    -- Every kind of node is visited first.
    have hvisit {x : Run Value} {y : Evaluation Value} (hx : Follows stack x y) :
        Follows stack (do step (Evaluation.visit c.budget); x)
          (do Evaluation.visit c.budget; y) :=
      (Follows.step _).bind fun _ _ _ _ => hx
    cases n with
    | const v => exact hvisit (.pure _)
    | field f =>
      exact hvisit ((Follows.lookup ha (hl ▸ proper.fits) c).bind fun _ _ _ _ => .pure _)
    | existing f =>
      exact hvisit ((Follows.lookup ha (hl ▸ proper.fits) c).bind fun _ _ _ _ => .pure _)
    | neg n | like n _ _ | matching n _ _ | within n _ _ =>
      exact hvisit ((hpart List.mem_cons_self).bind fun _ _ _ _ => .step _)
    | isNull n _ => exact hvisit ((hpart List.mem_cons_self).bind fun _ _ _ _ => .pure _)
    | not n => exact hvisit ((hpart List.mem_cons_self).judge.bind fun _ _ _ _ => .step _)
    | and ns | or ns => exact hvisit (follows_runOperands (hparts rfl) _ _)
    | compare op l r =>
      exact hvisit ((hpart List.mem_cons_self).bind fun _ _ _ _ =>
        (hpart (List.mem_cons_of_mem _ List.mem_cons_self)).bind fun _ _ _ _ => .step _)
    | between n low high _ =>
      exact hvisit ((hpart List.mem_cons_self).bind fun _ _ _ _ =>
        (hpart (List.mem_cons_of_mem _ List.mem_cons_self)).bind fun _ _ _ _ =>
          (hpart (List.mem_cons_of_mem _ (List.mem_cons_of_mem _ List.mem_cons_self))).bind
            fun _ _ _ _ => .step _)
    | call f args =>
      refine hvisit ((follows_runAll (hparts rfl)).bind fun vs _ _ hvs => .call ?_ c.now)
      rw [length_of_evalAll hvs]
      exact proper.fits
    | host f args =>
      refine hvisit ((follows_runAll (hparts rfl)).bind fun vs _ _ hvs => .callHost ?_)
      rw [length_of_evalAll hvs]
      exact proper.fits
    | quantifier kind collection slot predicate =>
      obtain rfl : slot = depth := proper.fits
      refine .leveled hl (hvisit ((hpart List.mem_cons_self).bind fun v _ _ _ =>
        .scanOver hl (fun item => .holding (Follows.judge ?_)) v))
      -- The predicate runs one level up, with the element on top.
      have hp := ih (predicate, slot + 1) (List.mem_cons_of_mem _ List.mem_cons_self)
        (ha.snoc item) (by rw [List.length_append, hl, List.length_singleton])
      rw [hl, List.map_append] at hp
      exact hp

end Node

/-! ## Compiled filters -/

theorem Run.Follows.run_eq {e : Expression} {event : Event} {b : Budget} {now : Instant}
    (h : Run.Follows [] (e.root.run ⟨some event, now, b⟩) (e.root.eval ⟨some event, now, b⟩ [])) :
    e.run event b now = .ok ((e.evaluate event b now).1, ⟨(e.evaluate event b now).2, []⟩) := by
  unfold Expression.run Expression.evaluate
  rw [h.judge Meter.zero]
  rcases Evaluation.judge (e.root.eval ⟨some event, now, b⟩ []) Meter.zero with ⟨_ | _, m⟩ <;> rfl

/-- Compiled trees are well formed, and so an evaluator may rely on them. Every node is proper at
its depth, a path stands for the innermost quantifier that binds its root, and for every event,
budget and time the evaluator with one stack gives what `evaluate` gives, without a breach and with
an empty stack at the end. -/
theorem wellFormed_of_compile {fs : HostFunctions} {source : String} {e : Expression}
    (h : compile fs source = .ok e) :
    (∀ n depth, e.root.Occurs n depth → n.Proper depth) ∧
    (∀ scope p f, resolve scope p = .ok f → ∀ slot : Nat, f.root = .binding slot ↔
      scope[slot]? = some p.root ∧ ∀ j, slot < j → scope[j]? ≠ some p.root) ∧
    (∀ c, Run.Follows [] (e.root.run c) (e.root.eval c [])) ∧
    ∀ (event : Event) (b : Budget) (now : Instant),
      e.run event b now = .ok ((e.evaluate event b now).1, ⟨(e.evaluate event b now).2, []⟩) := by
  obtain ⟨ast, root, t, -, hlower, -, rfl⟩ := compile_eq_ok.mp h
  have hroot : root.WellFormed 0 := (lowered_of_lower ast hlower).wellFormed
  have hfollows (c : Context) : Run.Follows [] (root.run c) (root.eval c []) :=
    hroot.follows c nofun rfl
  exact ⟨fun n depth ho => (hroot.of_occurs ho).proper,
    fun scope p f hf slot => resolve_binding hf, hfollows, fun event b now => (hfollows _).run_eq⟩

/-- Predicates two deep, the inner one over the outer element as well, and calls of both kinds. -/
def nestedPredicates : String :=
  "approved() OR any(payload.orders, o => count(o.lines, l => l.price > round(o.limit, 1)) >= 2)"

theorem wellFormed_of_compile_nested :
    ∃ e, compile approvals nestedPredicates = .ok e ∧
      (∀ n depth, e.root.Occurs n depth → n.Proper depth) ∧
      ∀ (event : Event) (b : Budget) (now : Instant),
        e.run event b now = .ok ((e.evaluate event b now).1, ⟨(e.evaluate event b now).2, []⟩) := by
  have hc : (compile approvals nestedPredicates).toOption.isSome = true := by decide +kernel
  obtain ⟨e, he⟩ := exists_eq_ok hc
  obtain ⟨hproper, -, -, hrun⟩ := wellFormed_of_compile he
  exact ⟨e, he, hproper, hrun⟩

end Switchyard.Filter
