import Mathlib.Algebra.Group.Nat.Defs
import Switchyard.Proofs.Filter.Nesting
import Switchyard.Proofs.Filter.ShortCircuit

/-!
# How often nodes are visited

An evaluation visits each node of a tree at most once, apart from the predicates of quantifiers:
those are visited once for each element that is looked at. So the visits are bounded by the number
of nodes, times the length of the longest array for every quantifier around a predicate.

* `Node.evaluated`, `Node.Reaches`: which nodes an evaluation gets to, and under which bindings.
* `Node.HasShortArrays`: no quantifier it gets to looks at a long array.
* `Evaluation.Spends`: a bound on the visits of a step. Bounds of steps one behind the other add up.
* `Node.most`, `Node.spends_eval`: the bound on a node, by recursion on the tree.
* `Node.most_le`: the bound is at most the number of nodes times a power.
* `visits_bounded`: the bound on filters, and what it says of their budgets.
-/

namespace Switchyard.Filter

/-! ## What is evaluated -/

/-- Whether a quantifier ends at an element with such a verdict. -/
def Quantifier.endsAt : Quantifier → Verdict → Bool
  | .any, .ok b => b
  | .all, .ok b => !b
  | _, _ => false

namespace Node

open Evaluation

variable {c : Context} {bindings inner : List Value} {n m k : Node} {L : Nat}

/-- Whether a node has no value. -/
def fails (c : Context) (bindings : List Value) (n : Node) : Bool := !(n.answer c bindings).isOk

/-- The nodes that the evaluation of a node goes on to when nothing limits it, with their bindings:
arguments up to the first one that has no value, operands up to the first one that decides, the
predicate of a quantifier for the elements that it looks at. -/
def evaluated (c : Context) (bindings : List Value) : Node → List (Node × List Value)
  | .const _ | .field _ | .existing _ => []
  | .neg n | .not n | .like n _ _ | .matching n _ _ | .within n _ _ | .isNull n _ => [(n, bindings)]
  | .compare _ l r => (upTo (fails c bindings) [l, r]).map fun n => (n, bindings)
  | .between n lo hi _ => (upTo (fails c bindings) [n, lo, hi]).map fun n => (n, bindings)
  | .call _ ns | .host _ ns => (upTo (fails c bindings) ns).map fun n => (n, bindings)
  | .and ns => (upTo (comesTo c bindings false) ns).map fun n => (n, bindings)
  | .or ns => (upTo (comesTo c bindings true) ns).map fun n => (n, bindings)
  | .quantifier kind collection _ predicate =>
    (collection, bindings) ::
      match collection.answer c bindings with
      | .ok (.array items) =>
        (upTo (fun item => kind.endsAt (predicate.judgement c (bindings ++ [item]))) items).map
          fun item => (predicate, bindings ++ [item])
      | _ => []

/-- `n.Reaches c bindings m inner`: the evaluation of `n` under `bindings` comes to evaluating `m`
under `inner`. -/
inductive Reaches (c : Context) (n : Node) (bindings : List Value) : Node → List Value → Prop where
  | refl : Reaches c n bindings n bindings
  | step {m k : Node} {inner innermost : List Value} (h : Reaches c n bindings m inner)
      (hk : (k, innermost) ∈ m.evaluated c inner) : Reaches c n bindings k innermost

/-- No collection of a quantifier that the evaluation of a node gets to is an array of more than `L`
elements. -/
def HasShortArrays (c : Context) (L : Nat) (bindings : List Value) (n : Node) : Prop :=
  ∀ kind collection slot predicate inner items,
    n.Reaches c bindings (.quantifier kind collection slot predicate) inner →
      collection.answer c inner = .ok (.array items) → items.length ≤ L

theorem Reaches.of_evaluated (h : (m, inner) ∈ n.evaluated c bindings) {innermost : List Value}
    (hk : m.Reaches c inner k innermost) : n.Reaches c bindings k innermost := by
  induction hk with
  | refl => exact .step .refl h
  | step _ hl ih => exact ih.step hl

theorem HasShortArrays.part (h : n.HasShortArrays c L bindings)
    (hm : (m, inner) ∈ n.evaluated c bindings) : m.HasShortArrays c L inner :=
  fun kind collection slot predicate _ items hr =>
    h kind collection slot predicate _ items (hr.of_evaluated hm)

/-- A node has short arrays if it looks at none that is long and the nodes that its evaluation goes
on to have short arrays. -/
theorem HasShortArrays.intro
    (hn : ∀ kind collection slot predicate items,
      n = .quantifier kind collection slot predicate →
        collection.answer c bindings = .ok (.array items) → items.length ≤ L)
    (hparts : ∀ p ∈ n.evaluated c bindings, p.1.HasShortArrays c L p.2) :
    n.HasShortArrays c L bindings := by
  have hfirst : ∀ {m inner}, n.Reaches c bindings m inner → (m = n ∧ inner = bindings) ∨
      ∃ p ∈ n.evaluated c bindings, p.1.Reaches c p.2 m inner := by
    intro m inner hm
    induction hm with
    | refl => exact .inl ⟨rfl, rfl⟩
    | step _ hk ih =>
      rcases ih with ⟨rfl, rfl⟩ | ⟨p, hp, hr⟩
      · exact .inr ⟨_, hk, .refl⟩
      · exact .inr ⟨p, hp, hr.step hk⟩
  intro kind collection slot predicate inner items hr hitems
  rcases hfirst hr with ⟨heq, rfl⟩ | ⟨p, hp, hr⟩
  · exact hn kind collection slot predicate items heq.symm hitems
  · exact hparts p hp kind collection slot predicate inner items hr hitems

/-- Limits do not come into it. -/
theorem HasShortArrays.of_budget {event : Option Event} {now : Instant} {b b' : Budget}
    (h : n.HasShortArrays ⟨event, now, b⟩ L bindings) :
    n.HasShortArrays ⟨event, now, b'⟩ L bindings := by
  have hreaches : ∀ {m inner}, n.Reaches ⟨event, now, b'⟩ bindings m inner →
      n.Reaches ⟨event, now, b⟩ bindings m inner := by
    intro m inner hm
    induction hm with
    | refl => exact .refl
    | step _ hk ih => exact ih.step hk
  exact fun kind collection slot predicate inner items hr =>
    h kind collection slot predicate inner items (hreaches hr)

end Node

/-! ## Bounds on steps -/

namespace Evaluation

variable {α β : Type} {x : Evaluation α} {j k : Nat} {b : Budget}

/-- A step that makes at most so many visits. -/
def Spends (k : Nat) (x : Evaluation α) : Prop := ∀ m, (x m).2.visits ≤ m.visits + k

theorem Spends.mono (h : Spends j x) (hjk : j ≤ k) : Spends k x :=
  fun m => Nat.le_trans (h m) (Nat.add_le_add_left hjk _)

theorem spends_of_none (h : ∀ m, (x m).2.visits = m.visits) (k : Nat) : Spends k x :=
  fun m => Nat.le_trans (Nat.le_of_eq (h m)) (Nat.le_add_right _ k)

theorem spends_lift (r : Except EvalError α) (k : Nat) : Spends k (ExceptT.mk (Pure.pure r)) :=
  spends_of_none (fun _ => rfl) k

theorem spends_ofVerdict (v : Verdict) (k : Nat) : Spends k (ofVerdict v) := by
  cases v <;> exact spends_of_none (fun _ => rfl) k

theorem spends_callHost (f : HostFunction) (args : List Value) (k : Nat) :
    Spends k (callHost f args) := spends_of_none (fun _ => rfl) k

theorem Spends.judge {x : Evaluation Value} (h : Spends k x) : Spends k (judge x) := by
  intro m
  rw [judge_snd]
  exact h m

theorem Spends.bind {f : α → Evaluation β} (hx : Spends j x)
    (hf : ∀ a, Gives x a → Spends k (f a)) : Spends (j + k) (x >>= f) := by
  intro m
  have hfirst := hx m
  rcases hxm : x m with ⟨e | a, next⟩
  · rw [hxm] at hfirst
    rw [bind_of_error f hxm]
    dsimp only at hfirst ⊢
    omega
  · rw [hxm] at hfirst
    rw [bind_of_ok f hxm]
    have hsecond := hf a ⟨m, by rw [hxm]⟩ next
    dsimp only at hfirst
    omega

theorem spends_visit : Spends 1 (visit b) := by
  intro m
  unfold visit
  dsimp only
  split <;> exact Nat.le_refl _

theorem Spends.visiting (h : Spends k x) : Spends (1 + k) (do visit b; x) :=
  spends_visit.bind fun _ _ => h

/-- A quantifier spends what it spends on the elements that it looks at. -/
theorem spends_quantify {kind : Quantifier} {test : Value → Evaluation Verdict}
    {ends : Value → Bool} (hends : ∀ item v, Gives (test item) v → kind.endsAt v = ends item)
    (items : List Value) (ht : ∀ item ∈ upTo ends items, Spends k (test item)) (hits : Nat)
    (unknown : Option EvalError) :
    Spends (items.length * k) (quantify kind test items hits unknown) := by
  induction items generalizing hits unknown with
  | nil => cases unknown <;> cases kind <;> exact spends_of_none (fun _ => rfl) _
  | cons item items ih =>
    rw [quantify, List.length_cons, Nat.add_mul, Nat.one_mul, Nat.add_comm]
    refine (ht item head_mem_upTo).bind fun v hv => ?_
    -- Unless the quantifier ends here, it goes on to the other elements.
    have hrest : kind.endsAt v = false → ∀ hits unknown,
        Spends (items.length * k) (quantify kind test items hits unknown) := by
      intro hgoes
      rw [hends item v hv] at hgoes
      exact ih fun other hmem => ht other (mem_upTo_of_tail hgoes hmem)
    rcases v with e | b
    · cases kind <;> exact hrest rfl hits _
    · cases b with
      | true =>
        cases kind with
        | any => exact spends_of_none (fun _ => rfl) _
        | all => exact hrest rfl (hits + 1) unknown
        | count => exact hrest rfl (hits + 1) unknown
      | false =>
        cases kind with
        | any => exact hrest rfl hits unknown
        | all => exact spends_of_none (fun _ => rfl) _
        | count => exact hrest rfl hits unknown

end Evaluation

/-! ## The bound on a node -/

namespace Node

open Evaluation

mutual

/-- The most visits that a node takes if no array in it has more than `L` elements. -/
def most (L : Nat) : Node → Nat
  | .const _ | .field _ | .existing _ => 1
  | .isNull n _ | .neg n | .not n | .like n _ _ | .matching n _ _ | .within n _ _ => 1 + n.most L
  | .compare _ l r => 1 + (l.most L + r.most L)
  | .between n lo hi _ => 1 + (n.most L + (lo.most L + hi.most L))
  | .and ns | .or ns | .call _ ns | .host _ ns => 1 + mostAll L ns
  | .quantifier _ c _ p => 1 + (c.most L + L * p.most L)

/-- The most that several nodes visit together. -/
def mostAll (L : Nat) : List Node → Nat
  | [] => 0
  | n :: ns => n.most L + mostAll L ns

end

variable {c : Context} {bindings : List Value} {L : Nat}

theorem not_fails_of_gives {n : Node} {v : Value} (h : Gives (n.eval c bindings) v) :
    n.fails c bindings = false := by
  rw [fails, answer_of_gives h]
  rfl

/-- A part that is evaluated under the bindings of the node itself. -/
theorem HasShortArrays.of_map {n : Node} {ns : List Node} (h : n.HasShortArrays c L bindings)
    (hn : n.evaluated c bindings = ns.map fun n => (n, bindings)) :
    ∀ m ∈ ns, m.HasShortArrays c L bindings := fun m hm =>
  h.part (by rw [hn]; exact List.mem_map_of_mem hm)

mutual

/-- An evaluation takes no more visits than the bound on its node. -/
theorem spends_eval (n : Node) (bindings : List Value) (h : n.HasShortArrays c L bindings) :
    Spends (n.most L) (n.eval c bindings) := by
  cases n with
  | const | field | existing => rw [eval, most]; exact (spends_lift (.ok _) 0).visiting
  | neg a =>
    have ha := spends_eval a bindings (h.part (List.mem_singleton_self _))
    rw [eval, most]
    exact (ha.bind fun v _ => spends_lift (negative v) 0).visiting
  | not a =>
    have ha := spends_eval a bindings (h.part (List.mem_singleton_self _))
    rw [eval, most]
    exact (ha.judge.bind fun v _ => spends_ofVerdict _ 0).visiting
  | like a | matching a | within a =>
    have ha := spends_eval a bindings (h.part (List.mem_singleton_self _))
    rw [eval, most]
    exact (ha.bind fun v _ => spends_ofVerdict _ 0).visiting
  | isNull a negated =>
    have ha := spends_eval a bindings (h.part (List.mem_singleton_self _))
    rw [eval, most]
    exact (ha.bind fun v _ => spends_lift (.ok _) 0).visiting
  | and ns =>
    rw [eval, most]
    exact (spends_connect false ns none bindings (h.of_map rfl)).visiting
  | or ns =>
    rw [eval, most]
    exact (spends_connect true ns none bindings (h.of_map rfl)).visiting
  -- The right side is evaluated only if the left one has a value, so its arrays need be short only
  -- then: `not_fails_of_gives` is what a value on the left says about that.
  | compare op l r =>
    have hparts := h.of_map rfl
    have hl := spends_eval l bindings (hparts l head_mem_upTo)
    rw [eval, most]
    refine (hl.bind (k := r.most L) fun x hx => ?_).visiting
    have hr := spends_eval r bindings
      (hparts r (mem_upTo_of_tail (not_fails_of_gives hx) head_mem_upTo))
    exact hr.bind fun y _ => spends_ofVerdict _ 0
  | between a low high negated =>
    have hparts := h.of_map rfl
    have ha := spends_eval a bindings (hparts a head_mem_upTo)
    rw [eval, most]
    refine (ha.bind (k := low.most L + high.most L) fun v hv => ?_).visiting
    have hv := not_fails_of_gives hv
    have hlow := spends_eval low bindings (hparts low (mem_upTo_of_tail hv head_mem_upTo))
    refine hlow.bind (k := high.most L) fun lo hlo => ?_
    have hlo := not_fails_of_gives hlo
    have hhigh := spends_eval high bindings
      (hparts high (mem_upTo_of_tail hv (mem_upTo_of_tail hlo head_mem_upTo)))
    exact hhigh.bind fun hi _ => spends_ofVerdict _ 0
  | call f args =>
    rw [eval, most]
    exact ((spends_evalAll args bindings (h.of_map rfl)).bind fun vs _ =>
      spends_lift (f.call vs c.now) 0).visiting
  | host f args =>
    rw [eval, most]
    exact ((spends_evalAll args bindings (h.of_map rfl)).bind fun vs _ =>
      spends_callHost f vs 0).visiting
  | quantifier kind collection slot predicate =>
    have hc := spends_eval collection bindings (h.part List.mem_cons_self)
    rw [eval, most]
    refine (hc.bind (k := L * predicate.most L) fun v hv => ?_).visiting
    have hanswer := answer_of_gives hv
    cases v with
    -- A visit bound for each item that is reached, and there are no more items than the array has.
    | array items =>
      have hlength := h kind collection slot predicate bindings items .refl hanswer
      have hp : ∀ item ∈ upTo
          (fun item => kind.endsAt (predicate.judgement c (bindings ++ [item]))) items,
          Spends (predicate.most L) (judge (predicate.eval c (bindings ++ [item]))) :=
        fun item hitem => (spends_eval predicate (bindings ++ [item]) (h.part (by
          rw [evaluated, hanswer]
          exact List.mem_cons_of_mem _ (List.mem_map_of_mem hitem)))).judge
      refine (spends_quantify (fun item v hv => ?_) items hp 0 none).mono
        (Nat.mul_le_mul_right _ hlength)
      rw [judgement_of_gives hv]
    | null => exact spends_of_none (fun _ => rfl) _
    | _ => exact spends_of_none (fun _ => rfl) _

theorem spends_evalAll (ns : List Node) (bindings : List Value)
    (h : ∀ n ∈ upTo (fails c bindings) ns, n.HasShortArrays c L bindings) :
    Spends (mostAll L ns) (evalAll c ns bindings) := by
  cases ns with
  | nil => rw [evalAll]; exact spends_lift (.ok []) _
  | cons n ns =>
    have hn := spends_eval n bindings (h n head_mem_upTo)
    rw [evalAll, mostAll]
    refine hn.bind fun v hv => ?_
    have hrest := spends_evalAll ns bindings fun m hm =>
      h m (mem_upTo_of_tail (not_fails_of_gives hv) hm)
    exact hrest.bind fun vs _ => spends_lift (.ok _) 0

theorem spends_connect (decisive : Bool) (ns : List Node) (unknown : Option EvalError)
    (bindings : List Value)
    (h : ∀ n ∈ upTo (comesTo c bindings decisive) ns, n.HasShortArrays c L bindings) :
    Spends (mostAll L ns) (connect c decisive ns unknown bindings) := by
  cases ns with
  | nil =>
    cases unknown <;> rw [connect] <;> exact spends_of_none (fun _ => rfl) _
  | cons n ns =>
    have hn := spends_eval n bindings (h n head_mem_upTo)
    rw [connect, mostAll]
    refine hn.judge.bind fun v hv => ?_
    -- An operand that does not decide is followed by the others.
    have hrest : (v.toOption == some decisive) = false → ∀ unknown,
        Spends (mostAll L ns) (connect c decisive ns unknown bindings) := fun hv' unknown =>
      spends_connect decisive ns unknown bindings fun m hm =>
        h m (mem_upTo_of_tail ((comesTo_of_gives hv).trans hv') hm)
    cases v with
    | ok b =>
      by_cases hb : b = decisive
      · simp only [hb, ↓reduceIte]
        exact spends_of_none (fun _ => rfl) _
      · simp only [hb, ↓reduceIte]
        exact hrest (by simpa [Except.toOption] using hb) unknown
    | error e => exact hrest rfl _

end

end Node

/-! ## The bound in numbers -/

namespace Node

variable {L M : Nat}

theorem le_mul_pow_of_le {a k q r : Nat} (hM : 0 < M) (h : a ≤ k * M ^ q) (hqr : q ≤ r) :
    a ≤ k * M ^ r := Nat.le_trans h (Nat.mul_le_mul_left k (Nat.pow_le_pow_right hM hqr))

mutual

/-- The bound on a node is at most the number of its nodes, times a factor for each predicate around
one of them. -/
theorem most_le (hM : 0 < M) (hL : L ≤ M) (n : Node) : n.most L ≤ n.count * M ^ n.nesting := by
  have hpos : ∀ q, 0 < M ^ q := fun q => Nat.pow_pos hM
  cases n with
  | const | field | existing => exact Nat.le_refl 1
  | neg a | not a | like a | matching a | within a | isNull a =>
    have ha := most_le hM hL a
    have := hpos a.nesting
    rw [most, count, nesting, Nat.add_mul, Nat.one_mul]
    omega
  | compare op l r =>
    have hl := le_mul_pow_of_le hM (most_le hM hL l) (Nat.le_max_left _ r.nesting)
    have hr := le_mul_pow_of_le hM (most_le hM hL r) (Nat.le_max_right l.nesting _)
    have := hpos (max l.nesting r.nesting)
    rw [most, count, nesting, Nat.add_mul, Nat.add_mul, Nat.one_mul]
    omega
  | between a low high negated =>
    have ha := le_mul_pow_of_le hM (most_le hM hL a)
      (Nat.le_max_left _ (max low.nesting high.nesting))
    have hlow := le_mul_pow_of_le hM (most_le hM hL low)
      (Nat.le_trans (Nat.le_max_left _ high.nesting) (Nat.le_max_right a.nesting _))
    have hhigh := le_mul_pow_of_le hM (most_le hM hL high)
      (Nat.le_trans (Nat.le_max_right low.nesting _) (Nat.le_max_right a.nesting _))
    have := hpos (max a.nesting (max low.nesting high.nesting))
    rw [most, count, nesting, Nat.add_mul, Nat.add_mul, Nat.add_mul, Nat.one_mul]
    omega
  | and ns | or ns | call _ ns | host _ ns =>
    have hns := mostAll_le hM hL ns
    have := hpos (nestings ns)
    rw [most, count, nesting, Nat.add_mul, Nat.one_mul]
    omega
  -- Only here a factor is used up: the predicate is visited once for each item, one level deeper.
  | quantifier kind collection slot predicate =>
    have hc := le_mul_pow_of_le hM (most_le hM hL collection)
      (Nat.le_max_left _ (predicate.nesting + 1))
    have hp : L * predicate.most L ≤
        predicate.count * M ^ max collection.nesting (predicate.nesting + 1) := by
      refine le_mul_pow_of_le hM ?_ (Nat.le_max_right collection.nesting _)
      calc L * predicate.most L
          ≤ M * (predicate.count * M ^ predicate.nesting) :=
            Nat.mul_le_mul hL (most_le hM hL predicate)
        _ = predicate.count * M ^ (predicate.nesting + 1) := by
            rw [Nat.pow_succ, Nat.mul_left_comm, Nat.mul_comm M]
    have := hpos (max collection.nesting (predicate.nesting + 1))
    rw [most, count, nesting, Nat.add_mul, Nat.add_mul, Nat.one_mul]
    omega

theorem mostAll_le (hM : 0 < M) (hL : L ≤ M) (ns : List Node) :
    mostAll L ns ≤ counts ns * M ^ nestings ns := by
  cases ns with
  | nil => exact Nat.zero_le _
  | cons n ns =>
    have hn := le_mul_pow_of_le hM (most_le hM hL n) (Nat.le_max_left _ (nestings ns))
    have hns := le_mul_pow_of_le hM (mostAll_le hM hL ns) (Nat.le_max_right n.nesting _)
    rw [mostAll, counts, nestings, Nat.add_mul]
    omega

end

end Node

/-! ## Filters -/

namespace Node

variable {c : Context} {bindings inner : List Value} {n m root : Node} {L depth : Nat}

theorem exists_mem_parts_of_evaluated (h : (m, inner) ∈ n.evaluated c bindings) (depth : Nat) :
    ∃ below, (m, below) ∈ n.parts depth := by
  have hmap : ∀ {p : Node → Bool} {ns : List Node},
      (m, inner) ∈ (upTo p ns).map (fun n => (n, bindings)) → m ∈ ns := by
    intro p ns hm
    obtain ⟨k, hk, heq⟩ := List.mem_map.mp hm
    exact (Prod.mk.inj heq).1 ▸ List.take_subset _ _ hk
  cases n with
  | const | field | existing => cases h
  | neg a | not a | like a | matching a | within a | isNull a =>
    obtain ⟨⟩ := List.mem_singleton.mp h
    exact ⟨depth, List.mem_singleton_self _⟩
  | and ns | or ns | call _ ns | host _ ns => exact ⟨depth, List.mem_map_of_mem (hmap h)⟩
  | compare op l r => exact ⟨depth, by simpa [parts] using hmap h⟩
  | between a low high negated => exact ⟨depth, by simpa [parts] using hmap h⟩
  | quantifier kind collection slot predicate =>
    rcases List.mem_cons.mp h with heq | h
    · obtain ⟨⟩ := heq
      exact ⟨depth, List.mem_cons_self⟩
    · split at h
      · obtain ⟨item, -, heq⟩ := List.mem_map.mp h
        obtain ⟨⟩ := heq
        exact ⟨depth + 1, List.mem_cons_of_mem _ List.mem_cons_self⟩
      · cases h

theorem exists_occurs_of_reaches (h : root.Reaches c bindings m inner) :
    ∃ depth, root.Occurs m depth := by
  induction h with
  | refl => exact ⟨0, .root⟩
  | step _ hk ih =>
    obtain ⟨depth, hm⟩ := ih
    obtain ⟨below, hpart⟩ := exists_mem_parts_of_evaluated hk depth
    exact ⟨below, hm.part hpart⟩

theorem IsQuantifierFree.hasShortArrays (h : root.IsQuantifierFree) (c : Context) (L : Nat)
    (bindings : List Value) : root.HasShortArrays c L bindings := by
  intro kind collection slot predicate inner items hr
  obtain ⟨depth, hocc⟩ := exists_occurs_of_reaches hr
  exact absurd hocc (h _ _ _ _ _)

end Node

namespace Expression

variable {e : Expression} {event : Event} {now : Instant} {L : Nat}

theorem visits_evaluate_le
    (h : e.root.HasShortArrays ⟨some event, now, .unlimited⟩ L []) (b : Budget) :
    (e.evaluate event b now).2.visits ≤ e.root.count * max 1 L ^ e.root.nesting := by
  have hspends := Node.spends_eval (c := ⟨some event, now, b⟩) e.root [] h.of_budget .zero
  have hmost := Node.most_le (Nat.lt_of_lt_of_le Nat.zero_lt_one (Nat.le_max_left 1 L))
    (Nat.le_max_right 1 L) e.root
  rw [evaluate_eq]
  refine Nat.le_trans hspends ?_
  rw [Meter.zero, Nat.zero_add]
  exact hmost

/-- A filter exceeds the limit on visits only by visits. -/
theorem lt_visits_of_exceeded (h : e.root.IsTame) {b : Budget} {l : Nat}
    (hl : (e.evaluate event b now).1 = .error (.budgetExceeded l)) :
    b.maxVisits = some l ∧ l < (e.evaluate event b now).2.visits := by
  rw [evaluate_eq] at hl ⊢
  have hcause := Node.accountable_eval h ⟨some event, now, b⟩ [] .zero l
  cases hj : (Evaluation.judge (e.root.eval ⟨some event, now, b⟩ []) .zero).1 with
  | error f =>
    rw [hj] at hl
    obtain rfl : f = .budgetExceeded l := Except.error.inj hl
    exact hcause (Evaluation.error_of_judge hj).1
  | ok v =>
    rw [hj] at hl
    obtain rfl : v = .error (.budgetExceeded l) := hl
    exact nomatch (Evaluation.ok_of_judge hj).2 _ rfl

theorem not_exceeded (h : e.root.IsTame) {k : Nat}
    (hvisits : ∀ b, (e.evaluate event b now).2.visits ≤ k) {b : Budget}
    (hb : ∀ limit, b.maxVisits = some limit → k ≤ limit) (l : Nat) :
    (e.evaluate event b now).1 ≠ .error (.budgetExceeded l) := by
  intro hl
  obtain ⟨hlimit, hless⟩ := lt_visits_of_exceeded h hl
  have := hb l hlimit
  have := hvisits b
  omega

end Expression

/-- If no quantifier that the evaluation of a filter gets to looks at an array of more than `L`
elements, the filter makes at most as many visits as it has nodes, times the greater of `L` and one
for each of the predicates that stand one inside the other. It makes no more under any budget, so if
no host function reports an overrun, a limit of as many visits is never exceeded. A filter without
quantifiers makes at most as many visits as it has nodes, and never exceeds a limit of so many. -/
theorem visits_bounded (e : Expression) (event : Event) (now : Instant) :
    (∀ L, e.root.HasShortArrays ⟨some event, now, .unlimited⟩ L [] →
      e.visits event now ≤ e.root.count * max 1 L ^ e.root.nesting ∧
      (∀ b, (e.evaluate event b now).2.visits ≤ e.root.count * max 1 L ^ e.root.nesting) ∧
      (e.root.IsTame → ∀ b,
        (∀ limit, b.maxVisits = some limit →
          e.root.count * max 1 L ^ e.root.nesting ≤ limit) →
        ∀ l, (e.evaluate event b now).1 ≠ .error (.budgetExceeded l))) ∧
    (∀ n depth, e.root.Occurs n depth → depth ≤ e.root.nesting) ∧
    (∃ n, e.root.Occurs n e.root.nesting) ∧
    (e.root.IsQuantifierFree →
      e.visits event now ≤ e.root.count ∧
      (e.root.IsTame → ∀ b, (∀ limit, b.maxVisits = some limit → e.root.count ≤ limit) →
        ∀ l, (e.evaluate event b now).1 ≠ .error (.budgetExceeded l))) := by
  refine ⟨fun L h => ?_, fun n depth h => ?_, ?_, fun hfree => ?_⟩
  · have hvisits := Expression.visits_evaluate_le h
    exact ⟨hvisits .unlimited, hvisits, fun htame b hb => Expression.not_exceeded htame hvisits hb⟩
  · exact Nat.le_trans (Nat.le_add_right depth _) (Node.nesting_of_occurs h)
  · obtain ⟨m, hm⟩ := Node.exists_occurs_nesting e.root .root
    exact ⟨m, by rwa [Nat.zero_add] at hm⟩
  · have hvisits : ∀ b, (e.evaluate event b now).2.visits ≤ e.root.count := by
      intro b
      have hbound := Expression.visits_evaluate_le
        (hfree.hasShortArrays ⟨some event, now, .unlimited⟩ 0 []) b
      rwa [Node.nesting_eq_zero_iff.mpr hfree, Nat.pow_zero, Nat.mul_one] at hbound
    exact ⟨hvisits .unlimited, fun htame b hb => Expression.not_exceeded htame hvisits hb⟩

/-- `any([[false], [false, true]], v => any(v, w => w))` -/
def nestedArrays : Expression :=
  ⟨"", .quantifier .any
    (.const (.array [.array [.bool false], .array [.bool false, .bool true]])) 0
    (.quantifier .any (.field ⟨.binding 0, []⟩) 1 (.field ⟨.binding 1, []⟩))⟩

theorem hasShortArrays_nestedArrays (event : Event) (now : Instant) :
    nestedArrays.root.HasShortArrays ⟨some event, now, .unlimited⟩ 2 [] := by
  have hfield : ∀ f bindings,
      (Node.field f).HasShortArrays ⟨some event, now, .unlimited⟩ 2 bindings :=
    fun f bindings => .intro nofun nofun
  have hinner : ∀ items : List Value, items.length ≤ 2 →
      (Node.quantifier .any (.field ⟨.binding 0, []⟩) 1
        (.field ⟨.binding 1, []⟩)).HasShortArrays ⟨some event, now, .unlimited⟩ 2
          [.array items] := by
    intro items hlength
    refine .intro ?_ (List.forall_mem_cons.mpr ⟨hfield _ _, List.forall_mem_map.mpr fun w _ =>
      hfield _ _⟩)
    rintro _ _ _ _ others ⟨⟩ hothers
    obtain ⟨⟩ := hothers
    exact hlength
  refine .intro ?_ (List.forall_mem_cons.mpr ⟨.intro nofun nofun,
    List.forall_mem_map.mpr fun v hv => ?_⟩)
  · rintro _ _ _ _ items ⟨⟩ hitems
    obtain ⟨⟩ := hitems
    exact Nat.le_refl 2
  · have hv := List.take_subset _ _ hv
    simp only [List.mem_cons, List.not_mem_nil, or_false] at hv
    rcases hv with rfl | rfl
    · exact hinner _ (by decide)
    · exact hinner _ (by decide)

/-- A comparison, which is three nodes. -/
def threeNodes : Expression :=
  ⟨"subject = 'a'", .compare .eq (.field ⟨.subject, []⟩) (.const (.string "a"))⟩

/-- The nested quantifiers take nine visits to their five nodes, of at most twenty. The comparison
never exceeds a limit of three visits, also beside a limit on time. -/
theorem visits_bounded_nested :
    nestedArrays.root.count = 5 ∧ nestedArrays.root.nesting = 2 ∧
    nestedArrays.visits ⟨"e", "t", .empty, .null, true⟩ ⟨0, 0⟩ = 9 ∧
    nestedArrays.visits ⟨"e", "t", .empty, .null, true⟩ ⟨0, 0⟩ ≤
      nestedArrays.root.count * max 1 2 ^ nestedArrays.root.nesting ∧
    threeNodes.root.IsQuantifierFree ∧ threeNodes.root.IsTame ∧
    threeNodes.visits ⟨"e", "t", .empty, .null, true⟩ ⟨0, 0⟩ ≤ 3 ∧
    ∀ l, (threeNodes.evaluate ⟨"e", "t", .empty, .null, true⟩ ⟨some 3, some 1⟩ ⟨0, 0⟩).1 ≠
      .error (.budgetExceeded l) := by
  have hnested := (visits_bounded nestedArrays ⟨"e", "t", .empty, .null, true⟩ ⟨0, 0⟩).1 2
    (hasShortArrays_nestedArrays _ _)
  have hfree : threeNodes.root.IsQuantifierFree := Node.nesting_eq_zero_iff.mp rfl
  have htame : threeNodes.root.IsTame := List.forall_mem_nil _
  obtain ⟨hvisits, hnever⟩ :=
    (visits_bounded threeNodes ⟨"e", "t", .empty, .null, true⟩ ⟨0, 0⟩).2.2.2 hfree
  refine ⟨rfl, rfl, by decide +kernel, hnested.1, hfree, htame, hvisits,
    hnever htame ⟨some 3, some 1⟩ fun limit h => ?_⟩
  obtain ⟨⟩ := h
  exact Nat.le_refl 3

end Switchyard.Filter
