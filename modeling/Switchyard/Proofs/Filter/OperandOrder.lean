import Switchyard.Proofs.Filter.Outcome

/-!
# The order of operands

The operands of `AND` and `OR` may stand in any order, and so may the elements that a quantifier
looks at: whether a filter has a value, and which, stays the same. Which of several errors is
reported does depend on the order.

* `Node.Reordered a b`: the trees differ only in the order of operands of `AND` and `OR`, at any
  depth.
* `Node.toOption_outcome_of_reordered`: such trees have the same value, or none.
* `evaluate_order_irrelevant`: the same for the evaluation of filters and for the elements of a
  collection.
-/

namespace Switchyard.Filter

namespace Node

mutual

/-- The second tree is the first one with the operands of `AND` and `OR` in another order, at any
depth. -/
inductive Reordered : Node → Node → Prop where
  | const (v : Value) : Reordered (.const v) (.const v)
  | field (f : Field) : Reordered (.field f) (.field f)
  | existing (f : Field) : Reordered (.existing f) (.existing f)
  | neg {a b : Node} (h : Reordered a b) : Reordered (.neg a) (.neg b)
  | not {a b : Node} (h : Reordered a b) : Reordered (.not a) (.not b)
  | and {xs ys zs : List Node} (h : ReorderedAll xs ys) (hp : ys.Perm zs) :
      Reordered (.and xs) (.and zs)
  | or {xs ys zs : List Node} (h : ReorderedAll xs ys) (hp : ys.Perm zs) :
      Reordered (.or xs) (.or zs)
  | compare (op : CompareOp) {a b l r : Node} (hl : Reordered a l) (hr : Reordered b r) :
      Reordered (.compare op a b) (.compare op l r)
  | like {a b : Node} (h : Reordered a b) (pattern : Glob) (negated : Bool) :
      Reordered (.like a pattern negated) (.like b pattern negated)
  | matching {a b : Node} (h : Reordered a b) (pattern : TextPattern) (negated : Bool) :
      Reordered (.matching a pattern negated) (.matching b pattern negated)
  | between {a b x y u v : Node} (h : Reordered a b) (hl : Reordered x y) (hh : Reordered u v)
      (negated : Bool) : Reordered (.between a x u negated) (.between b y v negated)
  | within {a b : Node} (h : Reordered a b) (set : List Value) (negated : Bool) :
      Reordered (.within a set negated) (.within b set negated)
  | isNull {a b : Node} (h : Reordered a b) (negated : Bool) :
      Reordered (.isNull a negated) (.isNull b negated)
  | call (f : Builtin) {xs ys : List Node} (h : ReorderedAll xs ys) :
      Reordered (.call f xs) (.call f ys)
  | host (f : HostFunction) {xs ys : List Node} (h : ReorderedAll xs ys) :
      Reordered (.host f xs) (.host f ys)
  | quantifier (kind : Quantifier) (slot : Nat) {a b p q : Node} (hc : Reordered a b)
      (hp : Reordered p q) : Reordered (.quantifier kind a slot p) (.quantifier kind b slot q)

/-- Each node of the second list is the one at its place in the first, reordered. -/
inductive ReorderedAll : List Node → List Node → Prop where
  | nil : ReorderedAll [] []
  | cons {a b : Node} {xs ys : List Node} (h : Reordered a b) (hs : ReorderedAll xs ys) :
      ReorderedAll (a :: xs) (b :: ys)

end

/-! ## Host functions -/

mutual

theorem hosts_perm_of_reordered : ∀ {a b : Node}, Reordered a b → a.hosts.Perm b.hosts
  | _, _, .const _ | _, _, .field _ | _, _, .existing _ => .nil
  | _, _, .neg h | _, _, .not h | _, _, .like h _ _ | _, _, .matching h _ _
  | _, _, .within h _ _ | _, _, .isNull h _ => by
    simpa only [hosts] using hosts_perm_of_reordered h
  | _, _, .and h hp | _, _, .or h hp => by
    refine (hostsAll_perm_of_reordered h).trans ?_
    simp only [hosts, hostsAll_eq_flatMap]
    exact hp.flatMap_right _
  | _, _, .compare _ hl hr =>
    (hosts_perm_of_reordered hl).append (hosts_perm_of_reordered hr)
  | _, _, .between h hl hh _ =>
    ((hosts_perm_of_reordered h).append (hosts_perm_of_reordered hl)).append
      (hosts_perm_of_reordered hh)
  | _, _, .call _ h => hostsAll_perm_of_reordered h
  | _, _, .host f h => (hostsAll_perm_of_reordered h).cons f
  | _, _, .quantifier _ _ hc hp =>
    (hosts_perm_of_reordered hc).append (hosts_perm_of_reordered hp)

theorem hostsAll_perm_of_reordered :
    ∀ {xs ys : List Node}, ReorderedAll xs ys → (hostsAll xs).Perm (hostsAll ys)
  | _, _, .nil => .nil
  | _, _, .cons h hs => (hosts_perm_of_reordered h).append (hostsAll_perm_of_reordered hs)

end

theorem IsTame.of_reordered {a b : Node} (ha : a.IsTame) (h : Reordered a b) : b.IsTame :=
  fun f hf => ha f ((hosts_perm_of_reordered h).mem_iff.mpr hf)

/-! ## Values -/

variable {c : Context}

theorem toOption_connect_of_perm {xs ys : List Node} (hp : xs.Perm ys) (decisive : Bool)
    (bindings : List Value) :
    kleene decisive ((verdicts c xs bindings).map Except.toOption) =
      kleene decisive ((verdicts c ys bindings).map Except.toOption) := by
  simp only [verdicts_eq_map]
  exact kleene_perm ((hp.map _).map _) decisive

mutual

theorem toOption_outcome_of_reordered : ∀ {a b : Node}, Reordered a b → ∀ bindings : List Value,
    (a.outcome c bindings).toOption = (b.outcome c bindings).toOption
  | _, _, .const _, _ | _, _, .field _, _ | _, _, .existing _, _ => rfl
  | _, _, .neg h, bindings | _, _, .not h, bindings | _, _, .like h _ _, bindings
  | _, _, .matching h _ _, bindings | _, _, .within h _ _, bindings
  | _, _, .isNull h _, bindings => by
    simp only [outcome, toOption_bind, toOption_map, toOption_outcome_of_reordered h bindings]
  | _, _, .and h hp, bindings | _, _, .or h hp, bindings => by
    rw [outcome, outcome, toOption_map, toOption_map, toOption_connect, toOption_connect,
      toOption_verdicts_of_reordered h bindings, toOption_connect_of_perm hp]
  | _, _, .compare _ hl hr, bindings => by
    simp only [outcome, toOption_bind, toOption_outcome_of_reordered hl bindings,
      toOption_outcome_of_reordered hr bindings]
  | _, _, .between h hl hh _, bindings => by
    simp only [outcome, toOption_bind, toOption_outcome_of_reordered h bindings,
      toOption_outcome_of_reordered hl bindings, toOption_outcome_of_reordered hh bindings]
  | _, _, .call _ h, bindings | _, _, .host _ h, bindings => by
    simp only [outcome, toOption_bind, toOption_outcomes_of_reordered h bindings]
  | _, _, .quantifier kind _ hc hp, bindings => by
    simp only [outcome, toOption_bind, toOption_outcome_of_reordered hc bindings,
      toOption_quantifyItems, fun item => toOption_outcome_of_reordered hp (bindings ++ [item])]

theorem toOption_outcomes_of_reordered :
    ∀ {xs ys : List Node}, ReorderedAll xs ys → ∀ bindings : List Value,
      (outcomes c xs bindings).toOption = (outcomes c ys bindings).toOption
  | _, _, .nil, _ => rfl
  | _, _, .cons h hs, bindings => by
    simp only [outcomes, toOption_bind, toOption_map, toOption_outcome_of_reordered h bindings,
      toOption_outcomes_of_reordered hs bindings]

theorem toOption_verdicts_of_reordered :
    ∀ {xs ys : List Node}, ReorderedAll xs ys → ∀ bindings : List Value,
      (verdicts c xs bindings).map Except.toOption = (verdicts c ys bindings).map Except.toOption
  | _, _, .nil, _ => rfl
  | _, _, .cons h hs, bindings => by
    simp only [verdicts, List.map_cons, toOption_bind, toOption_outcome_of_reordered h bindings,
      toOption_verdicts_of_reordered hs bindings]

end

/-- Elements in another order give a quantifier the same value, or none. -/
theorem toOption_quantifier_of_perm {collection₁ collection₂ : Node} {bindings xs ys : List Value}
    (h₁ : collection₁.outcome c bindings = .ok (.array xs))
    (h₂ : collection₂.outcome c bindings = .ok (.array ys)) (hp : xs.Perm ys) (kind : Quantifier)
    (slot : Nat) (predicate : Node) :
    ((Node.quantifier kind collection₁ slot predicate).outcome c bindings).toOption =
      ((Node.quantifier kind collection₂ slot predicate).outcome c bindings).toOption := by
  simp only [outcome, toOption_bind, h₁, h₂, toOption_quantifyItems]
  exact kleeneOver_perm (hp.map _) kind

end Node

/-- Without limits, the order of the operands of `AND` and `OR` changes neither whether a filter has
a truth value nor which one, and the order of the elements of a collection neither whether a
quantifier over it has a value nor which one. -/
theorem evaluate_order_irrelevant :
    (∀ (a b : Expression) (event : Event) (now : Instant),
      a.root.Reordered b.root → a.root.IsTame →
        (a.evaluate event .unlimited now).1.toOption =
          (b.evaluate event .unlimited now).1.toOption) ∧
    (∀ (event : Option Event) (now : Instant) (bindings : List Value) (kind : Quantifier)
      (slot : Nat) (collection₁ collection₂ predicate : Node) (xs ys : List Value)
      (m₁ m₂ m m' : Meter),
      collection₁.IsTame → collection₂.IsTame → predicate.IsTame →
      (collection₁.eval ⟨event, now, .unlimited⟩ bindings m₁).1 = .ok (.array xs) →
      (collection₂.eval ⟨event, now, .unlimited⟩ bindings m₂).1 = .ok (.array ys) →
      xs.Perm ys →
        ((Node.quantifier kind collection₁ slot predicate).eval ⟨event, now, .unlimited⟩ bindings
            m).1.toOption =
          ((Node.quantifier kind collection₂ slot predicate).eval ⟨event, now, .unlimited⟩ bindings
            m').1.toOption) := by
  refine ⟨fun a b event now h ha => ?_, ?_⟩
  · rw [Expression.evaluate_unlimited ha, Expression.evaluate_unlimited (ha.of_reordered h),
      Node.verdict, Node.verdict, toOption_bind, toOption_bind,
      Node.toOption_outcome_of_reordered h]
  · intro event now bindings kind slot collection₁ collection₂ predicate xs ys m₁ m₂ m m'
      hc₁ hc₂ hp h₁ h₂ hperm
    -- Without limits an evaluation ends with the outcome of the node, whatever the meter says.
    have hs : ∀ n : Node, n.IsTame → ∀ m,
        (n.eval ⟨event, now, .unlimited⟩ bindings m).1 =
          n.outcome ⟨event, now, .unlimited⟩ bindings :=
      fun n hn => (Node.settles_eval (c := ⟨event, now, .unlimited⟩) n hn bindings).exact
    have hq : ∀ collection : Node, collection.IsTame →
        (Node.quantifier kind collection slot predicate).IsTame :=
      fun _ h => List.forall_mem_append.mpr ⟨h, hp⟩
    rw [hs _ hc₁] at h₁
    rw [hs _ hc₂] at h₂
    rw [hs _ (hq _ hc₁), hs _ (hq _ hc₂)]
    exact Node.toOption_quantifier_of_perm h₁ h₂ hperm kind slot predicate

/-- A host function that says yes to everything. -/
def approval : HostFunction := .constantly "approved" (.bool true)

/-- `approved() AND 'x' < true AND false`, whose second operand is unknown. -/
def undecidedFirst : Node :=
  .and [.host approval [], .compare .lt (.const (.string "x")) (.const (.bool true)),
    .const (.bool false)]

/-- `false AND approved() AND 'x' < true`. -/
def decidedFirst : Node :=
  .and [.const (.bool false), .host approval [],
    .compare .lt (.const (.string "x")) (.const (.bool true))]

/-- The first item is true and the second is no truth value. -/
def mixedItems : List Value := [.bool true, .string "x"]

theorem evaluate_swapped :
    (Node.not undecidedFirst).Reordered (.not decidedFirst) ∧ (Node.not undecidedFirst).IsTame ∧
    ((Expression.mk "" (.not undecidedFirst)).evaluate ⟨"e", "t", .empty, .null, true⟩ .unlimited
        ⟨0, 0⟩).1.toOption =
      ((Expression.mk "" (.not decidedFirst)).evaluate ⟨"e", "t", .empty, .null, true⟩ .unlimited
        ⟨0, 0⟩).1.toOption ∧
    ((Expression.mk "" (.not decidedFirst)).evaluate ⟨"e", "t", .empty, .null, true⟩ .unlimited
        ⟨0, 0⟩).1.toOption = some true ∧
    ((Node.const (.array mixedItems)).eval ⟨none, ⟨0, 0⟩, .unlimited⟩ [] .zero).1 =
      .ok (.array mixedItems) ∧
    mixedItems.Perm mixedItems.reverse ∧
    ((Node.quantifier .any (.const (.array mixedItems)) 0 (.field ⟨.binding 0, []⟩)).eval
        ⟨none, ⟨0, 0⟩, .unlimited⟩ [] .zero).1.toOption =
      ((Node.quantifier .any (.const (.array mixedItems.reverse)) 0
        (.field ⟨.binding 0, []⟩)).eval ⟨none, ⟨0, 0⟩, .unlimited⟩ [] .zero).1.toOption := by
  have hr : (Node.not undecidedFirst).Reordered (.not decidedFirst) :=
    .not (.and (.cons (.host _ .nil) (.cons (.compare _ (.const _) (.const _))
      (.cons (.const _) .nil))) (@List.perm_append_comm _ [_, _] [_]))
  have ht : (Node.not undecidedFirst).IsTame := by
    intro f hf
    obtain rfl := List.mem_singleton.mp hf
    exact HostFunction.neverOverruns_constantly _ _
  have hp : mixedItems.Perm mixedItems.reverse := (List.reverse_perm mixedItems).symm
  exact ⟨hr, ht, evaluate_order_irrelevant.1 ⟨"", _⟩ ⟨"", _⟩ _ _ hr ht, rfl, rfl, hp,
    evaluate_order_irrelevant.2 none ⟨0, 0⟩ [] .any 0 (.const _) (.const _)
      (.field ⟨.binding 0, []⟩) _ _ .zero .zero .zero .zero nofun nofun nofun rfl rfl hp⟩

end Switchyard.Filter
