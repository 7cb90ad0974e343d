import Switchyard.Proofs.Filter.Lowering

/-!
# What the compiler checks

The compiler looks at the parts of an expression one after the other and refuses it for the first
one that is wrong. It leaves the operands of an `AND` or `OR` at the first one that is a constant
and decides it, so that it never looks at the operands behind.

* `Expr.IsSound`: the names, the function and the pattern of an expression, its parts apart, stand
  for something.
* `Expr.Occurs`, `Expr.Checked`: the sub-expressions, and those that the compiler looks at.
* `lowerOperands_eq_ok`: what becomes of operands.
* `isSound_of_checked`, `isSound_of_occurs`: what is looked at is sound, and that is everything if
  no operand that is refused stands beside one that decides.
-/

namespace Switchyard.Filter

variable {fs : HostFunctions} {scope names : List String} {isAnd : Bool} {e x : Expr}
  {es : List Expr} {kept : List Node} {res : Typed}

/-! ## Sub-expressions -/

/-- The expression of an argument, with the names that are bound in it. -/
def Arg.part (scope : List String) : Arg → List String × Expr
  | .expr e => (scope, e)
  | .lambda param body _ => (scope ++ [param], body)

/-- The parts of an expression, each with the names that are bound in it, outermost first. -/
def Expr.parts (scope : List String) : Expr → List (List String × Expr)
  | .literal .. | .path _ | .existing _ => []
  | .neg e _ | .not e _ | .like e _ _ _ | .matching e _ _ _ | .isNull e _ _ => [(scope, e)]
  | .and es | .or es => es.map fun e => (scope, e)
  | .compare _ l r _ => [(scope, l), (scope, r)]
  | .between e low high _ _ => [(scope, e), (scope, low), (scope, high)]
  | .within e set _ _ => (scope, e) :: set.map fun e => (scope, e)
  | .call _ args _ => args.map (Arg.part scope)

/-- `root.Occurs names scope e`: the expression `e` stands somewhere in `root`, in which `names` are
bound, and the names of `scope` are bound in it. -/
inductive Expr.Occurs (names : List String) (root : Expr) : List String → Expr → Prop where
  | root : Occurs names root names root
  | part {scope inner : List String} {e x : Expr} (h : Occurs names root scope e)
      (hx : (inner, x) ∈ e.parts scope) : Occurs names root inner x

/-! ## Operands -/

/-- The node of an operand, if it compiles and can be a truth value. -/
def Expr.operand? (fs : HostFunctions) (scope : List String) (e : Expr) : Option Node :=
  (e.lower fs scope).toOption.bind fun r => if r.2.mayBe [.bool] then some r.1 else none

/-- Whether an operand is a constant that decides an `AND` or `OR`. -/
def Expr.decides (fs : HostFunctions) (isAnd : Bool) (scope : List String) (e : Expr) : Bool :=
  (e.operand? fs scope).any fun n => n.constTruth? == some (!isAnd)

/-- The node of an operand that is kept, since it is no constant. -/
def Expr.varying? (fs : HostFunctions) (scope : List String) (e : Expr) : Option Node :=
  (e.operand? fs scope).filter fun n => n.constTruth?.isNone

/-- The operands up to the first one that decides. -/
def looked (fs : HostFunctions) (isAnd : Bool) (scope : List String) : List Expr → List Expr
  | [] => []
  | e :: es => if e.decides fs isAnd scope then [e] else e :: looked fs isAnd scope es

theorem operand?_eq_some {n : Node} : e.operand? fs scope = some n ↔
    ∃ t, e.lower fs scope = .ok (n, t) ∧ t.mayBe [.bool] = true := by
  unfold Expr.operand?
  rw [Option.bind_eq_some_iff]
  constructor
  · rintro ⟨⟨m, t⟩, hr, h⟩
    split at h
    · next ht =>
      obtain rfl := Option.some.inj h
      exact ⟨t, toOption_eq_some.mp hr, ht⟩
    · cases h
  · rintro ⟨t, he, ht⟩
    exact ⟨(n, t), toOption_eq_some.mpr he, if_pos ht⟩

theorem looked_subset : looked fs isAnd scope es ⊆ es := by
  induction es with
  | nil => exact List.Subset.refl _
  | cons e es ih =>
    unfold looked
    split
    · exact List.cons_subset_cons e (List.nil_subset es)
    · exact List.cons_subset_cons e ih

theorem looked_eq_self (h : ∀ e ∈ es, e.decides fs isAnd scope = false) :
    looked fs isAnd scope es = es := by
  induction es with
  | nil => rfl
  | cons e es ih =>
    obtain ⟨he, hes⟩ := List.forall_mem_cons.mp h
    rw [looked, he, ih hes]
    rfl

/-- The first of several operands compiles, and then the others or none of them do. -/
theorem lowerOperands_cons_of_operand {n : Node} (h : e.operand? fs scope = some n) :
    lowerOperands fs isAnd (e :: es) kept scope = .ok res ↔
      match n.constTruth? with
      | some b =>
        if b = isAnd then lowerOperands fs isAnd es kept scope = .ok res
        else (.const (.bool !isAnd), some .bool) = res
      | none => lowerOperands fs isAnd es (kept ++ [n]) scope = .ok res := by
  obtain ⟨t, he, ht⟩ := operand?_eq_some.mp h
  rw [lowerOperands_cons]
  constructor
  · rintro ⟨m, u, hm, -, hrest⟩
    rw [he] at hm
    cases hm
    exact hrest
  · exact fun hrest => ⟨n, t, he, ht, hrest⟩

/-- Operands compile if those that are looked at do. They come to the truth value of one that
decides, or else to what is kept of them. -/
theorem lowerOperands_eq_ok : lowerOperands fs isAnd es kept scope = .ok res ↔
    (∀ e ∈ looked fs isAnd scope es, (e.operand? fs scope).isSome = true) ∧
      (if es.any (Expr.decides fs isAnd scope) then .const (.bool !isAnd)
        else connective isAnd (kept ++ es.filterMap (Expr.varying? fs scope)), some .bool) =
        res := by
  induction es generalizing kept with
  | nil => simp [lowerOperands_nil, looked]
  | cons e es ih =>
    rw [looked, List.any_cons, List.filterMap_cons]
    cases ho : e.operand? fs scope with
    | none =>
      have hdecides : e.decides fs isAnd scope = false := by rw [Expr.decides, ho]; rfl
      rw [hdecides]
      refine iff_of_false (fun h => ?_) fun h => ?_
      · obtain ⟨n, t, he, ht, -⟩ := lowerOperands_cons.mp h
        rw [operand?_eq_some.mpr ⟨t, he, ht⟩] at ho
        cases ho
      · have hsome := h.1 e List.mem_cons_self
        rw [ho] at hsome
        cases hsome
    | some n =>
      have hsome : (e.operand? fs scope).isSome = true := by rw [ho]; rfl
      rw [lowerOperands_cons_of_operand ho]
      cases hn : n.constTruth? with
      | none =>
        have hdecides : e.decides fs isAnd scope = false := by simp [Expr.decides, ho, hn]
        have hvarying : e.varying? fs scope = some n := by simp [Expr.varying?, ho, hn]
        rw [hdecides, hvarying]
        simp [ih, hsome]
      | some b =>
        have hvarying : e.varying? fs scope = none := by simp [Expr.varying?, ho, hn]
        rw [hvarying]
        -- A constant that decides nothing is dropped; one that decides ends the operands, and
        -- whether those behind it compile no longer matters.
        by_cases hb : b = isAnd
        · subst hb
          have hdecides : e.decides fs b scope = false := by
            cases b <;> simp [Expr.decides, ho, hn]
          rw [hdecides]
          simp [ih, hsome]
        · have hdecides : e.decides fs isAnd scope = true := by
            cases b <;> cases isAnd <;> simp [Expr.decides, ho, hn] at hb ⊢
          rw [hdecides]
          simp [hsome, hb]

/-! ## What is looked at -/

/-- A function of a name that takes so many arguments. -/
def IsCallable (fs : HostFunctions) (name : String) (count : Nat) : Prop :=
  (∃ kind, quantifierOf? name count = some kind ∧ count = 2) ∨
    quantifierOf? name count = none ∧
      ((∃ f, Builtin.ofName? name = some f ∧ f.takes count = true) ∨
        Builtin.ofName? name = none ∧ ∃ f, fs.find? name = some f ∧ count = f.arity)

/-- The names, the function and the pattern of an expression stand for something. This says nothing
about its parts. -/
def Expr.IsSound (fs : HostFunctions) (scope : List String) : Expr → Prop
  | .path p | .existing p => p.root ∈ scope ∨ p.root ∈ ["payload", "headers", "subject"]
  | .matching _ pattern _ _ => (TextPattern.compile? fs.patterns pattern).isSome = true
  | .call name args _ => IsCallable fs name args.length
  | _ => True

/-- The parts of an expression that the compiler looks at. -/
def Expr.visited (fs : HostFunctions) (scope : List String) : Expr → List (List String × Expr)
  | .and es => (looked fs true scope es).map fun e => (scope, e)
  | .or es => (looked fs false scope es).map fun e => (scope, e)
  | e => e.parts scope

theorem Expr.visited_subset : e.visited fs scope ⊆ e.parts scope := by
  cases e with
  | and es | or es => exact List.map_subset _ looked_subset
  | _ => exact List.Subset.refl _

/-- `root.Checked fs names scope e`: the compiler looks at the expression `e`, which stands in
`root` as `Expr.Occurs` says. -/
inductive Expr.Checked (fs : HostFunctions) (names : List String) (root : Expr) :
    List String → Expr → Prop where
  | root : Checked fs names root names root
  | part {scope inner : List String} {e x : Expr} (h : Checked fs names root scope e)
      (hx : (inner, x) ∈ e.visited fs scope) : Checked fs names root inner x

theorem mem_of_slot? {name : String} {slot : Nat} (h : slot? scope name = some slot) :
    name ∈ scope := List.mem_of_getElem? (slot?_eq_some.mp h).1

theorem isKnown_of_resolve {p : Path} {f : Field} (h : resolve scope p = .ok f) :
    p.root ∈ scope ∨ p.root ∈ ["payload", "headers", "subject"] := by
  unfold resolve at h
  split at h
  · next slot hs => exact .inl (mem_of_slot? hs)
  · split at h
    · next hroot => exact .inr (by rw [hroot]; decide)
    · split at h
      · next hroot => exact .inr (by rw [hroot]; decide)
      · split at h
        · next hroot => exact .inr (by rw [hroot]; decide)
        · cases h

theorem length_of_lowerArgs {name : String} {args : List Arg} {ts : List Typed}
    (h : lowerArgs fs name args scope = .ok ts) : ts.length = args.length := by
  induction args generalizing ts with
  | nil =>
    obtain rfl := Except.ok.inj h
    rfl
  | cons a args ih =>
    cases a with
    | expr e =>
      obtain ⟨t, us, -, hus, rfl⟩ := lowerArgs_expr.mp h
      rw [List.length_cons, List.length_cons, ih hus]
    | lambda param body pos => exact absurd h Compiled.fail_ne_ok

/-- What compiles stands for something. -/
theorem isSound_of_lower (h : e.lower fs scope = .ok res) : e.IsSound fs scope := by
  cases e with
  | path p =>
    obtain ⟨f, hf, -⟩ := lower_path.mp h
    exact isKnown_of_resolve hf
  | existing p =>
    obtain ⟨f, hf, -⟩ := lower_existing.mp h
    exact isKnown_of_resolve hf
  | matching e pattern negated pos =>
    obtain ⟨n, t, p, -, -, hp, -⟩ := lower_matching.mp h
    exact Option.isSome_of_eq_some hp
  | call name args pos =>
    cases hk : quantifierOf? name args.length with
    | some kind =>
      obtain ⟨collection, param, body, at_, _, _, _, _, rfl, -⟩ := (lower_quantifier hk).mp h
      exact .inl ⟨kind, hk, rfl⟩
    | none =>
      obtain ⟨ts, hts, hn⟩ := (lower_call hk).mp h
      have hlen := length_of_lowerArgs hts
      refine .inr ⟨hk, ?_⟩
      rcases callNode_eq_ok.mp hn with ⟨f, hf, htakes, -⟩ | ⟨hnone, f, hf, harity, -⟩
      · exact .inl ⟨f, hf, hlen ▸ htakes⟩
      · exact .inr ⟨hnone, f, hf, hlen ▸ harity⟩
  | literal | neg | not | and | or | compare | like | between | within | isNull => exact trivial

theorem lower_of_operand? (h : (e.operand? fs scope).isSome = true) :
    ∃ res, e.lower fs scope = .ok res := by
  obtain ⟨n, hn⟩ := Option.isSome_iff_exists.mp h
  obtain ⟨t, he, -⟩ := operand?_eq_some.mp hn
  exact ⟨_, he⟩

theorem lower_of_mem_set {set : List Expr} {vs : List Value}
    (h : lowerSet fs set scope = .ok vs) : ∀ e ∈ set, ∃ res, e.lower fs scope = .ok res := by
  induction set generalizing vs with
  | nil => exact List.forall_mem_nil _
  | cons e set ih =>
    obtain ⟨v, t, ws, he, hws, -⟩ := lowerSet_cons.mp h
    exact List.forall_mem_cons.mpr ⟨⟨_, he⟩, ih hws⟩

theorem lower_of_mem_args {name : String} {args : List Arg} {ts : List Typed}
    (h : lowerArgs fs name args scope = .ok ts) :
    ∀ a ∈ args, ∃ e res, a = .expr e ∧ e.lower fs scope = .ok res := by
  induction args generalizing ts with
  | nil => exact List.forall_mem_nil _
  | cons a args ih =>
    cases a with
    | expr e =>
      obtain ⟨t, us, he, hus, -⟩ := lowerArgs_expr.mp h
      exact List.forall_mem_cons.mpr ⟨⟨e, t, rfl, he⟩, ih hus⟩
    | lambda param body pos => exact absurd h Compiled.fail_ne_ok

/-- The parts of what compiles that are looked at compile. -/
theorem lower_of_mem_visited (h : e.lower fs scope = .ok res) :
    ∀ p ∈ e.visited fs scope, ∃ r, p.2.lower fs p.1 = .ok r := by
  cases e with
  | literal | path | existing => exact List.forall_mem_nil _
  | neg e pos =>
    obtain ⟨n, t, he, -⟩ := lower_neg.mp h
    exact List.forall_mem_singleton.mpr ⟨_, he⟩
  | not e pos =>
    obtain ⟨n, t, he, -⟩ := lower_not.mp h
    exact List.forall_mem_singleton.mpr ⟨_, he⟩
  | like e pattern negated pos =>
    obtain ⟨n, t, he, -⟩ := lower_like.mp h
    exact List.forall_mem_singleton.mpr ⟨_, he⟩
  | matching e pattern negated pos =>
    obtain ⟨n, t, p, he, -⟩ := lower_matching.mp h
    exact List.forall_mem_singleton.mpr ⟨_, he⟩
  | isNull e negated pos =>
    obtain ⟨n, t, he, -⟩ := lower_isNull.mp h
    exact List.forall_mem_singleton.mpr ⟨_, he⟩
  -- Only the operands up to one that decides are looked at, so only they are known to compile.
  | and es | or es =>
    obtain ⟨hlooked, -⟩ := lowerOperands_eq_ok.mp h
    exact List.forall_mem_map.mpr fun e he => lower_of_operand? (hlooked e he)
  | compare op l r pos =>
    obtain ⟨a, s, b, t, hl, hr, -⟩ := lower_compare.mp h
    exact List.forall_mem_cons.mpr ⟨⟨_, hl⟩, List.forall_mem_singleton.mpr ⟨_, hr⟩⟩
  | between e low high negated pos =>
    obtain ⟨n, t, a, s, b, u, he, hl, hh, -⟩ := lower_between.mp h
    exact List.forall_mem_cons.mpr
      ⟨⟨_, he⟩, List.forall_mem_cons.mpr ⟨⟨_, hl⟩, List.forall_mem_singleton.mpr ⟨_, hh⟩⟩⟩
  | within e set negated pos =>
    obtain ⟨n, t, vs, he, hset, -⟩ := lower_within.mp h
    exact List.forall_mem_cons.mpr ⟨⟨_, he⟩, List.forall_mem_map.mpr (lower_of_mem_set hset)⟩
  | call name args pos =>
    cases hk : quantifierOf? name args.length with
    | some kind =>
      obtain ⟨collection, param, body, at_, c, t, p, s, rfl, hc, -, hp, -⟩ :=
        (lower_quantifier hk).mp h
      exact List.forall_mem_cons.mpr ⟨⟨_, hc⟩, List.forall_mem_singleton.mpr ⟨_, hp⟩⟩
    | none =>
      obtain ⟨ts, hts, -⟩ := (lower_call hk).mp h
      refine List.forall_mem_map.mpr fun a ha => ?_
      obtain ⟨e, r, rfl, he⟩ := lower_of_mem_args hts a ha
      exact ⟨r, he⟩

/-- Everything in an expression that the compiler looks at compiles, if the expression does. -/
theorem lower_of_checked (h : e.lower fs names = .ok res) (hx : e.Checked fs names scope x) :
    ∃ r, x.lower fs scope = .ok r := by
  induction hx with
  | root => exact ⟨res, h⟩
  | part _ hm ih =>
    obtain ⟨r, hr⟩ := ih
    exact lower_of_mem_visited hr _ hm

theorem isSound_of_checked (h : e.lower fs names = .ok res) (hx : e.Checked fs names scope x) :
    x.IsSound fs scope := by
  obtain ⟨r, hr⟩ := lower_of_checked h hx
  exact isSound_of_lower hr

/-! ## Operands that are masked -/

/-- The operands of an expression that is an `AND` or `OR`, and which of them it is. -/
def Expr.operands? : Expr → Option (Bool × List Expr)
  | .and es => some (true, es)
  | .or es => some (false, es)
  | _ => none

theorem Expr.parts_of_operands (h : e.operands? = some (isAnd, es)) :
    e.parts scope = es.map fun e => (scope, e) := by
  cases e <;> cases h <;> rfl

/-- One of several operands decides and another is refused. -/
def Masking (fs : HostFunctions) (isAnd : Bool) (scope : List String) (es : List Expr) : Prop :=
  (∃ e ∈ es, e.decides fs isAnd scope = true) ∧ ∃ e ∈ es, (e.operand? fs scope).isSome = false

instance (fs : HostFunctions) (isAnd : Bool) (scope : List String) (es : List Expr) :
    Decidable (Masking fs isAnd scope es) := inferInstanceAs (Decidable (_ ∧ _))

/-- No `AND` or `OR` in an expression has an operand that decides beside one that is refused. -/
def Expr.Unmasked (fs : HostFunctions) (names : List String) (root : Expr) : Prop :=
  ∀ scope e isAnd es, root.Occurs names scope e → e.operands? = some (isAnd, es) →
    ¬Masking fs isAnd scope es

/-- If no operand masks another, those that are looked at compile just if all do. -/
theorem forall_looked_iff (h : ¬Masking fs isAnd scope es) :
    (∀ e ∈ looked fs isAnd scope es, (e.operand? fs scope).isSome = true) ↔
      ∀ e ∈ es, (e.operand? fs scope).isSome = true := by
  refine ⟨fun hlooked => ?_, fun hall e he => hall e (looked_subset he)⟩
  by_cases hd : ∃ e ∈ es, e.decides fs isAnd scope = true
  · exact fun e he => eq_true_of_ne_false fun hnone => h ⟨hd, e, he, hnone⟩
  · rwa [looked_eq_self fun e he => Bool.eq_false_iff.mpr fun hde => hd ⟨e, he, hde⟩] at hlooked

theorem lower_of_mem_parts (hu : e.Unmasked fs scope) (h : e.lower fs scope = .ok res) :
    ∀ p ∈ e.parts scope, ∃ r, p.2.lower fs p.1 = .ok r := by
  cases e with
  | and es | or es =>
    obtain ⟨hlooked, -⟩ := lowerOperands_eq_ok.mp h
    have hall := (forall_looked_iff (hu _ _ _ _ .root rfl)).mp hlooked
    exact List.forall_mem_map.mpr fun e he => lower_of_operand? (hall e he)
  | literal | path | existing | neg | not | like | matching | isNull | compare | between | within
  | call => exact lower_of_mem_visited h

theorem Expr.Occurs.trans {inner : List String} {y : Expr} (h : e.Occurs names scope x)
    (hy : x.Occurs scope inner y) : e.Occurs names inner y := by
  induction hy with
  | root => exact h
  | part _ hm ih => exact ih.part hm

theorem Expr.Unmasked.of_occurs (hu : e.Unmasked fs names) (h : e.Occurs names scope x) :
    x.Unmasked fs scope :=
  fun inner y isAnd es hy hes => hu inner y isAnd es (h.trans hy) hes

/-- If no operand masks another, every expression in one that compiles does, and stands for
something. -/
theorem isSound_of_occurs (hu : e.Unmasked fs names) (h : e.lower fs names = .ok res)
    (hx : e.Occurs names scope x) : x.IsSound fs scope := by
  have hlower : ∃ r, x.lower fs scope = .ok r := by
    induction hx with
    | root => exact ⟨res, h⟩
    | part ho hm ih =>
      obtain ⟨r, hr⟩ := ih
      exact lower_of_mem_parts (hu.of_occurs ho) hr _ hm
  obtain ⟨r, hr⟩ := hlower
  exact isSound_of_lower hr

end Switchyard.Filter
