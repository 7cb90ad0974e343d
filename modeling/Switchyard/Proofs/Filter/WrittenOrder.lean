import Mathlib.Data.List.Forall2
import Switchyard.Proofs.Filter.StaticChecks

/-!
# The order in which operands are written

Two expressions that differ only in the order of the operands of `AND` and `OR`, and in where things
stand in the text, come to nodes that the compiler cannot tell apart, or to none. The exception are
operands that are refused beside one that decides: whether the compiler comes to look at them
depends on the order.

* `Agree`: a relation between results of compiling, with a lemma for each way in which they are put
  together.
* `Expr.Reordered`, `agree_of_reordered`: expressions in another order.
* `masking_iff`: the order of operands matters just if one of them masks another.
* `static_checks`: what the compiler checks in any text, and when the order matters.
-/

namespace Switchyard.Filter

open Compiled

/-! ## Results that agree -/

/-- Both results are errors, or both are values that are related. -/
inductive Agree {α β : Type} (R : α → β → Prop) : Compiled α → Compiled β → Prop where
  | ok {a : α} {b : β} (h : R a b) : Agree R (.ok a) (.ok b)
  | error {e e' : CompileError} : Agree R (.error e) (.error e')

namespace Agree

variable {α β α' β' : Type} {R : α → β → Prop} {S : α' → β' → Prop} {x : Compiled α}
  {y : Compiled β}

theorem bind {f : α → Compiled α'} {g : β → Compiled β'} (h : Agree R x y)
    (hf : ∀ a b, R a b → Agree S (f a) (g b)) : Agree S (x >>= f) (y >>= g) := by
  cases h with
  | ok h => exact hf _ _ h
  | error => exact .error

theorem exists_ok_iff (h : Agree R x y) : (∃ a, x = .ok a) ↔ ∃ b, y = .ok b := by
  cases h with
  | ok h => exact iff_of_true ⟨_, rfl⟩ ⟨_, rfl⟩
  | error => exact iff_of_false nofun nofun

theorem of_ok (hx : ∀ a, x = .ok a → ∃ b, y = .ok b ∧ R a b)
    (hy : ∀ b, y = .ok b → ∃ a, x = .ok a) : Agree R x y := by
  cases x with
  | ok a =>
    obtain ⟨b, rfl, h⟩ := hx a rfl
    exact .ok h
  | error e =>
    cases y with
    | ok b =>
      obtain ⟨a, ha⟩ := hy b rfl
      cases ha
    | error e' => exact .error

/-- A check of the same thing. -/
theorem require {holds holds' : Bool} (h : holds = holds') (pos pos' : Nat)
    (fault fault' : CompileFault) :
    Agree (fun _ _ => True) (require holds pos fault) (require holds' pos' fault') := by
  subst h
  cases holds with
  | true => exact .ok trivial
  | false => exact .error

end Agree

/-- Nodes that the compiler cannot tell apart: of the same type, and the same constant if one of
them is constant. -/
structure Alike (a b : Typed) : Prop where
  type : a.2 = b.2
  const : a.1.const? = b.1.const?

section Nodes

variable {n m : Node} {pos pos' : Nat}

theorem eq_of_isConst (h : n.const? = m.const?) (hn : n.isConst = true) : n = m := by
  obtain ⟨v, hv⟩ := Option.isSome_iff_exists.mp hn
  rw [const?_eq_some.mp hv, const?_eq_some.mp (h.symm.trans hv)]

theorem isConst_eq (h : n.const? = m.const?) : n.isConst = m.isConst := by
  rw [Node.isConst, h]
  rfl

theorem constTruth?_eq (h : n.const? = m.const?) : n.constTruth? = m.constTruth? := by
  cases hn : n.isConst with
  | true => rw [eq_of_isConst h hn]
  | false =>
    have hnone : ∀ k : Node, k.isConst = false → k.constTruth? = none := by
      intro k hk
      cases k with
      | const v => cases hk
      | _ => rfl
    rw [hnone n hn, hnone m ((isConst_eq h).symm.trans hn)]

/-- Folding nodes over inputs that cannot be told apart. -/
theorem agree_fold (hn : n.const? = none) (hm : m.const? = none) (hk : n.kindType = m.kindType)
    (hf : n.isFoldable = m.isFoldable) (heq : n.isFoldable = true → n = m) :
    Agree Alike (fold n pos) (fold m pos') := by
  cases hfold : n.isFoldable with
  | true =>
    obtain rfl := heq hfold
    unfold fold
    rw [if_pos hfold, if_pos hfold]
    cases n.foldedValue with
    | ok v => exact .ok ⟨rfl, rfl⟩
    | error e => exact .error
  | false =>
    unfold fold
    rw [← hf, hfold]
    exact .ok ⟨hk, hn.trans hm.symm⟩

theorem agree_fold_unary (wrap : Node → Node) (hconst : ∀ k, (wrap k).const? = none)
    (hkind : ∀ k l, (wrap k).kindType = (wrap l).kindType)
    (hfold : ∀ k, (wrap k).isFoldable = k.isConst) (h : n.const? = m.const?) :
    Agree Alike (fold (wrap n) pos) (fold (wrap m) pos') := by
  refine agree_fold (hconst n) (hconst m) (hkind n m) ?_ fun hn => ?_
  · rw [hfold, hfold, isConst_eq h]
  · rw [eq_of_isConst h (hfold n ▸ hn)]

end Nodes

/-! ## Expressions in another order -/

namespace Expr

mutual

/-- The second expression is the first one with the operands of `AND` and `OR` in another order, at
any depth, and with other positions. -/
inductive Reordered : Expr → Expr → Prop where
  | literal (v : Value) (p q : Nat) : Reordered (.literal v p) (.literal v q)
  | path {p q : Path} (hr : p.root = q.root) (hs : p.segments = q.segments) :
      Reordered (.path p) (.path q)
  | existing {p q : Path} (hr : p.root = q.root) (hs : p.segments = q.segments) :
      Reordered (.existing p) (.existing q)
  | neg {a b : Expr} (h : Reordered a b) (p q : Nat) : Reordered (.neg a p) (.neg b q)
  | not {a b : Expr} (h : Reordered a b) (p q : Nat) : Reordered (.not a p) (.not b q)
  | and {xs ys zs : List Expr} (h : ReorderedAll xs ys) (hp : ys.Perm zs) :
      Reordered (.and xs) (.and zs)
  | or {xs ys zs : List Expr} (h : ReorderedAll xs ys) (hp : ys.Perm zs) :
      Reordered (.or xs) (.or zs)
  | compare (op : CompareOp) {a b l r : Expr} (hl : Reordered a l) (hr : Reordered b r)
      (p q : Nat) : Reordered (.compare op a b p) (.compare op l r q)
  | like {a b : Expr} (h : Reordered a b) (pattern : String) (negated : Bool) (p q : Nat) :
      Reordered (.like a pattern negated p) (.like b pattern negated q)
  | matching {a b : Expr} (h : Reordered a b) (pattern : String) (negated : Bool) (p q : Nat) :
      Reordered (.matching a pattern negated p) (.matching b pattern negated q)
  | between {a b x y u v : Expr} (h : Reordered a b) (hl : Reordered x y) (hh : Reordered u v)
      (negated : Bool) (p q : Nat) : Reordered (.between a x u negated p) (.between b y v negated q)
  | within {a b : Expr} {xs ys : List Expr} (h : Reordered a b) (hs : ReorderedAll xs ys)
      (negated : Bool) (p q : Nat) : Reordered (.within a xs negated p) (.within b ys negated q)
  | isNull {a b : Expr} (h : Reordered a b) (negated : Bool) (p q : Nat) :
      Reordered (.isNull a negated p) (.isNull b negated q)
  | call (name : String) {xs ys : List Arg} (h : ReorderedArgs xs ys) (p q : Nat) :
      Reordered (.call name xs p) (.call name ys q)

/-- Each expression of the second list is the one at its place in the first, reordered. -/
inductive ReorderedAll : List Expr → List Expr → Prop where
  | nil : ReorderedAll [] []
  | cons {a b : Expr} {xs ys : List Expr} (h : Reordered a b) (hs : ReorderedAll xs ys) :
      ReorderedAll (a :: xs) (b :: ys)

/-- Each argument of the second list is the one at its place in the first, reordered. -/
inductive ReorderedArgs : List Arg → List Arg → Prop where
  | nil : ReorderedArgs [] []
  | expr {a b : Expr} {xs ys : List Arg} (h : Reordered a b) (hs : ReorderedArgs xs ys) :
      ReorderedArgs (.expr a :: xs) (.expr b :: ys)
  | lambda (param : String) {a b : Expr} {xs ys : List Arg} (h : Reordered a b) (p q : Nat)
      (hs : ReorderedArgs xs ys) : ReorderedArgs (.lambda param a p :: xs) (.lambda param b q :: ys)

end

end Expr

section Forms

variable {fs : HostFunctions} {scope : List String} {isAnd : Bool} {xs ys : List Expr}

/-- Whether two expressions compile to nodes that cannot be told apart. -/
def AgreeIn (fs : HostFunctions) (scope : List String) (a b : Expr) : Prop :=
  Agree Alike (a.lower fs scope) (b.lower fs scope)

/-- The same of arguments. -/
inductive AgreeArg (fs : HostFunctions) (scope : List String) : Arg → Arg → Prop where
  | expr {a b : Expr} (h : AgreeIn fs scope a b) : AgreeArg fs scope (.expr a) (.expr b)
  | lambda (param : String) {a b : Expr} (h : AgreeIn fs (scope ++ [param]) a b) (p q : Nat) :
      AgreeArg fs scope (.lambda param a p) (.lambda param b q)

theorem agree_resolve {p q : Path} (hr : p.root = q.root) (hs : p.segments = q.segments) :
    Agree Eq (resolve scope p) (resolve scope q) := by
  unfold resolve
  rw [hr, hs]
  split
  · exact .ok rfl
  · split
    · exact .ok rfl
    · split
      · exact .ok rfl
      · split
        · split
          · exact .ok rfl
          · exact .error
        · exact .error

/-! ### Operands -/

/-- All that compiling an `AND` or `OR` looks at in an operand: whether it compiles, and its value
if it is constant. -/
def Expr.summary (fs : HostFunctions) (scope : List String) (e : Expr) : Option (Option Value) :=
  (e.operand? fs scope).map Node.const?

theorem summary_eq_of_agree {a b : Expr} (h : AgreeIn fs scope a b) :
    a.summary fs scope = b.summary fs scope := by
  unfold AgreeIn at h
  unfold Expr.summary Expr.operand?
  generalize a.lower fs scope = x at h
  generalize b.lower fs scope = y at h
  cases h with
  | error => rfl
  | ok h =>
    simp only [Except.toOption, Option.bind_some, h.type]
    split
    · exact congrArg some h.const
    · rfl

/-- Operands that compiling treats in the same way. -/
theorem of_summary_eq (isAnd : Bool) {a b : Expr} (h : a.summary fs scope = b.summary fs scope) :
    (a.operand? fs scope).isSome = (b.operand? fs scope).isSome ∧
      a.decides fs isAnd scope = b.decides fs isAnd scope ∧
      (a.varying? fs scope = none ↔ b.varying? fs scope = none) := by
  unfold Expr.summary at h
  unfold Expr.decides Expr.varying?
  cases ha : a.operand? fs scope with
  | none =>
    rw [ha, Option.map_none, eq_comm, Option.map_eq_none_iff] at h
    rw [h]
    exact ⟨rfl, rfl, Iff.rfl⟩
  | some n =>
    rw [ha, Option.map_some, eq_comm, Option.map_eq_some_iff] at h
    obtain ⟨m, hb, hm⟩ := h
    rw [hb, Option.any_some, Option.any_some, Option.filter_some, Option.filter_some,
      constTruth?_eq hm]
    refine ⟨rfl, rfl, ?_⟩
    split
    · exact iff_of_false nofun nofun
    · exact Iff.rfl

/-- Lists of operands in which the same summaries occur. -/
def SameSummaries (fs : HostFunctions) (scope : List String) (xs ys : List Expr) : Prop :=
  ∀ s, s ∈ xs.map (Expr.summary fs scope) ↔ s ∈ ys.map (Expr.summary fs scope)

theorem SameSummaries.symm (h : SameSummaries fs scope xs ys) : SameSummaries fs scope ys xs :=
  fun s => (h s).symm

theorem SameSummaries.exists_mem (h : SameSummaries fs scope xs ys) {e : Expr} (he : e ∈ xs) :
    ∃ x ∈ ys, x.summary fs scope = e.summary fs scope :=
  List.mem_map.mp ((h _).mp (List.mem_map_of_mem he))

theorem SameSummaries.forall_iff (h : SameSummaries fs scope xs ys) {p : Expr → Prop}
    (hp : ∀ a b : Expr, a.summary fs scope = b.summary fs scope → (p a ↔ p b)) :
    (∀ e ∈ xs, p e) ↔ ∀ e ∈ ys, p e := by
  constructor
  · intro hall e he
    obtain ⟨x, hx, hs⟩ := h.symm.exists_mem he
    exact (hp x e hs).mp (hall x hx)
  · intro hall e he
    obtain ⟨x, hx, hs⟩ := h.exists_mem he
    exact (hp x e hs).mp (hall x hx)

theorem SameSummaries.masking (h : SameSummaries fs scope xs ys)
    (hm : Masking fs isAnd scope xs) : Masking fs isAnd scope ys := by
  obtain ⟨⟨d, hd, hdecides⟩, r, hr, hrefused⟩ := hm
  obtain ⟨d', hd', hds⟩ := h.exists_mem hd
  obtain ⟨r', hr', hrs⟩ := h.exists_mem hr
  refine ⟨⟨d', hd', ?_⟩, r', hr', ?_⟩
  · rw [(of_summary_eq isAnd hds).2.1]
    exact hdecides
  · rw [(of_summary_eq isAnd hrs).1]
    exact hrefused

theorem sameSummaries_of_forall₂ (h : List.Forall₂ (AgreeIn fs scope) xs ys) :
    SameSummaries fs scope xs ys := by
  have hmap : xs.map (Expr.summary fs scope) = ys.map (Expr.summary fs scope) := by
    induction h with
    | nil => rfl
    | cons hab _ ih => rw [List.map_cons, List.map_cons, summary_eq_of_agree hab, ih]
  intro s
  rw [hmap]

theorem sameSummaries_of_perm (h : xs.Perm ys) : SameSummaries fs scope xs ys :=
  fun _ => (h.map _).mem_iff

theorem SameSummaries.trans {zs : List Expr} (h : SameSummaries fs scope xs ys)
    (h' : SameSummaries fs scope ys zs) : SameSummaries fs scope xs zs :=
  fun s => (h s).trans (h' s)

theorem const?_connective (isAnd : Bool) (kept : List Node) :
    (connective isAnd kept).const? = if kept = [] then some (.bool isAnd) else none := by
  by_cases hk : kept = []
  · rw [if_pos hk, hk, connective_nil]
    rfl
  · rw [if_neg hk, connective_of_ne_nil hk]
    cases isAnd <;> rfl

/-- Operands of which none masks another come to nodes that cannot be told apart, whatever their
order. -/
theorem agree_lowerOperands (h : SameSummaries fs scope xs ys) (hu : ¬Masking fs isAnd scope xs) :
    Agree Alike (lowerOperands fs isAnd xs [] scope) (lowerOperands fs isAnd ys [] scope) := by
  have hu' : ¬Masking fs isAnd scope ys := mt h.symm.masking hu
  have hall : (∀ e ∈ looked fs isAnd scope xs, (e.operand? fs scope).isSome = true) ↔
      ∀ e ∈ looked fs isAnd scope ys, (e.operand? fs scope).isSome = true := by
    rw [forall_looked_iff hu, forall_looked_iff hu']
    exact h.forall_iff fun a b hs => by rw [(of_summary_eq isAnd hs).1]
  have hany : xs.any (Expr.decides fs isAnd scope) = ys.any (Expr.decides fs isAnd scope) := by
    rw [← Bool.not_inj_iff, List.not_any_eq_all_not, List.not_any_eq_all_not, Bool.eq_iff_iff,
      List.all_eq_true, List.all_eq_true]
    exact h.forall_iff fun a b hs => by rw [(of_summary_eq isAnd hs).2.1]
  have hkept : xs.filterMap (Expr.varying? fs scope) = [] ↔
      ys.filterMap (Expr.varying? fs scope) = [] := by
    rw [List.filterMap_eq_nil_iff, List.filterMap_eq_nil_iff]
    exact h.forall_iff fun a b hs => (of_summary_eq isAnd hs).2.2
  refine .of_ok (fun res hx => ?_) fun res hy => ?_
  · obtain ⟨hlooked, rfl⟩ := lowerOperands_eq_ok.mp hx
    refine ⟨_, lowerOperands_eq_ok.mpr ⟨hall.mp hlooked, rfl⟩, rfl, ?_⟩
    dsimp only
    rw [hany]
    split
    · rfl
    · rw [const?_connective, const?_connective, List.nil_append, List.nil_append,
        if_congr hkept rfl rfl]
  · exact ⟨_, lowerOperands_eq_ok.mpr ⟨hall.mpr (lowerOperands_eq_ok.mp hy).1, rfl⟩⟩

/-! ### Other forms -/

section OneForm

variable {a b l r low low' high high' : Expr} {p q : Nat} {negated : Bool}

theorem agree_neg (h : AgreeIn fs scope a b) : AgreeIn fs scope (.neg a p) (.neg b q) :=
  h.bind fun _ _ hab => (Agree.require (by rw [hab.type]) _ _ _ _).bind fun _ _ _ =>
    agree_fold_unary .neg (fun _ => rfl) (fun _ _ => rfl) (fun _ => rfl) hab.const

theorem agree_not (h : AgreeIn fs scope a b) : AgreeIn fs scope (.not a p) (.not b q) :=
  h.bind fun _ _ hab => (Agree.require (by rw [hab.type]) _ _ _ _).bind fun _ _ _ =>
    agree_fold_unary .not (fun _ => rfl) (fun _ _ => rfl) (fun _ => rfl) hab.const

theorem agree_like (pattern : String) (h : AgreeIn fs scope a b) :
    AgreeIn fs scope (.like a pattern negated p) (.like b pattern negated q) :=
  h.bind fun _ _ hab => (Agree.require (by rw [hab.type]) _ _ _ _).bind fun _ _ _ =>
    agree_fold_unary (.like · _ negated) (fun _ => rfl) (fun _ _ => rfl) (fun _ => rfl) hab.const

theorem agree_matching (pattern : String) (h : AgreeIn fs scope a b) :
    AgreeIn fs scope (.matching a pattern negated p) (.matching b pattern negated q) := by
  refine h.bind fun _ _ hab => (Agree.require (by rw [hab.type]) _ _ _ _).bind fun _ _ _ => ?_
  split
  · exact agree_fold_unary (.matching · _ negated) (fun _ => rfl) (fun _ _ => rfl) (fun _ => rfl)
      hab.const
  · exact .error

theorem agree_isNull (h : AgreeIn fs scope a b) :
    AgreeIn fs scope (.isNull a negated p) (.isNull b negated q) :=
  h.bind fun _ _ hab =>
    agree_fold_unary (.isNull · negated) (fun _ => rfl) (fun _ _ => rfl) (fun _ => rfl) hab.const

theorem agree_compare (op : CompareOp) (hl : AgreeIn fs scope a l) (hr : AgreeIn fs scope b r) :
    AgreeIn fs scope (.compare op a b p) (.compare op l r q) := by
  refine hl.bind fun m m' hm => hr.bind fun n n' hn => ?_
  have hfold : Agree Alike (fold (.compare op m.1 n.1) p) (fold (.compare op m'.1 n'.1) q) := by
    refine agree_fold rfl rfl rfl ?_ fun hconst => ?_
    · rw [Node.isFoldable, Node.isFoldable, isConst_eq hm.const, isConst_eq hn.const]
    · obtain ⟨hcm, hcn⟩ := (Bool.and_eq_true _ _).mp hconst
      rw [eq_of_isConst hm.const hcm, eq_of_isConst hn.const hcn]
  cases hop : op.isOrdering with
  | true => exact (Agree.require (by rw [hm.type, hn.type]) _ _ _ _).bind fun _ _ _ => hfold
  | false => exact hfold

theorem agree_between (h : AgreeIn fs scope a b) (hl : AgreeIn fs scope low low')
    (hh : AgreeIn fs scope high high') :
    AgreeIn fs scope (.between a low high negated p) (.between b low' high' negated q) := by
  refine h.bind fun k k' hk => hl.bind fun m m' hm => hh.bind fun n n' hn => ?_
  refine (Agree.require (by rw [hk.type, hm.type]) _ _ _ _).bind fun _ _ _ => ?_
  refine (Agree.require (by rw [hk.type, hn.type]) _ _ _ _).bind fun _ _ _ => ?_
  refine (Agree.require (by rw [hm.type, hn.type]) _ _ _ _).bind fun _ _ _ => ?_
  refine agree_fold rfl rfl rfl ?_ fun hconst => ?_
  · rw [Node.isFoldable, Node.isFoldable, isConst_eq hk.const, isConst_eq hm.const,
      isConst_eq hn.const]
  · obtain ⟨hconst, hcn⟩ := (Bool.and_eq_true _ _).mp hconst
    obtain ⟨hck, hcm⟩ := (Bool.and_eq_true _ _).mp hconst
    rw [eq_of_isConst hk.const hck, eq_of_isConst hm.const hcm, eq_of_isConst hn.const hcn]

theorem agree_lowerSet (h : List.Forall₂ (AgreeIn fs scope) xs ys) :
    Agree Eq (lowerSet fs xs scope) (lowerSet fs ys scope) := by
  induction h with
  | nil => exact .ok rfl
  | cons hab _ ih =>
    rw [lowerSet, lowerSet]
    refine hab.bind fun a b h => ?_
    dsimp only
    rw [h.const]
    split
    · exact ih.bind fun vs ws hvs => .ok (by rw [hvs])
    · exact .error

theorem agree_within (h : AgreeIn fs scope a b) (hs : List.Forall₂ (AgreeIn fs scope) xs ys) :
    AgreeIn fs scope (.within a xs negated p) (.within b ys negated q) := by
  refine h.bind fun _ _ hab => (agree_lowerSet hs).bind fun vs ws hvs => ?_
  subst hvs
  exact agree_fold_unary (.within · vs negated) (fun _ => rfl) (fun _ _ => rfl) (fun _ => rfl)
    hab.const

end OneForm

/-! ### Calls -/

theorem agree_lowerArgs (name : String) {as bs : List Arg}
    (h : List.Forall₂ (AgreeArg fs scope) as bs) :
    Agree (List.Forall₂ Alike) (lowerArgs fs name as scope) (lowerArgs fs name bs scope) := by
  induction h with
  | nil => exact .ok .nil
  | cons hab _ ih =>
    cases hab with
    | expr h =>
      rw [lowerArgs, lowerArgs]
      exact h.bind fun a b hab => ih.bind fun ts us hts => .ok (.cons hab hts)
    | lambda param h p q => exact .error

theorem map_type_eq {ts us : List Typed} (h : List.Forall₂ Alike ts us) :
    ts.map (·.2) = us.map (·.2) := by
  induction h with
  | nil => rfl
  | cons hab _ ih => rw [List.map_cons, List.map_cons, hab.type, ih]

theorem all_isConst_eq {ts us : List Typed} (h : List.Forall₂ Alike ts us) :
    (ts.map (·.1)).all Node.isConst = (us.map (·.1)).all Node.isConst := by
  induction h with
  | nil => rfl
  | cons hab _ ih => rw [List.map_cons, List.map_cons, List.all_cons, List.all_cons, ih,
      isConst_eq hab.const]

theorem nodes_eq_of_const {ts us : List Typed} (h : List.Forall₂ Alike ts us)
    (hall : (ts.map (·.1)).all Node.isConst = true) : ts.map (·.1) = us.map (·.1) := by
  induction h with
  | nil => rfl
  | cons hab _ ih =>
    rw [List.map_cons, List.all_cons, Bool.and_eq_true] at hall
    rw [List.map_cons, List.map_cons, eq_of_isConst hab.const hall.1, ih hall.2]

theorem agree_callNode (name : String) {ts us : List Typed} (h : List.Forall₂ Alike ts us)
    (pos pos' : Nat) : Agree Alike (callNode fs name ts pos) (callNode fs name us pos') := by
  have hlen : (ts.map (·.1)).length = (us.map (·.1)).length := by
    rw [List.length_map, List.length_map, h.length_eq]
  unfold callNode
  dsimp only
  rw [map_type_eq h, hlen]
  split
  · next f _ =>
    refine (Agree.require rfl _ _ _ _).bind fun _ _ _ => ?_
    split
    · exact .error
    · have hfold : Agree Alike (fold (.call f (ts.map (·.1))) pos)
          (fold (.call f (us.map (·.1))) pos') := by
        refine agree_fold rfl rfl rfl ?_ fun hpure => ?_
        · rw [Node.isFoldable, Node.isFoldable, all_isConst_eq h]
        · rw [nodes_eq_of_const h ((Bool.and_eq_true _ _).mp hpure).2]
      exact hfold.bind fun a b hab => .ok ⟨congrArg (Option.or · _) hab.type, hab.const⟩
  · split
    · exact (Agree.require rfl _ _ _ _).bind fun _ _ _ => .ok ⟨rfl, rfl⟩
    · exact .error

theorem agree_call (name : String) {as bs : List Arg} (h : List.Forall₂ (AgreeArg fs scope) as bs)
    (p q : Nat) : AgreeIn fs scope (.call name as p) (.call name bs q) := by
  unfold AgreeIn
  rw [Expr.lower, Expr.lower, ← h.length_eq]
  cases quantifierOf? name as.length with
  | none => exact (agree_lowerArgs name h).bind fun ts us hts => agree_callNode name hts p q
  | some kind =>
    -- Only a collection and a predicate make a quantifier.
    cases h with
    | nil => exact .error
    | cons hfirst hrest =>
      cases hfirst with
      | lambda param hbody p q => exact .error
      | expr hcollection =>
        cases hrest with
        | nil => exact .error
        | cons hsecond hrest =>
          cases hsecond with
          | expr hargument => exact .error
          | lambda param hbody p q =>
            cases hrest with
            | cons _ _ => exact .error
            | nil =>
              refine hcollection.bind fun a b hab => ?_
              refine (Agree.require (by rw [hab.type]) _ _ _ _).bind fun _ _ _ => ?_
              refine hbody.bind fun c d hcd => ?_
              refine (Agree.require (by rw [hcd.type]) _ _ _ _).bind fun _ _ _ => ?_
              exact .ok ⟨rfl, rfl⟩

end Forms

/-! ### All forms -/

section Reordered

variable {fs : HostFunctions}

theorem Expr.Unmasked.part {scope inner : List String} {e x : Expr} (hu : e.Unmasked fs scope)
    (hx : (inner, x) ∈ e.parts scope) : x.Unmasked fs inner := hu.of_occurs (.part .root hx)

mutual

/-- If no operand masks another, expressions in another order come to nodes that the compiler cannot
tell apart, or to none. -/
theorem agree_of_reordered : ∀ {a b : Expr}, a.Reordered b → ∀ {scope : List String},
    a.Unmasked fs scope → AgreeIn fs scope a b
  | _, _, .literal v p q, _, _ => .ok ⟨rfl, rfl⟩
  | _, _, .path hr hs, _, _ => (agree_resolve hr hs).bind fun _ _ hf => .ok ⟨by rw [hf], rfl⟩
  | _, _, .existing hr hs, _, _ => (agree_resolve hr hs).bind fun _ _ _ => .ok ⟨rfl, rfl⟩
  | _, _, .neg h p q, _, hu => agree_neg (agree_of_reordered h (hu.part (.head _)))
  | _, _, .not h p q, _, hu => agree_not (agree_of_reordered h (hu.part (.head _)))
  | _, _, .and h hp, _, hu | _, _, .or h hp, _, hu =>
    -- The operands agree one by one, and then their summaries are permuted: that no operand masks
    -- another is what lets the compiler look at them in either order.
    have hsame := sameSummaries_of_forall₂ (agree_of_reorderedAll h fun _ hx =>
      hu.part (List.mem_map_of_mem hx))
    agree_lowerOperands (hsame.trans (sameSummaries_of_perm hp)) (hu _ _ _ _ .root rfl)
  | _, _, .compare op hl hr p q, _, hu =>
    agree_compare op (agree_of_reordered hl (hu.part (.head _)))
      (agree_of_reordered hr (hu.part (.tail _ (.head _))))
  | _, _, .like h pattern negated p q, _, hu =>
    agree_like pattern (agree_of_reordered h (hu.part (.head _)))
  | _, _, .matching h pattern negated p q, _, hu =>
    agree_matching pattern (agree_of_reordered h (hu.part (.head _)))
  | _, _, .between h hl hh negated p q, _, hu =>
    agree_between (agree_of_reordered h (hu.part (.head _)))
      (agree_of_reordered hl (hu.part (.tail _ (.head _))))
      (agree_of_reordered hh (hu.part (.tail _ (.tail _ (.head _)))))
  | _, _, .within h hs negated p q, _, hu =>
    agree_within (agree_of_reordered h (hu.part (.head _)))
      (agree_of_reorderedAll hs fun _ hx => hu.part (.tail _ (List.mem_map_of_mem hx)))
  | _, _, .isNull h negated p q, _, hu =>
    agree_isNull (agree_of_reordered h (hu.part (.head _)))
  | _, _, .call name h p q, _, hu =>
    agree_call name (agree_of_reorderedArgs h fun _ hx => hu.part (List.mem_map_of_mem hx)) p q

theorem agree_of_reorderedAll : ∀ {xs ys : List Expr}, Expr.ReorderedAll xs ys →
    ∀ {scope : List String}, (∀ x ∈ xs, x.Unmasked fs scope) →
      List.Forall₂ (AgreeIn fs scope) xs ys
  | _, _, .nil, _, _ => .nil
  | _, _, .cons h hs, _, hu =>
    .cons (agree_of_reordered h (hu _ (.head _)))
      (agree_of_reorderedAll hs fun x hx => hu x (.tail _ hx))

theorem agree_of_reorderedArgs : ∀ {xs ys : List Arg}, Expr.ReorderedArgs xs ys →
    ∀ {scope : List String},
      (∀ x ∈ xs, (x.part scope).2.Unmasked fs (x.part scope).1) →
      List.Forall₂ (AgreeArg fs scope) xs ys
  | _, _, .nil, _, _ => .nil
  | _, _, .expr h hs, _, hu =>
    .cons (.expr (agree_of_reordered h (hu (.expr _) (.head _))))
      (agree_of_reorderedArgs hs fun x hx => hu x (.tail _ hx))
  | _, _, .lambda param h p q hs, _, hu =>
    .cons (.lambda param (agree_of_reordered h (hu (.lambda param _ p) (.head _))) p q)
      (agree_of_reorderedArgs hs fun x hx => hu x (.tail _ hx))

end

end Reordered

/-! ## When the order matters -/

section Order

variable {fs : HostFunctions} {scope : List String} {isAnd : Bool} {e : Expr} {es : List Expr}

theorem exists_perm_cons (h : e ∈ es) : ∃ rest, es.Perm (e :: rest) := by
  obtain ⟨before, after, rfl⟩ := List.append_of_mem h
  exact ⟨before ++ after, List.perm_middle⟩

theorem mem_looked_cons : e ∈ looked fs isAnd scope (e :: es) := by
  unfold looked
  split <;> exact List.mem_cons_self

theorem isSome_of_decides (h : e.decides fs isAnd scope = true) :
    (e.operand? fs scope).isSome = true := by
  obtain ⟨n, hn, -⟩ := (Option.any_eq_true _ _).mp h
  exact Option.isSome_of_eq_some hn

/-- Operands with one that decides in front compile. -/
theorem exists_lowerOperands_of_decides (h : e.decides fs isAnd scope = true) :
    ∃ res, lowerOperands fs isAnd (e :: es) [] scope = .ok res := by
  refine ⟨_, lowerOperands_eq_ok.mpr ⟨?_, rfl⟩⟩
  rw [looked, if_pos h]
  exact List.forall_mem_singleton.mpr (isSome_of_decides h)

/-- It depends on the order of operands whether they compile, just if one masks another. -/
theorem masking_iff : Masking fs isAnd scope es ↔ ∃ xs ys, es.Perm xs ∧ es.Perm ys ∧
    (∃ res, lowerOperands fs isAnd xs [] scope = .ok res) ∧
      ¬∃ res, lowerOperands fs isAnd ys [] scope = .ok res := by
  constructor
  · rintro ⟨⟨d, hd, hdecides⟩, r, hr, hrefused⟩
    obtain ⟨xs, hxs⟩ := exists_perm_cons hd
    obtain ⟨ys, hys⟩ := exists_perm_cons hr
    refine ⟨d :: xs, r :: ys, hxs, hys, exists_lowerOperands_of_decides hdecides, ?_⟩
    rintro ⟨res, hres⟩
    have hsome := (lowerOperands_eq_ok.mp hres).1 r mem_looked_cons
    rw [hrefused] at hsome
    cases hsome
  · rintro ⟨xs, ys, hxs, hys, hx, hy⟩
    refine Decidable.byContradiction fun hu => hy ?_
    have hback := agree_lowerOperands (sameSummaries_of_perm hxs) hu
    have hforth := agree_lowerOperands (sameSummaries_of_perm hys) hu
    exact hforth.exists_ok_iff.mp (hback.exists_ok_iff.mpr hx)

/-- An expression occurs in another one if it is that one or occurs in a part of it. -/
theorem Expr.occurs_iff {names : List String} {x : Expr} : e.Occurs names scope x ↔
    (scope, x) = (names, e) ∨ ∃ p ∈ e.parts names, p.2.Occurs p.1 scope x := by
  constructor
  · intro h
    induction h with
    | root => exact .inl rfl
    | part _ hm ih =>
      refine .inr ?_
      rcases ih with heq | ⟨p, hp, ho⟩
      · cases heq
        exact ⟨_, hm, .root⟩
      · exact ⟨p, hp, ho.part hm⟩
  · rintro (heq | ⟨p, hp, ho⟩)
    · cases heq
      exact .root
    · exact (Expr.Occurs.part .root hp).trans ho

theorem Expr.unmasked_iff : e.Unmasked fs scope ↔
    (∀ isAnd es, e.operands? = some (isAnd, es) → ¬Masking fs isAnd scope es) ∧
      ∀ p ∈ e.parts scope, p.2.Unmasked fs p.1 := by
  constructor
  · exact fun hu => ⟨fun isAnd es => hu scope e isAnd es .root, fun p hp => hu.part hp⟩
  · rintro ⟨hroot, hparts⟩ inner x isAnd es hx
    rcases Expr.occurs_iff.mp hx with heq | ⟨p, hp, ho⟩
    · cases heq
      exact hroot isAnd es
    · exact hparts p hp inner x isAnd es ho

end Order

/-! ## Texts -/

/-- A text compiles if it parses to something that could be an operand. -/
theorem exists_compile_iff {fs : HostFunctions} {source : String} {e : Expr}
    (h : parse source = .ok e) :
    (∃ x, compile fs source = .ok x) ↔ (e.operand? fs []).isSome = true := by
  rw [Option.isSome_iff_exists]
  constructor
  · rintro ⟨x, hx⟩
    obtain ⟨ast, root, t, hparse, hlower, ht, -⟩ := compile_eq_ok.mp hx
    obtain rfl := Except.ok.inj (h.symm.trans hparse)
    exact ⟨root, operand?_eq_some.mpr ⟨t, hlower, ht⟩⟩
  · rintro ⟨root, hroot⟩
    obtain ⟨t, hlower, ht⟩ := operand?_eq_some.mp hroot
    exact ⟨_, compile_eq_ok.mpr ⟨e, root, t, h, hlower, ht, rfl⟩⟩

/-- Every name, call and pattern in the tree of a text that compiles stands for something, as far as
the compiler looks, and the compiler looks at everything unless an operand that is refused stands
beside one that decides. Only then does it depend on the order of operands, in a text or of a single
`AND` or `OR`, whether the compiler accepts them. -/
theorem static_checks (fs : HostFunctions) :
    (∀ source x, compile fs source = .ok x → ∃ e, parse source = .ok e ∧
      (∀ scope y, e.Checked fs [] scope y → y.IsSound fs scope) ∧
      (e.Unmasked fs [] → ∀ scope y, e.Occurs [] scope y → y.IsSound fs scope)) ∧
    (∀ source source' e e', parse source = .ok e → parse source' = .ok e' → e.Reordered e' →
      e.Unmasked fs [] → ((∃ x, compile fs source = .ok x) ↔ ∃ x, compile fs source' = .ok x)) ∧
    ∀ isAnd scope es, Masking fs isAnd scope es ↔ ∃ xs ys, es.Perm xs ∧ es.Perm ys ∧
      (∃ res, lowerOperands fs isAnd xs [] scope = .ok res) ∧
        ¬∃ res, lowerOperands fs isAnd ys [] scope = .ok res := by
  refine ⟨fun source x hx => ?_, fun source source' e e' he he' hr hu => ?_,
    fun _ _ _ => masking_iff⟩
  · obtain ⟨e, root, t, hparse, hlower, -, -⟩ := compile_eq_ok.mp hx
    exact ⟨e, hparse, fun _ _ hy => isSound_of_checked hlower hy,
      fun hu _ _ hy => isSound_of_occurs hu hlower hy⟩
  · have hsummary := summary_eq_of_agree (agree_of_reordered hr hu)
    rw [exists_compile_iff he, exists_compile_iff he', (of_summary_eq true hsummary).1]

/-- The tree of `any(payload.items, i => i.open AND subject LIKE 'a*') OR false`. -/
def openItems : Expr :=
  .or [.call "any" [.expr (.path ⟨"payload", [.key "items"], 4⟩),
    .lambda "i" (.and [.path ⟨"i", [.key "open"], 24⟩,
      .like (.path ⟨"subject", [], 35⟩) "a*" false 43]) 19] 0, .literal (.bool false) 57]

/-- The tree of `false OR any(payload.items, i => subject LIKE 'a*' AND i.open)`. -/
def openItemsReordered : Expr :=
  .or [.literal (.bool false) 0, .call "any" [.expr (.path ⟨"payload", [.key "items"], 13⟩),
    .lambda "i" (.and [.like (.path ⟨"subject", [], 33⟩) "a*" false 41,
      .path ⟨"i", [.key "open"], 55⟩]) 28] 9]

theorem openItems_reordered : openItems.Reordered openItemsReordered := by
  have hpath (root : String) (segments : List Segment) (p q : Nat) :
      (Expr.path ⟨root, segments, p⟩).Reordered (.path ⟨root, segments, q⟩) := .path rfl rfl
  refine .or (.cons (.call _ (.expr (hpath _ _ _ _) (.lambda _ ?_ _ _ .nil)) _ _)
    (.cons (.literal _ _ _) .nil)) (.swap _ _ _)
  exact .and (.cons (hpath _ _ _ _) (.cons (.like (hpath _ _ _ _) _ _ _ _) .nil)) (.swap _ _ _)

theorem openItems_unmasked : openItems.Unmasked .empty [] := by
  have hpath (scope : List String) (p : Path) : (Expr.path p).Unmasked .empty scope :=
    Expr.unmasked_iff.mpr ⟨nofun, List.forall_mem_nil _⟩
  have hlike (scope : List String) (p : Path) (pattern : String) (pos : Nat) :
      (Expr.like (.path p) pattern false pos).Unmasked .empty scope :=
    Expr.unmasked_iff.mpr ⟨nofun, List.forall_mem_singleton.mpr (hpath scope p)⟩
  have hliteral (b : Bool) (pos : Nat) : (Expr.literal (.bool b) pos).Unmasked .empty [] :=
    Expr.unmasked_iff.mpr ⟨nofun, List.forall_mem_nil _⟩
  refine Expr.unmasked_iff.mpr ⟨fun isAnd es h => ?_, List.forall_mem_cons.mpr
    ⟨Expr.unmasked_iff.mpr ⟨nofun, List.forall_mem_cons.mpr ⟨hpath _ _,
      List.forall_mem_singleton.mpr ?_⟩⟩, List.forall_mem_singleton.mpr (hliteral _ _)⟩⟩
  · cases h
    decide +kernel
  · refine Expr.unmasked_iff.mpr ⟨fun isAnd es h => ?_,
      List.forall_mem_cons.mpr ⟨hpath _ _, List.forall_mem_singleton.mpr (hlike _ _ _ _)⟩⟩
    cases h
    decide +kernel

theorem static_checks_openItems :
    (∃ x, compile .empty "any(payload.items, i => i.open AND subject LIKE 'a*') OR false" =
        .ok x) ∧
      (∀ scope y, openItems.Occurs [] scope y → y.IsSound .empty scope) ∧
      ∃ x, compile .empty "false OR any(payload.items, i => subject LIKE 'a*' AND i.open)" =
        .ok x := by
  have hc : ∃ x, compile .empty
      "any(payload.items, i => i.open AND subject LIKE 'a*') OR false" = .ok x :=
    exists_eq_ok (by decide +kernel)
  have hp : parse "any(payload.items, i => i.open AND subject LIKE 'a*') OR false" =
    .ok openItems := by with_unfolding_all rfl
  have hp' : parse "false OR any(payload.items, i => subject LIKE 'a*' AND i.open)" =
    .ok openItemsReordered := by with_unfolding_all rfl
  obtain ⟨hsound, horder, -⟩ := static_checks .empty
  refine ⟨hc, ?_, (horder _ _ _ _ hp hp' openItems_reordered openItems_unmasked).mp hc⟩
  obtain ⟨x, hx⟩ := hc
  obtain ⟨e, he, -, hall⟩ := hsound _ x hx
  obtain rfl := Except.ok.inj (hp.symm.trans he)
  exact hall openItems_unmasked

/-- A call of no known function behind an operand that decides is accepted. In front of it, it is
refused. -/
theorem call_behind_false_accepted :
    (∃ x e, compile .empty "false AND nosuch(true)" = .ok x ∧
      parse "false AND nosuch(true)" = .ok e ∧
      ∃ scope y, e.Occurs [] scope y ∧ ¬y.IsSound .empty scope) ∧
    ∃ e e', parse "false AND nosuch(true)" = .ok e ∧ parse "nosuch(true) AND false" = .ok e' ∧
      e.Reordered e' ∧ (∃ x, compile .empty "false AND nosuch(true)" = .ok x) ∧
      ¬∃ x, compile .empty "nosuch(true) AND false" = .ok x := by
  have hp : parse "false AND nosuch(true)" = .ok (.and [.literal (.bool false) 0,
    .call "nosuch" [.expr (.literal (.bool true) 17)] 10]) := by with_unfolding_all rfl
  have hp' : parse "nosuch(true) AND false" = .ok (.and [
    .call "nosuch" [.expr (.literal (.bool true) 7)] 0, .literal (.bool false) 17]) := by
    with_unfolding_all rfl
  have hc : ∃ x, compile .empty "false AND nosuch(true)" = .ok x :=
    exists_eq_ok (by decide +kernel)
  obtain ⟨x, hx⟩ := hc
  refine ⟨⟨x, _, hx, hp, [], _, .part .root (.tail _ (.head _)), ?_⟩,
    _, _, hp, hp', ?_, ⟨x, hx⟩, ?_⟩
  · rintro (⟨kind, hk, -⟩ | ⟨-, ⟨f, hf, -⟩ | ⟨-, f, hf, -⟩⟩)
    · cases hk
    · cases hf
    · cases hf
  · exact .and (.cons (.literal _ _ _) (.cons (.call _ (.expr (.literal _ _ _) .nil) _ _) .nil))
      (.swap _ _ _)
  · rw [exists_compile_iff hp']
    decide +kernel

end Switchyard.Filter
