import Switchyard.Proofs.Filter.Settings

/-!
# The names of bound variables

A variable of a predicate may have any name that the predicate does not use otherwise. Compiling
finds the slot of a variable by its name and leaves only the slot in the tree.

* `Expr.rename`: another name for a variable, wherever it is the variable that the name stands for.
* `Expr.Renamed`: expressions in which variables at any depth have other names.
* `Swaps`: settings in which one slot has another name. `carries_rename` goes from one to the other.
* `lower_renamed`: an expression with other names for its variables compiles to the same.
-/

namespace Switchyard.Filter

/-- The path with the root `y` if its root was `x`. -/
def Path.rename (x y : String) (p : Path) : Path := if p.root = x then { p with root := y } else p

mutual

/-- The expression in which the paths from the variable `x` start with `y`. A predicate over a
variable of the same name is left alone: its paths do not start from this one. -/
def Expr.rename (x y : String) : Expr → Expr
  | .literal v pos => .literal v pos
  | .path p => .path (p.rename x y)
  | .existing p => .existing (p.rename x y)
  | .neg e pos => .neg (e.rename x y) pos
  | .not e pos => .not (e.rename x y) pos
  | .and es => .and (renameAll x y es)
  | .or es => .or (renameAll x y es)
  | .compare op l r pos => .compare op (l.rename x y) (r.rename x y) pos
  | .like e pattern negated pos => .like (e.rename x y) pattern negated pos
  | .matching e pattern negated pos => .matching (e.rename x y) pattern negated pos
  | .between e low high negated pos =>
    .between (e.rename x y) (low.rename x y) (high.rename x y) negated pos
  | .within e set negated pos => .within (e.rename x y) (renameAll x y set) negated pos
  | .isNull e negated pos => .isNull (e.rename x y) negated pos
  | .call name args pos => .call name (renameArgs x y args) pos

/-- Expressions with the name exchanged in each. -/
def renameAll (x y : String) : List Expr → List Expr
  | [] => []
  | e :: es => e.rename x y :: renameAll x y es

/-- Arguments with the name exchanged in each, but not in a predicate over the old name. -/
def renameArgs (x y : String) : List Arg → List Arg
  | [] => []
  | .expr e :: args => .expr (e.rename x y) :: renameArgs x y args
  | .lambda name body pos :: args =>
    .lambda name (if name = x then body else body.rename x y) pos :: renameArgs x y args

end

namespace Expr

mutual

/-- Expressions that differ in the names of variables. A variable gets a name that is neither the
root of a path nor a variable in its predicate. The expressions may stand anywhere in a text. -/
inductive Renamed : Expr → Expr → Prop where
  | literal (v : Value) (p q : Nat) : Renamed (.literal v p) (.literal v q)
  | path {p q : Path} (hroot : p.root = q.root) (hsegments : p.segments = q.segments) :
      Renamed (.path p) (.path q)
  | existing {p q : Path} (hroot : p.root = q.root) (hsegments : p.segments = q.segments) :
      Renamed (.existing p) (.existing q)
  | neg {a b : Expr} (h : Renamed a b) (p q : Nat) : Renamed (.neg a p) (.neg b q)
  | not {a b : Expr} (h : Renamed a b) (p q : Nat) : Renamed (.not a p) (.not b q)
  | and {xs ys : List Expr} (h : RenamedAll xs ys) : Renamed (.and xs) (.and ys)
  | or {xs ys : List Expr} (h : RenamedAll xs ys) : Renamed (.or xs) (.or ys)
  | compare (op : CompareOp) {a b l r : Expr} (hl : Renamed a l) (hr : Renamed b r) (p q : Nat) :
      Renamed (.compare op a b p) (.compare op l r q)
  | like {a b : Expr} (h : Renamed a b) (pattern : String) (negated : Bool) (p q : Nat) :
      Renamed (.like a pattern negated p) (.like b pattern negated q)
  | matching {a b : Expr} (h : Renamed a b) (pattern : String) (negated : Bool) (p q : Nat) :
      Renamed (.matching a pattern negated p) (.matching b pattern negated q)
  | between {a b low low' high high' : Expr} (h : Renamed a b) (hl : Renamed low low')
      (hh : Renamed high high') (negated : Bool) (p q : Nat) :
      Renamed (.between a low high negated p) (.between b low' high' negated q)
  | within {a b : Expr} {xs ys : List Expr} (h : Renamed a b) (hs : RenamedAll xs ys)
      (negated : Bool) (p q : Nat) : Renamed (.within a xs negated p) (.within b ys negated q)
  | isNull {a b : Expr} (h : Renamed a b) (negated : Bool) (p q : Nat) :
      Renamed (.isNull a negated p) (.isNull b negated q)
  | call (name : String) {xs ys : List Arg} (h : RenamedArgs xs ys) (p q : Nat) :
      Renamed (.call name xs p) (.call name ys q)

/-- The same of one expression after the other. -/
inductive RenamedAll : List Expr → List Expr → Prop where
  | nil : RenamedAll [] []
  | cons {a b : Expr} {xs ys : List Expr} (h : Renamed a b) (hs : RenamedAll xs ys) :
      RenamedAll (a :: xs) (b :: ys)

/-- The same of arguments. -/
inductive RenamedArgs : List Arg → List Arg → Prop where
  | nil : RenamedArgs [] []
  | expr {a b : Expr} {xs ys : List Arg} (h : Renamed a b) (hs : RenamedArgs xs ys) :
      RenamedArgs (.expr a :: xs) (.expr b :: ys)
  | kept (x : String) {a b : Expr} {xs ys : List Arg} (h : Renamed a b) (p q : Nat)
      (hs : RenamedArgs xs ys) : RenamedArgs (.lambda x a p :: xs) (.lambda x b q :: ys)
  | fresh (x : String) {y : String} {a b : Expr} {xs ys : List Arg} (h : Renamed a b)
      (hroot : .root y ∉ b.mentions) (hparam : .param y ∉ b.mentions) (p q : Nat)
      (hs : RenamedArgs xs ys) :
      RenamedArgs (.lambda x a p :: xs) (.lambda y (b.rename x y) q :: ys)

end

mutual

/-- Any of the variables may keep its name. -/
theorem Renamed.refl (e : Expr) : e.Renamed e := by
  cases e with
  | literal v pos => exact .literal v pos pos
  | path p => exact .path rfl rfl
  | existing p => exact .existing rfl rfl
  | neg e pos => exact .neg (.refl e) pos pos
  | not e pos => exact .not (.refl e) pos pos
  | and es => exact .and (.refl es)
  | or es => exact .or (.refl es)
  | compare op l r pos => exact .compare op (.refl l) (.refl r) pos pos
  | like e pattern negated pos => exact .like (.refl e) pattern negated pos pos
  | matching e pattern negated pos => exact .matching (.refl e) pattern negated pos pos
  | between e low high negated pos =>
    exact .between (.refl e) (.refl low) (.refl high) negated pos pos
  | within e set negated pos => exact .within (.refl e) (.refl set) negated pos pos
  | isNull e negated pos => exact .isNull (.refl e) negated pos pos
  | call name args pos => exact .call name (.refl args) pos pos

theorem RenamedAll.refl (es : List Expr) : RenamedAll es es := by
  cases es with
  | nil => exact .nil
  | cons e es => exact .cons (.refl e) (.refl es)

theorem RenamedArgs.refl (args : List Arg) : RenamedArgs args args := by
  match args with
  | [] => exact .nil
  | .expr e :: args => exact .expr (.refl e) (.refl args)
  | .lambda x body pos :: args => exact .kept x (.refl body) pos pos (.refl args)

end

end Expr

/-! ## Another name for one slot -/

/-- The setting `t` is `s` with the name `y` for the variable `x`. -/
structure Swaps (s t : Setting) (x y : String) : Prop where
  functions : s.functions = t.functions
  depth : s.scope.length = t.scope.length
  bound : ∃ k, slot? s.scope x = some k ∧ slot? t.scope y = some k
  others : ∀ name, name ≠ x → name ≠ y → slot? s.scope name = slot? t.scope name

namespace Swaps

variable {s t : Setting} {x y name : String}

theorem of_binding (s : Setting) (x y : String) : Swaps (s.binding x) (s.binding y) x y where
  functions := rfl
  depth := by simp [Setting.binding]
  bound := ⟨s.scope.length, by simp [Setting.binding, slot?_append]⟩
  others := by
    intro name hx hy
    simp [Setting.binding, slot?_append, hx.symm, hy.symm]

/-- A variable further in hides neither of the two names. -/
theorem binding (h : Swaps s t x y) (hx : name ≠ x) (hy : name ≠ y) :
    Swaps (s.binding name) (t.binding name) x y where
  functions := h.functions
  depth := by simp [Setting.binding, h.depth]
  bound := by simpa [Setting.binding, slot?_append, hx, hy] using h.bound
  others := by
    intro other hx' hy'
    simp only [Setting.binding, slot?_append, h.depth, h.others other hx' hy']

/-- A variable further in that has the same name hides it, so the new name is of no account. -/
theorem agrees_hidden (h : Swaps s t x y) {ms : List Mention} (hy : .root y ∉ ms) :
    Agrees (s.binding x) (t.binding x) ms where
  patterns := congrArg HostFunctions.patterns h.functions
  depth := by simp [Setting.binding, h.depth]
  root := by
    intro name hm
    have hname : name ≠ y := fun heq => hy (heq ▸ hm)
    by_cases hx : x = name
    · simp [Setting.binding, slot?_append, hx, h.depth]
    · simp [Setting.binding, slot?_append, hx, h.others name (Ne.symm hx) hname]
  function := by
    intro name _ f hf
    exact h.functions ▸ hf

theorem sameTarget (h : Swaps s t x y) {p : Path} (hy : p.root ≠ y) :
    SameTarget s.scope t.scope p (p.rename x y) := by
  obtain ⟨k, hs, ht⟩ := h.bound
  unfold Path.rename
  by_cases hx : p.root = x
  · rw [if_pos hx]
    exact ⟨by rw [hx, hs, ht], fun hnone => by simp [hx, hs] at hnone, rfl⟩
  · rw [if_neg hx]
    exact ⟨h.others _ hx hy, fun _ => rfl, rfl⟩

end Swaps

/-- The name is neither the root of a path nor a variable. -/
structure IsFree (y : String) (ms : List Mention) : Prop where
  root : .root y ∉ ms
  param : .param y ∉ ms

namespace IsFree

variable {y : String} {ms ns : List Mention}

theorem mono (h : IsFree y ns) (hsub : ms ⊆ ns) : IsFree y ms :=
  ⟨fun hm => h.root (hsub hm), fun hm => h.param (hsub hm)⟩

theorem left (h : IsFree y (ms ++ ns)) : IsFree y ms := h.mono (List.subset_append_left _ _)

theorem right (h : IsFree y (ms ++ ns)) : IsFree y ns := h.mono (List.subset_append_right _ _)

theorem tail {m : Mention} (h : IsFree y (m :: ms)) : IsFree y ms :=
  h.mono (List.subset_cons_self m ms)

theorem ne_root {name : String} (h : IsFree y (.root name :: ms)) : name ≠ y :=
  fun heq => h.root (heq ▸ List.mem_cons_self)

theorem ne_param {name : String} (h : IsFree y (.param name :: ms)) : name ≠ y :=
  fun heq => h.param (heq ▸ List.mem_cons_self)

end IsFree

section Rename

variable {x y : String}

mutual

theorem carries_rename (e : Expr) {s t : Setting} (h : Swaps s t x y) (hy : IsFree y e.mentions) :
    Carries s t e (e.rename x y) := by
  cases e with
  | literal v => exact carries_literal v
  | path => exact carries_path (h.sameTarget hy.ne_root)
  | existing => exact carries_existing (h.sameTarget hy.ne_root)
  | neg e => exact carries_neg (carries_rename e h hy)
  | not e => exact carries_not (carries_rename e h hy)
  | and es => exact carries_and (carries_renameAll es h hy)
  | or es => exact carries_or (carries_renameAll es h hy)
  | compare op l r =>
    exact carries_compare op (carries_rename l h hy.left) (carries_rename r h hy.right)
  | like e pattern => exact carries_like pattern (carries_rename e h hy)
  | matching e pattern =>
    exact carries_matching (congrArg HostFunctions.patterns h.functions) pattern
      (carries_rename e h hy)
  | between e low high =>
    exact carries_between (carries_rename e h hy.left.left) (carries_rename low h hy.left.right)
      (carries_rename high h hy.right)
  | within e set =>
    exact carries_within (carries_rename e h hy.left) (carries_renameAll set h hy.right)
  | isNull e => exact carries_isNull (carries_rename e h hy)
  | call name args =>
    exact carries_call h.depth (fun f hf => h.functions ▸ hf) (carries_renameArgs args h hy.tail)

theorem carries_renameAll (es : List Expr) {s t : Setting} (h : Swaps s t x y)
    (hy : IsFree y (mentionsAll es)) : List.Forall₂ (Carries s t) es (renameAll x y es) := by
  cases es with
  | nil => exact .nil
  | cons e es => exact .cons (carries_rename e h hy.left) (carries_renameAll es h hy.right)

theorem carries_renameArgs (args : List Arg) {s t : Setting} (h : Swaps s t x y)
    (hy : IsFree y (mentionsArgs args)) :
    List.Forall₂ (CarriesArg s t) args (renameArgs x y args) := by
  match args with
  | [] => exact .nil
  | .expr e :: args =>
    exact .cons (.expr (carries_rename e h hy.left)) (carries_renameArgs args h hy.right)
  | .lambda name body pos :: args =>
    refine .cons (.lambda ?_ pos pos) (carries_renameArgs args h hy.tail.right)
    by_cases hx : name = x
    · subst hx
      rw [if_pos rfl]
      exact carries_of_agrees body (h.agrees_hidden hy.tail.left.root)
    · rw [if_neg hx]
      exact carries_rename body (h.binding hx hy.ne_param) hy.tail.left

end

end Rename

/-! ## Other names at any depth -/

mutual

theorem carries_of_renamed {a b : Expr} (s : Setting) (h : a.Renamed b) : Carries s s a b := by
  cases h with
  | literal v p q => exact carries_literal v
  | path hroot hsegments =>
    exact carries_path ⟨congrArg _ hroot, fun _ => hroot, hsegments⟩
  | existing hroot hsegments =>
    exact carries_existing ⟨congrArg _ hroot, fun _ => hroot, hsegments⟩
  | neg h p q => exact carries_neg (carries_of_renamed s h)
  | not h p q => exact carries_not (carries_of_renamed s h)
  | and h => exact carries_and (carries_of_renamedAll s h)
  | or h => exact carries_or (carries_of_renamedAll s h)
  | compare op hl hr p q =>
    exact carries_compare op (carries_of_renamed s hl) (carries_of_renamed s hr)
  | like h pattern negated p q => exact carries_like pattern (carries_of_renamed s h)
  | matching h pattern negated p q => exact carries_matching rfl pattern (carries_of_renamed s h)
  | between h hl hh negated p q =>
    exact carries_between (carries_of_renamed s h) (carries_of_renamed s hl)
      (carries_of_renamed s hh)
  | within h hs negated p q =>
    exact carries_within (carries_of_renamed s h) (carries_of_renamedAll s hs)
  | isNull h negated p q => exact carries_isNull (carries_of_renamed s h)
  | call name h p q => exact carries_call rfl (fun _ hf => hf) (carries_of_renamedArgs s h)

theorem carries_of_renamedAll {xs ys : List Expr} (s : Setting) (h : Expr.RenamedAll xs ys) :
    List.Forall₂ (Carries s s) xs ys := by
  cases h with
  | nil => exact .nil
  | cons h hs => exact .cons (carries_of_renamed s h) (carries_of_renamedAll s hs)

theorem carries_of_renamedArgs {xs ys : List Arg} (s : Setting) (h : Expr.RenamedArgs xs ys) :
    List.Forall₂ (CarriesArg s s) xs ys := by
  cases h with
  | nil => exact .nil
  | expr h hs => exact .cons (.expr (carries_of_renamed s h)) (carries_of_renamedArgs s hs)
  | kept x h p q hs =>
    exact .cons (.lambda (carries_of_renamed (s.binding x) h) p q) (carries_of_renamedArgs s hs)
  | fresh x h hroot hparam p q hs =>
    have hrename := carries_rename _ (Swaps.of_binding s x _) ⟨hroot, hparam⟩
    exact .cons (.lambda ((carries_of_renamed (s.binding x) h).trans hrename) p q)
      (carries_of_renamedArgs s hs)

end

/-- An expression whose variables have other names compiles to the same node and the same type. -/
theorem lower_renamed {a b : Expr} (h : a.Renamed b) {fs : HostFunctions} {scope : List String}
    {res : Typed} (ha : a.lower fs scope = .ok res) : b.lower fs scope = .ok res :=
  carries_of_renamed ⟨fs, scope⟩ h res ha

/-- `any(payload.items, x => all(x.tags, y => y == x.code))` -/
def nestedNames : Expr :=
  .call "any" [.expr (.path ⟨"payload", [.key "items"], 4⟩), .lambda "x"
    (.call "all" [.expr (.path ⟨"x", [.key "tags"], 28⟩), .lambda "y"
      (.compare .eq (.path ⟨"y", [], 41⟩) (.path ⟨"x", [.key "code"], 46⟩) 43) 36] 24) 19] 0

/-- `any(payload.items, subject => all(subject.tags, payload => payload == subject.code))`, with the
positions of the other text. -/
def nestedOtherNames : Expr :=
  .call "any" [.expr (.path ⟨"payload", [.key "items"], 4⟩), .lambda "subject"
    (.call "all" [.expr (.path ⟨"subject", [.key "tags"], 28⟩), .lambda "payload"
      (.compare .eq (.path ⟨"payload", [], 41⟩) (.path ⟨"subject", [.key "code"], 46⟩) 43) 36]
      24) 19] 0

/-- The names of variables may hide the parts of an event. -/
theorem lower_renamed_nested :
    nestedNames.Renamed nestedOtherNames ∧ ∃ res, nestedNames.lower .empty [] = .ok res ∧
      nestedOtherNames.lower .empty [] = .ok res := by
  have hinner : Expr.RenamedArgs [.lambda "y" (.compare .eq (.path ⟨"y", [], 41⟩)
      (.path ⟨"x", [.key "code"], 46⟩) 43) 36] _ :=
    .fresh "y" (y := "payload") (.refl _) (by decide) (by decide) 36 36 .nil
  have houter := Expr.RenamedArgs.fresh "x" (y := "subject")
    (.call "all" (.expr (.refl (.path ⟨"x", [.key "tags"], 28⟩)) hinner) 24 24)
    (by decide) (by decide) 19 19 .nil
  have hrenamed : nestedNames.Renamed nestedOtherNames :=
    .call "any" (.expr (.refl _) houter) 0 0
  have hlower : ∃ res, nestedNames.lower .empty [] = .ok res := exists_eq_ok (by decide +kernel)
  obtain ⟨res, hres⟩ := hlower
  exact ⟨hrenamed, res, hres, lower_renamed hrenamed hres⟩

end Switchyard.Filter
