import Mathlib.Data.List.Forall2
import Switchyard.Proofs.Filter.Lowering

/-!
# Compiling in another setting

What an expression compiles to depends on the setting it stands in: the host functions and the bound
names. It depends on nothing of a setting but what the names in the expression stand for and what
patterns mean, and not on where the expression stands in the text.

* `Setting`, `Carries`: whatever an expression compiles to in one setting, another expression
  compiles to in another setting. There is a lemma for each form of expression.
* `Mention`, `Expr.mentions`: the names in an expression.
* `Agrees`, `carries_of_agrees`: settings in which they stand for the same.
-/

namespace Switchyard.Filter

/-- What the names in an expression are looked up in. The outermost bound name is the first. -/
structure Setting where
  functions : HostFunctions
  scope : List String

/-- The setting of a predicate over a variable. -/
def Setting.binding (s : Setting) (param : String) : Setting :=
  ⟨s.functions, s.scope ++ [param]⟩

/-- What an expression compiles to in a setting. -/
def Expr.lowerIn (s : Setting) (e : Expr) : Compiled Typed := e.lower s.functions s.scope

/-- Whatever `a` compiles to in the setting `s`, `b` compiles to in the setting `t`. -/
def Carries (s t : Setting) (a b : Expr) : Prop :=
  ∀ res, a.lowerIn s = .ok res → b.lowerIn t = .ok res

/-- The same of arguments. The variable of a predicate may have another name. -/
inductive CarriesArg (s t : Setting) : Arg → Arg → Prop where
  | expr {a b : Expr} (h : Carries s t a b) : CarriesArg s t (.expr a) (.expr b)
  | lambda {x y : String} {a b : Expr} (h : Carries (s.binding x) (t.binding y) a b) (p q : Nat) :
      CarriesArg s t (.lambda x a p) (.lambda y b q)

variable {s t u : Setting} {a b c l r low low' high high' : Expr} {xs ys : List Expr}
  {p q : Nat} {negated : Bool}

theorem Carries.trans (h : Carries s t a b) (h' : Carries t u b c) : Carries s u a c :=
  fun res hres => h' res (h res hres)

/-! ## One form at a time -/

theorem fold_elsewhere {n : Node} {res : Typed} (h : fold n p = .ok res) (q : Nat) :
    fold n q = .ok res := by
  obtain ⟨m, t⟩ := res
  exact fold_eq_ok.mpr (fold_eq_ok.mp h)

theorem carries_literal (v : Value) : Carries s t (.literal v p) (.literal v q) :=
  fun _ h => lower_literal.mpr (lower_literal.mp h)

/-- Paths with the same segments whose roots stand for the same. -/
structure SameTarget (scope scope' : List String) (p q : Path) : Prop where
  slot : slot? scope p.root = slot? scope' q.root
  root : slot? scope p.root = none → p.root = q.root
  segments : p.segments = q.segments

theorem SameTarget.resolve {scope scope' : List String} {p q : Path}
    (h : SameTarget scope scope' p q) {f : Field} (hf : resolve scope p = .ok f) :
    resolve scope' q = .ok f := by
  unfold Filter.resolve at hf ⊢
  rw [← h.slot, ← h.segments]
  cases hslot : slot? scope p.root with
  | some slot => rwa [hslot] at hf
  | none =>
    rw [hslot] at hf
    dsimp only at hf ⊢
    rw [← h.root hslot]
    split_ifs at hf ⊢ with hpayload hheaders hsubject hnil
    · exact hf
    · exact hf
    · exact hf
    · exact absurd hf Compiled.fail_ne_ok
    · exact absurd hf Compiled.fail_ne_ok

theorem carries_path {p q : Path} (h : SameTarget s.scope t.scope p q) :
    Carries s t (.path p) (.path q) := by
  intro res hres
  obtain ⟨f, hf, rfl⟩ := lower_path.mp hres
  exact lower_path.mpr ⟨f, h.resolve hf, rfl⟩

theorem carries_existing {p q : Path} (h : SameTarget s.scope t.scope p q) :
    Carries s t (.existing p) (.existing q) := by
  intro res hres
  obtain ⟨f, hf, rfl⟩ := lower_existing.mp hres
  exact lower_existing.mpr ⟨f, h.resolve hf, rfl⟩

theorem carries_neg (h : Carries s t a b) : Carries s t (.neg a p) (.neg b q) := by
  intro res hres
  obtain ⟨n, _, ha, ht, hn⟩ := lower_neg.mp hres
  exact lower_neg.mpr ⟨n, _, h _ ha, ht, fold_elsewhere hn q⟩

theorem carries_not (h : Carries s t a b) : Carries s t (.not a p) (.not b q) := by
  intro res hres
  obtain ⟨n, _, ha, ht, hn⟩ := lower_not.mp hres
  exact lower_not.mpr ⟨n, _, h _ ha, ht, fold_elsewhere hn q⟩

theorem carries_compare (op : CompareOp) (hl : Carries s t a l) (hr : Carries s t b r) :
    Carries s t (.compare op a b p) (.compare op l r q) := by
  intro res hres
  obtain ⟨m, _, n, _, ha, hb, ht, hn⟩ := lower_compare.mp hres
  exact lower_compare.mpr ⟨m, _, n, _, hl _ ha, hr _ hb, ht, fold_elsewhere hn q⟩

theorem carries_like (pattern : String) (h : Carries s t a b) :
    Carries s t (.like a pattern negated p) (.like b pattern negated q) := by
  intro res hres
  obtain ⟨n, _, ha, ht, hn⟩ := lower_like.mp hres
  exact lower_like.mpr ⟨n, _, h _ ha, ht, fold_elsewhere hn q⟩

theorem carries_matching (hp : s.functions.patterns = t.functions.patterns) (pattern : String)
    (h : Carries s t a b) :
    Carries s t (.matching a pattern negated p) (.matching b pattern negated q) := by
  intro res hres
  obtain ⟨n, _, regex, ha, ht, hregex, hn⟩ := lower_matching.mp hres
  exact lower_matching.mpr ⟨n, _, regex, h _ ha, ht, hp ▸ hregex, fold_elsewhere hn q⟩

theorem carries_between (h : Carries s t a b) (hl : Carries s t low low')
    (hh : Carries s t high high') :
    Carries s t (.between a low high negated p) (.between b low' high' negated q) := by
  intro res hres
  obtain ⟨n, _, m, _, k, _, ha, hm, hk, h1, h2, h3, hn⟩ := lower_between.mp hres
  exact lower_between.mpr
    ⟨n, _, m, _, k, _, h _ ha, hl _ hm, hh _ hk, h1, h2, h3, fold_elsewhere hn q⟩

theorem carries_isNull (h : Carries s t a b) :
    Carries s t (.isNull a negated p) (.isNull b negated q) := by
  intro res hres
  obtain ⟨n, _, ha, hn⟩ := lower_isNull.mp hres
  exact lower_isNull.mpr ⟨n, _, h _ ha, fold_elsewhere hn q⟩

theorem carries_set (h : List.Forall₂ (Carries s t) xs ys) {vs : List Value}
    (hvs : lowerSet s.functions xs s.scope = .ok vs) :
    lowerSet t.functions ys t.scope = .ok vs := by
  induction h generalizing vs with
  | nil => exact hvs
  | cons hab _ ih =>
    obtain ⟨v, _, ws, ha, hws, rfl⟩ := lowerSet_cons.mp hvs
    exact lowerSet_cons.mpr ⟨v, _, ws, hab _ ha, ih hws, rfl⟩

theorem carries_within (h : Carries s t a b) (hs : List.Forall₂ (Carries s t) xs ys) :
    Carries s t (.within a xs negated p) (.within b ys negated q) := by
  intro res hres
  obtain ⟨n, _, vs, ha, hvs, hn⟩ := lower_within.mp hres
  exact lower_within.mpr ⟨n, _, vs, h _ ha, carries_set hs hvs, fold_elsewhere hn q⟩

/-- Operands behind one that decides are not looked at, in either list. -/
theorem carries_operands (isAnd : Bool) (h : List.Forall₂ (Carries s t) xs ys) {kept : List Node}
    {res : Typed} (hres : lowerOperands s.functions isAnd xs kept s.scope = .ok res) :
    lowerOperands t.functions isAnd ys kept t.scope = .ok res := by
  induction h generalizing kept with
  | nil => exact hres
  | cons hab _ ih =>
    obtain ⟨n, _, ha, ht, hrest⟩ := lowerOperands_cons.mp hres
    refine lowerOperands_cons.mpr ⟨n, _, hab _ ha, ht, ?_⟩
    split at hrest
    · next decided hn =>
      split at hrest
      · next heq => simpa [hn, heq] using ih hrest
      · next hne => simpa [hn, hne] using hrest
    · next hn => simpa [hn] using ih hrest

theorem carries_and (h : List.Forall₂ (Carries s t) xs ys) : Carries s t (.and xs) (.and ys) :=
  fun _ => carries_operands true h

theorem carries_or (h : List.Forall₂ (Carries s t) xs ys) : Carries s t (.or xs) (.or ys) :=
  fun _ => carries_operands false h

/-! ### Calls -/

section Calls

variable {name : String} {as bs : List Arg}

theorem carries_args (h : List.Forall₂ (CarriesArg s t) as bs) {ts : List Typed}
    (hts : lowerArgs s.functions name as s.scope = .ok ts) :
    lowerArgs t.functions name bs t.scope = .ok ts := by
  induction h generalizing ts with
  | nil => exact hts
  | cons hab _ ih =>
    cases hab with
    | expr h =>
      obtain ⟨t, us, ha, hus, rfl⟩ := lowerArgs_expr.mp hts
      exact lowerArgs_expr.mpr ⟨t, us, h _ ha, ih hus, rfl⟩
    | lambda h p q => exact absurd hts Compiled.fail_ne_ok

/-- A call is looked up among the functions of the language first. -/
theorem callNode_elsewhere {fs fs' : HostFunctions} {ts : List Typed} {res : Typed}
    (hf : ∀ f, fs.find? name = some f → fs'.find? name = some f)
    (h : callNode fs name ts p = .ok res) : callNode fs' name ts q = .ok res := by
  rcases callNode_eq_ok.mp h with ⟨f, hname, htakes, hcheck, n, t, hn, rfl⟩ |
    ⟨hname, f, hfind, harity, rfl⟩
  · exact callNode_eq_ok.mpr
      (.inl ⟨f, hname, htakes, hcheck, n, t, fold_elsewhere hn q, rfl⟩)
  · exact callNode_eq_ok.mpr (.inr ⟨hname, f, hf f hfind, harity, rfl⟩)

/-- The slot of a quantifier is the number of names that are bound around it. -/
theorem carries_call (hdepth : s.scope.length = t.scope.length)
    (hf : ∀ f, s.functions.find? name = some f → t.functions.find? name = some f)
    (h : List.Forall₂ (CarriesArg s t) as bs) :
    Carries s t (.call name as p) (.call name bs q) := by
  intro res hres
  cases hk : quantifierOf? name as.length with
  | some kind =>
    have hk' : quantifierOf? name bs.length = some kind := h.length_eq ▸ hk
    obtain ⟨_, _, _, _, c, t', n, s', rfl, hc, ht, hn, hs, rfl⟩ := (lower_quantifier hk).mp hres
    cases h with
    | cons hfirst hrest =>
      cases hfirst with
      | expr hcollection =>
        cases hrest with
        | cons hsecond hrest =>
          cases hsecond with
          | lambda hbody p q =>
            cases hrest with
            | nil =>
              exact (lower_quantifier hk').mpr ⟨_, _, _, _, c, t', n, s', rfl, hcollection _ hc,
                ht, hbody _ hn, hs, by rw [hdepth]⟩
  | none =>
    obtain ⟨ts, hts, hn⟩ := (lower_call hk).mp hres
    exact (lower_call (h.length_eq ▸ hk)).mpr ⟨ts, carries_args h hts, callNode_elsewhere hf hn⟩

end Calls

/-! ## Names in an expression -/

/-- A name in an expression: the root of a path, the variable of a predicate or a function. -/
inductive Mention where
  | root (name : String)
  | param (name : String)
  | function (name : String)
deriving DecidableEq, Repr

mutual

/-- The names in an expression. -/
def Expr.mentions : Expr → List Mention
  | .literal .. => []
  | .path p | .existing p => [.root p.root]
  | .neg e _ | .not e _ | .like e _ _ _ | .matching e _ _ _ | .isNull e _ _ => e.mentions
  | .and es | .or es => mentionsAll es
  | .compare _ l r _ => l.mentions ++ r.mentions
  | .between e low high _ _ => e.mentions ++ low.mentions ++ high.mentions
  | .within e set _ _ => e.mentions ++ mentionsAll set
  | .call name args _ => .function name :: mentionsArgs args

/-- The names in several expressions. -/
def mentionsAll : List Expr → List Mention
  | [] => []
  | e :: es => e.mentions ++ mentionsAll es

/-- The names in several arguments. -/
def mentionsArgs : List Arg → List Mention
  | [] => []
  | .expr e :: args => e.mentions ++ mentionsArgs args
  | .lambda name body _ :: args => .param name :: (body.mentions ++ mentionsArgs args)

end

/-- Settings in which patterns mean the same and the names that are mentioned stand for the same. -/
structure Agrees (s t : Setting) (ms : List Mention) : Prop where
  patterns : s.functions.patterns = t.functions.patterns
  depth : s.scope.length = t.scope.length
  root : ∀ name, .root name ∈ ms → slot? s.scope name = slot? t.scope name
  function : ∀ name, .function name ∈ ms →
    ∀ f, s.functions.find? name = some f → t.functions.find? name = some f

namespace Agrees

variable {ms ns : List Mention}

theorem mono (h : Agrees s t ns) (hsub : ms ⊆ ns) : Agrees s t ms :=
  ⟨h.patterns, h.depth, fun name hm => h.root name (hsub hm),
    fun name hm => h.function name (hsub hm)⟩

theorem left (h : Agrees s t (ms ++ ns)) : Agrees s t ms := h.mono (List.subset_append_left _ _)

theorem right (h : Agrees s t (ms ++ ns)) : Agrees s t ns := h.mono (List.subset_append_right _ _)

theorem tail {m : Mention} (h : Agrees s t (m :: ms)) : Agrees s t ms :=
  h.mono (List.subset_cons_self m ms)

/-- A name that is bound in both settings hides what it stood for. -/
theorem binding (h : Agrees s t ms) (name : String) :
    Agrees (s.binding name) (t.binding name) ms := by
  refine ⟨h.patterns, by simp [Setting.binding, h.depth], fun root hm => ?_, h.function⟩
  simp only [Setting.binding, slot?_append, h.depth, h.root root hm]

theorem sameTarget {path : Path} (h : Agrees s t [.root path.root]) :
    SameTarget s.scope t.scope path path := ⟨h.root _ List.mem_cons_self, fun _ => rfl, rfl⟩

end Agrees

mutual

/-- An expression compiles to the same in settings in which its names stand for the same. -/
theorem carries_of_agrees (e : Expr) {s t : Setting} (h : Agrees s t e.mentions) :
    Carries s t e e := by
  cases e with
  | literal v => exact carries_literal v
  | path => exact carries_path h.sameTarget
  | existing => exact carries_existing h.sameTarget
  | neg e => exact carries_neg (carries_of_agrees e h)
  | not e => exact carries_not (carries_of_agrees e h)
  | and es => exact carries_and (carries_of_agreesAll es h)
  | or es => exact carries_or (carries_of_agreesAll es h)
  | compare op l r =>
    exact carries_compare op (carries_of_agrees l h.left) (carries_of_agrees r h.right)
  | like e pattern => exact carries_like pattern (carries_of_agrees e h)
  | matching e pattern => exact carries_matching h.patterns pattern (carries_of_agrees e h)
  | between e low high =>
    exact carries_between (carries_of_agrees e h.left.left) (carries_of_agrees low h.left.right)
      (carries_of_agrees high h.right)
  | within e set =>
    exact carries_within (carries_of_agrees e h.left) (carries_of_agreesAll set h.right)
  | isNull e => exact carries_isNull (carries_of_agrees e h)
  | call name args =>
    exact carries_call h.depth (h.function name List.mem_cons_self)
      (carries_of_agreesArgs args h.tail)

theorem carries_of_agreesAll (es : List Expr) {s t : Setting} (h : Agrees s t (mentionsAll es)) :
    List.Forall₂ (Carries s t) es es := by
  cases es with
  | nil => exact .nil
  | cons e es => exact .cons (carries_of_agrees e h.left) (carries_of_agreesAll es h.right)

theorem carries_of_agreesArgs (args : List Arg) {s t : Setting}
    (h : Agrees s t (mentionsArgs args)) : List.Forall₂ (CarriesArg s t) args args := by
  match args with
  | [] => exact .nil
  | .expr e :: args =>
    exact .cons (.expr (carries_of_agrees e h.left)) (carries_of_agreesArgs args h.right)
  | .lambda name body pos :: args =>
    exact .cons (.lambda (carries_of_agrees body (h.tail.left.binding name)) pos pos)
      (carries_of_agreesArgs args h.tail.right)

end

end Switchyard.Filter
