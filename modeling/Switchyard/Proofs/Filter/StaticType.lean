import Mathlib.Data.List.Forall2
import Switchyard.Proofs.Filter.Optimisation

/-!
# Static types

The type that compiling gives to a phrase, where it is known, is the type of every value that the
phrase can have beside null. The types come from three places: folding takes that of a value,
`Builtin.returnType` works on the types of the arguments, and the other nodes are tests.

* `StaticType.Covers`: a value that a phrase of a static type may have.
* `Evaluation.Yields`: what is known of the result of a step, if it has one.
* `Builtin.covers_call`: the result of a call has the return type, given arguments of their types.
* `Lowered.yields`: what a compiled node evaluates to has its static type.
* `static_types_sound`: the same for every phrase that compiles, and what it means for filters.
-/

namespace Switchyard.Filter

/-! ## Values of a type -/

/-- A value that a phrase of a static type may have: if the type is known, null or one of that
type. -/
def StaticType.Covers (t : StaticType) (v : Value) : Prop :=
  t.isKnown = true → v = .null ∨ some v.type = t

namespace StaticType

theorem covers_type (v : Value) : Covers (some v.type) v := fun _ => .inr rfl

theorem covers_any (v : Value) : Covers none v := fun h => nomatch h

theorem covers_null (t : StaticType) : t.Covers .null := fun _ => .inl rfl

end StaticType

open StaticType

/-! ## Results of a step -/

namespace Evaluation

variable {α β : Type} {x : Evaluation α} {P : α → Prop}

/-- Every result of the step, whatever the meter shows, satisfies `P`. The step may have none. -/
def Yields (x : Evaluation α) (P : α → Prop) : Prop := ∀ m m' a, x m = (.ok a, m') → P a

namespace Yields

theorem trivial (x : Evaluation α) : Yields x fun _ => True := fun _ _ _ _ => True.intro

theorem pure {a : α} (h : P a) : Yields (pure a) P := by
  rintro m m' _ ⟨⟩
  exact h

theorem throw (e : EvalError) : Yields (throw e : Evaluation α) P := nofun

theorem lift {r : Except EvalError α} (h : ∀ a, r = .ok a → P a) :
    Yields (ExceptT.mk (Pure.pure r)) P := by
  rintro m m' a ⟨⟩
  exact h a rfl

theorem bind {f : α → Evaluation β} {Q : β → Prop} (hx : Yields x P)
    (hf : ∀ a, P a → Yields (f a) Q) : Yields (x >>= f) Q := by
  intro m m' b h
  obtain ⟨a, next, ha, hb⟩ := ok_of_bind h
  exact hf a (hx m next a ha) next m' b hb

/-- What comes after a step whose result does not matter. -/
theorem after {f : α → Evaluation β} {Q : β → Prop} (hf : ∀ a, Yields (f a) Q) :
    Yields (x >>= f) Q := (trivial x).bind fun a _ => hf a

theorem ofVerdict (v : Verdict) : Yields (ofVerdict v) (Covers (some .bool)) := by
  cases v with
  | ok b => exact pure (covers_type (.bool b))
  | error e => exact throw e

theorem quantify (kind : Quantifier) (test : Value → Evaluation Verdict) (items : List Value)
    (hits : Nat) (unknown : Option EvalError) :
    Yields (quantify kind test items hits unknown)
      (Covers (some (if kind = .count then .number else .bool))) := by
  induction items generalizing hits unknown with
  | nil =>
    match kind, unknown with
    | .count, _ => exact pure (covers_type (.number _))
    | .any, some e | .all, some e => exact throw e
    | .any, none | .all, none => exact pure (covers_type (.bool _))
  | cons item items ih =>
    refine after fun v => ?_
    match kind, v with
    | .any, .ok true | .all, .ok false => exact pure (covers_type (.bool _))
    | .all, .ok true | .count, .ok true | .any, .ok false | .count, .ok false
    | .any, .error _ | .all, .error _ | .count, .error _ => exact ih _ _

theorem quantifyOver (kind : Quantifier) (test : Value → Evaluation Verdict) (v : Value) :
    Yields (quantifyOver kind test v)
      (Covers (some (if kind = .count then .number else .bool))) := by
  cases v with
  | array items => exact quantify kind test items 0 none
  | null =>
    refine pure ?_
    cases kind with
    | count => exact covers_null _
    | any | all => exact covers_type (.bool false)
  | _ => exact throw _

end Yields

end Evaluation

open Evaluation

/-! ## Built-in functions -/

namespace Builtin

theorem extremum_mem {name : String} {wins : Ordering → Bool} {best v : Value} {vs : List Value}
    (h : extremum name wins best vs = .ok v) : v ∈ best :: vs := by
  induction vs generalizing best with
  | nil =>
    unfold extremum at h
    split at h
    · obtain rfl := Except.ok.inj h
      exact List.mem_cons_self
    · cases h
  | cons candidate rest ih =>
    unfold extremum at h
    split at h
    · have hv := ih h
      split at hv
      · exact List.mem_cons_of_mem _ hv
      · rcases List.mem_cons.mp hv with rfl | hv
        · exact List.mem_cons_self
        · exact List.mem_cons_of_mem _ (List.mem_cons_of_mem _ hv)
    · cases h

/-- Arguments all of one type leave only that type to the one that is chosen. -/
theorem covers_chosen {types : List StaticType} {vs : List Value}
    (h : List.Forall₂ Covers types vs) {v : Value} (hv : v ∈ vs)
    (hall : types.all (· == types.headD none) = true) : (types.headD none).Covers v := by
  obtain ⟨i, hi, rfl⟩ := List.getElem_of_mem hv
  have hti : i < types.length := h.length_eq ▸ hi
  have ht := List.all_eq_true.mp hall types[i] (List.getElem_mem hti)
  exact eq_of_beq ht ▸ h.get hti hi

/-- A function other than `min` and `max` has results of one type only. -/
theorem type_of_apply {f : Builtin} {types : List StaticType} {args : List Value} {now : Instant}
    {v : Value} (hmin : f ≠ .min) (hmax : f ≠ .max) (h : f.apply args now = .ok v) :
    (f.returnType types).Covers v := by
  unfold apply at h
  dsimp only at h
  split at h
  all_goals try split at h
  all_goals
    first
      | obtain rfl := Except.ok.inj h
        first
          | exact covers_null _
          | exact fun _ => .inr rfl
      | cases h
      | exact absurd rfl hmin
      | exact absurd rfl hmax

/-- The result of a call has the type that the types of the arguments promise. -/
theorem covers_call {f : Builtin} {types : List StaticType} {args : List Value} {now : Instant}
    {v : Value} (hargs : List.Forall₂ Covers types args) (h : f.call args now = .ok v) :
    (f.returnType types).Covers v := by
  unfold call at h
  split at h
  · obtain rfl := Except.ok.inj h
    exact covers_null _
  · by_cases hf : f = .min ∨ f = .max
    · -- The result is one of the arguments.
      have hv : v = .null ∨ v ∈ args := by
        rcases hf with rfl | rfl
        all_goals
          cases args with
          | nil => exact .inl (Except.ok.inj h).symm
          | cons best rest => exact .inr (extremum_mem h)
      have hr : f.returnType types =
          if types.all (· == types.headD none) then types.headD none else none := by
        rcases hf with rfl | rfl <;> rfl
      rw [hr]
      rcases hv with rfl | hv
      · exact covers_null _
      · split
        · next hall => exact covers_chosen hargs hv hall
        · exact covers_any v
    · exact type_of_apply (fun hm => hf (.inl hm)) (fun hm => hf (.inr hm)) h

end Builtin

/-! ## Nodes -/

section Nodes

variable {c : Context} {bindings : List Value}

theorem yields_connect (decisive : Bool) (ns : List Node) (unknown : Option EvalError) :
    Yields (Node.connect c decisive ns unknown bindings) (Covers (some .bool)) := by
  induction ns generalizing unknown with
  | nil =>
    cases unknown with
    | none => exact .pure (covers_type (.bool _))
    | some e => exact .throw e
  | cons n ns ih =>
    refine .after fun v => ?_
    cases v with
    | error e => exact ih _
    | ok b =>
      dsimp only
      split
      · exact .pure (covers_type (.bool _))
      · exact ih _

theorem yields_connective {kept : List Node} (h : kept ≠ []) (isAnd : Bool) :
    Yields ((connective isAnd kept).eval c bindings) (Covers (some .bool)) := by
  rw [connective_of_ne_nil h]
  cases isAnd with
  | true => exact .after fun _ => yields_connect false _ none
  | false => exact .after fun _ => yields_connect true _ none

theorem yields_const (v : Value) :
    Yields ((Node.const v).eval c bindings) (Covers (some v.type)) :=
  .after fun _ => .pure (covers_type v)

/-- A folded node has the type of its value, another one what its kind tells. -/
theorem yields_of_fold {n : Node} {pos : Nat} {res : Typed} (hf : fold n pos = .ok res)
    (h : Yields (n.eval c bindings) n.kindType.Covers) :
    Yields (res.1.eval c bindings) res.2.Covers := by
  obtain ⟨m, t⟩ := res
  rcases fold_eq_ok.mp hf with ⟨-, v, -, rfl, rfl⟩ | ⟨-, rfl, rfl⟩
  · exact yields_const v
  · exact h

theorem yields_evalAll {ts : List Typed}
    (h : ∀ t ∈ ts, Yields (t.1.eval c bindings) t.2.Covers) :
    Yields (Node.evalAll c (ts.map (·.1)) bindings) (List.Forall₂ Covers (ts.map (·.2))) := by
  induction ts with
  | nil => exact .pure .nil
  | cons t ts ih =>
    have ⟨ht, hts⟩ := List.forall_mem_cons.mp h
    exact ht.bind fun v hv => (ih hts).bind fun vs hvs => .pure (.cons hv hvs)

/-- The subject of an event is a string. -/
theorem covers_lookup {f : Field} :
    StaticType.Covers (if f.root = .subject then some .string else none)
      ((f.lookup? c bindings).getD .null) := by
  split
  · next hr =>
    unfold Field.lookup?
    rw [hr]
    dsimp only
    cases c.event with
    | none => exact covers_null _
    | some event =>
      rw [Option.bind_some, Field.find?, hr]
      cases f.segments with
      | nil => exact covers_type (.string event.subject)
      | cons s rest => exact covers_null _
  · exact covers_any _

/-- Whatever a compiled node evaluates to has its static type. -/
theorem Lowered.yields {fs : HostFunctions} {scope : List String} {res : Typed}
    (h : Lowered fs scope res) (c : Context) (bindings : List Value) :
    Yields (res.1.eval c bindings) res.2.Covers := by
  induction h generalizing bindings with
  | literal v => exact yields_const v
  | field => exact .after fun _ => .pure covers_lookup
  | existing => exact .after fun _ => .pure (covers_type (.bool _))
  | neg _ _ hf => exact yields_of_fold hf fun _ _ _ _ => covers_any _
  | not _ _ hf | like _ _ hf | matching _ _ hf | within _ hf =>
    exact yields_of_fold hf (.after fun _ => .after fun _ => .ofVerdict _)
  | isNull _ hf =>
    exact yields_of_fold hf (.after fun _ => .after fun _ => .pure (covers_type (.bool _)))
  | compare _ _ _ hf =>
    exact yields_of_fold hf (.after fun _ => .after fun _ => .after fun _ => .ofVerdict _)
  | between _ _ _ hf =>
    exact yields_of_fold hf
      (.after fun _ => .after fun _ => .after fun _ => .after fun _ => .ofVerdict _)
  | connective hne => exact yields_connective (by simpa using hne) _
  | builtin _ _ _ hf ih =>
    rcases fold_eq_ok.mp hf with ⟨-, v, -, rfl, rfl⟩ | ⟨-, rfl, rfl⟩
    · exact yields_const v
    · exact .after fun _ => (yields_evalAll fun t ht => ih t ht bindings).bind fun vs hvs =>
        .lift fun v hv => Builtin.covers_call hvs hv
  | host => exact fun _ _ _ _ => covers_any _
  | quantifier => exact .after fun _ => .after fun v => .quantifyOver _ _ v

end Nodes

/-! ## Phrases and filters -/

/-- What it means that a result has a known type. -/
theorem Evaluation.Yields.result {x : Evaluation Value} {t : ValueType} (ht : t ≠ .null)
    (h : Yields x (Covers (some t))) (m : Meter) :
    (∃ err, (x m).1 = .error err) ∨ (x m).1 = .ok .null ∨ ∃ v, (x m).1 = .ok v ∧ v.type = t := by
  rcases hx : x m with ⟨err | v, m'⟩
  · exact .inl ⟨err, rfl⟩
  · have hknown : StaticType.isKnown (some t) = true := by
      simp [StaticType.isKnown, ht]
    rcases h m m' v hx hknown with rfl | hv
    · exact .inr (.inl rfl)
    · exact .inr (.inr ⟨v, rfl, Option.some.inj hv⟩)

/-- A value of a filter whose type is boolean is a truth value. -/
theorem truth_of_covers {v : Value} (h : Covers (some .bool) v) : ∃ b, truth v = .ok b := by
  rcases h rfl with rfl | hv
  · exact ⟨false, rfl⟩
  · cases v with
    | bool b => exact ⟨b, rfl⟩
    | _ => cases hv

/-- A filter is evaluated to the truth value of its value. -/
theorem Expression.evaluate_eq_truth (e : Expression) (event : Event) (b : Budget) (now : Instant) :
    (e.evaluate event b now).1 = (e.value event b now).1.bind truth := by
  unfold Expression.value Expression.evaluate judge
  rcases e.root.eval ⟨some event, now, b⟩ [] Meter.zero with ⟨err | v, m⟩
  · dsimp only
    cases err.isOverrun <;> rfl
  · rfl

/-- Static types are sound. Evaluating a phrase whose static type is known, whatever the event, the
bound elements, the budget and the meter, is an error, null, or a value of that type. Hence the
value of a filter of boolean type always is a truth value: an error of such a filter is one that its
evaluation ends with, and never that its value is no boolean. -/
theorem static_types_sound (fs : HostFunctions) :
    (∀ (e : Expr) (scope : List String) (n : Node) (t : ValueType),
      e.lower fs scope = .ok (n, some t) → t ≠ .null →
      ∀ (c : Context) (bindings : List Value) (m : Meter),
        (∃ err, (n.eval c bindings m).1 = .error err) ∨ (n.eval c bindings m).1 = .ok .null ∨
          ∃ v, (n.eval c bindings m).1 = .ok v ∧ v.type = t) ∧
    ∀ (source : String) (ast : Expr) (root : Node),
      parse source = .ok ast → ast.lower fs [] = .ok (root, some .bool) →
      ∃ e, compile fs source = .ok e ∧ e.root = root ∧
        ∀ (event : Event) (b : Budget) (now : Instant),
          (∀ v, (e.value event b now).1 = .ok v → ∃ holds, truth v = .ok holds) ∧
          ∀ err, (e.evaluate event b now).1 = .error err →
            (e.value event b now).1 = .error err := by
  constructor
  · intro e scope n t h ht c bindings m
    exact ((lowered_of_lower e h).yields c bindings).result ht m
  · intro source ast root hparse hlower
    refine ⟨⟨source, root⟩, compile_eq_ok.mpr ⟨ast, root, _, hparse, hlower, rfl, rfl⟩, rfl,
      fun event b now => ?_⟩
    have hy : Yields (root.eval ⟨some event, now, b⟩ []) (Covers (some .bool)) :=
      (lowered_of_lower ast hlower).yields _ _
    -- Null counts as a truth value too, so the only error that is left is one of the evaluation.
    have htruth (v : Value) (hv : (Expression.value ⟨source, root⟩ event b now).1 = .ok v) :
        ∃ holds, truth v = .ok holds := truth_of_covers (hy _ _ v (Prod.ext hv rfl))
    refine ⟨htruth, fun err herr => ?_⟩
    rw [Expression.evaluate_eq_truth] at herr
    cases hv : (Expression.value ⟨source, root⟩ event b now).1 with
    | error e =>
      rw [hv] at herr
      exact congrArg Except.error (Except.error.inj herr)
    | ok v =>
      obtain ⟨holds, hh⟩ := htruth v hv
      rw [hv] at herr
      exact nomatch hh.symm.trans herr

/-- The smaller of two bound elements' lengths; the type is that of both arguments. -/
def shorterLength : Expr :=
  .call "min" [.expr (.call "length" [.expr (.path ⟨"x", [], 0⟩)] 0),
    .expr (.call "length" [.expr (.path ⟨"y", [], 0⟩)] 0)] 0

/-- The node that it compiles to. -/
def shorterLengthNode : Node :=
  .call .min [.call .length [.field ⟨.binding 0, []⟩], .call .length [.field ⟨.binding 1, []⟩]]

/-- A filter about the subject alone, which is always a text. -/
def subjectFilter : String := "min(length(subject), 3) == 3 OR subject IN ('a', 'b')"

theorem static_types_sound_min :
    shorterLength.lower .empty ["x", "y"] = .ok (shorterLengthNode, some .number) ∧
    (∀ (c : Context) (bindings : List Value) (m : Meter),
      (∃ err, (shorterLengthNode.eval c bindings m).1 = .error err) ∨
        (shorterLengthNode.eval c bindings m).1 = .ok .null ∨
        ∃ v, (shorterLengthNode.eval c bindings m).1 = .ok v ∧ v.type = .number) ∧
    ∃ e, compile .empty subjectFilter = .ok e ∧
      ∀ (event : Event) (b : Budget) (now : Instant) (err : EvalError),
        (e.evaluate event b now).1 = .error err → (e.value event b now).1 = .error err := by
  have hmin : shorterLength.lower .empty ["x", "y"] = .ok (shorterLengthNode, some .number) := rfl
  have ⟨hphrase, hfilter⟩ := static_types_sound .empty
  refine ⟨hmin, hphrase _ _ _ _ hmin nofun, ?_⟩
  have htype : ((parse subjectFilter).toOption.bind fun ast =>
      (ast.lower .empty []).toOption.map (·.2)) = some (some .bool) := by decide +kernel
  obtain ⟨ast, hparse, htype⟩ := Option.bind_eq_some_iff.mp htype
  obtain ⟨⟨root, t⟩, hlower, rfl⟩ := Option.map_eq_some_iff.mp htype
  obtain ⟨e, he, -, hev⟩ :=
    hfilter subjectFilter ast root (toOption_eq_some.mp hparse) (toOption_eq_some.mp hlower)
  exact ⟨e, he, fun event b now err => (hev event b now).2 err⟩

end Switchyard.Filter
