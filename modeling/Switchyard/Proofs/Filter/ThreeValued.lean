import Switchyard.Filter.Eval
import Switchyard.Proofs.Result

/-!
# Three-valued connectives

A truth value is known or, with an error, unknown. What `AND`, `OR` and the quantifiers make of the
truth values of their operands is first said in order, with the error that is reported, and then
without any order.

* `connectFrom`: goes through the truth values from first to last. The first decisive one decides
  and, if there is none, the first unknown one is what is reported.
* `kleene`: only asks which truth values are there.
* `not_connectFrom`: an `AND` that is negated is an `OR` over what is negated, with the same error.
* `toOption_connectFrom`: the two agree up to the choice of the error.
* `kleene_perm`, `kleeneOver_perm`: the order of operands and elements does not count.
-/

namespace Switchyard.Filter

variable {ε : Type}

/-- The truth value of an `AND` (`decisive` is false) or `OR` (`decisive` is true) from those of its
operands that are left, with the first unknown one so far. -/
def connectFrom (decisive : Bool) : Option ε → List (Except ε Bool) → Except ε Bool
  | unknown, [] => unknown.elim (.ok !decisive) .error
  | unknown, .ok b :: vs => if b = decisive then .ok decisive else connectFrom decisive unknown vs
  | unknown, .error e :: vs => connectFrom decisive (unknown.or (some e)) vs

/-- Whether a truth value is known and true. -/
def isTrue : Except ε Bool → Bool
  | .ok b => b
  | .error _ => false

/-- The value of a quantifier from the truth values of its elements: `any` is an `OR` over them and
`all` an `AND`, and `count` says how many are true. -/
def quantifyValues (kind : Quantifier) (vs : List (Except ε Bool)) : Except ε Value :=
  match kind with
  | .any => (connectFrom true none vs).map .bool
  | .all => (connectFrom false none vs).map .bool
  | .count => .ok (.number (.ofNat (vs.countP isTrue)))

/-- The value of a quantifier over the value of its collection, where `fail` makes an error of its
own of one that evaluation has. -/
def quantifyItems (kind : Quantifier) (fail : EvalError → ε) (test : Value → Except ε Bool) :
    Value → Except ε Value
  | .array items => quantifyValues kind (items.map test)
  | .null => .ok (if kind = .count then .null else .bool false)
  | v => .error (fail (.typeMismatch kind.name v.type .array))

/-- The truth value of an `AND` or `OR` whose operands have the given ones. -/
def kleene (decisive : Bool) (vs : List (Option Bool)) : Option Bool :=
  if some decisive ∈ vs then some decisive else if none ∈ vs then none else some !decisive

/-- The value of a quantifier whose elements have the given truth values. -/
def kleeneOver (kind : Quantifier) (vs : List (Option Bool)) : Option Value :=
  match kind with
  | .any => (kleene true vs).map .bool
  | .all => (kleene false vs).map .bool
  | .count => some (.number (.ofNat (vs.count (some true))))

/-- The value of a quantifier over the value of its collection. -/
def kleeneItems (kind : Quantifier) (test : Value → Option Bool) : Value → Option Value
  | .array items => kleeneOver kind (items.map test)
  | .null => some (if kind = .count then .null else .bool false)
  | _ => none

/-! ## Negation -/

theorem map_not_not (v : Except ε Bool) : (v.map (!·)).map (!·) = v := by
  cases v with
  | ok b => simp [Except.map]
  | error e => rfl

/-- An operand decides the negated connective just if its negation decides the dual one, so that the
unknown operands on the way are the same. -/
theorem not_connectFrom (decisive : Bool) (unknown : Option ε) (vs : List (Except ε Bool)) :
    (connectFrom decisive unknown vs).map (!·) =
      connectFrom (!decisive) unknown (vs.map (·.map (!·))) := by
  induction vs generalizing unknown with
  | nil => cases unknown <;> simp [connectFrom, Except.map]
  | cons v vs ih =>
    cases v with
    | error e => exact ih _
    | ok b =>
      have hb : (!b) = (!decisive) ↔ b = decisive := Bool.not_inj_iff
      rw [List.map_cons, connectFrom, Except.map, connectFrom]
      simp only [hb]
      split
      · rfl
      · exact ih unknown

/-! ## Without the order -/

theorem kleene_perm {vs ws : List (Option Bool)} (h : vs.Perm ws) (decisive : Bool) :
    kleene decisive vs = kleene decisive ws := by
  unfold kleene
  simp only [h.mem_iff]

theorem kleeneOver_perm {vs ws : List (Option Bool)} (h : vs.Perm ws) (kind : Quantifier) :
    kleeneOver kind vs = kleeneOver kind ws := by
  cases kind with
  | any => simp only [kleeneOver, kleene_perm h]
  | all => simp only [kleeneOver, kleene_perm h]
  | count => simp only [kleeneOver, h.count_eq]

/-- An operand that decides makes the others irrelevant. -/
theorem kleene_of_mem {decisive : Bool} {vs : List (Option Bool)} (h : some decisive ∈ vs) :
    kleene decisive vs = some decisive := if_pos h

/-- An operand that can decide nothing may be dropped. -/
theorem kleene_cons_not (decisive : Bool) (vs : List (Option Bool)) :
    kleene decisive (some (!decisive) :: vs) = kleene decisive vs := by
  unfold kleene
  cases decisive <;> simp

@[simp] theorem kleene_nil (decisive : Bool) : kleene decisive [] = some !decisive := by
  simp [kleene]

/-! ## From the order to none -/

theorem toOption_connectFrom (decisive : Bool) (unknown : Option ε) (vs : List (Except ε Bool)) :
    (connectFrom decisive unknown vs).toOption =
      if some decisive ∈ vs.map Except.toOption then some decisive
      else if unknown.isSome ∨ none ∈ vs.map Except.toOption then none
      else some !decisive := by
  induction vs generalizing unknown with
  | nil => cases unknown <;> simp [connectFrom, Except.toOption]
  | cons v vs ih =>
    cases v with
    | error e =>
      -- From here on an operand is unknown, whatever was so before.
      rw [connectFrom, ih]
      simp [Except.toOption]
    | ok b =>
      by_cases hb : b = decisive
      · simp [connectFrom, hb, Except.toOption]
      · have hs : some decisive ≠ some b := fun h => hb (Option.some.inj h).symm
        rw [connectFrom, if_neg hb, ih]
        simp [hs, Except.toOption]

theorem toOption_connect (decisive : Bool) (vs : List (Except ε Bool)) :
    (connectFrom decisive none vs).toOption = kleene decisive (vs.map Except.toOption) := by
  rw [toOption_connectFrom]
  simp [kleene]

theorem countP_isTrue (vs : List (Except ε Bool)) :
    vs.countP isTrue = (vs.map Except.toOption).count (some true) := by
  induction vs with
  | nil => rfl
  | cons v vs ih =>
    rw [List.countP_cons, List.map_cons, List.count_cons, ih]
    congr 1
    cases v with
    | error e => rfl
    | ok b => cases b <;> rfl

theorem toOption_quantifyValues (kind : Quantifier) (vs : List (Except ε Bool)) :
    (quantifyValues kind vs).toOption = kleeneOver kind (vs.map Except.toOption) := by
  cases kind with
  | any => rw [quantifyValues, toOption_map, toOption_connect, kleeneOver]
  | all => rw [quantifyValues, toOption_map, toOption_connect, kleeneOver]
  | count => rw [quantifyValues, kleeneOver, countP_isTrue]; rfl

theorem toOption_quantifyItems (kind : Quantifier) (fail : EvalError → ε)
    (test : Value → Except ε Bool) (v : Value) :
    (quantifyItems kind fail test v).toOption =
      kleeneItems kind (fun item => (test item).toOption) v := by
  cases v with
  | array items =>
    rw [quantifyItems, toOption_quantifyValues, kleeneItems, List.map_map]
    rfl
  | null => rfl
  | _ => rfl

end Switchyard.Filter
