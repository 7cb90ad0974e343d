import Switchyard.Value.Basic

/-!
# Equality and order of values

Values are equal when they have the same content, a NaN and the sign of a zero included; so the
equality of filters is that of values. They are ordered only within the types that have an order,
where a NaN is left out and the two zeros are level.

* `Value.strictEq_iff_eq`: the equality of filters.
* `Value.isOrdered`, `Value.isSome_compare?_iff`: which values have an order, and with which others.
* `Value.compare?_swap`, `Value.compare?_trans`: two values the other way round, and three values.
* `Value.compare?_of_eq`: an ordered value is level with those it is equal to.
* `Value.lawful_comparisons`: all of it for any three values.
-/

namespace Switchyard

/-! ## The orders of the types -/

/-- Whether `o` is what two comparisons one behind the other come to. Nothing is asked if they point
in opposite directions. -/
def Joins (o₁ o₂ o : Ordering) : Prop :=
  (o₁ ≠ .gt → o₂ ≠ .gt → o = o₁.then o₂) ∧ (o₁ ≠ .lt → o₂ ≠ .lt → o = o₁.then o₂)

theorem joins_of_transCmp {α : Type} {cmp : α → α → Ordering} [Std.TransCmp cmp] (a b c : α) :
    Joins (cmp a b) (cmp b c) (cmp a c) := by
  cases hab : cmp a b <;> cases hbc : cmp b c
  case lt.lt => simp [Joins, Std.TransCmp.lt_trans hab hbc]
  case lt.eq => simp [Joins, Std.TransCmp.lt_of_lt_of_eq hab hbc]
  case eq.lt => simp [Joins, Std.TransCmp.lt_of_eq_of_lt hab hbc]
  case eq.eq => simp [Joins, Std.TransCmp.eq_trans hab hbc]
  case eq.gt => simp [Joins, Std.TransCmp.gt_of_eq_of_gt hab hbc]
  case gt.eq => simp [Joins, Std.TransCmp.gt_of_gt_of_eq hab hbc]
  case gt.gt => simp [Joins, Std.TransCmp.gt_trans hab hbc]
  case lt.gt | gt.lt => simp [Joins]

instance : Std.TransCmp Text.order := inferInstanceAs (Std.TransCmp fun a b : String => compare a b)

instance : Std.TransCmp Instant.compare :=
  inferInstanceAs
    (Std.TransCmp (compareLex (compareOn Instant.seconds) (compareOn Instant.nanos)))

instance : Std.TransCmp Span.compare :=
  inferInstanceAs (Std.TransCmp (compareOn Span.nanoseconds))

theorem Binary64.compare?_of_not_nan {x y : Binary64} (hx : x.isNaN = false)
    (hy : y.isNaN = false) : x.compare? y = some (compare x.key y.key) := by
  simp [compare?, hx, hy]

theorem Binary64.compare?_eq_some {x y : Binary64} {o : Ordering} :
    x.compare? y = some o ↔ (x.isNaN = false ∧ y.isNaN = false) ∧ compare x.key y.key = o := by
  cases hx : x.isNaN <;> cases hy : y.isNaN <;> simp [compare?, hx, hy]

namespace Value

/-! ## Equality -/

mutual

theorem eq_of_strictEq (a : Value) {b : Value} (h : a.strictEq b = true) : a = b := by
  cases a with
  | null => cases b with
    | null => rfl
    | _ => cases h
  | bool x => cases b with
    | bool y => exact congrArg Value.bool (eq_of_beq h)
    | _ => cases h
  | number x => cases b with
    | number y => exact congrArg Value.number (eq_of_beq h)
    | _ => cases h
  | string x => cases b with
    | string y => exact congrArg Value.string (eq_of_beq h)
    | _ => cases h
  | timestamp x => cases b with
    | timestamp y => exact congrArg Value.timestamp (eq_of_beq h)
    | _ => cases h
  | duration x => cases b with
    | duration y => exact congrArg Value.duration (eq_of_beq h)
    | _ => cases h
  | array xs => cases b with
    | array ys => exact congrArg Value.array (eq_of_strictEqItems xs h)
    | _ => cases h
  | object xs => cases b with
    | object ys => exact congrArg Value.object (eq_of_strictEqMembers xs h)
    | _ => cases h
termination_by structural a

theorem eq_of_strictEqItems (xs : List Value) {ys : List Value}
    (h : strictEqItems xs ys = true) : xs = ys := by
  match xs, ys with
  | [], [] => rfl
  | [], _ :: _ | _ :: _, [] => cases h
  | x :: xs, y :: ys =>
    obtain ⟨hx, hxs⟩ := (Bool.and_eq_true _ _).mp h
    rw [eq_of_strictEq x hx, eq_of_strictEqItems xs hxs]

theorem eq_of_strictEqMembers (xs : List (String × Value)) {ys : List (String × Value)}
    (h : strictEqMembers xs ys = true) : xs = ys := by
  match xs, ys with
  | [], [] => rfl
  | [], _ :: _ | _ :: _, [] => cases h
  | (k, x) :: xs, (l, y) :: ys =>
    obtain ⟨hkx, hxs⟩ := (Bool.and_eq_true _ _).mp h
    obtain ⟨hk, hx⟩ := (Bool.and_eq_true _ _).mp hkx
    rw [eq_of_beq hk, eq_of_strictEq x hx, eq_of_strictEqMembers xs hxs]

end

mutual

theorem strictEq_self : ∀ a : Value, a.strictEq a = true
  | .null => rfl
  | .bool x => beq_self_eq_true x
  | .number x => beq_self_eq_true x
  | .string x => beq_self_eq_true x
  | .timestamp x => beq_self_eq_true x
  | .duration x => beq_self_eq_true x
  | .array xs => strictEqItems_self xs
  | .object xs => strictEqMembers_self xs

theorem strictEqItems_self : ∀ xs : List Value, strictEqItems xs xs = true
  | [] => rfl
  | x :: xs => by simp [strictEqItems, strictEq_self x, strictEqItems_self xs]

theorem strictEqMembers_self : ∀ xs : List (String × Value), strictEqMembers xs xs = true
  | [] => rfl
  | (k, x) :: xs => by simp [strictEqMembers, strictEq_self x, strictEqMembers_self xs]

end

/-- Values are equal in a filter exactly when they are the same value. -/
theorem strictEq_iff_eq {a b : Value} : a.strictEq b = true ↔ a = b :=
  ⟨eq_of_strictEq a, fun h => h ▸ strictEq_self a⟩

theorem strictEq_comm (a b : Value) : a.strictEq b = b.strictEq a := by
  rw [Bool.eq_iff_iff, strictEq_iff_eq, strictEq_iff_eq, eq_comm]

/-! ## Order -/

/-- Whether a value has a place in the order of its type: it is a number other than NaN, a string, a
timestamp or a duration. -/
def isOrdered : Value → Bool
  | .number x => !x.isNaN
  | .string _ | .timestamp _ | .duration _ => true
  | .null | .bool _ | .array _ | .object _ => false

variable {a b c : Value} {o o₁ o₂ : Ordering}

/-- Which values compare, one line for each type. -/
theorem compare?_cases (h : a.compare? b = some o) :
    (∃ x y, a = .number x ∧ b = .number y ∧ x.compare? y = some o) ∨
    (∃ s t, a = .string s ∧ b = .string t ∧ Text.order s t = o) ∨
    (∃ s t, a = .timestamp s ∧ b = .timestamp t ∧ s.compare t = o) ∨
    (∃ s t, a = .duration s ∧ b = .duration t ∧ s.compare t = o) := by
  unfold compare? at h
  split at h
  · next x y => exact .inl ⟨x, y, rfl, rfl, h⟩
  · next s t => exact .inr (.inl ⟨s, t, rfl, rfl, Option.some.inj h⟩)
  · next s t => exact .inr (.inr (.inl ⟨s, t, rfl, rfl, Option.some.inj h⟩))
  · next s t => exact .inr (.inr (.inr ⟨s, t, rfl, rfl, Option.some.inj h⟩))
  · cases h

/-- Two values compare exactly when they are of one type and both have a place in its order. -/
theorem isSome_compare?_iff :
    (a.compare? b).isSome = true ↔
      a.type = b.type ∧ a.isOrdered = true ∧ b.isOrdered = true := by
  cases a with
  | number x => cases b with
    | number y =>
      cases hx : x.isNaN <;> cases hy : y.isNaN <;>
        simp [compare?, Binary64.compare?, isOrdered, type, hx, hy]
    | _ => simp [compare?, type]
  | _ => cases b <;> simp [compare?, isOrdered, type]

theorem exists_compare? (ht : a.type = b.type) (ha : a.isOrdered = true)
    (hb : b.isOrdered = true) : ∃ o, a.compare? b = some o :=
  Option.isSome_iff_exists.mp (isSome_compare?_iff.mpr ⟨ht, ha, hb⟩)

theorem compare?_swap (a b : Value) : b.compare? a = (a.compare? b).map Ordering.swap := by
  cases a with
  | number x => cases b with
    | number y => exact Binary64.compare?_swap x y
    | _ => rfl
  | string s => cases b with
    | string t => exact congrArg some Std.OrientedCmp.eq_swap
    | _ => rfl
  | timestamp s => cases b with
    | timestamp t => exact congrArg some Std.OrientedCmp.eq_swap
    | _ => rfl
  | duration s => cases b with
    | duration t => exact congrArg some Std.OrientedCmp.eq_swap
    | _ => rfl
  | null | bool _ | array _ | object _ => cases b <;> rfl

theorem compare?_trans (hab : a.compare? b = some o₁) (hbc : b.compare? c = some o₂) :
    ∃ o, a.compare? c = some o ∧ Joins o₁ o₂ o := by
  rcases compare?_cases hab with ⟨x, y, rfl, rfl, h⟩ | ⟨x, y, rfl, rfl, rfl⟩ |
    ⟨x, y, rfl, rfl, rfl⟩ | ⟨x, y, rfl, rfl, rfl⟩ <;>
    rcases compare?_cases hbc with ⟨y', z, hy, rfl, h'⟩ | ⟨y', z, hy, rfl, rfl⟩ |
      ⟨y', z, hy, rfl, rfl⟩ | ⟨y', z, hy, rfl, rfl⟩ <;> cases hy
  · obtain ⟨⟨hx, -⟩, rfl⟩ := Binary64.compare?_eq_some.mp h
    obtain ⟨⟨-, hz⟩, rfl⟩ := Binary64.compare?_eq_some.mp h'
    exact ⟨_, Binary64.compare?_of_not_nan hx hz, joins_of_transCmp x.key y.key z.key⟩
  · exact ⟨_, rfl, joins_of_transCmp x y z⟩
  · exact ⟨_, rfl, joins_of_transCmp x y z⟩
  · exact ⟨_, rfl, joins_of_transCmp x y z⟩

/-- A value that compares with itself is level with itself. -/
theorem compare?_self (h : a.compare? a = some o) : o = .eq := by
  have hswap := compare?_swap a a
  rw [h] at hswap
  cases o with
  | eq => rfl
  | lt | gt => cases hswap

theorem compare?_of_eq (h : a = b) (ha : (a.compare? a).isSome = true) :
    a.compare? b = some .eq := by
  obtain ⟨o, ho⟩ := Option.isSome_iff_exists.mp ha
  rw [← h, ho, compare?_self ho]

/-- For any three values, however nested: equality is reflexive, symmetric and transitive; a
comparison the other way round is the reverse, and is there exactly if the first one is; where two
comparisons one behind the other are there, so is the one of the outer values, and it is what the
two come to; and an ordered value is level with the values that it is equal to. -/
theorem lawful_comparisons (a b c : Value) :
    a.strictEq a = true ∧
    (a.strictEq b = true → b.strictEq a = true) ∧
    (a.strictEq b = true → b.strictEq c = true → a.strictEq c = true) ∧
    b.compare? a = (a.compare? b).map Ordering.swap ∧
    ((b.compare? a).isSome = true ↔ (a.compare? b).isSome = true) ∧
    (∀ o₁ o₂, a.compare? b = some o₁ → b.compare? c = some o₂ →
      ∃ o, a.compare? c = some o ∧
        (o₁ ≠ .gt → o₂ ≠ .gt → o = o₁.then o₂) ∧ (o₁ ≠ .lt → o₂ ≠ .lt → o = o₁.then o₂)) ∧
    (a.strictEq b = true → (a.compare? a).isSome = true → a.compare? b = some .eq) := by
  refine ⟨strictEq_self a, fun h => strictEq_comm a b ▸ h, fun hab hbc => ?_, compare?_swap a b, ?_,
    fun _ _ hab hbc => compare?_trans hab hbc, fun h ha => compare?_of_eq (strictEq_iff_eq.mp h) ha⟩
  · rw [strictEq_iff_eq] at hab hbc ⊢
    exact hab.trans hbc
  · rw [compare?_swap a b, Option.isSome_map]

/-- A NaN, a negative zero and a timestamp, inside arrays and objects. -/
def nestedValue : Value :=
  .array [.number ⟨0x7ff8000000000000⟩, .object [("k", .array [.number Binary64.zero.neg]),
    ("t", .timestamp ⟨5, 0⟩)]]

theorem lawful_comparisons_nested :
    nestedValue.strictEq nestedValue = true ∧ nestedValue.compare? nestedValue = none ∧
    (Value.number .zero).strictEq (.number Binary64.zero.neg) = false ∧
    (Value.number Binary64.zero.neg).compare? (.number .infinity) = some .lt ∧
    (Value.string "é").compare? (.string "é") = some .eq := by
  obtain ⟨-, -, hnested, -, -, -, -⟩ := lawful_comparisons nestedValue nestedValue nestedValue
  obtain ⟨-, -, -, -, -, hzero, -⟩ :=
    lawful_comparisons (.number Binary64.zero.neg) (.number .zero) (.number .infinity)
  obtain ⟨-, -, -, -, -, -, hlevel⟩ :=
    lawful_comparisons (.string "é") (.string "é") (.string "é")
  obtain ⟨o, ho, hlt, -⟩ := hzero .eq .lt (by decide) (by decide)
  refine ⟨hnested (by decide) (by decide), rfl, by decide, ?_, hlevel (by decide) rfl⟩
  rw [ho, hlt (by decide) (by decide)]
  rfl

end Value

end Switchyard
