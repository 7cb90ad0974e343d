import Switchyard.Proofs.Rule.Compile
import Switchyard.Registry.Basic

/-!
# Rule lists as maps

A list of rules with distinct identifiers is a map that remembers the order in which its keys came.
Putting a rule in keeps it one: a rule in force is replaced where it stands, and any other rule
comes last.

* `holder?_eq_some`, `isTaken_iff`: what is found under an identifier.
* `place_of_inForce`, `place_of_not_inForce`: where a rule is put.
* `distinct_place`: the identifiers stay distinct.
-/

namespace Switchyard

namespace Registry

/-- The identifiers of the rules are distinct. -/
def Distinct (rules : List Rule) : Prop := (rules.map Rule.routeId).Nodup

/-- A rule that has not expired has an identifier. -/
def InForce (rules : List Rule) (id : String) (now : Instant) : Prop :=
  ∃ x ∈ rules, x.routeId = id ∧ x.isExpired now = false

variable {rules before after : List Rule} {id : String} {x y : Rule} {now : Instant}

theorem distinct_cons :
    Distinct (x :: rules) ↔ (∀ y ∈ rules, y.routeId ≠ x.routeId) ∧ Distinct rules := by
  unfold Distinct
  rw [List.map_cons, List.nodup_cons, List.mem_map]
  exact and_congr_left fun _ => ⟨fun h y hy he => h ⟨y, hy, he⟩, fun h ⟨y, hy, he⟩ => h y hy he⟩

theorem Distinct.filter (h : Distinct rules) (p : Rule → Bool) : Distinct (rules.filter p) :=
  List.Nodup.sublist (List.filter_sublist.map _) h

theorem Distinct.append_singleton (h : Distinct rules) (hx : ∀ y ∈ rules, y.routeId ≠ x.routeId) :
    Distinct (rules ++ [x]) := by
  have hp : (rules ++ [x]).map Rule.routeId |>.Perm ((x :: rules).map Rule.routeId) :=
    (List.perm_append_singleton x rules).map _
  exact hp.nodup_iff.mpr (distinct_cons.mpr ⟨hx, h⟩)

theorem Distinct.eq (h : Distinct rules) (hx : x ∈ rules) (hy : y ∈ rules)
    (he : x.routeId = y.routeId) : x = y := by
  induction rules with
  | nil => cases hx
  | cons z rules ih =>
    have ⟨hz, hr⟩ := distinct_cons.mp h
    rcases List.mem_cons.mp hx with rfl | hx' <;> rcases List.mem_cons.mp hy with rfl | hy'
    · rfl
    · exact absurd he.symm (hz y hy')
    · exact absurd he (hz x hx')
    · exact ih hr hx' hy'

/-! ## What is found -/

theorem routeId_of_holder? (h : holder? rules id = some x) : x ∈ rules ∧ x.routeId = id := by
  unfold holder? at h
  exact ⟨List.mem_of_find?_eq_some h, by simpa using List.find?_some h⟩

theorem holder?_eq_none : holder? rules id = none ↔ ∀ x ∈ rules, x.routeId ≠ id := by
  unfold holder?
  rw [List.find?_eq_none]
  exact forall₂_congr fun x _ => not_congr beq_iff_eq

theorem holder?_eq_some (h : Distinct rules) :
    holder? rules id = some x ↔ x ∈ rules ∧ x.routeId = id := by
  refine ⟨routeId_of_holder?, ?_⟩
  rintro ⟨hx, rfl⟩
  cases hy : holder? rules x.routeId with
  | none => exact absurd rfl (holder?_eq_none.mp hy x hx)
  | some y =>
    obtain ⟨hm, hid⟩ := routeId_of_holder? hy
    exact congrArg some (h.eq hm hx hid)

theorem isTaken_iff (h : Distinct rules) : isTaken rules id now = true ↔ InForce rules id now := by
  unfold isTaken InForce
  rw [Option.any_eq_true]
  refine exists_congr fun x => ?_
  rw [holder?_eq_some h, and_assoc, Bool.not_eq_true']

theorem isTaken_eq_false_iff (h : Distinct rules) :
    isTaken rules id now = false ↔ ¬InForce rules id now := by
  rw [← isTaken_iff h, Bool.not_eq_true]

/-! ## Replacing -/

theorem map_routeId_replaced (rules : List Rule) (y : Rule) :
    (replaced rules y).map Rule.routeId = rules.map Rule.routeId := by
  unfold replaced
  rw [List.map_map]
  refine List.map_congr_left fun x _ => ?_
  by_cases h : x.routeId = y.routeId <;> simp [h]

theorem Distinct.replaced (h : Distinct rules) (y : Rule) : Distinct (replaced rules y) := by
  unfold Distinct
  rwa [map_routeId_replaced]

theorem replaced_of_ne (h : ∀ x ∈ rules, x.routeId ≠ y.routeId) :
    Registry.replaced rules y = rules := by
  unfold Registry.replaced
  refine (List.map_congr_left fun x hx => ?_).trans (List.map_id rules)
  simp [h x hx]

theorem replaced_eq_append (hd : Distinct (before ++ x :: after)) (h : x.routeId = y.routeId) :
    Registry.replaced (before ++ x :: after) y = before ++ y :: after := by
  unfold Distinct at hd
  rw [List.map_append, List.map_cons, List.nodup_append] at hd
  obtain ⟨-, ha, hb⟩ := hd
  have hbefore : ∀ z ∈ before, z.routeId ≠ y.routeId :=
    fun z hz => h ▸ hb _ (List.mem_map_of_mem hz) _ List.mem_cons_self
  have hafter : ∀ z ∈ after, z.routeId ≠ y.routeId :=
    fun z hz he => (List.nodup_cons.mp ha).1 (h ▸ he ▸ List.mem_map_of_mem hz)
  have hsplit : Registry.replaced (before ++ x :: after) y =
      Registry.replaced before y ++ y :: Registry.replaced after y := by
    simp [Registry.replaced, h]
  rw [hsplit, replaced_of_ne hbefore, replaced_of_ne hafter]

theorem mem_replaced (h : x ∈ Registry.replaced rules y) : x ∈ rules ∨ x = y := by
  obtain ⟨z, hz, rfl⟩ := List.mem_map.mp h
  by_cases he : z.routeId = y.routeId
  · exact .inr (by simp [he])
  · exact .inl (by simpa [he] using hz)

theorem without_replaced (rules : List Rule) (y : Rule) :
    without (Registry.replaced rules y) y.routeId = without rules y.routeId := by
  unfold without Registry.replaced
  induction rules with
  | nil => rfl
  | cons x rules ih => by_cases h : x.routeId = y.routeId <;> simpa [h] using ih

/-! ## Putting a rule in -/

/-- A rule in force is replaced where it stands. -/
theorem place_of_inForce (hd : Distinct rules) (h : InForce rules y.routeId now) :
    ∃ before x after, rules = before ++ x :: after ∧ x.routeId = y.routeId ∧
      place rules y now = before ++ y :: after := by
  obtain ⟨x, hx, hid, -⟩ := id h
  obtain ⟨before, after, rfl⟩ := List.append_of_mem hx
  refine ⟨before, x, after, rfl, hid, ?_⟩
  rw [place, if_pos ((isTaken_iff hd).mpr h), replaced_eq_append hd hid]

/-- If no rule is in force under its identifier, a rule comes last. -/
theorem place_of_not_inForce (hd : Distinct rules) (h : ¬InForce rules y.routeId now) :
    place rules y now = without rules y.routeId ++ [y] := by
  rw [place, if_neg (mt (isTaken_iff hd).mp h)]

theorem ne_of_mem_without (h : x ∈ without rules id) : x.routeId ≠ id :=
  bne_iff_ne.mp (List.mem_filter.mp h).2

theorem distinct_place (hd : Distinct rules) (y : Rule) (now : Instant) :
    Distinct (place rules y now) := by
  unfold place
  split
  · exact hd.replaced y
  · exact (hd.filter _).append_singleton fun x hx => ne_of_mem_without hx

theorem mem_place (h : x ∈ place rules y now) : x ∈ rules ∨ x = y := by
  unfold place at h
  split at h
  · exact mem_replaced h
  · exact (List.mem_append.mp h).imp (fun hx => (List.mem_filter.mp hx).1) List.mem_singleton.mp

theorem mem_place_self (hd : Distinct rules) (y : Rule) (now : Instant) :
    y ∈ place rules y now := by
  by_cases h : InForce rules y.routeId now
  · obtain ⟨before, x, after, -, -, hp⟩ := place_of_inForce hd h
    rw [hp]
    exact List.mem_append_right _ List.mem_cons_self
  · rw [place_of_not_inForce hd h]
    exact List.mem_append_right _ List.mem_cons_self

/-- Rules of other identifiers are left as they are. -/
theorem without_place (rules : List Rule) (y : Rule) (now : Instant) :
    without (place rules y now) y.routeId = without rules y.routeId := by
  unfold place
  split
  · exact without_replaced rules y
  · simp [without]

end Registry

end Switchyard
