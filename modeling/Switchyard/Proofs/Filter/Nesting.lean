import Switchyard.Proofs.Filter.WellFormed

/-!
# How deep predicates are nested

The nesting of a tree is the greatest number of predicates of quantifiers that stand around one of
its nodes.

* `Node.nesting`: by recursion on the tree.
* `Node.nesting_of_occurs`, `Node.exists_occurs_nesting`: no node stands deeper, and one stands as
  deep.
* `Node.nesting_eq_zero_iff`: without quantifiers there is no nesting.
* `Node.exists_occurs_host`: the host functions of a tree are those that a node of it calls.
-/

namespace Switchyard.Filter.Node

mutual

/-- How many predicates of quantifiers stand one inside the other, at most. -/
def nesting : Node → Nat
  | .const _ | .field _ | .existing _ => 0
  | .isNull n _ | .neg n | .not n | .like n _ _ | .matching n _ _ | .within n _ _ => n.nesting
  | .compare _ l r => max l.nesting r.nesting
  | .between n lo hi _ => max n.nesting (max lo.nesting hi.nesting)
  | .and ns | .or ns | .call _ ns | .host _ ns => nestings ns
  | .quantifier _ c _ p => max c.nesting (p.nesting + 1)

/-- How deeply quantifiers are nested in the deepest of several nodes. -/
def nestings : List Node → Nat
  | [] => 0
  | n :: ns => max n.nesting (nestings ns)

end

variable {n m root : Node} {ns : List Node} {depth below : Nat}

theorem nesting_le_nestings (h : n ∈ ns) : n.nesting ≤ nestings ns := by
  induction ns with
  | nil => cases h
  | cons m ns ih =>
    rw [nestings]
    rcases List.mem_cons.mp h with rfl | h
    · exact Nat.le_max_left _ _
    · exact Nat.le_trans (ih h) (Nat.le_max_right _ _)

theorem exists_nesting_eq_nestings (h : ns ≠ []) : ∃ n ∈ ns, n.nesting = nestings ns := by
  induction ns with
  | nil => exact absurd rfl h
  | cons n ns ih =>
    rw [nestings]
    by_cases hle : nestings ns ≤ n.nesting
    · exact ⟨n, List.mem_cons_self, (Nat.max_eq_left hle).symm⟩
    · have hne : ns ≠ [] := by
        rintro rfl
        exact hle (Nat.zero_le _)
      obtain ⟨m, hm, heq⟩ := ih hne
      exact ⟨m, List.mem_cons_of_mem n hm, by omega⟩

/-- Going down to a part does not make room for more predicates. -/
theorem nesting_of_mem_parts (h : (m, below) ∈ n.parts depth) :
    below + m.nesting ≤ depth + n.nesting := by
  cases n with
  | const | field | existing => cases h
  | neg a | not a | like a | matching a | within a | isNull a =>
    obtain ⟨⟩ := List.mem_singleton.mp h
    exact Nat.le_refl _
  | compare op l r =>
    simp only [parts, List.mem_cons, Prod.mk.injEq, List.not_mem_nil, or_false] at h
    rw [nesting]
    rcases h with ⟨rfl, rfl⟩ | ⟨rfl, rfl⟩ <;> omega
  | between a low high negated =>
    simp only [parts, List.mem_cons, Prod.mk.injEq, List.not_mem_nil, or_false] at h
    rw [nesting]
    rcases h with ⟨rfl, rfl⟩ | ⟨rfl, rfl⟩ | ⟨rfl, rfl⟩ <;> omega
  | and ns | or ns | call _ ns | host _ ns =>
    obtain ⟨k, hk, heq⟩ := List.mem_map.mp h
    obtain ⟨rfl, rfl⟩ := Prod.mk.inj heq
    exact Nat.add_le_add_left (nesting_le_nestings hk) _
  | quantifier kind collection slot predicate =>
    simp only [parts, List.mem_cons, Prod.mk.injEq, List.not_mem_nil, or_false] at h
    rw [nesting]
    rcases h with ⟨rfl, rfl⟩ | ⟨rfl, rfl⟩ <;> omega

/-- Some part has as many predicates in it or around it. -/
theorem exists_mem_parts_nesting (n : Node) (depth : Nat) :
    n.nesting = 0 ∨
      ∃ p ∈ n.parts depth, p.2 + p.1.nesting = depth + n.nesting := by
  cases n with
  | const | field | existing => exact .inl rfl
  | neg a | not a | like a | matching a | within a | isNull a =>
    exact .inr ⟨_, List.mem_singleton_self _, rfl⟩
  | compare op l r =>
    right
    rw [nesting]
    by_cases hle : r.nesting ≤ l.nesting
    · exact ⟨(l, depth), by simp [parts], by simp only; omega⟩
    · exact ⟨(r, depth), by simp [parts], by simp only; omega⟩
  | between a low high negated =>
    right
    rw [nesting]
    by_cases ha : max low.nesting high.nesting ≤ a.nesting
    · exact ⟨(a, depth), by simp [parts], by simp only; omega⟩
    · by_cases hlow : high.nesting ≤ low.nesting
      · exact ⟨(low, depth), by simp [parts], by simp only; omega⟩
      · exact ⟨(high, depth), by simp [parts], by simp only; omega⟩
  | and ns | or ns | call _ ns | host _ ns =>
    by_cases hns : ns = []
    · subst hns
      exact .inl rfl
    · obtain ⟨m, hm, heq⟩ := exists_nesting_eq_nestings hns
      exact .inr ⟨(m, depth), List.mem_map_of_mem hm, congrArg (depth + ·) heq⟩
  -- The collection stands outside the variable, the predicate inside: it is one level deeper.
  | quantifier kind collection slot predicate =>
    right
    rw [nesting]
    by_cases hle : predicate.nesting + 1 ≤ collection.nesting
    · exact ⟨(collection, depth), by simp [parts], by simp only; omega⟩
    · exact ⟨(predicate, depth + 1), by simp [parts], by simp only; omega⟩

theorem nesting_of_occurs (h : root.Occurs n depth) : depth + n.nesting ≤ root.nesting := by
  induction h with
  | root => exact Nat.le_of_eq (Nat.zero_add _)
  | part _ hm ih => exact Nat.le_trans (nesting_of_mem_parts hm) ih

theorem count_le_counts (h : n ∈ ns) : n.count ≤ counts ns := by
  induction ns with
  | nil => cases h
  | cons m ns ih =>
    rw [counts]
    rcases List.mem_cons.mp h with rfl | h
    · exact Nat.le_add_right _ _
    · exact Nat.le_trans (ih h) (Nat.le_add_left _ _)

theorem count_of_mem_parts (h : (m, below) ∈ n.parts depth) : m.count < n.count := by
  cases n with
  | const | field | existing => cases h
  | neg a | not a | like a | matching a | within a | isNull a =>
    obtain ⟨⟩ := List.mem_singleton.mp h
    rw [count]
    omega
  | compare | between | quantifier =>
    simp only [parts, List.mem_cons, Prod.mk.injEq, List.not_mem_nil, or_false] at h
    rw [count]
    rcases h with ⟨rfl, -⟩ | h <;> [skip; rcases h with ⟨rfl, -⟩ | ⟨rfl, -⟩] <;> omega
  | and ns | or ns | call _ ns | host _ ns =>
    obtain ⟨k, hk, heq⟩ := List.mem_map.mp h
    obtain ⟨rfl, -⟩ := Prod.mk.inj heq
    rw [count]
    have := count_le_counts hk
    omega

/-- Some node stands inside as many predicates as there are one inside the other. -/
theorem exists_occurs_nesting (n : Node) {depth : Nat} (h : root.Occurs n depth) :
    ∃ m, root.Occurs m (depth + n.nesting) := by
  rcases n.exists_mem_parts_nesting depth with hzero | ⟨⟨m, below⟩, hm, heq⟩
  · exact ⟨n, by rwa [hzero]⟩
  · have hless := count_of_mem_parts hm
    rw [← heq]
    exact exists_occurs_nesting m (h.part hm)
termination_by n.count

/-- What stands inside a predicate has a quantifier around it. -/
theorem exists_quantifier_of_occurs (h : root.Occurs n depth) (hpos : 0 < depth) :
    ∃ kind collection slot predicate above,
      root.Occurs (.quantifier kind collection slot predicate) above := by
  induction h with
  | root => cases hpos
  | @part k m depth below hk hm ih =>
    cases k with
    | quantifier kind collection slot predicate => exact ⟨_, _, _, _, _, hk⟩
    | const | field | existing => cases hm
    | neg a | not a | like a | matching a | within a | isNull a =>
      obtain ⟨⟩ := List.mem_singleton.mp hm
      exact ih hpos
    | compare | between =>
      simp only [parts, List.mem_cons, Prod.mk.injEq, List.not_mem_nil, or_false] at hm
      refine ih ?_
      omega
    | and ns | or ns | call _ ns | host _ ns =>
      obtain ⟨j, -, heq⟩ := List.mem_map.mp hm
      obtain ⟨-, rfl⟩ := Prod.mk.inj heq
      exact ih hpos

/-- A tree without quantifiers. -/
def IsQuantifierFree (root : Node) : Prop :=
  ∀ kind collection slot predicate depth,
    ¬root.Occurs (.quantifier kind collection slot predicate) depth

theorem nesting_eq_zero_iff : root.nesting = 0 ↔ root.IsQuantifierFree := by
  constructor
  · intro hzero kind collection slot predicate depth h
    have hle := nesting_of_occurs h
    rw [hzero, nesting] at hle
    omega
  · intro hfree
    obtain ⟨m, hm⟩ := exists_occurs_nesting root .root
    rw [Nat.zero_add] at hm
    refine Nat.eq_zero_of_not_pos fun hpos => ?_
    obtain ⟨_, _, _, _, _, hq⟩ := exists_quantifier_of_occurs hm hpos
    exact hfree _ _ _ _ _ hq

/-! ## Host functions -/

/-- A host function of a node is called by the node itself or is one of a part. -/
theorem host_or_mem_parts {f : HostFunction} (hf : f ∈ n.hosts) (depth : Nat) :
    (∃ args, n = .host f args) ∨ ∃ p ∈ n.parts depth, f ∈ p.1.hosts := by
  have hall : ∀ {ns : List Node}, f ∈ hostsAll ns →
      ∃ p ∈ ns.map (fun n => (n, depth)), f ∈ p.1.hosts := by
    intro ns h
    rw [hostsAll_eq_flatMap] at h
    obtain ⟨m, hm, hf⟩ := List.mem_flatMap.mp h
    exact ⟨(m, depth), List.mem_map_of_mem hm, hf⟩
  cases n with
  | const | field | existing => cases hf
  | neg a | not a | like a | matching a | within a | isNull a =>
    exact .inr ⟨_, List.mem_singleton_self _, hf⟩
  | compare | between | quantifier =>
    right
    simp only [hosts, List.mem_append] at hf
    simp only [parts, List.mem_cons, List.not_mem_nil, or_false, exists_eq_or_imp, exists_eq_left]
    simpa only [or_assoc] using hf
  | and ns | or ns | call _ ns => exact .inr (hall hf)
  | host g args =>
    rcases List.mem_cons.mp hf with rfl | hf
    · exact .inl ⟨args, rfl⟩
    · exact .inr (hall hf)

/-- A host function of a tree is called by a node of it. -/
theorem exists_occurs_host {f : HostFunction} (n : Node) {depth : Nat} (h : root.Occurs n depth)
    (hf : f ∈ n.hosts) : ∃ args below, root.Occurs (.host f args) below := by
  rcases host_or_mem_parts hf depth with ⟨args, rfl⟩ | ⟨⟨m, below⟩, hm, hf⟩
  · exact ⟨args, depth, h⟩
  · have hless := count_of_mem_parts hm
    exact exists_occurs_host m (h.part hm) hf
termination_by n.count

end Switchyard.Filter.Node
