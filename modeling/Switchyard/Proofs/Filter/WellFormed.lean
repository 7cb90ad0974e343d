import Switchyard.Proofs.Filter.Lowering

/-!
# Well-formed trees

What the evaluator relies on without looking: calls have the number of arguments that their function
takes, slots count the predicates around a quantifier, operands stand in the order of their cost,
and nothing is left that could have been folded.

* `Node.Occurs`: a node stands in a tree, inside the predicates of so many quantifiers.
* `Node.Proper`: what is asked of one node, given how many predicates are around it.
* `Node.WellFormed`: every node of a tree is proper.
* `Lowered.wellFormed`: a compiled tree is well formed.
-/

namespace Switchyard.Filter

/-- A field of the event, or of the element of one of the `depth` predicates around it. -/
def Field.IsInScope (f : Field) (depth : Nat) : Prop :=
  ∀ slot, f.root = .binding slot → slot < depth

namespace Node

/-- The parts of a node that has `depth` predicates around it, each with the number of predicates
around the part. -/
def parts : Node → Nat → List (Node × Nat)
  | .const _, _ | .field _, _ | .existing _, _ => []
  | .neg n, depth | .not n, depth | .like n _ _, depth | .matching n _ _, depth
  | .within n _ _, depth | .isNull n _, depth => [(n, depth)]
  | .compare _ l r, depth => [(l, depth), (r, depth)]
  | .between n lo hi _, depth => [(n, depth), (lo, depth), (hi, depth)]
  | .and ns, depth | .or ns, depth | .call _ ns, depth | .host _ ns, depth =>
    ns.map fun n => (n, depth)
  | .quantifier _ c _ p, depth => [(c, depth), (p, depth + 1)]

/-- `root.Occurs n depth`: the node `n` stands in the tree `root` with `depth` predicates of
quantifiers around it. -/
inductive Occurs (root : Node) : Node → Nat → Prop where
  | root : Occurs root root 0
  | part {n m : Node} {depth below : Nat} (h : Occurs root n depth)
      (hm : (m, below) ∈ n.parts depth) : Occurs root m below

/-- Operands as compiling leaves them to an `AND` or `OR`. -/
structure AreOperands (ns : List Node) : Prop where
  nonempty : ns ≠ []
  varying : ∀ n ∈ ns, n.isConst = false
  sorted : ns.Pairwise fun a b => a.cost ≤ b.cost

/-- What each kind of node asks of its own data where `depth` predicates are around it. -/
def Fits (depth : Nat) : Node → Prop
  | .field f | .existing f => f.IsInScope depth
  | .and ns | .or ns => AreOperands ns
  | .call f args => f.takes args.length = true
  | .host f args => args.length = f.arity
  | .quantifier _ _ slot _ => slot = depth
  | _ => True

/-- A node that fits its place and that folding leaves as it is. -/
structure Proper (n : Node) (depth : Nat) : Prop where
  fits : n.Fits depth
  folded : n.isFoldable = false

/-- A tree all of whose nodes are proper. -/
inductive WellFormed : Node → Nat → Prop where
  | intro {n : Node} {depth : Nat} (proper : n.Proper depth)
      (parts : ∀ p ∈ n.parts depth, WellFormed p.1 p.2) : WellFormed n depth

variable {n m root : Node} {depth below : Nat}

theorem WellFormed.proper : n.WellFormed depth → n.Proper depth
  | .intro h _ => h

theorem WellFormed.part (hm : (m, below) ∈ n.parts depth) :
    n.WellFormed depth → m.WellFormed below
  | .intro _ h => h _ hm

theorem WellFormed.of_occurs (h : root.WellFormed 0) (ho : root.Occurs n depth) :
    n.WellFormed depth := by
  induction ho with
  | root => exact h
  | part _ hm ih => exact ih.part hm

theorem wellFormed_const (v : Value) (depth : Nat) : (Node.const v).WellFormed depth :=
  .intro ⟨trivial, rfl⟩ nofun

/-- Parts at the depth of the node itself. -/
theorem wellFormed_parts {ns : List Node} (h : ∀ n ∈ ns, n.WellFormed depth) :
    ∀ p ∈ ns.map fun n => (n, depth), p.1.WellFormed p.2 := by
  rintro _ hp
  obtain ⟨n, hn, rfl⟩ := List.mem_map.mp hp
  exact h n hn

end Node

/-! ## Folding -/

theorem wellFormed_of_fold {n : Node} {pos depth : Nat} {res : Typed}
    (h : fold n pos = .ok res) (hfits : n.Fits depth)
    (hparts : ∀ p ∈ n.parts depth, p.1.WellFormed p.2) : res.1.WellFormed depth := by
  obtain ⟨m, t⟩ := res
  rcases fold_eq_ok.mp h with ⟨-, v, -, rfl, -⟩ | ⟨hn, rfl, -⟩
  · exact Node.wellFormed_const v depth
  · exact .intro ⟨hfits, hn⟩ hparts

theorem type_of_fold {n : Node} {pos : Nat} {res : Typed} {v : Value} (h : fold n pos = .ok res)
    (hn : n.isConst = false) (hv : res.1 = .const v) : res.2 = some v.type := by
  obtain ⟨m, t⟩ := res
  rcases fold_eq_ok.mp h with ⟨-, w, -, rfl, rfl⟩ | ⟨-, rfl, -⟩
  · obtain ⟨⟩ := hv
    rfl
  · obtain rfl : m = .const v := hv
    cases hn

/-! ## Compiled trees -/

section Lowered

variable {fs : HostFunctions} {scope : List String} {res : Typed}

theorem connective_ne_const {kept : List Node} (h : kept ≠ []) (isAnd : Bool) (v : Value) :
    connective isAnd kept ≠ .const v := by
  rw [connective_of_ne_nil h]
  cases isAnd <;> nofun

/-- The type of a constant is that of its value. -/
theorem Lowered.type_of_const {v : Value} (h : Lowered fs scope res) (hv : res.1 = .const v) :
    res.2 = some v.type := by
  cases h with
  | literal w =>
    obtain ⟨⟩ := hv
    rfl
  | neg _ _ hf | not _ _ hf | compare _ _ _ hf | like _ _ hf | matching _ _ hf
  | between _ _ _ hf | within _ hf | isNull _ hf => exact type_of_fold hf rfl hv
  | connective hne =>
    exact absurd hv (connective_ne_const (by simpa using hne) _ v)
  | builtin _ _ _ hf =>
    have ht := type_of_fold hf rfl hv
    dsimp only at ht
    rw [ht]
    rfl
  | field | existing | host | quantifier => cases hv

/-- An operand that is kept is no constant: one that may be a boolean is true, false or null. -/
theorem Lowered.isConst_operand {k : Typed} (h : Lowered fs scope k)
    (ht : k.2.mayBe [.bool] = true) (hk : k.1.constTruth? = none) : k.1.isConst = false := by
  cases hc : k.1.const? with
  | none => rw [Node.isConst, hc, Option.isSome_none]
  | some v =>
    have hv := const?_eq_some.mp hc
    rw [h.type_of_const hv] at ht
    rw [hv] at hk
    cases v with
    | null | bool => cases hk
    | _ => cases ht

theorem areOperands_of_kept {kept : List Typed} (hne : kept ≠ [])
    (hk : ∀ k ∈ kept, Lowered fs scope k)
    (ht : ∀ k ∈ kept, k.2.mayBe [.bool] = true ∧ k.1.constTruth? = none) :
    Node.AreOperands (sortedOperands (kept.map (·.1))) := by
  have hp := sortedOperands_perm (kept.map (·.1))
  refine ⟨fun h => ?_, fun n hn => ?_, ?_⟩
  · rw [h] at hp
    exact hne (List.map_eq_nil_iff.mp hp.nil_eq.symm)
  · obtain ⟨k, hmem, rfl⟩ := List.mem_map.mp (hp.mem_iff.mp hn)
    exact (hk k hmem).isConst_operand (ht k hmem).1 (ht k hmem).2
  · exact sortedOperands_sorted _

theorem wellFormed_nodes {ts : List Typed} {depth : Nat}
    (h : ∀ t ∈ ts, t.1.WellFormed depth) : ∀ n ∈ ts.map (·.1), n.WellFormed depth := by
  intro n hn
  obtain ⟨t, ht, rfl⟩ := List.mem_map.mp hn
  exact h t ht

theorem wellFormed_connective {ns : List Node} {depth : Nat} (hne : ns ≠ [])
    (ho : Node.AreOperands (sortedOperands ns)) (h : ∀ n ∈ ns, n.WellFormed depth)
    (isAnd : Bool) : (connective isAnd ns).WellFormed depth := by
  have hparts : ∀ p ∈ (sortedOperands ns).map fun n => (n, depth), p.1.WellFormed p.2 :=
    Node.wellFormed_parts fun n hn => h n ((sortedOperands_perm ns).mem_iff.mp hn)
  rw [connective_of_ne_nil hne]
  cases isAnd with
  | true => exact .intro ⟨ho, rfl⟩ hparts
  | false => exact .intro ⟨ho, rfl⟩ hparts

theorem isInScope_of_resolve {p : Path} {f : Field} (h : resolve scope p = .ok f) :
    f.IsInScope scope.length := fun _ hf =>
  (List.getElem?_eq_some_iff.mp ((resolve_binding h).mp hf).1).1

/-- A compiled tree is well formed inside as many predicates as there are bound names. -/
theorem Lowered.wellFormed (h : Lowered fs scope res) : res.1.WellFormed scope.length := by
  induction h with
  | literal v => exact Node.wellFormed_const v _
  | field hf | existing hf => exact .intro ⟨isInScope_of_resolve hf, rfl⟩ nofun
  | neg _ _ hf ih | not _ _ hf ih | like _ _ hf ih | matching _ _ hf ih | within _ hf ih
  | isNull _ hf ih => exact wellFormed_of_fold hf trivial (List.forall_mem_singleton.mpr ih)
  | compare _ _ _ hf ihl ihr =>
    exact wellFormed_of_fold hf trivial
      (List.forall_mem_cons.mpr ⟨ihl, List.forall_mem_singleton.mpr ihr⟩)
  | between _ _ _ hf ih ihl ihh =>
    exact wellFormed_of_fold hf trivial (List.forall_mem_cons.mpr
      ⟨ih, List.forall_mem_cons.mpr ⟨ihl, List.forall_mem_singleton.mpr ihh⟩⟩)
  | connective hne hk ht ih =>
    exact wellFormed_connective (by simpa using hne) (areOperands_of_kept hne hk ht)
      (wellFormed_nodes ih) _
  | @builtin scope f ts _ _ _ _ htakes _ hf ih =>
    have hfits : (Node.call f (ts.map (·.1))).Fits scope.length := by
      rw [Node.Fits, List.length_map]
      exact htakes
    have hw := wellFormed_of_fold hf hfits (Node.wellFormed_parts (wellFormed_nodes ih))
    exact hw
  | host _ _ harity ih =>
    exact .intro ⟨(List.length_map _).trans harity, rfl⟩
      (Node.wellFormed_parts (wellFormed_nodes ih))
  | quantifier _ _ _ _ ihc ihp =>
    rw [List.length_append, List.length_singleton] at ihp
    exact .intro ⟨rfl, rfl⟩ (List.forall_mem_cons.mpr ⟨ihc, List.forall_mem_singleton.mpr ihp⟩)

end Lowered

end Switchyard.Filter
