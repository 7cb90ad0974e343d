import Switchyard.Proofs.Filter.Acceptance
import Switchyard.Proofs.Filter.Sources

/-!
# How high trees are

The height of a tree is the number of nodes on a longest way down from its root. What goes through
a tree by recursion calls itself as deep as the tree is high.

* `Expr.height`, `Node.height`: by recursion on the trees, through arguments and predicates.
* `IsHeight`: a height is the length of a longest path; what is built part by part from a tree is
  no higher than the tree.
* `Phrase.hasHeight`: a phrase is at most four times as high as it encloses deep, and a few nodes
  more that depend on its form.
* `height_of_lower`: compiling does not make a tree higher.
* `exists_phrase_of_height`: a phrase may be four times as high as it encloses deep.
-/

namespace Switchyard.Filter

/-! ## Longest paths -/

section Largest

variable {α β : Type} {f : α → Nat} {xs : List α} {k : Nat}

/-- The largest value of a function on a list, and zero if the list is empty. -/
def largest (f : α → Nat) (xs : List α) : Nat := xs.foldr (fun x k => max (f x) k) 0

theorem largest_le (h : ∀ x ∈ xs, f x ≤ k) : largest f xs ≤ k := by
  induction xs with
  | nil => exact Nat.zero_le k
  | cons x xs ih =>
    obtain ⟨hx, hxs⟩ := List.forall_mem_cons.mp h
    exact Nat.max_le.mpr ⟨hx, ih hxs⟩

theorem le_largest {x : α} (h : x ∈ xs) : f x ≤ largest f xs := by
  induction xs with
  | nil => cases h
  | cons y xs ih =>
    rcases List.mem_cons.mp h with rfl | h
    · exact Nat.le_max_left _ _
    · exact Nat.le_trans (ih h) (Nat.le_max_right _ _)

theorem largest_attained (f : α → Nat) (xs : List α) :
    largest f xs = 0 ∨ ∃ x ∈ xs, f x = largest f xs := by
  induction xs with
  | nil => exact .inl rfl
  | cons x xs ih =>
    right
    by_cases hle : largest f xs ≤ f x
    · exact ⟨x, List.mem_cons_self, (Nat.max_eq_left hle).symm⟩
    · rcases ih with hzero | ⟨y, hy, heq⟩
      · exact absurd (hzero ▸ Nat.zero_le _) hle
      · refine ⟨y, List.mem_cons_of_mem x hy, ?_⟩
        rw [heq]
        exact (Nat.max_eq_right (Nat.le_of_not_le hle)).symm

theorem largest_map (f : β → Nat) (g : α → β) (xs : List α) :
    largest f (xs.map g) = largest (fun x => f (g x)) xs := List.foldr_map

end Largest

/-- `height` counts the things on a longest path down: from a thing to a part of it, to a part of
that and so on. -/
def IsHeight {α : Type} (parts : α → List α) (height : α → Nat) : Prop :=
  ∀ x, height x = largest height (parts x) + 1

namespace IsHeight

variable {α β : Type} {parts : α → List α} {height : α → Nat} {parts' : β → List β}
  {height' : β → Nat} {x y : α}

theorem pos (h : IsHeight parts height) (x : α) : 1 ≤ height x := by
  rw [h x]
  exact Nat.le_add_left _ _

theorem lt (h : IsHeight parts height) (hy : y ∈ parts x) : height y < height x := by
  rw [h x]
  exact Nat.lt_succ_of_le (le_largest hy)

theorem attained (h : IsHeight parts height) (x : α) :
    height x = 1 ∨ ∃ y ∈ parts x, height x = height y + 1 := by
  have hx := h x
  rcases largest_attained height (parts x) with hzero | ⟨y, hy, heq⟩
  · exact .inl (by rw [hx, hzero])
  · exact .inr ⟨y, hy, by rw [hx, heq]⟩

/-- No path is longer than the height of what it starts from. -/
theorem length_le (h : IsHeight parts height) {path : List α}
    (hpath : (x :: path).IsChain fun x y => y ∈ parts x) : (x :: path).length ≤ height x := by
  induction path generalizing x with
  | nil => exact h.pos x
  | cons y path ih =>
    obtain ⟨hy, hpath⟩ := List.isChain_cons_cons.mp hpath
    exact Nat.lt_of_le_of_lt (ih hpath) (h.lt hy)

/-- Some path is as long as the height. -/
theorem exists_path (h : IsHeight parts height) (x : α) :
    ∃ path, ((x :: path).IsChain fun x y => y ∈ parts x) ∧ (x :: path).length = height x := by
  rcases h.attained x with hx | ⟨y, hy, hx⟩
  · exact ⟨[], .singleton x, hx.symm⟩
  · have hlt := h.lt hy
    obtain ⟨path, hpath, hlength⟩ := h.exists_path y
    exact ⟨y :: path, .cons_cons hy hpath, by rw [List.length_cons, hlength, hx]⟩
termination_by height x

/-- If every part of `y` belongs to a part of `x`, and so on down, `y` is no higher than `x`. -/
theorem le_of_simulates (h : IsHeight parts height) (h' : IsHeight parts' height')
    {R : α → β → Prop} (hR : ∀ x y, R x y → ∀ y' ∈ parts' y, ∃ x' ∈ parts x, R x' y') {x : α}
    {y : β} (hxy : R x y) : height' y ≤ height x := by
  rcases h'.attained y with hy | ⟨y', hy', hy⟩
  · rw [hy]
    exact h.pos x
  · obtain ⟨x', hx', hxy'⟩ := hR x y hxy y' hy'
    have hlt := h.lt hx'
    have hle := h.le_of_simulates h' hR hxy'
    omega
termination_by height x

end IsHeight

/-! ## Trees -/

mutual

/-- How many expressions stand one inside the other, at most. -/
def Expr.height : Expr → Nat
  | .literal .. | .path _ | .existing _ => 1
  | .neg e _ | .not e _ | .like e _ _ _ | .matching e _ _ _ | .isNull e _ _ => e.height + 1
  | .and es | .or es => heightAll es + 1
  | .compare _ l r _ => max l.height r.height + 1
  | .between e low high _ _ => max e.height (max low.height high.height) + 1
  | .within e set _ _ => max e.height (heightAll set) + 1
  | .call _ args _ => heightArgs args + 1

/-- The height of the highest of several expressions. -/
def heightAll : List Expr → Nat
  | [] => 0
  | e :: es => max e.height (heightAll es)

/-- The height of the expression of an argument, which may be the body of a predicate. -/
def Arg.height : Arg → Nat
  | .expr e => e.height
  | .lambda _ body _ => body.height

/-- The height of the highest of several arguments. -/
def heightArgs : List Arg → Nat
  | [] => 0
  | a :: args => max a.height (heightArgs args)

end

namespace Node

mutual

/-- How many nodes stand one inside the other, at most. -/
def height : Node → Nat
  | .const _ | .field _ | .existing _ => 1
  | .isNull n _ | .neg n | .not n | .like n _ _ | .matching n _ _ | .within n _ _ => n.height + 1
  | .compare _ l r => max l.height r.height + 1
  | .between n lo hi _ => max n.height (max lo.height hi.height) + 1
  | .and ns | .or ns | .call _ ns | .host _ ns => heights ns + 1
  | .quantifier _ c _ p => max c.height p.height + 1

/-- The height of the highest of several nodes. -/
def heights : List Node → Nat
  | [] => 0
  | n :: ns => max n.height (heights ns)

end

theorem heights_eq (ns : List Node) : heights ns = largest height ns := by
  induction ns with
  | nil => rfl
  | cons n ns ih => exact congrArg (max n.height) ih

theorem isHeight : IsHeight (fun p : Node × Nat => p.1.parts p.2) fun p => p.1.height := by
  rintro ⟨n, depth⟩
  cases n with
  | and ns | or ns | call _ ns | host _ ns =>
    dsimp only
    rw [height, heights_eq, parts, largest_map]
  | _ => simp [height, parts, largest]

end Node

theorem heightAll_eq (es : List Expr) : heightAll es = largest Expr.height es := by
  induction es with
  | nil => rfl
  | cons e es ih => exact congrArg (max e.height) ih

theorem heightArgs_eq (args : List Arg) : heightArgs args = largest Arg.height args := by
  induction args with
  | nil => rfl
  | cons a args ih => exact congrArg (max a.height) ih

theorem Arg.height_part (scope : List String) (a : Arg) : (a.part scope).2.height = a.height := by
  cases a <;> rw [Arg.part, Arg.height]

theorem Expr.isHeight :
    IsHeight (fun p : List String × Expr => p.2.parts p.1) fun p => p.2.height := by
  rintro ⟨scope, e⟩
  cases e with
  | and es | or es =>
    dsimp only
    rw [height, heightAll_eq, parts, largest_map]
  | within e set negated pos =>
    have hset := largest_map (fun p : List String × Expr => p.2.height) (fun e => (scope, e)) set
    dsimp only
    rw [height, heightAll_eq, parts]
    exact congrArg (max e.height · + 1) hset.symm
  | call name args pos =>
    dsimp only
    rw [height, heightArgs_eq, parts, largest_map]
    simp only [Arg.height_part]
  | _ => simp [height, parts, largest]

/-- A longest path down through the parts of an expression has as many expressions as it is high. -/
theorem Expr.exists_longest_path (scope : List String) (e : Expr) :
    (∃ path, ((scope, e) :: path).IsChain (fun p q => q ∈ p.2.parts p.1) ∧
      path.length + 1 = e.height) ∧
    ∀ path, ((scope, e) :: path).IsChain (fun p q => q ∈ p.2.parts p.1) →
      path.length + 1 ≤ e.height :=
  ⟨isHeight.exists_path (scope, e), fun _ => isHeight.length_le⟩

/-! ## Phrases -/

namespace Grammar

/-- How high a phrase of each form may be that encloses `d` times. A test puts one node on top of
its operand, and its other operands are operands as well. -/
def Nonterminal.HasHeight : (n : Nonterminal) → n.Meaning → Nat → Prop
  | .disjunction, e, d => Expr.height e ≤ 4 * d
  | .conjunction, e, d => Expr.height e ≤ 4 * d + 3
  | .negation, e, d | .predicate, e, d => Expr.height e ≤ 4 * d + 2
  | .operand, e, d => Expr.height e ≤ 4 * d + 1
  | .argument, a, d => Arg.height a ≤ 4 * d
  | .test, tested, d => ∀ left : Expr, (tested left).height ≤ max left.height (4 * d + 1) + 1

/-- Several meanings are bounded one by one. -/
def Form.HasHeight : (f : Form) → f.Meaning → Nat → Prop
  | .one n, x, d => n.HasHeight x d
  | .some n, xs, d | .any n, xs, d => ∀ x ∈ xs, n.HasHeight x d

theorem Nonterminal.HasHeight.mono {n : Nonterminal} {x : n.Meaning} {d d' : Nat}
    (h : n.HasHeight x d) (hd : d ≤ d') : n.HasHeight x d' := by
  cases n with
  | test =>
    intro left
    have hleft := h left
    omega
  | _ =>
    unfold HasHeight at h ⊢
    omega

/-- Several operands are as high as the highest of them, or one node higher. -/
theorem height_joined_le {join : List Expr → Expr} {es : List Expr} {k : Nat}
    (hjoin : (join es).height = heightAll es + 1) (h : ∀ e ∈ es, e.height ≤ k) :
    (Parser.joined join es).height ≤ k + 1 := by
  unfold Parser.joined
  split
  · next e => exact Nat.le_succ_of_le (h e List.mem_cons_self)
  · rw [hjoin, heightAll_eq]
    exact Nat.succ_le_succ (largest_le h)

theorem height_negate_le (e : Expr) (pos : Nat) : (Parser.negate e pos).height ≤ e.height + 1 := by
  unfold Parser.negate
  split
  · simp [Expr.height]
  · simp [Expr.height]

/-- By induction on the derivation. Of the forms that put a node on top of what they hold, three lie
between one enclosure and the next: a conjunction, a predicate and a call, beside the disjunction
itself. -/
theorem Phrase.hasHeight {f : Form} (t : Phrase f) : f.HasHeight t.meaning t.depth := by
  induction t with
  | disjunction xs ih => exact height_joined_le (by rw [Expr.height]) ih
  | conjunction xs ih => exact height_joined_le (by rw [Expr.height]) ih
  | not m e ih =>
    have he : e.meaning.height ≤ 4 * e.depth + 2 := ih
    show (Expr.not e.meaning m.pos).height ≤ 4 * (e.depth + 1) + 2
    rw [Expr.height]
    omega
  | plain p ih => exact ih
  | existing m r | existingIn m opening r closing =>
    show (Expr.existing r.path).height ≤ 4 * 0 + 2
    rw [Expr.height]
    omega
  | tested e t ihe iht =>
    have he : e.meaning.height ≤ 4 * e.depth + 1 := ihe
    have ht : (t.meaning e.meaning).height ≤ max e.meaning.height (4 * t.depth + 1) + 1 := iht _
    show (t.meaning e.meaning).height ≤ 4 * max e.depth t.depth + 2
    omega
  -- A test stands on top of the operand on its left or of its own, whichever is the higher.
  | untested =>
    intro left
    show left.height ≤ max left.height (4 * 0 + 1) + 1
    omega
  | compare m op right ih =>
    intro left
    have hright : right.meaning.height ≤ 4 * right.depth + 1 := ih
    show (Expr.compare op left right.meaning m.pos).height ≤
      max left.height (4 * right.depth + 1) + 1
    rw [Expr.height]
    omega
  | text negated m test m' pattern =>
    intro left
    cases test with
    | like | matching =>
      rw [meaning, TextTest.expr, Expr.height]
      omega
  | between negated m low m' high ihl ihh =>
    intro left
    have hlow : low.meaning.height ≤ 4 * low.depth + 1 := ihl
    have hhigh : high.meaning.height ≤ 4 * high.depth + 1 := ihh
    rw [meaning, depth, Expr.height]
    omega
  | within negated m b opening xs closing ih =>
    intro left
    have hset : heightAll xs.meaning ≤ 4 * xs.depth + 1 := by
      rw [heightAll_eq]
      exact largest_le ih
    rw [meaning, depth, Expr.height]
    omega
  | isNull m negated m' =>
    intro left
    rw [meaning, Expr.height]
    omega
  | minus m e ih =>
    have he : e.meaning.height ≤ 4 * e.depth + 1 := ih
    have hneg := height_negate_le e.meaning m.pos
    show (Parser.negate e.meaning m.pos).height ≤ 4 * (e.depth + 1) + 1
    omega
  | literal m l =>
    show (Expr.literal l.value m.pos).height ≤ 4 * 0 + 1
    rw [Expr.height]
  | group opening e closing ih =>
    have he : e.meaning.height ≤ 4 * e.depth := ih
    exact Nat.le_succ_of_le he
  | call m name opening args closing ih =>
    have hargs : heightArgs args.meaning ≤ 4 * args.depth := by
      rw [heightArgs_eq]
      exact largest_le ih
    show (Expr.call name args.meaning m.pos).height ≤ 4 * args.depth + 1
    rw [Expr.height]
    omega
  | path r =>
    show (Expr.path r.path).height ≤ 4 * 0 + 1
    rw [Expr.height]
  | expr e ih => exact ih
  | lambda m param arrow body ih => exact ih
  | last x ih => exact List.forall_mem_singleton.mpr ih
  | more x m xs ihx ihxs =>
    exact List.forall_mem_cons.mpr ⟨ihx.mono (Nat.le_max_left _ _),
      fun y hy => (ihxs y hy).mono (Nat.le_max_right _ _)⟩
  | empty => exact List.forall_mem_nil _
  | items xs ih => exact ih

/-! ## The bound is attained -/

/-- A field. -/
def leaf (m : Mark) : Phrase (.one .operand) := .path ⟨m, "payload", []⟩

/-- An operand that is compared, with `AND` and `OR` behind the comparison. -/
def surrounded (m : Mark) (e : Phrase (.one .operand)) : Phrase (.one .disjunction) :=
  let field : Phrase (.one .negation) := .plain (.tested (leaf m) .untested)
  let comparison : Phrase (.one .negation) := .plain (.tested e (.compare m .eq (leaf m)))
  .disjunction (.more (.conjunction (.more comparison m (.last field))) m
    (.last (.conjunction (.last field))))

/-- Calls one inside the other, each with what `surrounded` puts around the next. -/
def tower (m : Mark) : Nat → Phrase (.one .operand)
  | 0 => leaf m
  | d + 1 => .call m "coalesce" m (.items (.last (.expr (surrounded m (tower m d))))) m

theorem depth_surrounded (m : Mark) (e : Phrase (.one .operand)) :
    (surrounded m e).depth = e.depth + 1 := by
  simp [surrounded, leaf, Phrase.depth]

theorem height_surrounded (m : Mark) (e : Phrase (.one .operand)) :
    (surrounded m e).meaning.height = e.meaning.height + 3 := by
  have hpos : 1 ≤ e.meaning.height := Expr.isHeight.pos ([], e.meaning)
  simp only [surrounded, leaf, Phrase.meaning, Parser.joined, Expr.height, heightAll, id]
  omega

theorem depth_tower (m : Mark) (d : Nat) : (tower m d).depth = d := by
  induction d with
  | zero => rfl
  | succ d ih =>
    show (surrounded m (tower m d)).depth = d + 1
    rw [depth_surrounded, ih]

theorem height_tower (m : Mark) (d : Nat) : (tower m d).meaning.height = 4 * d + 1 := by
  induction d with
  | zero => rw [tower, leaf, Phrase.meaning, Expr.height]
  | succ d ih =>
    simp only [tower, Phrase.meaning, Expr.height, heightArgs, Arg.height, height_surrounded, ih]
    omega

/-- With every enclosure four more nodes may stand one inside the other. -/
theorem exists_phrase_of_height (d : Nat) :
    ∃ t : Phrase (.one .disjunction), t.depth = d + 1 ∧ t.meaning.height = 4 * (d + 1) := by
  let m : Mark := ⟨0, []⟩
  refine ⟨surrounded m (tower m d), ?_, ?_⟩
  · rw [depth_surrounded, depth_tower]
  · rw [height_surrounded, height_tower]
    omega

end Grammar

/-- A text is parsed to a tree that is at most four times as high as it may enclose deep. -/
theorem height_le_of_parse {source : String} {e : Expr} (h : parse source = .ok e) :
    e.height ≤ 4 * Parser.maxDepth := by
  obtain ⟨ts, hts, hparse⟩ := bind_eq_ok.mp h
  obtain ⟨body, last, rfl, hlast, hbody⟩ := tokensFrom_ended hts
  obtain ⟨t, -, rfl, hdepth⟩ := (parseTokens_eq_ok hlast hbody).mp hparse
  have hheight : t.meaning.height ≤ 4 * t.depth := t.hasHeight
  exact Nat.le_trans hheight (Nat.mul_le_mul_left 4 hdepth)

/-! ## Compiled trees -/

section Compiling

variable {fs : HostFunctions} {scope names : List String} {root x : Expr} {n : Node}
  {t : StaticType}

theorem Expr.liveParts_subset : x.liveParts fs scope ⊆ x.parts scope := by
  unfold liveParts
  split
  · next isAnd es hx =>
    rw [parts_of_operands hx]
    split
    · exact List.nil_subset _
    · exact List.map_subset _ List.filter_sublist.subset
  · exact List.Subset.refl _

/-- Compiling does not make a tree higher. -/
theorem height_of_lower (h : x.lower fs scope = .ok (n, t)) : n.height ≤ x.height := by
  have hparts : ∀ q p, CompilesTo fs q p → ∀ p' ∈ p.1.parts p.2,
      ∃ q' ∈ q.2.parts q.1, CompilesTo fs q' p' := by
    rintro ⟨scope, x⟩ ⟨n, depth⟩ ⟨hdepth, t, hx⟩ p hp
    obtain rfl : scope.length = depth := hdepth
    obtain ⟨q, hq, hqp⟩ := exists_live_of_part hx p hp
    exact ⟨q, Expr.liveParts_subset hq, hqp⟩
  exact Expr.isHeight.le_of_simulates Node.isHeight hparts (compilesTo h)

theorem Expr.height_of_occurs (h : root.Occurs names scope x) : x.height ≤ root.height := by
  induction h with
  | root => exact Nat.le_refl _
  | @part scope inner e x _ hx ih =>
    have hlt : x.height < e.height :=
      IsHeight.lt (x := (scope, e)) (y := (inner, x)) Expr.isHeight hx
    exact Nat.le_trans (Nat.le_of_lt hlt) ih

end Compiling

end Switchyard.Filter
