import Mathlib
import Switchyard.Proofs.Filter.Acceptance
import Switchyard.Proofs.Filter.Nesting
import Switchyard.Proofs.Filter.Scanning
import Switchyard.Proofs.Filter.StaticChecks

/-!
# Costs in 32 bits

Every expression of a text is charged to a token of its own and compiling makes no more nodes than
there are expressions, so that a compiled tree has no more nodes than its text has tokens. A node
costs at most 50 beside its parts. The sums of costs of a text of less than `2 ^ 32 / 50` bytes
therefore fit 32 bits.

* `Expr.count`: the expressions in a syntax tree.
* `Phrase.hasCount`: a phrase has as many expressions as tokens at most.
* `count_of_lower`: compiling makes no more nodes than there are expressions.
* `Node.cost_le`: what a tree costs by the number of its nodes.
* `Node.wordCost_eq`: costs in 32 bits are right unless the whole does not fit.
* `Expr.Sorts`: the operands that compiling puts in the order of their cost.
* `static_costs_fit`: their costs fit 32 bits if the text is short.
-/

namespace Switchyard.Filter

/-! ## Expressions of a tree -/

mutual

/-- How many expressions there are in one, the items of sets included. -/
def Expr.count : Expr → Nat
  | .literal .. | .path _ | .existing _ => 1
  | .neg e _ | .not e _ | .like e _ _ _ | .matching e _ _ _ | .isNull e _ _ => e.count + 1
  | .and es | .or es => countAll es + 1
  | .compare _ l r _ => l.count + r.count + 1
  | .between e low high _ _ => e.count + low.count + high.count + 1
  | .within e set _ _ => e.count + countAll set + 1
  | .call _ args _ => countArgs args + 1

/-- How many expressions several trees have together. -/
def countAll : List Expr → Nat
  | [] => 0
  | e :: es => e.count + countAll es

/-- The number of expressions of an argument, which may be the body of a predicate. -/
def Arg.count : Arg → Nat
  | .expr e => e.count
  | .lambda _ body _ => body.count

/-- How many expressions several arguments have together. -/
def countArgs : List Arg → Nat
  | [] => 0
  | a :: args => a.count + countArgs args

end

section Parts

variable {fs : HostFunctions} {scope inner names : List String} {root e x : Expr} {es : List Expr}
  {args : List Arg}

theorem countAll_eq_sum (es : List Expr) : countAll es = (es.map Expr.count).sum := by
  induction es with
  | nil => rfl
  | cons e es ih => rw [countAll, ih, List.map_cons, List.sum_cons]

theorem countArgs_eq_sum (args : List Arg) : countArgs args = (args.map Arg.count).sum := by
  induction args with
  | nil => rfl
  | cons a args ih => rw [countArgs, ih, List.map_cons, List.sum_cons]

theorem count_le_countAll (h : e ∈ es) : e.count ≤ countAll es := by
  rw [countAll_eq_sum]
  exact List.le_sum_of_mem (List.mem_map_of_mem h)

theorem count_le_countArgs {a : Arg} (h : a ∈ args) : a.count ≤ countArgs args := by
  rw [countArgs_eq_sum]
  exact List.le_sum_of_mem (List.mem_map_of_mem h)

theorem Arg.count_part (scope : List String) (a : Arg) : (a.part scope).2.count = a.count := by
  cases a <;> rw [Arg.part, Arg.count]

theorem Expr.count_of_mem_parts (h : (inner, x) ∈ e.parts scope) : x.count < e.count := by
  cases e with
  | literal | path | existing => cases h
  | neg e | not e | like e | matching e | isNull e =>
    obtain ⟨⟩ := List.mem_singleton.mp h
    rw [count]
    omega
  | and es | or es =>
    obtain ⟨y, hy, heq⟩ := List.mem_map.mp h
    obtain ⟨-, rfl⟩ := Prod.mk.inj heq
    rw [count]
    exact Nat.lt_succ_of_le (count_le_countAll hy)
  | compare op l r =>
    simp only [parts, List.mem_cons, Prod.mk.injEq, List.not_mem_nil, or_false] at h
    rw [count]
    rcases h with ⟨-, rfl⟩ | ⟨-, rfl⟩ <;> omega
  | between e low high =>
    simp only [parts, List.mem_cons, Prod.mk.injEq, List.not_mem_nil, or_false] at h
    rw [count]
    rcases h with ⟨-, rfl⟩ | ⟨-, rfl⟩ | ⟨-, rfl⟩ <;> omega
  | within e set =>
    rw [count]
    rcases List.mem_cons.mp h with heq | h
    · obtain ⟨-, rfl⟩ := Prod.mk.inj heq
      omega
    · obtain ⟨y, hy, heq⟩ := List.mem_map.mp h
      obtain ⟨-, rfl⟩ := Prod.mk.inj heq
      have hle := count_le_countAll hy
      omega
  | call name args =>
    obtain ⟨a, ha, heq⟩ := List.mem_map.mp h
    have hcount : x.count = a.count := by rw [← Arg.count_part scope a, heq]
    rw [count, hcount]
    exact Nat.lt_succ_of_le (count_le_countArgs ha)

theorem Expr.count_of_checked (h : root.Checked fs names scope x) : x.count ≤ root.count := by
  induction h with
  | root => exact Nat.le_refl _
  | part _ hx ih => exact Nat.le_trans (Nat.le_of_lt (count_of_mem_parts (visited_subset hx))) ih

end Parts

/-! ## Tokens of a phrase -/

namespace Grammar

/-- A phrase has at most `k` expressions. A test has them beside those of its operand. -/
def Nonterminal.HasCount : (n : Nonterminal) → n.Meaning → Nat → Prop
  | .disjunction, e, k | .conjunction, e, k | .negation, e, k | .predicate, e, k | .operand, e, k =>
    Expr.count e ≤ k
  | .argument, a, k => Arg.count a ≤ k
  | .test, tested, k => ∀ left : Expr, (tested left).count ≤ left.count + k

/-- The phrases of a list share the tokens of the list, of which the separators are no part. -/
def Form.HasCount : (f : Form) → f.Meaning → Nat → Prop
  | .one n, x, k => n.HasCount x k
  | .some n, xs, k => ∃ ks, List.Forall₂ n.HasCount xs ks ∧ ks.sum + ks.length ≤ k + 1
  | .any n, xs, k => ∃ ks, List.Forall₂ n.HasCount xs ks ∧ ks.sum ≤ k

theorem countAll_le {es : List Expr} {ks : List Nat}
    (h : List.Forall₂ (fun (e : Expr) k => e.count ≤ k) es ks) : countAll es ≤ ks.sum := by
  rw [countAll_eq_sum]
  exact (List.forall₂_map_left_iff.mpr h).sum_le_sum

theorem countArgs_le {args : List Arg} {ks : List Nat}
    (h : List.Forall₂ (fun (a : Arg) k => a.count ≤ k) args ks) : countArgs args ≤ ks.sum := by
  rw [countArgs_eq_sum]
  exact (List.forall₂_map_left_iff.mpr h).sum_le_sum

/-- Several operands have a separator between them, to which what joins them is charged. -/
theorem count_joined_le {join : List Expr → Expr} {es : List Expr} {k : Nat}
    (hjoin : (join es).count = countAll es + 1)
    (h : ∃ ks, List.Forall₂ (fun (e : Expr) k => e.count ≤ k) es ks ∧ ks.sum + ks.length ≤ k + 1)
    (hne : es ≠ []) : (Parser.joined join es).count ≤ k := by
  obtain ⟨ks, hks, hk⟩ := h
  have hcount := countAll_le hks
  have hlength := hks.length_eq
  unfold Parser.joined
  split
  · next e =>
    rw [countAll, countAll] at hcount
    rw [List.length_singleton] at hlength
    omega
  · next hsingle =>
    have htwo : 2 ≤ es.length := by
      match es, hne, hsingle with
      | [e], _, hsingle => exact absurd rfl (hsingle e)
      | _ :: _ :: _, _, _ => simp
    rw [hjoin]
    omega

theorem count_negate_le (e : Expr) (pos : Nat) : (Parser.negate e pos).count ≤ e.count + 1 := by
  unfold Parser.negate
  split
  · simp [Expr.count]
  · simp [Expr.count]

theorem Phrase.meaning_ne_nil {n : Nonterminal} (t : Phrase (.some n)) : t.meaning ≠ [] := by
  cases t with
  | last x => exact List.cons_ne_nil _ _
  | more x m xs => exact List.cons_ne_nil _ _

/-- Every expression of a phrase is charged to a token: what joins operands to one of the
separators, and all else to a token that stands for nothing else. -/
theorem Phrase.hasCount {f : Form} (t : Phrase f) : f.HasCount t.meaning t.tokens.length := by
  induction t with
  | disjunction xs ih => exact count_joined_le (by rw [Expr.count]) ih xs.meaning_ne_nil
  | conjunction xs ih => exact count_joined_le (by rw [Expr.count]) ih xs.meaning_ne_nil
  | not m e ih =>
    have he : e.meaning.count ≤ e.tokens.length := ih
    show (Expr.not e.meaning m.pos).count ≤ e.tokens.length + 1
    rw [Expr.count]
    omega
  | plain p ih => exact ih
  | existing m r =>
    show (Expr.existing r.path).count ≤ r.tokens.length + 1
    rw [Expr.count]
    omega
  | existingIn m opening r closing =>
    show (Expr.existing r.path).count ≤ (r.tokens ++ [closing.token .rightParen]).length + 1 + 1
    rw [Expr.count]
    omega
  | tested e t ihe iht =>
    have he : e.meaning.count ≤ e.tokens.length := ihe
    have ht : (t.meaning e.meaning).count ≤ e.meaning.count + t.tokens.length := iht _
    show (t.meaning e.meaning).count ≤ (e.tokens ++ t.tokens).length
    rw [List.length_append]
    omega
  -- What a test adds to the operand on its left is counted beside it, so this is said of any left.
  | untested => exact fun left => Nat.le_refl _
  | compare m op right ih =>
    intro left
    have hright : right.meaning.count ≤ right.tokens.length := ih
    show (Expr.compare op left right.meaning m.pos).count ≤ left.count + (right.tokens.length + 1)
    rw [Expr.count]
    omega
  | text negated m test m' pattern =>
    intro left
    rw [tokens, List.length_append]
    cases test with
    | like | matching =>
      rw [meaning, TextTest.expr, Expr.count, List.length_cons]
      omega
  | between negated m low m' high ihl ihh =>
    intro left
    have hlow : low.meaning.count ≤ low.tokens.length := ihl
    have hhigh : high.meaning.count ≤ high.tokens.length := ihh
    rw [meaning, Expr.count, tokens]
    simp only [List.length_append, List.length_cons]
    omega
  | within negated m b opening xs closing ih =>
    intro left
    obtain ⟨ks, hks, hk⟩ := ih
    have hset : countAll xs.meaning ≤ ks.sum := countAll_le hks
    rw [meaning, Expr.count, tokens]
    simp only [List.length_append, List.length_cons]
    omega
  | isNull m negated m' =>
    intro left
    rw [meaning, Expr.count, tokens, List.length_cons]
    omega
  | minus m e ih =>
    have he : e.meaning.count ≤ e.tokens.length := ih
    have hneg := count_negate_le e.meaning m.pos
    show (Parser.negate e.meaning m.pos).count ≤ e.tokens.length + 1
    omega
  | literal m l =>
    show (Expr.literal l.value m.pos).count ≤ 1
    rw [Expr.count]
  | group opening e closing ih =>
    have he : e.meaning.count ≤ e.tokens.length := ih
    show e.meaning.count ≤ (e.tokens ++ [closing.token .rightParen]).length + 1
    rw [List.length_append]
    omega
  | call m name opening args closing ih =>
    obtain ⟨ks, hks, hk⟩ := ih
    have hargs : countArgs args.meaning ≤ ks.sum := countArgs_le hks
    show (Expr.call name args.meaning m.pos).count ≤
      (args.tokens ++ [closing.token .rightParen]).length + 1 + 1
    rw [Expr.count, List.length_append]
    omega
  | path r =>
    show (Expr.path r.path).count ≤ (r.steps.flatMap Step.tokens).length + 1
    rw [Expr.count]
    omega
  | expr e ih => exact ih
  | lambda m param arrow body ih =>
    have hbody : body.meaning.count ≤ body.tokens.length := ih
    show body.meaning.count ≤ body.tokens.length + 1 + 1
    omega
  | last x ih => exact ⟨[x.tokens.length], .cons ih .nil, Nat.le_refl _⟩
  | @more n x m xs ihx ihxs =>
    obtain ⟨ks, hks, hk⟩ := ihxs
    refine ⟨x.tokens.length :: ks, .cons ihx hks, ?_⟩
    rw [tokens, List.length_append, List.length_cons, List.sum_cons, List.length_cons]
    omega
  | empty => exact ⟨[], .nil, Nat.le_refl 0⟩
  | @items n xs ih =>
    obtain ⟨ks, hks, hk⟩ := ih
    refine ⟨ks, hks, ?_⟩
    have hlength : ks.length ≠ 0 := by
      rw [← hks.length_eq]
      exact fun h => xs.meaning_ne_nil (List.eq_nil_of_length_eq_zero h)
    show ks.sum ≤ xs.tokens.length
    omega

end Grammar

/-! ## Texts -/

/-- Every token but the end takes a byte at least. -/
theorem length_le_byteLength {pos : Nat} {cs : List Char} {ts : List Token}
    (h : tokensFrom pos cs = .ok ts) : ts.length ≤ Text.byteLength cs + 1 := by
  fun_induction tokensFrom pos cs generalizing ts with
  | case1 pos =>
    obtain rfl := Except.ok.inj h
    exact Nat.le_refl _
  | case2 pos c cs hblank ih =>
    have hle := ih h
    rw [Text.byteLength_cons]
    omega
  | case3 pos c cs hblank fault hf => cases h
  | case4 pos c cs hblank k n hk token =>
    rename_i ih
    obtain ⟨rest, hrest, h⟩ := bind_eq_ok.mp h
    obtain rfl := Except.ok.inj h
    have hle := ih hrest
    have hcut := Text.byteLength_take_add_drop n cs
    have hpos := c.utf8Size_pos
    rw [Text.byteLength_cons, List.length_cons]
    omega

/-- A text is parsed to a tree of at most as many expressions as it has tokens before the end, and
of these it has no more than bytes. -/
theorem count_le_of_parse {source : String} {e : Expr} (h : parse source = .ok e) :
    ∃ body last, tokenize source = .ok (body ++ [last]) ∧ last.kind = .eof ∧
      (∀ t ∈ body, t.kind ≠ .eof) ∧ e.count ≤ body.length ∧
      body.length ≤ source.utf8ByteSize := by
  obtain ⟨ts, hts, hparse⟩ := bind_eq_ok.mp h
  obtain ⟨body, last, rfl, hlast, hbody⟩ := tokensFrom_ended hts
  obtain ⟨t, rfl, rfl, -⟩ := (parseTokens_eq_ok hlast hbody).mp hparse
  have hcount : t.meaning.count ≤ t.tokens.length := t.hasCount
  have hlength := length_le_byteLength hts
  rw [List.length_append, List.length_singleton, ← utf8ByteSize_eq] at hlength
  exact ⟨t.tokens, last, hts, hlast, hbody, hcount, Nat.le_of_succ_le_succ hlength⟩

/-! ## Nodes of a compiled tree -/

namespace Node

theorem count_pos (n : Node) : 1 ≤ n.count := by
  cases n with
  | const | field | existing => exact Nat.le_refl 1
  | _ =>
    rw [count]
    omega

theorem counts_eq_sum (ns : List Node) : counts ns = (ns.map count).sum := by
  induction ns with
  | nil => rfl
  | cons n ns ih => rw [counts, ih, List.map_cons, List.sum_cons]

theorem counts_append (ns ms : List Node) : counts (ns ++ ms) = counts ns + counts ms := by
  simp only [counts_eq_sum, List.map_append, List.sum_append]

theorem counts_of_perm {ns ms : List Node} (h : ns.Perm ms) : counts ns = counts ms := by
  rw [counts_eq_sum, counts_eq_sum, (h.map count).sum_eq]

end Node

section Compiling

variable {fs : HostFunctions} {pos : Nat}

theorem count_of_fold {n : Node} {res : Typed} (h : fold n pos = .ok res) :
    res.1.count ≤ n.count := by
  obtain ⟨m, t⟩ := res
  rcases fold_eq_ok.mp h with ⟨-, v, -, rfl, -⟩ | ⟨-, rfl, -⟩
  · exact n.count_pos
  · exact Nat.le_refl _

theorem count_connective_le (isAnd : Bool) (kept : List Node) :
    (connective isAnd kept).count ≤ Node.counts kept + 1 := by
  by_cases h : kept = []
  · rw [h, connective_nil]
    exact Nat.le_refl 1
  · rw [connective_of_ne_nil h, ← Node.counts_of_perm (sortedOperands_perm kept)]
    cases isAnd with
    | true | false =>
      show Node.count _ ≤ _
      simp [Node.count, Nat.add_comm]

theorem count_of_callNode {name : String} {ts : List Typed} {res : Typed}
    (h : callNode fs name ts pos = .ok res) : res.1.count ≤ Node.counts (ts.map (·.1)) + 1 := by
  rcases callNode_eq_ok.mp h with ⟨f, -, -, -, n, t, hf, rfl⟩ | ⟨-, f, -, -, rfl⟩
  · have hn : n.count ≤ 1 + Node.counts (ts.map (·.1)) := count_of_fold hf
    show n.count ≤ _
    omega
  · show 1 + Node.counts (ts.map (·.1)) ≤ _
    omega

/-- A node over one operand, which is folded if the operand is a constant. -/
theorem count_of_fold_over {n m : Node} {k : Nat} {res : Typed} (hf : fold m pos = .ok res)
    (hm : m.count = 1 + n.count) (hn : n.count ≤ k) : res.1.count ≤ k + 1 := by
  have hres := count_of_fold hf
  omega

mutual

/-- Compiling makes no more nodes than there are expressions. -/
theorem count_of_lower (e : Expr) {scope : List String} {res : Typed}
    (h : e.lower fs scope = .ok res) : res.1.count ≤ e.count := by
  cases e with
  | literal v pos =>
    obtain rfl := lower_literal.mp h
    exact Nat.le_refl 1
  | path p =>
    obtain ⟨f, -, rfl⟩ := lower_path.mp h
    exact Nat.le_refl 1
  | existing p =>
    obtain ⟨f, -, rfl⟩ := lower_existing.mp h
    exact Nat.le_refl 1
  | neg e pos =>
    obtain ⟨n, t, he, -, hf⟩ := lower_neg.mp h
    exact count_of_fold_over hf (by rw [Node.count]) (count_of_lower e he)
  | not e pos =>
    obtain ⟨n, t, he, -, hf⟩ := lower_not.mp h
    exact count_of_fold_over hf (by rw [Node.count]) (count_of_lower e he)
  -- Constants among the operands are dropped, so no more are left than were written.
  | and es =>
    rw [lower_and] at h
    have hres : res.1.count ≤ 0 + countAll es + 1 := count_of_lowerOperands es [] h
    rw [Expr.count]
    omega
  | or es =>
    rw [lower_or] at h
    have hres : res.1.count ≤ 0 + countAll es + 1 := count_of_lowerOperands es [] h
    rw [Expr.count]
    omega
  | compare op l r pos =>
    obtain ⟨a, s, b, t, hl, hr, -, hf⟩ := lower_compare.mp h
    have ha : a.count ≤ l.count := count_of_lower l hl
    have hb : b.count ≤ r.count := count_of_lower r hr
    have hres : res.1.count ≤ 1 + a.count + b.count := count_of_fold hf
    rw [Expr.count]
    omega
  | like e pattern negated pos =>
    obtain ⟨n, t, he, -, hf⟩ := lower_like.mp h
    exact count_of_fold_over hf (by rw [Node.count]) (count_of_lower e he)
  | matching e pattern negated pos =>
    obtain ⟨n, t, p, he, -, -, hf⟩ := lower_matching.mp h
    exact count_of_fold_over hf (by rw [Node.count]) (count_of_lower e he)
  | between e low high negated pos =>
    obtain ⟨n, t, a, s, b, u, he, hl, hh, -, -, -, hf⟩ := lower_between.mp h
    have hn : n.count ≤ e.count := count_of_lower e he
    have ha : a.count ≤ low.count := count_of_lower low hl
    have hb : b.count ≤ high.count := count_of_lower high hh
    have hres : res.1.count ≤ 1 + n.count + a.count + b.count := count_of_fold hf
    rw [Expr.count]
    omega
  | within e set negated pos =>
    obtain ⟨n, t, vs, he, -, hf⟩ := lower_within.mp h
    have hn : n.count ≤ e.count := count_of_lower e he
    have hres : res.1.count ≤ 1 + n.count := count_of_fold hf
    rw [Expr.count]
    omega
  | isNull e negated pos =>
    obtain ⟨n, t, he, hf⟩ := lower_isNull.mp h
    exact count_of_fold_over hf (by rw [Node.count]) (count_of_lower e he)
  | call name args pos =>
    cases hk : quantifierOf? name args.length with
    | some kind =>
      match args, hk, h with
      | [.expr collection, .lambda param body at_], hk, h =>
        obtain ⟨_, _, _, _, c, t, p, s, ⟨⟩, hc, -, hp, -, rfl⟩ := (lower_quantifier hk).mp h
        have hcollection : c.count ≤ collection.count := count_of_lower collection hc
        have hbody : p.count ≤ body.count := count_of_lower body hp
        simp only [Node.count, Expr.count, countArgs, Arg.count]
        omega
      | [], hk, h | [_], hk, h | .lambda .. :: _, hk, h | _ :: .expr _ :: _, hk, h
      | _ :: _ :: _ :: _, hk, h =>
        obtain ⟨_, _, _, _, _, _, _, _, ⟨⟩, -⟩ := (lower_quantifier hk).mp h
    | none =>
      obtain ⟨ts, hts, hn⟩ := (lower_call hk).mp h
      have hargs := count_of_lowerArgs args hts
      have hres := count_of_callNode hn
      rw [Expr.count]
      omega
termination_by structural e

theorem count_of_lowerOperands (es : List Expr) (kept : List Node) {isAnd : Bool}
    {scope : List String} {res : Typed} (h : lowerOperands fs isAnd es kept scope = .ok res) :
    res.1.count ≤ Node.counts kept + countAll es + 1 := by
  cases es with
  | nil =>
    obtain rfl := lowerOperands_nil.mp h
    exact count_connective_le isAnd kept
  | cons e es =>
    obtain ⟨n, t, he, -, hrest⟩ := lowerOperands_cons.mp h
    have hn : n.count ≤ e.count := count_of_lower e he
    rw [countAll]
    split at hrest
    · split at hrest
      · have hres := count_of_lowerOperands es kept hrest
        omega
      · obtain rfl := hrest
        show 1 ≤ _
        omega
    · have hres := count_of_lowerOperands es (kept ++ [n]) hrest
      rw [Node.counts_append, Node.counts, Node.counts] at hres
      omega
termination_by structural es

theorem count_of_lowerArgs (args : List Arg) {name : String} {scope : List String}
    {ts : List Typed} (h : lowerArgs fs name args scope = .ok ts) :
    Node.counts (ts.map (·.1)) ≤ countArgs args := by
  match args with
  | [] =>
    obtain rfl := Except.ok.inj h
    exact Nat.le_refl 0
  | .expr e :: args =>
    obtain ⟨t, us, he, hus, rfl⟩ := lowerArgs_expr.mp h
    have ht := count_of_lower e he
    have hts := count_of_lowerArgs args hus
    rw [List.map_cons, Node.counts, countArgs, Arg.count]
    exact Nat.add_le_add ht hts
  | .lambda _ _ _ :: _ => exact absurd h Compiled.fail_ne_ok
termination_by structural args

end

end Compiling

/-! ## Costs of a tree -/

namespace Node

mutual

/-- A node costs at most 50 beside its parts, which is what a quantifier costs. -/
theorem cost_le (n : Node) : n.cost ≤ 50 * n.count := by
  cases n with
  | const | field | existing => simp [cost, count]
  | neg n | not n | isNull n | like n | matching n | within n =>
    have hn := cost_le n
    rw [cost, count]
    omega
  | compare op l r =>
    have hl := cost_le l
    have hr := cost_le r
    rw [cost, count]
    omega
  | between n low high =>
    have hn := cost_le n
    have hlow := cost_le low
    have hhigh := cost_le high
    rw [cost, count]
    omega
  | and ns | or ns | call f ns | host f ns =>
    have hns := costs_le ns
    rw [cost, count]
    omega
  | quantifier kind c slot p =>
    have hc := cost_le c
    have hp := cost_le p
    rw [cost, count]
    omega
termination_by structural n

theorem costs_le (ns : List Node) : costs ns ≤ 50 * counts ns := by
  cases ns with
  | nil => exact Nat.le_refl 0
  | cons n ns =>
    have hn := cost_le n
    have hns := costs_le ns
    rw [costs, counts]
    omega
termination_by structural ns

end

end Node

/-! ## Costs in 32 bits -/

/-- The number in 32 bits, if it fits. -/
def narrow (k : Nat) : Option UInt32 := if k < 2 ^ 32 then some (UInt32.ofNat k) else none

/-- The sum of two numbers that are there, unless it does not fit 32 bits. -/
def checkedAdd (a b : Option UInt32) : Option UInt32 :=
  match a, b with
  | some a, some b => if a.toNat + b.toNat < 2 ^ 32 then some (a + b) else none
  | _, _ => none

theorem narrow_eq_some {k : Nat} (h : k < 2 ^ 32) : ∃ c, narrow k = some c ∧ c.toNat = k :=
  ⟨UInt32.ofNat k, if_pos h, UInt32.toNat_ofNat_of_lt' h⟩

theorem checkedAdd_narrow (j k : Nat) : checkedAdd (narrow j) (narrow k) = narrow (j + k) := by
  by_cases hj : j < 2 ^ 32
  · by_cases hk : k < 2 ^ 32
    · rw [narrow, narrow, if_pos hj, if_pos hk, checkedAdd, UInt32.toNat_ofNat_of_lt' hj,
        UInt32.toNat_ofNat_of_lt' hk, narrow, UInt32.ofNat_add]
    · have hsum : ¬j + k < 2 ^ 32 := by omega
      rw [narrow, narrow, narrow, if_pos hj, if_neg hk, if_neg hsum]
      rfl
  · have hsum : ¬j + k < 2 ^ 32 := by omega
    rw [narrow, narrow, narrow, if_neg hj, if_neg hsum]
    rfl

namespace Node

mutual

/-- `Node.cost` in 32 bits. There is none if one of the sums on the way does not fit. -/
def wordCost : Node → Option UInt32
  | .const _ => some 0
  | .field _ | .existing _ => some 1
  | .isNull n _ | .neg n | .not n => checkedAdd (some 1) n.wordCost
  | .compare _ l r => checkedAdd (checkedAdd (some 2) l.wordCost) r.wordCost
  | .within n _ _ => checkedAdd (some 3) n.wordCost
  | .between n lo hi _ =>
    checkedAdd (checkedAdd (checkedAdd (some 3) n.wordCost) lo.wordCost) hi.wordCost
  | .and ns | .or ns => wordCosts ns (some 0)
  | .like n _ _ => checkedAdd (some 8) n.wordCost
  | .call _ args => checkedAdd (some 10) (wordCosts args (some 0))
  | .host _ args => checkedAdd (some 25) (wordCosts args (some 0))
  | .matching n _ _ => checkedAdd (some 30) n.wordCost
  | .quantifier _ c _ p => checkedAdd (checkedAdd (some 50) c.wordCost) p.wordCost

/-- The costs of several nodes, added to a sum one after the other. -/
def wordCosts : List Node → Option UInt32 → Option UInt32
  | [], sum => sum
  | n :: ns, sum => wordCosts ns (checkedAdd sum n.wordCost)

end

mutual

/-- Costs in 32 bits are right, and there is none just if the whole does not fit. -/
theorem wordCost_eq (n : Node) : n.wordCost = narrow n.cost := by
  cases n with
  | const | field | existing => rfl
  | neg n | not n | isNull n | like n | matching n | within n =>
    rw [wordCost, cost, wordCost_eq n, ← checkedAdd_narrow]
    rfl
  | compare op l r =>
    rw [wordCost, cost, wordCost_eq l, wordCost_eq r, ← checkedAdd_narrow, ← checkedAdd_narrow]
    rfl
  | between n low high =>
    rw [wordCost, cost, wordCost_eq n, wordCost_eq low, wordCost_eq high, ← checkedAdd_narrow,
      ← checkedAdd_narrow, ← checkedAdd_narrow]
    rfl
  | and ns | or ns =>
    rw [wordCost, cost, ← Nat.zero_add (costs ns)]
    exact wordCosts_eq ns 0
  | call f ns | host f ns =>
    rw [wordCost, cost, ← checkedAdd_narrow, ← Nat.zero_add (costs ns), ← wordCosts_eq ns 0]
    rfl
  | quantifier kind c slot p =>
    rw [wordCost, cost, wordCost_eq c, wordCost_eq p, ← checkedAdd_narrow, ← checkedAdd_narrow]
    rfl
termination_by structural n

theorem wordCosts_eq (ns : List Node) (k : Nat) :
    wordCosts ns (narrow k) = narrow (k + costs ns) := by
  cases ns with
  | nil => rfl
  | cons n ns =>
    rw [wordCosts, costs, wordCost_eq n, checkedAdd_narrow, wordCosts_eq ns, Nat.add_assoc]
termination_by structural ns

end

end Node

/-! ## Operands in order -/

/-- `root.Sorts fs kept`: compiling `root` puts the nodes `kept`, which are what is kept of the
operands of some `AND` or `OR` in it, in the order of their cost (`lowerOperands_eq_ok`), unless it
stops before. -/
def Expr.Sorts (fs : HostFunctions) (root : Expr) (kept : List Node) : Prop :=
  ∃ scope x isAnd es, root.Checked fs [] scope x ∧ x.operands? = some (isAnd, es) ∧
    kept = es.filterMap (Expr.varying? fs scope)

/-- A node that is kept has no more nodes than the whole has expressions. -/
theorem Expr.Sorts.count_le {fs : HostFunctions} {root : Expr} {kept : List Node}
    (h : root.Sorts fs kept) : ∀ n ∈ kept, n.count ≤ root.count := by
  obtain ⟨scope, x, isAnd, es, hx, hes, rfl⟩ := h
  intro n hn
  obtain ⟨e, he, hvarying⟩ := List.mem_filterMap.mp hn
  obtain ⟨t, hlower, -⟩ := operand?_eq_some.mp (Option.filter_eq_some_iff.mp hvarying).1
  have hpart : (scope, e) ∈ x.parts scope := parts_of_operands hes ▸ List.mem_map_of_mem he
  calc n.count ≤ e.count := count_of_lower e hlower
    _ ≤ x.count := Nat.le_of_lt (count_of_mem_parts hpart)
    _ ≤ root.count := count_of_checked hx

/-- A compiled filter has no more nodes than its text has tokens, and bytes. A node costs at most
50 times as much as it has nodes, so that the costs by which operands are put in order can be
summed in 32 bits if the text is short enough. -/
theorem static_costs_fit {fs : HostFunctions} {source : String} :
    (∀ x, compile fs source = .ok x →
      ∃ body last, tokenize source = .ok (body ++ [last]) ∧ last.kind = .eof ∧
        (∀ t ∈ body, t.kind ≠ .eof) ∧ x.root.count ≤ body.length ∧
        body.length ≤ source.utf8ByteSize) ∧
    (∀ n : Node, n.cost ≤ 50 * n.count) ∧
    (50 * source.utf8ByteSize < 2 ^ 32 → ∀ e kept, parse source = .ok e → e.Sorts fs kept →
      ∀ n ∈ kept, ∃ c, n.wordCost = some c ∧ c.toNat = n.cost) := by
  refine ⟨fun x hx => ?_, Node.cost_le, fun hsize e kept he hkept n hn => ?_⟩
  · obtain ⟨e, root, t, he, hroot, -, rfl⟩ := compile_eq_ok.mp hx
    obtain ⟨body, last, hts, hlast, hbody, hcount, hlength⟩ := count_le_of_parse he
    exact ⟨body, last, hts, hlast, hbody, Nat.le_trans (count_of_lower e hroot) hcount, hlength⟩
  · obtain ⟨body, -, -, -, -, hcount, hlength⟩ := count_le_of_parse he
    have hcost := n.cost_le
    have hle := hkept.count_le n hn
    rw [n.wordCost_eq]
    exact narrow_eq_some (by omega)

/-- Two operands, of which the second is the cheaper one. -/
def unsortedSource : String := "any(payload.xs, x => x.tag LIKE 'a*') AND -payload.n > 1"

theorem static_costs_fit_unsorted :
    ∃ x body last e kept, compile .empty unsortedSource = .ok x ∧
      tokenize unsortedSource = .ok (body ++ [last]) ∧ x.root.count ≤ body.length ∧
      body.length ≤ unsortedSource.utf8ByteSize ∧ 50 * unsortedSource.utf8ByteSize < 2 ^ 32 ∧
      parse unsortedSource = .ok e ∧ e.Sorts .empty kept ∧ kept.map Node.cost = [60, 4] ∧
      (∀ n ∈ kept, n.cost ≤ 50 * n.count) ∧
      ∀ n ∈ kept, ∃ c, n.wordCost = some c ∧ c.toNat = n.cost := by
  have hcompile : (compile .empty unsortedSource).toOption.isSome = true := by decide +kernel
  have hkept : ((parse unsortedSource).toOption.bind Expr.operands?).map (fun p =>
      (p.2.filterMap (Expr.varying? .empty [])).map Node.cost) = some [60, 4] := by decide +kernel
  have hsize : 50 * unsortedSource.utf8ByteSize < 2 ^ 32 := by decide +kernel
  obtain ⟨x, hx⟩ := exists_eq_ok hcompile
  obtain ⟨⟨isAnd, es⟩, hes, hcosts⟩ := Option.map_eq_some_iff.mp hkept
  obtain ⟨e, he, hes⟩ := Option.bind_eq_some_iff.mp hes
  have hparse := toOption_eq_some.mp he
  have hsorts : e.Sorts .empty (es.filterMap (Expr.varying? .empty [])) :=
    ⟨[], e, isAnd, es, .root, hes, rfl⟩
  obtain ⟨htokens, hcost, hfit⟩ := @static_costs_fit .empty unsortedSource
  obtain ⟨body, last, hts, -, -, hcount, hlength⟩ := htokens x hx
  exact ⟨x, body, last, e, _, hx, hts, hcount, hlength, hsize, hparse, hsorts, hcosts,
    fun n _ => hcost n, hfit hsize e _ hparse hsorts⟩

end Switchyard.Filter
