import Switchyard.Proofs.Filter.Reading

/-!
# The parsers of predicates and connectives

The parsers of predicates, negations, conjunctions and disjunctions read the phrases of the grammar
if the parsers of the enclosed level do. By induction on the enclosures that are left, the parsers
of every level do.

* `reads_test`, `reads_predicate`: what stands behind an operand, and predicates.
* `reads_negation`, `reads_conjunction`, `reads_disjunction`: the connectives.
* `LevelReads`, `levelReads_level`: the parsers of a level read everything up to its depth.
-/

namespace Switchyard.Filter

namespace Grammar

open Switchyard.Filter.Parser

variable {ts rest : List Token} {d : Nat} {operand : Parser Expr} {left : Expr}

/-! ## Tests -/

theorem compareOp?_eq_some {k : TokenKind} {op : CompareOp} :
    compareOp? k = some op ↔ k = compareKind op := by
  cases op <;> cases k <;> simp [compareOp?, compareKind]

/-- What is read behind the operand of a predicate. -/
def suffix (operand : Parser Expr) (left : Expr) : Parser Expr := fun ts =>
  match compareOp? (peek ts).kind with
  | some op => do
    let (right, rest) ← operand (advance ts)
    .ok (.compare op left right (peek ts).pos, rest)
  | none =>
    let negated := (peek ts).kind = .not && isNegatable (peek (advance ts)).kind
    keywordPredicate operand left negated (peek ts).pos (if negated then advance ts else ts)

/-- The brackets that a set may stand in. -/
theorem closing?_eq_some {k close : TokenKind} :
    closing? k = some close ↔ ∃ b : Bracket, k = b.opening ∧ b.closing = close := by
  constructor
  · intro h
    unfold closing? at h
    split at h
    · obtain rfl := Option.some.inj h
      exact ⟨.round, rfl, rfl⟩
    · obtain rfl := Option.some.inj h
      exact ⟨.square, rfl, rfl⟩
    · cases h
  · rintro ⟨b, rfl, rfl⟩
    cases b <;> rfl

section Keywords

variable {negated : Bool} {pos : Nat} {x : Expr}

theorem keyword_text {test : TextTest} (hk : (peek ts).kind = test.kind) :
    keywordPredicate operand left negated pos ts = .ok (x, rest) ↔
      ∃ pattern, (peek (advance ts)).kind = .string pattern ∧
        test.expr left pattern negated pos = x ∧ advance (advance ts) = rest := by
  unfold keywordPredicate
  cases test with
  | like | matching =>
    rw [TextTest.kind] at hk
    simp only [hk]
    split
    · next pattern hp => simp [hp, TextTest.expr, pure_eq]
    · next hp =>
      refine iff_of_false failAt_ne_ok ?_
      rintro ⟨pattern, hp', -⟩
      exact hp pattern hp'

theorem keyword_between (hk : (peek ts).kind = .between) :
    keywordPredicate operand left negated pos ts = .ok (x, rest) ↔
      ∃ low mid high, operand (advance ts) = .ok (low, mid) ∧ (peek mid).kind = .and ∧
        operand (advance mid) = .ok (high, rest) ∧ .between left low high negated pos = x := by
  unfold keywordPredicate
  simp only [hk, bind_eq_ok, Prod.exists, liftM_eq, expect_eq_ok, pure_eq, Except.ok.injEq,
    Prod.mk.injEq]
  constructor
  · rintro ⟨low, mid, hlow, _, _, ⟨hand, rfl⟩, high, _, hhigh, rfl, rfl⟩
    exact ⟨low, mid, high, hlow, hand, hhigh, rfl⟩
  · rintro ⟨low, mid, high, hlow, hand, hhigh, rfl⟩
    exact ⟨low, mid, hlow, (), _, ⟨hand, rfl⟩, high, rest, hhigh, rfl, rfl⟩

theorem keyword_within (hk : (peek ts).kind = .within) :
    keywordPredicate operand left negated pos ts = .ok (x, rest) ↔
      ∃ (b : Bracket) (items : List Expr), (peek (advance ts)).kind = b.opening ∧
        closedList b.closing "closing bracket of IN list" operand (advance (advance ts)) =
          .ok (items, rest) ∧ .within left items negated pos = x := by
  unfold keywordPredicate
  simp only [hk]
  split
  · next hclose =>
    refine iff_of_false failAt_ne_ok ?_
    rintro ⟨b, items, hb, -, -⟩
    have hsome := closing?_eq_some.mpr ⟨b, hb, rfl⟩
    rw [hclose] at hsome
    cases hsome
  · next close hclose =>
    obtain ⟨b, hb, rfl⟩ := closing?_eq_some.mp hclose
    simp only [bind_eq_ok, Prod.exists, pure_eq, Except.ok.injEq, Prod.mk.injEq]
    constructor
    · rintro ⟨items, _, hitems, rfl, rfl⟩
      exact ⟨b, items, hb, hitems, rfl⟩
    · rintro ⟨b', items, hb', hitems, rfl⟩
      obtain rfl := Bracket.opening_inj (hb.symm.trans hb')
      exact ⟨items, rest, hitems, rfl, rfl⟩

theorem keyword_isNull (hk : (peek ts).kind = .is) :
    keywordPredicate operand left negated pos ts = .ok (x, rest) ↔
      ((peek (advance ts)).kind = .not ∧ (peek (advance (advance ts))).kind = .null ∧
        .isNull left true pos = x ∧ advance (advance (advance ts)) = rest) ∨
      ((peek (advance ts)).kind = .null ∧ .isNull left false pos = x ∧
        advance (advance ts) = rest) := by
  unfold keywordPredicate
  simp only [hk]
  by_cases hnot : (peek (advance ts)).kind = .not
  · simp only [hnot, ↓reduceIte, bind_eq_ok, Prod.exists, liftM_eq, expect_eq_ok, pure_eq,
      Except.ok.injEq, Prod.mk.injEq, decide_true, true_and, reduceCtorEq, false_and, or_false]
    constructor
    · rintro ⟨_, _, ⟨hnull, rfl⟩, rfl, rfl⟩
      exact ⟨hnull, rfl, rfl⟩
    · rintro ⟨hnull, rfl, rfl⟩
      exact ⟨(), _, ⟨hnull, rfl⟩, rfl, rfl⟩
  · simp only [hnot, ↓reduceIte, bind_eq_ok, Prod.exists, liftM_eq, expect_eq_ok, pure_eq,
      Except.ok.injEq, Prod.mk.injEq, decide_false, false_and, false_or]
    constructor
    · rintro ⟨_, _, ⟨hnull, rfl⟩, rfl, rfl⟩
      exact ⟨hnull, rfl, rfl⟩
    · rintro ⟨hnull, rfl, rfl⟩
      exact ⟨(), _, ⟨hnull, rfl⟩, rfl, rfl⟩

theorem keyword_none (hk : ∀ k ∈ [TokenKind.like, .matching, .between, .within, .is],
    (peek ts).kind ≠ k) : keywordPredicate operand left negated pos ts = .ok (left, ts) := by
  unfold keywordPredicate
  dsimp only
  split
  · next h => exact absurd h (hk _ (by decide))
  · next h => exact absurd h (hk _ (by decide))
  · next h => exact absurd h (hk _ (by decide))
  · next h => exact absurd h (hk _ (by decide))
  · next h => exact absurd h (hk _ (by decide))
  · rfl

end Keywords

/-- The tokens are those of a test, with `rest` behind it, that makes `x` of its operand. -/
def IsTest (d : Nat) (left x : Expr) (ts rest : List Token) : Prop :=
  ∃ t : Phrase (.one .test), t.depth < d ∧ t.meaning left = x ∧ ts = t.tokens ++ rest ∧ Ended rest

section Sound

variable {n : Option Mark} {x : Expr}

theorem text_sound {test : TextTest} (hd : 0 < d) (h : Ended ts) (hk : (peek ts).kind = test.kind)
    (hs : keywordPredicate operand left n.isSome (negationPos n (Mark.of (peek ts))) ts =
      .ok (x, rest)) :
    IsTest d left x (negation n ++ ts) rest := by
  obtain ⟨pattern, hp, rfl, rfl⟩ := (keyword_text hk).mp hs
  have hne : test.kind ≠ .eof := by cases test <;> simp [TextTest.kind]
  obtain ⟨hfirst, hnext⟩ := h.next hk hne
  obtain ⟨hsecond, hrest⟩ := hnext.next hp (by simp)
  refine ⟨.text n (Mark.of (peek ts)) test (Mark.of (peek (advance ts))) pattern, hd, rfl, ?_,
    hrest⟩
  rw [Phrase.tokens, List.append_assoc, List.cons_append, List.singleton_append, ← hsecond,
    ← hfirst]

theorem between_sound (ho : Reads d (.one .operand) id operand) (h : Ended ts)
    (hk : (peek ts).kind = .between)
    (hs : keywordPredicate operand left n.isSome (negationPos n (Mark.of (peek ts))) ts =
      .ok (x, rest)) :
    IsTest d left x (negation n ++ ts) rest := by
  obtain ⟨low, mid, high, hlow, hand, hhigh, rfl⟩ := (keyword_between hk).mp hs
  obtain ⟨hfirst, hnext⟩ := h.next hk (by simp)
  obtain ⟨tl, hdl, rfl, hl, hmid⟩ := ho.sound hnext hlow
  obtain ⟨hsecond, hend⟩ := hmid.next hand (by simp)
  obtain ⟨th, hdh, rfl, hh, hrest⟩ := ho.sound hend hhigh
  refine ⟨.between n (Mark.of (peek ts)) tl (Mark.of (peek mid)) th, Nat.max_lt.mpr ⟨hdl, hdh⟩,
    rfl, ?_, hrest⟩
  rw [Phrase.tokens, List.append_assoc, List.cons_append, List.append_assoc, List.cons_append,
    ← hh, ← hsecond, ← hl, ← hfirst]

theorem within_sound (ho : Reads d (.one .operand) id operand) (hd : 0 < d) (h : Ended ts)
    (hk : (peek ts).kind = .within)
    (hs : keywordPredicate operand left n.isSome (negationPos n (Mark.of (peek ts))) ts =
      .ok (x, rest)) :
    IsTest d left x (negation n ++ ts) rest := by
  obtain ⟨b, items, hb, hitems, rfl⟩ := (keyword_within hk).mp hs
  have hne : b.opening ≠ .eof := by cases b <;> simp [Bracket.opening]
  obtain ⟨hfirst, hnext⟩ := h.next hk (by simp)
  obtain ⟨hsecond, hend⟩ := hnext.next hb hne
  obtain ⟨t, closing, ht, rfl, hts, hrest⟩ := closedList_sound ho rfl hd b.closing_eq hend hitems
  refine ⟨.within n (Mark.of (peek ts)) b (Mark.of (peek (advance ts))) t closing, ht, rfl, ?_,
    hrest⟩
  rw [Phrase.tokens, List.append_assoc, List.cons_append, List.cons_append, List.append_assoc,
    List.singleton_append, ← hts, ← hsecond, ← hfirst]

theorem isNull_sound (hd : 0 < d) (h : Ended ts) (hk : (peek ts).kind = .is)
    (hs : keywordPredicate operand left false (peek ts).pos ts = .ok (x, rest)) :
    IsTest d left x ts rest := by
  obtain ⟨hfirst, hnext⟩ := h.next hk (by simp)
  rcases (keyword_isNull hk).mp hs with ⟨hnot, hnull, rfl, rfl⟩ | ⟨hnull, rfl, rfl⟩
  · obtain ⟨hsecond, hend⟩ := hnext.next hnot (by simp)
    obtain ⟨hthird, hrest⟩ := hend.next hnull (by simp)
    refine ⟨.isNull (Mark.of (peek ts)) (some (Mark.of (peek (advance ts))))
      (Mark.of (peek (advance (advance ts)))), hd, rfl, ?_, hrest⟩
    exact hfirst.trans (congrArg _ (hsecond.trans (congrArg _ hthird)))
  · obtain ⟨hsecond, hrest⟩ := hnext.next hnull (by simp)
    refine ⟨.isNull (Mark.of (peek ts)) none (Mark.of (peek (advance ts))), hd, rfl, ?_, hrest⟩
    exact hfirst.trans (congrArg _ hsecond)

theorem isNegatable_iff {k : TokenKind} :
    isNegatable k = true ↔ k = .like ∨ k = .matching ∨ k = .between ∨ k = .within := by
  cases k <;> simp [isNegatable]

/-- A keyword that may stand behind a `NOT` is read with the one in front of it. -/
theorem negatable_sound (ho : Reads d (.one .operand) id operand) (hd : 0 < d) (h : Ended ts)
    (hk : isNegatable (peek ts).kind = true)
    (hs : keywordPredicate operand left n.isSome (negationPos n (Mark.of (peek ts))) ts =
      .ok (x, rest)) :
    IsTest d left x (negation n ++ ts) rest := by
  rcases isNegatable_iff.mp hk with hlike | hmatching | hbetween | hwithin
  · have hkind : (peek ts).kind = TextTest.like.kind := hlike
    exact text_sound hd h hkind hs
  · have hkind : (peek ts).kind = TextTest.matching.kind := hmatching
    exact text_sound hd h hkind hs
  · exact between_sound ho h hbetween hs
  · exact within_sound ho hd h hwithin hs

/-- With no `NOT` in front, a keyword says which test is read, and no keyword that there is none. -/
theorem keyword_sound (ho : Reads d (.one .operand) id operand) (hd : 0 < d) (h : Ended ts)
    (hs : keywordPredicate operand left false (peek ts).pos ts = .ok (x, rest)) :
    IsTest d left x ts rest := by
  by_cases hneg : isNegatable (peek ts).kind = true
  · exact negatable_sound (n := none) ho hd h hneg hs
  by_cases his : (peek ts).kind = .is
  · exact isNull_sound hd h his hs
  have hk : ∀ k ∈ [TokenKind.like, .matching, .between, .within, .is], (peek ts).kind ≠ k := by
    simpa [isNegatable_iff, his] using hneg
  rw [keyword_none hk] at hs
  obtain ⟨rfl, rfl⟩ := Prod.mk.inj (Except.ok.inj hs)
  exact ⟨.untested, hd, rfl, rfl, h⟩

theorem compare_sound (ho : Reads d (.one .operand) id operand) (h : Ended ts) {op : CompareOp}
    (hk : (peek ts).kind = compareKind op) {right : Expr}
    (hs : operand (advance ts) = .ok (right, rest)) :
    IsTest d left (.compare op left right (peek ts).pos) ts rest := by
  have hne : compareKind op ≠ .eof := by cases op <;> simp [compareKind]
  obtain ⟨hfirst, hnext⟩ := h.next hk hne
  obtain ⟨t, ht, rfl, hts, hrest⟩ := ho.sound hnext hs
  refine ⟨.compare (Mark.of (peek ts)) op t, ht, rfl, ?_, hrest⟩
  rw [Phrase.tokens, List.cons_append, ← hts]
  exact hfirst

theorem suffix_sound (ho : Reads d (.one .operand) id operand) (hd : 0 < d)
    (h : Ended ts) (hs : suffix operand left ts = .ok (x, rest)) : IsTest d left x ts rest := by
  unfold suffix at hs
  split at hs
  · next op hop =>
    obtain ⟨⟨right, mid⟩, hright, hs⟩ := bind_eq_ok.mp hs
    obtain ⟨rfl, rfl⟩ := Prod.mk.inj (Except.ok.inj hs)
    exact compare_sound ho h (compareOp?_eq_some.mp hop) hright
  · dsimp only at hs
    by_cases hneg : (peek ts).kind = .not ∧ isNegatable (peek (advance ts)).kind = true
    · obtain ⟨hnot, hkey⟩ := hneg
      obtain ⟨hfirst, hnext⟩ := h.next hnot (by simp)
      simp only [hnot, hkey, decide_true, Bool.and_self, ↓reduceIte] at hs
      obtain ⟨t, ht, rfl, hts, hrest⟩ :=
        negatable_sound (n := some (Mark.of (peek ts))) ho hd hnext hkey hs
      exact ⟨t, ht, rfl, hfirst.trans hts, hrest⟩
    · have hfalse : (decide ((peek ts).kind = .not) && isNegatable (peek (advance ts)).kind) =
          false := by
        rw [Bool.eq_false_iff, Ne, Bool.and_eq_true, decide_eq_true_eq]
        exact hneg
      rw [hfalse] at hs
      exact keyword_sound ho hd h hs

end Sound

section Complete

variable {n : Option Mark} {m m' : Mark}

/-- A keyword behind an operand is met with the `NOT` in front of it. -/
theorem suffix_keyword {k : TokenKind} (hk : compareOp? k = none)
    (hnot : k ≠ .not) (hn : n.isSome = true → isNegatable k = true) :
    suffix operand left (negation n ++ m.token k :: ts) =
      keywordPredicate operand left n.isSome (negationPos n m) (m.token k :: ts) := by
  cases n with
  | none =>
    simp only [suffix, negation, List.nil_append, peek_cons, Mark.kind_token, hk, hnot,
      decide_false, Bool.false_and, Bool.false_eq_true, ↓reduceIte]
    rfl
  | some m₁ =>
    have hneg := hn rfl
    have hop : compareOp? .not = none := rfl
    simp only [suffix, negation, List.singleton_append, peek_cons, Mark.kind_token, hop,
      advance_cons_cons, hneg, decide_true, Bool.and_self, ↓reduceIte]
    rfl

theorem suffix_untested (hstop : (Form.one .test).StopsAt (peek rest).kind) :
    suffix operand left rest = .ok (left, rest) := by
  have hstart : ∀ k ∈ testStarters, (peek rest).kind ≠ k :=
    fun k hk he => hstop (List.mem_append_left _ (he ▸ hk))
  have hop : compareOp? (peek rest).kind = none := by
    cases hop : compareOp? (peek rest).kind with
    | none => rfl
    | some op =>
      refine absurd (compareOp?_eq_some.mp hop) (hstart _ ?_)
      cases op <;> decide
  have hnot : (peek rest).kind ≠ .not := hstart _ (by decide)
  have hsub : ∀ k ∈ [TokenKind.like, .matching, .between, .within, .is], k ∈ testStarters := by
    decide
  simp only [suffix, hop, hnot, decide_false, Bool.false_and]
  exact keyword_none fun k hk => hstart k (hsub k hk)

theorem suffix_compare (ho : Reads d (.one .operand) id operand) {op : CompareOp}
    {right : Phrase (.one .operand)} (ht : right.depth < d) (hrest : Ended rest)
    (hstop : (Form.one .operand).StopsAt (peek rest).kind) :
    suffix operand left ((Phrase.compare m op right).tokens ++ rest) =
      .ok (.compare op left right.meaning m.pos, rest) := by
  have hright := ho.complete right ht hrest hstop
  have hop : compareOp? (compareKind op) = some op := compareOp?_eq_some.mpr rfl
  rw [← (hrest.append right.tokens).advance_cons (m.token (compareKind op))] at hright
  simp only [suffix, Phrase.tokens, List.cons_append, peek_cons, Mark.kind_token, hop]
  exact bind_eq_ok.mpr ⟨_, hright, rfl⟩

theorem suffix_text {test : TextTest} {pattern : String} (hrest : Ended rest) :
    suffix operand left ((Phrase.text n m test m' pattern).tokens ++ rest) =
      .ok (test.expr left pattern n.isSome (negationPos n m), rest) := by
  have hop : compareOp? test.kind = none := by cases test <;> rfl
  have hnot : test.kind ≠ .not := by cases test <;> simp [TextTest.kind]
  have hneg : isNegatable test.kind = true := by cases test <;> rfl
  rw [Phrase.tokens, List.append_assoc, List.cons_append, List.singleton_append,
    suffix_keyword hop hnot fun _ => hneg]
  exact (keyword_text rfl).mpr ⟨pattern, rfl, rfl, hrest.advance_cons _⟩

theorem suffix_between (ho : Reads d (.one .operand) id operand)
    {low high : Phrase (.one .operand)} (hdl : low.depth < d) (hdh : high.depth < d)
    (hrest : Ended rest) (hstop : (Form.one .operand).StopsAt (peek rest).kind) :
    suffix operand left ((Phrase.between n m low m' high).tokens ++ rest) =
      .ok (.between left low.meaning high.meaning n.isSome (negationPos n m), rest) := by
  have hend := hrest.append high.tokens
  have hmid := hend.cons (m'.token .and)
  have hand (ts : List Token) : (Form.one .operand).StopsAt (peek (m'.token .and :: ts)).kind := by
    simp [Form.StopsAt, Nonterminal.extenders]
  have hlow := ho.complete low hdl hmid (hand _)
  have hhigh := ho.complete high hdh hrest hstop
  rw [← (hmid.append low.tokens).advance_cons (m.token .between)] at hlow
  rw [← hend.advance_cons (m'.token .and)] at hhigh
  have hnot : TokenKind.between ≠ .not := by decide
  rw [Phrase.tokens, List.append_assoc, List.cons_append, List.append_assoc, List.cons_append,
    suffix_keyword rfl hnot fun _ => rfl]
  exact (keyword_between rfl).mpr ⟨_, _, _, hlow, rfl, hhigh, rfl⟩

theorem suffix_within (ho : Reads d (.one .operand) id operand) {b : Bracket}
    {opening closing : Mark} {items : Phrase (.any .operand)} (ht : items.depth < d)
    (hrest : Ended rest) :
    suffix operand left ((Phrase.within n m b opening items closing).tokens ++ rest) =
      .ok (.within left items.meaning n.isSome (negationPos n m), rest) := by
  have hend := (hrest.cons (closing.token b.closing)).append items.tokens
  have hset : closedList b.closing "closing bracket of IN list" operand
      (items.tokens ++ closing.token b.closing :: rest) = .ok (items.meaning, rest) :=
    closedList_complete ho rfl (by decide) b.closing_eq ht hrest
  rw [← hend.advance_cons (opening.token b.opening)] at hset
  have hnot : TokenKind.within ≠ .not := by decide
  rw [Phrase.tokens, List.append_assoc, List.cons_append, List.cons_append, List.append_assoc,
    List.singleton_append, suffix_keyword rfl hnot fun _ => rfl]
  exact (keyword_within rfl).mpr ⟨b, _, rfl, hset, rfl⟩

theorem suffix_isNull (hrest : Ended rest) :
    suffix operand left ((Phrase.isNull m n m').tokens ++ rest) =
      .ok (.isNull left n.isSome m.pos, rest) := by
  have hadv := hrest.advance_cons (m'.token .null)
  have hnot : TokenKind.is ≠ .not := by decide
  -- The `NOT` of this test stands behind the keyword, so there is none in front.
  have hsuffix : suffix operand left
      (negation none ++ m.token .is :: (negation n ++ m'.token .null :: rest)) =
        keywordPredicate operand left false m.pos
          (m.token .is :: (negation n ++ m'.token .null :: rest)) :=
    suffix_keyword rfl hnot (by simp)
  have htokens : (Phrase.isNull m n m').tokens ++ rest =
      negation none ++ m.token .is :: (negation n ++ m'.token .null :: rest) := by
    simp [Phrase.tokens, negation]
  rw [htokens, hsuffix]
  refine (keyword_isNull rfl).mpr ?_
  cases n with
  | none => exact .inr ⟨rfl, rfl, hadv⟩
  | some m₁ => exact .inl ⟨rfl, rfl, rfl, hadv⟩

theorem suffix_complete (ho : Reads d (.one .operand) id operand) {t : Phrase (.one .test)}
    (ht : t.depth < d) (hrest : Ended rest) (hstop : (Form.one .test).StopsAt (peek rest).kind) :
    suffix operand left (t.tokens ++ rest) = .ok (t.meaning left, rest) := by
  have hoperand : (Form.one .operand).StopsAt (peek rest).kind :=
    Phrase.stopsAt_operand_of_test hstop
  cases t with
  | untested => exact suffix_untested hstop
  | compare m op right => exact suffix_compare ho ht hrest hoperand
  | text n m test m' pattern => exact suffix_text hrest
  | between n m low m' high =>
    obtain ⟨hdl, hdh⟩ := Nat.max_lt.mp ht
    exact suffix_between ho hdl hdh hrest hoperand
  | within n m b opening items closing => exact suffix_within ho ht hrest
  | isNull m n m' => exact suffix_isNull hrest

end Complete

/-- What stands behind an operand is read as a test of it. -/
theorem reads_test (ho : Reads d (.one .operand) id operand) (hd : 0 < d) (left : Expr) :
    Reads d (.one .test) (fun test => test left) (suffix operand left) where
  sound h hs := suffix_sound ho hd h hs
  complete _ _ ht hrest hstop := suffix_complete ho ht hrest hstop

/-! ## Predicates -/

theorem existence_sound {x : Expr} (h : Ended ts) (hk : (peek ts).kind = .existing)
    (hs : existence ts = .ok (x, rest)) :
    ∃ t : Phrase (.one .predicate), t.depth = 0 ∧ t.meaning = x ∧ ts = t.tokens ++ rest ∧
      Ended rest := by
  obtain ⟨hfirst, hnext⟩ := h.next hk (by simp)
  unfold existence at hs
  -- A parenthesis behind the keyword is part of the test and not of its operand.
  by_cases hopen : (peek (advance ts)).kind = .leftParen
  · obtain ⟨hsecond, hinner⟩ := hnext.next hopen (by simp)
    simp only [hopen, ↓reduceIte] at hs
    split at hs
    · next root hroot =>
      obtain ⟨hthird, hend⟩ := hinner.next hroot (by simp)
      obtain ⟨⟨p, mid⟩, hpath, hs⟩ := bind_eq_ok.mp hs
      obtain ⟨⟨⟨⟩, last⟩, hexpect, hs⟩ := bind_eq_ok.mp hs
      obtain ⟨rfl, rfl⟩ := Prod.mk.inj (Except.ok.inj hs)
      obtain ⟨hclose, rfl⟩ := expect_eq_ok.mp hexpect
      obtain ⟨r, rfl, hr, hmid⟩ :=
        pathFrom_sound (Mark.of (peek (advance (advance ts)))) hend hpath
      obtain ⟨hlast, hrest⟩ := hmid.next hclose (by simp)
      refine ⟨.existingIn (Mark.of (peek ts)) (Mark.of (peek (advance ts))) r
        (Mark.of (peek mid)), rfl, rfl, ?_, hrest⟩
      rw [Phrase.tokens, List.cons_append, List.cons_append, List.append_assoc,
        List.singleton_append, ← hlast, ← hr, ← hthird, ← hsecond]
      exact hfirst
    · cases hs
  · simp only [hopen, ↓reduceIte] at hs
    split at hs
    · next root hroot =>
      obtain ⟨hsecond, hend⟩ := hnext.next hroot (by simp)
      obtain ⟨⟨p, mid⟩, hpath, hs⟩ := bind_eq_ok.mp hs
      obtain ⟨rfl, rfl⟩ := Prod.mk.inj (Except.ok.inj hs)
      obtain ⟨r, rfl, hr, hrest⟩ :=
        pathFrom_sound (Mark.of (peek (advance ts))) hend hpath
      refine ⟨.existing (Mark.of (peek ts)) r, rfl, rfl, ?_, hrest⟩
      rw [Phrase.tokens, List.cons_append, ← hr, ← hsecond]
      exact hfirst
    · cases hs

theorem existence_complete {m : Mark} {r : Route} (hrest : Ended rest)
    (hstop : (Form.one .operand).StopsAt (peek rest).kind) :
    existence ((Phrase.existing m r).tokens ++ rest) = .ok (.existing r.path, rest) := by
  have hsteps : Ended (r.steps.flatMap Step.tokens ++ rest) := hrest.append _
  have hpath := pathFrom_complete r hrest hstop
  have htokens : (Phrase.existing m r).tokens ++ rest = m.token .existing ::
      r.root.token (.ident r.name) :: (r.steps.flatMap Step.tokens ++ rest) := rfl
  rw [htokens]
  unfold existence
  simp only [advance_cons_cons, peek_cons, Mark.kind_token, Mark.pos_token, reduceCtorEq,
    ↓reduceIte, hsteps.advance_cons]
  exact bind_eq_ok.mpr ⟨_, hpath, rfl⟩

theorem existence_complete_in {m opening : Mark} {r : Route} {closing : Mark}
    (hrest : Ended rest) : existence ((Phrase.existingIn m opening r closing).tokens ++ rest) =
      .ok (.existing r.path, rest) := by
  have hclosing : Ended (closing.token .rightParen :: rest) := hrest.cons _
  have hsteps := hclosing.append (r.steps.flatMap Step.tokens)
  have hpath := pathFrom_complete r hclosing (stopsAt_closing closing rest (.inl rfl))
  have hend : expect .rightParen "')'" (closing.token .rightParen :: rest) = .ok ((), rest) :=
    expect_eq_ok.mpr ⟨rfl, hrest.advance_cons _⟩
  have htokens : (Phrase.existingIn m opening r closing).tokens ++ rest =
      m.token .existing :: opening.token .leftParen :: r.root.token (.ident r.name) ::
        (r.steps.flatMap Step.tokens ++ closing.token .rightParen :: rest) := by
    simp [Phrase.tokens, Route.tokens]
  rw [htokens]
  unfold existence
  simp only [advance_cons_cons, peek_cons, Mark.kind_token, Mark.pos_token, ↓reduceIte,
    hsteps.advance_cons]
  exact bind_eq_ok.mpr ⟨_, hpath, bind_eq_ok.mpr ⟨_, hend, rfl⟩⟩

theorem reads_predicate (ho : Reads d (.one .operand) id operand) (hd : 0 < d) :
    Reads d (.one .predicate) id (predicate operand) where
  sound {ts rest x} h hs := by
    unfold predicate at hs
    split at hs
    · next hk =>
      obtain ⟨t, ht, hmean, hts, hrest⟩ := existence_sound h hk hs
      exact ⟨t, ht ▸ hd, hmean, hts, hrest⟩
    · obtain ⟨⟨left, mid⟩, hleft, hs⟩ := bind_eq_ok.mp hs
      obtain ⟨e, he, rfl, hts, hmid⟩ := ho.sound h hleft
      obtain ⟨t, ht, rfl, hmid', hrest⟩ := (reads_test ho hd _).sound hmid hs
      refine ⟨.tested e t, Nat.max_lt.mpr ⟨he, ht⟩, rfl, ?_, hrest⟩
      rw [Phrase.tokens, List.append_assoc, ← hmid']
      exact hts
  complete t rest ht hrest hstop := by
    cases t with
    | existing m r =>
      have hoperand : (Form.one .operand).StopsAt (peek rest).kind :=
        fun hk => hstop (List.mem_append_right _ hk)
      exact (if_pos rfl).trans (existence_complete hrest hoperand)
    | existingIn m opening r closing => exact (if_pos rfl).trans (existence_complete_in hrest)
    | tested e t =>
      obtain ⟨hde, hdt⟩ := Nat.max_lt.mp ht
      have hfirst := e.peek_not_nonstarter (t.tokens ++ rest)
      -- The keyword of an existence test begins no operand, so the reader takes the other branch.
      have hne : (peek (e.tokens ++ (t.tokens ++ rest))).kind ≠ .existing :=
        fun hk => hfirst (hk ▸ by decide)
      have hleft := ho.complete e hde (hrest.append t.tokens) (Phrase.stopsAt_operand hstop)
      have htest := (reads_test ho hd e.meaning).complete t hdt hrest hstop
      rw [Phrase.tokens, List.append_assoc]
      unfold predicate
      rw [if_neg hne]
      exact bind_eq_ok.mpr ⟨_, hleft, htest⟩

/-! ## Connectives -/

/-- A negation is read if what its `NOT` encloses is. -/
theorem reads_negation {enclose : Enclosure (Except CompileError)} {inner : Parser Expr}
    (hp : Reads (d + 1) (.one .predicate) id (predicate operand))
    (hi : ∀ pos, Reads d (.one .negation) id fun ts => enclose pos (inner ts)) :
    Reads (d + 1) (.one .negation) id (marked enclose .not .not inner (predicate operand)) where
  sound {ts rest x} h hs := by
    by_cases hk : (peek ts).kind = .not
    · obtain ⟨e, he, rfl⟩ := (marked_eq_ok hk).mp hs
      obtain ⟨hfirst, hnext⟩ := h.next hk (by simp)
      obtain ⟨t, ht, rfl, hts, hrest⟩ := (hi _).sound hnext he
      refine ⟨.not (Mark.of (peek ts)) t, Nat.succ_lt_succ ht, rfl, ?_, hrest⟩
      rw [Phrase.tokens, List.cons_append, ← hts]
      exact hfirst
    · rw [marked_plain hk] at hs
      obtain ⟨t, ht, hmean, hts, hrest⟩ := hp.sound h hs
      exact ⟨.plain t, ht, hmean, hts, hrest⟩
  complete t rest ht hrest hstop := by
    cases t with
    | not m e =>
      have he := (hi m.pos).complete e (Nat.lt_of_succ_lt_succ ht) hrest hstop
      rw [← (hrest.append e.tokens).advance_cons (m.token .not)] at he
      have hfirst : (peek ((Phrase.not m e).tokens ++ rest)).kind = .not := rfl
      exact (marked_eq_ok hfirst).mpr ⟨_, he, rfl⟩
    | plain t =>
      have hfirst := t.peek_not_nonstarter rest
      have hne : (peek (t.tokens ++ rest)).kind ≠ .not := fun hk => hfirst (hk ▸ by decide)
      rw [Phrase.tokens, marked_plain hne]
      exact hp.complete t ht hrest hstop

theorem reads_conjunction {negation : Parser Expr} (hn : Reads d (.one .negation) id negation) :
    Reads d (.one .conjunction) id (conjunction negation) where
  sound {ts rest x} h hs := by
    obtain ⟨⟨es, mid⟩, hes, hs⟩ := bind_eq_ok.mp hs
    obtain ⟨rfl, rfl⟩ := Prod.mk.inj (Except.ok.inj hs)
    obtain ⟨t, ht, rfl, hts, hrest⟩ := separated_sound hn h hes
    exact ⟨.conjunction t, ht, rfl, hts, hrest⟩
  complete t rest ht hrest hstop := by
    cases t with
    | conjunction xs =>
      have hxs := (reads_some hn).complete xs ht hrest
        (not_or.mp fun hk => hstop (List.mem_cons.mpr hk))
      exact bind_eq_ok.mpr ⟨_, hxs, rfl⟩

/-- A disjunction encloses what is in it. -/
theorem reads_disjunction {negation : Parser Expr} (hn : Reads d (.one .negation) id negation) :
    Reads (d + 1) (.one .disjunction) id (disjunction negation) where
  sound {ts rest x} h hs := by
    obtain ⟨⟨es, mid⟩, hes, hs⟩ := bind_eq_ok.mp hs
    obtain ⟨rfl, rfl⟩ := Prod.mk.inj (Except.ok.inj hs)
    obtain ⟨t, ht, rfl, hts, hrest⟩ := separated_sound (reads_conjunction hn) h hes
    exact ⟨.disjunction t, Nat.succ_lt_succ ht, rfl, hts, hrest⟩
  complete t rest ht hrest hstop := by
    cases t with
    | disjunction xs =>
      have hxs := (reads_some (reads_conjunction hn)).complete xs (Nat.lt_of_succ_lt_succ ht) hrest
        (not_or.mp fun hk => hstop (List.mem_cons.mpr hk))
      exact bind_eq_ok.mpr ⟨_, hxs, rfl⟩

/-! ## Levels -/

/-- The parsers of a level read what encloses less than `d` times. -/
structure LevelReads (d : Nat) (l : Level (Except CompileError)) : Prop where
  expression : Reads d (.one .disjunction) id l.expression
  negation : Reads d (.one .negation) id l.negation
  operand : Reads d (.one .operand) id l.operand

/-- A parser that refuses everything reads the phrases of no depth. -/
theorem reads_none {f : Form} {fail : List Token → Except CompileError (f.Meaning × List Token)}
    (hd : ∀ t : Phrase f, d ≤ t.depth) (hfail : ∀ ts r, fail ts ≠ .ok r) : Reads d f id fail where
  sound _ hs := absurd hs (hfail _ _)
  complete t _ ht _ _ := absurd (hd t) (Nat.not_le.mpr ht)

theorem one_le_depth (t : Phrase (.one .disjunction)) : 1 ≤ t.depth := by
  cases t with
  | disjunction xs => exact Nat.succ_pos _

/-- The parsers around a level read one enclosure more than is read behind an enclosure. -/
theorem levelReads_around {enclose : Enclosure (Except CompileError)}
    {inner : Level (Except CompileError)}
    (hx : ∀ pos, Reads (d + 1) (.one .disjunction) id fun ts =>
      enclose pos (disjunction inner.negation ts))
    (hn : ∀ pos, Reads d (.one .negation) id fun ts => enclose pos (inner.negation ts))
    (ho : ∀ pos, Reads d (.one .operand) id fun ts => enclose pos (inner.operand ts)) :
    LevelReads (d + 1) (.around enclose inner) := by
  have hexpr : Reads (d + 1) (.one .disjunction) id (Level.around enclose inner).expression :=
    ⟨fun h hs => (hx _).sound h hs, fun t rest ht h hstop => (hx _).complete t ht h hstop⟩
  have hoperand : Reads (d + 1) (.one .operand) id (Level.around enclose inner).operand :=
    reads_operand hexpr ho
  exact ⟨hexpr, reads_negation (reads_predicate hoperand (Nat.succ_pos d)) hn, hoperand⟩

/-- The parsers of a level read everything up to its depth. -/
theorem levelReads_level (depth : Nat) : LevelReads (depth + 1) (level depth) := by
  induction depth with
  | zero =>
    exact levelReads_around (fun _ => reads_none one_le_depth fun _ _ => nofun)
      (fun _ => reads_none (fun _ => Nat.zero_le _) fun _ _ => nofun)
      fun _ => reads_none (fun _ => Nat.zero_le _) fun _ _ => nofun
  | succ depth ih =>
    exact levelReads_around (fun _ => reads_disjunction ih.negation) (fun _ => ih.negation)
      fun _ => ih.operand

end Grammar

end Switchyard.Filter
