import Switchyard.Proofs.Filter.Grammar

/-!
# The grammar of filters is unambiguous

Two phrases of one form that derive the same tokens are the same. The tokens behind them need not be
the same at the start, as long as each phrase ends there: one token of lookahead says which
production goes on, and two say whether an argument is a predicate over a variable.

* `Route.unique`: paths.
* `Phrase.unique`: all phrases.
-/

namespace Switchyard.Filter

namespace Grammar

open Switchyard.Filter.Parser (peek advance)

variable {rest rest' : List Token}

/-! ## Paths -/

theorem Step.unique {s s' : Step} (h : s.tokens ++ rest = s'.tokens ++ rest') :
    s = s' ∧ rest = rest' := by
  cases s with
  | field dot m name =>
    cases s' with
    | field => simpa [tokens, and_assoc] using h
    | keyword dot' m' k hk =>
      obtain ⟨-, ⟨-, rfl⟩, -⟩ : dot = dot' ∧ (m = m' ∧ .ident name = k) ∧ rest = rest' := by
        simpa [tokens] using h
      exact absurd hk ident_not_keyword
    | index | quoted => simp [tokens] at h
  | keyword dot m k hk =>
    cases s' with
    | field dot' m' name =>
      obtain ⟨-, ⟨-, rfl⟩, -⟩ : dot = dot' ∧ (m = m' ∧ k = .ident name) ∧ rest = rest' := by
        simpa [tokens] using h
      exact absurd hk ident_not_keyword
    | keyword => simpa [tokens, and_assoc] using h
    | index | quoted => simp [tokens] at h
  | index =>
    cases s' with
    | index => simpa [tokens, and_assoc] using h
    | field | keyword | quoted => simp [tokens] at h
  | quoted =>
    cases s' with
    | quoted => simpa [tokens, and_assoc] using h
    | field | keyword | index => simp [tokens] at h

/-- What stands behind a path does not go on it, so both lists of steps end at one place. -/
theorem Step.unique_all {steps steps' : List Step}
    (hrest : (Form.one .operand).StopsAt (peek rest).kind)
    (hrest' : (Form.one .operand).StopsAt (peek rest').kind)
    (h : steps.flatMap Step.tokens ++ rest = steps'.flatMap Step.tokens ++ rest') :
    steps = steps' ∧ rest = rest' := by
  -- A step begins with a dot or a bracket, and no operand can stop in front of these.
  have hstop : ∀ (s : Step) (ts : List Token),
      ¬(Form.one .operand).StopsAt (peek (s.tokens ++ ts)).kind := by
    intro s ts hs
    rcases s.peek_tokens ts with hk | hk
    · rw [hk] at hs
      exact hs (by decide)
    · rw [hk] at hs
      exact hs (by decide)
  induction steps generalizing steps' with
  | nil =>
    cases steps' with
    | nil => exact ⟨rfl, h⟩
    | cons s' steps' =>
      obtain rfl : rest = s'.tokens ++ (steps'.flatMap Step.tokens ++ rest') := by simpa using h
      exact absurd hrest (hstop s' _)
  | cons s steps ih =>
    cases steps' with
    | nil =>
      obtain rfl : s.tokens ++ (steps.flatMap Step.tokens ++ rest) = rest' := by simpa using h
      exact absurd hrest' (hstop s _)
    | cons s' steps' =>
      have hs : s.tokens ++ (steps.flatMap Step.tokens ++ rest) =
          s'.tokens ++ (steps'.flatMap Step.tokens ++ rest') := by simpa using h
      obtain ⟨rfl, htail⟩ := Step.unique hs
      obtain ⟨rfl, hr⟩ := ih htail
      exact ⟨rfl, hr⟩

theorem Route.unique {r r' : Route} (hrest : (Form.one .operand).StopsAt (peek rest).kind)
    (hrest' : (Form.one .operand).StopsAt (peek rest').kind)
    (h : r.tokens ++ rest = r'.tokens ++ rest') : r = r' ∧ rest = rest' := by
  obtain ⟨root, name, steps⟩ := r
  obtain ⟨root', name', steps'⟩ := r'
  simp only [tokens, List.cons_append, List.cons.injEq, Mark.token_inj, TokenKind.ident.injEq] at h
  obtain ⟨⟨rfl, rfl⟩, h⟩ := h
  obtain ⟨rfl, rfl⟩ := Step.unique_all hrest hrest' h
  exact ⟨rfl, rfl⟩

/-! ## Tests -/

theorem negation_append_inj {n n' : Option Mark} {m m' : Mark} {k k' : TokenKind}
    {ts ts' : List Token} (hk : k ≠ .not) (hk' : k' ≠ .not)
    (h : negation n ++ m.token k :: ts = negation n' ++ m'.token k' :: ts') :
    n = n' ∧ m = m' ∧ k = k' ∧ ts = ts' := by
  cases n with
  | none =>
    cases n' with
    | none => simpa [negation, and_assoc] using h
    | some m₁' => simp [negation, hk] at h
  | some m₁ =>
    cases n' with
    | none => simp [negation, Ne.symm hk'] at h
    | some m₁' => simpa [negation, and_assoc] using h

theorem compareKind_inj {op op' : CompareOp} (h : compareKind op = compareKind op') : op = op' := by
  cases op <;> cases op' <;> simp_all [compareKind]

theorem TextTest.kind_inj {t t' : TextTest} (h : t.kind = t'.kind) : t = t' := by
  cases t <;> cases t' <;> simp_all [kind]

namespace Phrase

/-- The operator or keyword of a test. -/
def testKind? : Phrase (.one .test) → Option TokenKind
  | untested => none
  | compare _ op _ => some (compareKind op)
  | text _ _ test _ _ => some test.kind
  | between _ _ _ _ _ => some .between
  | within _ _ _ _ _ _ => some .within
  | isNull _ _ _ => some .is

/-- The operator or keyword stands at the start, or behind a `NOT`. -/
theorem tokens_of_testKind {t : Phrase (.one .test)} {k : TokenKind} (h : t.testKind? = some k) :
    k ≠ .not ∧ ∃ (n : Option Mark) (m : Mark) (ts : List Token),
      t.tokens = negation n ++ m.token k :: ts := by
  cases t with
  | untested => cases h
  | compare m op right =>
    obtain rfl := Option.some.inj h
    exact ⟨by cases op <;> simp [compareKind], none, m, right.tokens, rfl⟩
  | text negated m test m' pattern =>
    obtain rfl := Option.some.inj h
    exact ⟨by cases test <;> simp [TextTest.kind], negated, m, _, rfl⟩
  | between negated m low m' high =>
    obtain rfl := Option.some.inj h
    exact ⟨by decide, negated, m, _, rfl⟩
  | within negated m b opening xs closing =>
    obtain rfl := Option.some.inj h
    exact ⟨by decide, negated, m, _, rfl⟩
  | isNull m negated m' =>
    obtain rfl := Option.some.inj h
    exact ⟨by decide, none, m, _, rfl⟩

theorem untested_of_testKind {t : Phrase (.one .test)} (h : t.testKind? = none) :
    t = untested := by
  cases t with
  | untested => rfl
  | compare | text | between | within | isNull => cases h

/-- Tests that derive the same tokens have the same operator or keyword, or none. -/
theorem testKind_eq {t t' : Phrase (.one .test)} (hrest : (Form.one .test).StopsAt (peek rest).kind)
    (hrest' : (Form.one .test).StopsAt (peek rest').kind)
    (h : t.tokens ++ rest = t'.tokens ++ rest') : t.testKind? = t'.testKind? := by
  have hstart : ∀ k, (Form.one .test).StopsAt k → k ∉ testStarters :=
    fun k hk hs => hk (List.mem_append_left _ hs)
  -- A test that is there starts with a token that cannot follow a predicate.
  have hthere : ∀ {t : Phrase (.one .test)} {k : TokenKind} (ts : List Token),
      t.testKind? = some k → (peek (t.tokens ++ ts)).kind ∈ testStarters := by
    intro t k ts hk
    rcases t.peek_test ts with rfl | hs
    · cases hk
    · exact hs
  cases hk : t.testKind? with
  | none =>
    cases hk' : t'.testKind? with
    | none => rfl
    | some k' =>
      obtain rfl := untested_of_testKind hk
      have hs := hthere rest' hk'
      rw [← h] at hs
      exact absurd hs (hstart _ hrest)
  | some k =>
    cases hk' : t'.testKind? with
    | none =>
      obtain rfl := untested_of_testKind hk'
      have hs := hthere rest hk
      rw [h] at hs
      exact absurd hs (hstart _ hrest')
    | some k' =>
      obtain ⟨hn, n, m, ts, ht⟩ := tokens_of_testKind hk
      obtain ⟨hn', n', m', ts', ht'⟩ := tokens_of_testKind hk'
      rw [ht, ht', List.append_assoc, List.append_assoc] at h
      obtain ⟨-, -, rfl, -⟩ := negation_append_inj hn hn' h
      rfl

/-! ## Each production -/

/-- A phrase is the only one of its form that derives its tokens. -/
def IsOnly {f : Form} (t : Phrase f) : Prop :=
  ∀ {t' : Phrase f} {rest rest' : List Token}, f.StopsAt (peek rest).kind →
    f.StopsAt (peek rest').kind → t.tokens ++ rest = t'.tokens ++ rest' → t = t' ∧ rest = rest'

/-- What a phrase begins with is no token that begins none. -/
theorem not_nonstarter_of_eq {f : Form} {t : Phrase f} {a : Token} {ts : List Token}
    (h : a :: ts = t.tokens ++ rest) : a.kind ∉ f.nonstarters := by
  have hp := t.peek_not_nonstarter rest
  rwa [← h] at hp

theorem isOnly_disjunction {xs : Phrase (.some .conjunction)} (ih : IsOnly xs) :
    IsOnly (disjunction xs) := by
  intro t' rest rest' hrest hrest' h
  cases t' with
  | disjunction xs' =>
    obtain ⟨rfl, hr⟩ := ih (not_or.mp fun hk => hrest (List.mem_cons.mpr hk))
      (not_or.mp fun hk => hrest' (List.mem_cons.mpr hk)) h
    exact ⟨rfl, hr⟩

theorem isOnly_conjunction {xs : Phrase (.some .negation)} (ih : IsOnly xs) :
    IsOnly (conjunction xs) := by
  intro t' rest rest' hrest hrest' h
  cases t' with
  | conjunction xs' =>
    obtain ⟨rfl, hr⟩ := ih (not_or.mp fun hk => hrest (List.mem_cons.mpr hk))
      (not_or.mp fun hk => hrest' (List.mem_cons.mpr hk)) h
    exact ⟨rfl, hr⟩

theorem isOnly_not {m : Mark} {e : Phrase (.one .negation)} (ih : IsOnly e) :
    IsOnly (not m e) := by
  intro t' rest rest' hrest hrest' h
  cases t' with
  | not m' e' =>
    simp only [tokens, List.cons_append, List.cons.injEq, Mark.token_inj, and_true] at h
    obtain ⟨rfl, h⟩ := h
    obtain ⟨rfl, hr⟩ := ih hrest hrest' h
    exact ⟨rfl, hr⟩
  | plain p' =>
    have hn := not_nonstarter_of_eq (t := p') h
    simp [Form.nonstarters, Nonterminal.nonstarters] at hn

theorem isOnly_plain {p : Phrase (.one .predicate)} (ih : IsOnly p) : IsOnly (plain p) := by
  intro t' rest rest' hrest hrest' h
  cases t' with
  | not m' e' =>
    have hn := not_nonstarter_of_eq (t := p) h.symm
    simp [Form.nonstarters, Nonterminal.nonstarters] at hn
  | plain p' =>
    obtain ⟨rfl, hr⟩ := ih hrest hrest' h
    exact ⟨rfl, hr⟩

/-- A predicate over an operand does not begin with `EXISTS`. -/
theorem tested_ne_existing {e : Phrase (.one .operand)} {t : Phrase (.one .test)} {m : Mark}
    {ts : List Token} : (tested e t).tokens ++ rest ≠ m.token .existing :: ts := by
  intro h
  rw [tokens, List.append_assoc] at h
  have hn := not_nonstarter_of_eq (t := e) h.symm
  simp [Form.nonstarters, Nonterminal.nonstarters] at hn

theorem isOnly_existing {m : Mark} {r : Route} : IsOnly (existing m r) := by
  intro t' rest rest' hrest hrest' h
  cases t' with
  | existing m' r' =>
    simp only [tokens, List.cons_append, List.cons.injEq, Mark.token_inj, and_true] at h
    obtain ⟨rfl, h⟩ := h
    obtain ⟨rfl, hr⟩ := Route.unique (fun hk => hrest (List.mem_append_right _ hk))
      (fun hk => hrest' (List.mem_append_right _ hk)) h
    exact ⟨rfl, hr⟩
  | existingIn m' opening' r' closing' => simp [tokens, Route.tokens] at h
  | tested e' t' => exact absurd h.symm tested_ne_existing

theorem isOnly_existingIn {m opening : Mark} {r : Route} {closing : Mark} :
    IsOnly (existingIn m opening r closing) := by
  intro t' rest rest' hrest hrest' h
  cases t' with
  | existing m' r' => simp [tokens, Route.tokens] at h
  | existingIn m' opening' r' closing' =>
    simp only [tokens, List.cons_append, List.cons.injEq, Mark.token_inj, and_true,
      List.append_assoc, List.nil_append] at h
    obtain ⟨rfl, rfl, h⟩ := h
    obtain ⟨rfl, hr⟩ := Route.unique (stopsAt_closing closing rest (.inl rfl))
      (stopsAt_closing closing' rest' (.inl rfl)) h
    simp only [List.cons.injEq, Mark.token_inj, and_true] at hr
    obtain ⟨rfl, hr⟩ := hr
    exact ⟨rfl, hr⟩
  | tested e' t' => exact absurd h.symm tested_ne_existing

theorem isOnly_tested {e : Phrase (.one .operand)} {t : Phrase (.one .test)} (ihe : IsOnly e)
    (iht : IsOnly t) : IsOnly (tested e t) := by
  intro t' rest rest' hrest hrest' h
  cases t' with
  | existing m' r' => exact absurd h tested_ne_existing
  | existingIn m' opening' r' closing' => exact absurd h tested_ne_existing
  | tested e' t' =>
    rw [tokens, tokens, List.append_assoc, List.append_assoc] at h
    obtain ⟨rfl, htail⟩ := ihe (stopsAt_operand hrest) (stopsAt_operand hrest') h
    obtain ⟨rfl, hr⟩ := iht hrest hrest' htail
    exact ⟨rfl, hr⟩

theorem isOnly_untested : IsOnly untested := by
  intro t' rest rest' hrest hrest' h
  obtain rfl := untested_of_testKind (testKind_eq hrest hrest' h).symm
  exact ⟨rfl, h⟩

theorem isOnly_compare {m : Mark} {op : CompareOp} {right : Phrase (.one .operand)}
    (ih : IsOnly right) : IsOnly (compare m op right) := by
  intro t' rest rest' hrest hrest' h
  have hk := testKind_eq hrest hrest' h
  cases t' with
  | compare m' op' right' =>
    obtain rfl := compareKind_inj (Option.some.inj hk)
    simp only [tokens, List.cons_append, List.cons.injEq, Mark.token_inj, and_true] at h
    obtain ⟨rfl, h⟩ := h
    obtain ⟨rfl, hr⟩ := ih (stopsAt_operand_of_test hrest) (stopsAt_operand_of_test hrest') h
    exact ⟨rfl, hr⟩
  | text negated' m' test' m₂' pattern' =>
    cases op <;> cases test' <;> simp [testKind?, compareKind, TextTest.kind] at hk
  | untested | between | within | isNull => cases op <;> simp [testKind?, compareKind] at hk

theorem isOnly_text {negated : Option Mark} {m : Mark} {test : TextTest} {m₂ : Mark}
    {pattern : String} : IsOnly (text negated m test m₂ pattern) := by
  intro t' rest rest' hrest hrest' h
  have hk := testKind_eq hrest hrest' h
  cases t' with
  | text negated' m' test' m₂' pattern' =>
    obtain rfl := TextTest.kind_inj (Option.some.inj hk)
    have hn : test.kind ≠ .not := by cases test <;> simp [TextTest.kind]
    simp only [tokens, List.append_assoc, List.cons_append, List.nil_append] at h
    obtain ⟨rfl, rfl, -, hr⟩ := negation_append_inj hn hn h
    simp only [List.cons.injEq, Mark.token_inj, TokenKind.string.injEq] at hr
    obtain ⟨⟨rfl, rfl⟩, hr⟩ := hr
    exact ⟨rfl, hr⟩
  | compare m' op' right' =>
    cases op' <;> cases test <;> simp [testKind?, compareKind, TextTest.kind] at hk
  | untested | between | within | isNull => cases test <;> simp [testKind?, TextTest.kind] at hk

theorem isOnly_between {negated : Option Mark} {m : Mark} {low : Phrase (.one .operand)}
    {m₂ : Mark} {high : Phrase (.one .operand)} (ihl : IsOnly low) (ihh : IsOnly high) :
    IsOnly (between negated m low m₂ high) := by
  intro t' rest rest' hrest hrest' h
  have hk := testKind_eq hrest hrest' h
  cases t' with
  | between negated' m' low' m₂' high' =>
    have hand : ∀ (m : Mark) (ts : List Token),
        (Form.one .operand).StopsAt (peek (m.token .and :: ts)).kind := by
      simp [Form.StopsAt, Nonterminal.extenders]
    have hbetween : TokenKind.between ≠ .not := by decide
    simp only [tokens, List.append_assoc, List.cons_append] at h
    obtain ⟨rfl, rfl, -, hlow⟩ := negation_append_inj hbetween hbetween h
    obtain ⟨rfl, hs⟩ := ihl (hand m₂ _) (hand m₂' _) hlow
    simp only [List.cons.injEq, Mark.token_inj, and_true] at hs
    obtain ⟨rfl, hs⟩ := hs
    obtain ⟨rfl, hr⟩ := ihh (stopsAt_operand_of_test hrest) (stopsAt_operand_of_test hrest') hs
    exact ⟨rfl, hr⟩
  | compare m' op' right' => cases op' <;> simp [testKind?, compareKind] at hk
  | text negated' m' test' m₂' pattern' => cases test' <;> simp [testKind?, TextTest.kind] at hk
  | untested | within | isNull => simp [testKind?] at hk

theorem isOnly_within {negated : Option Mark} {m : Mark} {b : Bracket} {opening : Mark}
    {xs : Phrase (.any .operand)} {closing : Mark} (ih : IsOnly xs) :
    IsOnly (within negated m b opening xs closing) := by
  intro t' rest rest' hrest hrest' h
  have hk := testKind_eq hrest hrest' h
  cases t' with
  | within negated' m' b' opening' xs' closing' =>
    have hwithin : TokenKind.within ≠ .not := by decide
    simp only [tokens, List.append_assoc, List.cons_append, List.nil_append] at h
    obtain ⟨rfl, rfl, -, hset⟩ := negation_append_inj hwithin hwithin h
    simp only [List.cons.injEq, Mark.token_inj] at hset
    obtain ⟨⟨rfl, hb⟩, hset⟩ := hset
    obtain rfl := Bracket.opening_inj hb
    obtain ⟨rfl, hs⟩ := ih (stopsAt_closing_any closing rest (by decide) b.closing_eq)
      (stopsAt_closing_any closing' rest' (by decide) b.closing_eq) hset
    simp only [List.cons.injEq, Mark.token_inj, and_true] at hs
    obtain ⟨rfl, hr⟩ := hs
    exact ⟨rfl, hr⟩
  | compare m' op' right' => cases op' <;> simp [testKind?, compareKind] at hk
  | text negated' m' test' m₂' pattern' => cases test' <;> simp [testKind?, TextTest.kind] at hk
  | untested | between | isNull => simp [testKind?] at hk

theorem isOnly_isNull {m : Mark} {negated : Option Mark} {m₂ : Mark} :
    IsOnly (isNull m negated m₂) := by
  intro t' rest rest' hrest hrest' h
  have hk := testKind_eq hrest hrest' h
  cases t' with
  | isNull m' negated' m₂' =>
    have hnull : TokenKind.null ≠ .not := by decide
    simp only [tokens, List.cons_append, List.append_assoc, List.nil_append, List.cons.injEq,
      Mark.token_inj, and_true] at h
    obtain ⟨rfl, h⟩ := h
    obtain ⟨rfl, rfl, -, hr⟩ := negation_append_inj hnull hnull h
    exact ⟨rfl, hr⟩
  | compare m' op' right' => cases op' <;> simp [testKind?, compareKind] at hk
  | text negated' m' test' m₂' pattern' => cases test' <;> simp [testKind?, TextTest.kind] at hk
  | untested | between | within => simp [testKind?] at hk

theorem isOnly_minus {m : Mark} {e : Phrase (.one .operand)} (ih : IsOnly e) :
    IsOnly (minus m e) := by
  intro t' rest rest' hrest hrest' h
  cases t' with
  | minus m' e' =>
    simp only [tokens, List.cons_append, List.cons.injEq, Mark.token_inj, and_true] at h
    obtain ⟨rfl, h⟩ := h
    obtain ⟨rfl, hr⟩ := ih hrest hrest' h
    exact ⟨rfl, hr⟩
  | literal m' l' => cases l' <;> simp [tokens, Literal.kind] at h
  | group | call | path => simp [tokens, Route.tokens] at h

theorem isOnly_literal {m : Mark} {l : Literal} : IsOnly (literal m l) := by
  intro t' rest rest' hrest hrest' h
  cases t' with
  | literal m' l' =>
    simp only [tokens, List.cons_append, List.nil_append, List.cons.injEq, Mark.token_inj] at h
    obtain ⟨⟨rfl, hl⟩, hr⟩ := h
    obtain rfl := Literal.kind_inj hl
    exact ⟨rfl, hr⟩
  | minus | group | call | path => cases l <;> simp [tokens, Route.tokens, Literal.kind] at h

theorem isOnly_group {opening : Mark} {e : Phrase (.one .disjunction)} {closing : Mark}
    (ih : IsOnly e) : IsOnly (group opening e closing) := by
  intro t' rest rest' hrest hrest' h
  cases t' with
  | group opening' e' closing' =>
    simp only [tokens, List.cons_append, List.append_assoc, List.nil_append, List.cons.injEq,
      Mark.token_inj, and_true] at h
    obtain ⟨rfl, h⟩ := h
    obtain ⟨rfl, hs⟩ := ih (stopsAt_closing closing rest (.inl rfl))
      (stopsAt_closing closing' rest' (.inl rfl)) h
    simp only [List.cons.injEq, Mark.token_inj, and_true] at hs
    obtain ⟨rfl, hr⟩ := hs
    exact ⟨rfl, hr⟩
  | literal m' l' => cases l' <;> simp [tokens, Literal.kind] at h
  | minus | call | path => simp [tokens, Route.tokens] at h

/-- Behind the root of a path stands no parenthesis. -/
theorem call_ne_path {m : Mark} {name : String} {opening : Mark} {args : Phrase (.any .argument)}
    {closing : Mark} {r : Route} (hrest' : (Form.one .operand).StopsAt (peek rest').kind) :
    (call m name opening args closing).tokens ++ rest ≠ (path r).tokens ++ rest' := by
  intro h
  obtain ⟨root, root', steps⟩ := r
  simp only [tokens, Route.tokens, List.cons_append, List.cons.injEq] at h
  have hparen := Step.peek_steps_ne_leftParen steps hrest'
  rw [← h.2] at hparen
  exact hparen rfl

theorem isOnly_call {m : Mark} {name : String} {opening : Mark} {args : Phrase (.any .argument)}
    {closing : Mark} (ih : IsOnly args) : IsOnly (call m name opening args closing) := by
  intro t' rest rest' hrest hrest' h
  cases t' with
  | call m' name' opening' args' closing' =>
    simp only [tokens, List.cons_append, List.append_assoc, List.nil_append, List.cons.injEq,
      Mark.token_inj, TokenKind.ident.injEq, and_true] at h
    obtain ⟨⟨rfl, rfl⟩, rfl, h⟩ := h
    obtain ⟨rfl, hs⟩ := ih (stopsAt_closing_any closing rest (by decide) (.inl rfl))
      (stopsAt_closing_any closing' rest' (by decide) (.inl rfl)) h
    simp only [List.cons.injEq, Mark.token_inj, and_true] at hs
    obtain ⟨rfl, hr⟩ := hs
    exact ⟨rfl, hr⟩
  | path r' => exact absurd h (call_ne_path hrest')
  | literal m' l' => cases l' <;> simp [tokens, Literal.kind] at h
  | minus | group => simp [tokens] at h

theorem isOnly_path {r : Route} : IsOnly (path r) := by
  intro t' rest rest' hrest hrest' h
  cases t' with
  | path r' =>
    obtain ⟨rfl, hr⟩ := Route.unique hrest hrest' h
    exact ⟨rfl, hr⟩
  | call m' name' opening' args' closing' => exact absurd h.symm (call_ne_path hrest)
  | literal m' l' => cases l' <;> simp [tokens, Route.tokens, Literal.kind] at h
  | minus | group => simp [tokens, Route.tokens] at h

theorem isOnly_expr {e : Phrase (.one .disjunction)} (ih : IsOnly e) : IsOnly (expr e) := by
  intro t' rest rest' hrest hrest' h
  have hstop := stopsAt_disjunction_of_argument hrest
  have hstop' := stopsAt_disjunction_of_argument hrest'
  cases t' with
  | expr e' =>
    obtain ⟨rfl, hr⟩ := ih hstop hstop' h
    exact ⟨rfl, hr⟩
  | lambda m' param' arrow' body' =>
    refine absurd ?_ (e.not_startsLambda rfl (ne_arrow_of_argument hrest))
    rw [tokens] at h
    rw [h]
    exact ⟨⟨param', rfl⟩, rfl⟩

theorem isOnly_lambda {m : Mark} {param : String} {arrow : Mark}
    {body : Phrase (.one .disjunction)} (ih : IsOnly body) :
    IsOnly (lambda m param arrow body) := by
  intro t' rest rest' hrest hrest' h
  have hstop := stopsAt_disjunction_of_argument hrest
  have hstop' := stopsAt_disjunction_of_argument hrest'
  cases t' with
  | expr e' =>
    refine absurd ?_ (e'.not_startsLambda rfl (ne_arrow_of_argument hrest'))
    have he : (expr e').tokens = e'.tokens := rfl
    rw [he] at h
    rw [← h]
    exact ⟨⟨param, rfl⟩, rfl⟩
  | lambda m' param' arrow' body' =>
    simp only [tokens, List.cons_append, List.cons.injEq, Mark.token_inj,
      TokenKind.ident.injEq, and_true] at h
    obtain ⟨⟨rfl, rfl⟩, rfl, h⟩ := h
    obtain ⟨rfl, hr⟩ := ih hstop hstop' h
    exact ⟨rfl, hr⟩

/-! ## Lists -/

section Lists

variable {n : Nonterminal} {x : Phrase (.one n)} {xs : Phrase (.some n)} {m : Mark}

/-- A list that ends is not one that goes on behind a separator. -/
theorem isOnly_last (ih : IsOnly x) : IsOnly (last x) := by
  intro t' rest rest' hrest hrest' h
  cases t' with
  | last x' =>
    obtain ⟨rfl, hr⟩ := ih hrest.2 hrest'.2 h
    exact ⟨rfl, hr⟩
  | more x' m' xs' =>
    simp only [tokens, List.append_assoc, List.cons_append] at h
    obtain ⟨-, rfl⟩ := ih hrest.2 (stopsAt_separator m' _) h
    exact absurd rfl hrest.1

theorem isOnly_more (ihx : IsOnly x) (ihs : IsOnly xs) : IsOnly (more x m xs) := by
  intro t' rest rest' hrest hrest' h
  simp only [tokens, List.append_assoc, List.cons_append] at h
  cases t' with
  | last x' =>
    obtain ⟨-, rfl⟩ := ihx (stopsAt_separator m _) hrest'.2 h
    exact absurd rfl hrest'.1
  | more x' m' xs' =>
    simp only [tokens, List.append_assoc, List.cons_append] at h
    obtain ⟨rfl, hs⟩ := ihx (stopsAt_separator m _) (stopsAt_separator m' _) h
    simp only [List.cons.injEq, Mark.token_inj, and_true] at hs
    obtain ⟨rfl, hs⟩ := hs
    obtain ⟨rfl, hr⟩ := ihs hrest hrest' hs
    exact ⟨rfl, hr⟩

theorem isOnly_empty : IsOnly (empty : Phrase (.any n)) := by
  intro t' rest rest' hrest hrest' h
  cases t' with
  | empty => exact ⟨rfl, h⟩
  | items xs' =>
    have hn := xs'.peek_not_nonstarter rest'
    obtain rfl : rest = xs'.tokens ++ rest' := h
    exact absurd hrest.1 hn

theorem isOnly_items (ih : IsOnly xs) : IsOnly (items xs) := by
  intro t' rest rest' hrest hrest' h
  cases t' with
  | empty =>
    have hn := xs.peek_not_nonstarter rest
    obtain rfl : xs.tokens ++ rest = rest' := h
    exact absurd hrest'.1 hn
  | items xs' =>
    obtain ⟨rfl, hr⟩ := ih hrest.2 hrest'.2 h
    exact ⟨rfl, hr⟩

end Lists

/-- Every phrase is the only one of its form that derives its tokens. -/
theorem isOnly {f : Form} (t : Phrase f) : IsOnly t := by
  induction t with
  | disjunction xs ih => exact isOnly_disjunction ih
  | conjunction xs ih => exact isOnly_conjunction ih
  | not m e ih => exact isOnly_not ih
  | plain p ih => exact isOnly_plain ih
  | existing m r => exact isOnly_existing
  | existingIn m opening r closing => exact isOnly_existingIn
  | tested e t ihe iht => exact isOnly_tested ihe iht
  | untested => exact isOnly_untested
  | compare m op right ih => exact isOnly_compare ih
  | text negated m test m₂ pattern => exact isOnly_text
  | between negated m low m₂ high ihl ihh => exact isOnly_between ihl ihh
  | within negated m b opening xs closing ih => exact isOnly_within ih
  | isNull m negated m₂ => exact isOnly_isNull
  | minus m e ih => exact isOnly_minus ih
  | literal m l => exact isOnly_literal
  | group opening e closing ih => exact isOnly_group ih
  | call m name opening args closing ih => exact isOnly_call ih
  | path r => exact isOnly_path
  | expr e ih => exact isOnly_expr ih
  | lambda m param arrow body ih => exact isOnly_lambda ih
  | last x ih => exact isOnly_last ih
  | more x m xs ihx ihs => exact isOnly_more ihx ihs
  | empty => exact isOnly_empty
  | items xs ih => exact isOnly_items ih

/-- Two phrases of one form that derive the same tokens are the same. -/
theorem eq_of_tokens_eq {f : Form} {t t' : Phrase f} (hf : f.StopsAt .eof)
    (h : t.tokens = t'.tokens) : t = t' := by
  have hnil : t.tokens ++ [] = t'.tokens ++ [] := by rw [h]
  have hstop : f.StopsAt (peek []).kind := hf
  exact (t.isOnly hstop hstop hnil).1

end Phrase

end Grammar

end Switchyard.Filter
