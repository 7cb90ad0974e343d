import Switchyard.Filter.Parser

/-!
# The grammar of filters

A phrase is a derivation in the grammar, with one constructor for each production. It knows the
tokens that it derives, the syntax tree that it denotes and how deep it encloses.

* `Form`, `Phrase`: what is derived, and its derivations.
* `Phrase.tokens`, `Phrase.meaning`, `Phrase.depth`: what is read off a derivation.
* `Form.extenders`, `Form.nonstarters`: the tokens that go on a phrase, and those that start none.
* `Phrase.peek_not_nonstarter`, `Phrase.not_startsLambda`: what one or two tokens of lookahead tell.
-/

namespace Switchyard.Filter

namespace Grammar

/-- Where a token stands, and the characters it was read from. -/
structure Mark where
  pos : Nat
  lexeme : List Char

/-- The token of a kind that stands there. -/
def Mark.token (m : Mark) (k : TokenKind) : Token := ⟨k, m.pos, m.lexeme⟩

@[simp] theorem Mark.kind_token (m : Mark) (k : TokenKind) : (m.token k).kind = k := rfl

@[simp] theorem Mark.pos_token (m : Mark) (k : TokenKind) : (m.token k).pos = m.pos := rfl

@[simp] theorem Mark.token_inj {m m' : Mark} {k k' : TokenKind} :
    m.token k = m'.token k' ↔ m = m' ∧ k = k' := by
  obtain ⟨p, l⟩ := m
  obtain ⟨p', l'⟩ := m'
  simp [Mark.token, and_comm]

/-- The mark of a token. -/
def Mark.of (t : Token) : Mark := ⟨t.pos, t.lexeme⟩

theorem Mark.token_of {t : Token} {k : TokenKind} (h : t.kind = k) : (Mark.of t).token k = t := by
  subst h
  rfl

/-! ## Paths -/

/-- One step of a path. A keyword behind a dot is a name, in the spelling of the text. -/
inductive Step where
  | field (dot m : Mark) (name : String)
  | keyword (dot m : Mark) (k : TokenKind) (h : k ∈ TokenKind.keywords.map (·.2))
  | index (opening m : Mark) (x : Binary64) (h : x.isInteger = true ∧ x.isNegative = false)
    (closing : Mark)
  | quoted (opening m : Mark) (key : String) (closing : Mark)

namespace Step

/-- The tokens of a step. -/
def tokens : Step → List Token
  | field dot m name => [dot.token .dot, m.token (.ident name)]
  | keyword dot m k _ => [dot.token .dot, m.token k]
  | index opening m x _ closing =>
    [opening.token .leftBracket, m.token (.number x), closing.token .rightBracket]
  | quoted opening m key closing =>
    [opening.token .leftBracket, m.token (.string key), closing.token .rightBracket]

/-- The segment that a step denotes. -/
def segment : Step → Segment
  | field _ _ name => .key name
  | keyword _ m _ _ => .key (String.ofList m.lexeme)
  | index _ _ x _ _ => .index x.toNat64
  | quoted _ _ key _ => .key key

end Step

theorem ident_not_keyword {name : String} :
    TokenKind.ident name ∉ TokenKind.keywords.map (·.2) := by
  simp [TokenKind.keywords]

/-- A field path: its root and the steps behind it. -/
structure Route where
  root : Mark
  name : String
  steps : List Step

namespace Route

/-- The tokens of a path. -/
def tokens (r : Route) : List Token :=
  r.root.token (.ident r.name) :: r.steps.flatMap Step.tokens

/-- The path that the tokens denote. -/
def path (r : Route) : Path := ⟨r.name, r.steps.map Step.segment, r.root.pos⟩

end Route

/-! ## Terminals with a choice -/

/-- A literal. -/
inductive Literal where
  | number (x : Binary64)
  | string (s : String)
  | bool (b : Bool)
  | null

namespace Literal

/-- The kind of token that a literal is. -/
def kind : Literal → TokenKind
  | number x => .number x
  | string s => .string s
  | bool b => .bool b
  | null => .null

/-- The value of a literal. -/
def value : Literal → Value
  | number x => .number x
  | string s => .string s
  | bool b => .bool b
  | null => .null

theorem kind_inj {l l' : Literal} (h : l.kind = l'.kind) : l = l' := by
  cases l <;> cases l' <;> simp_all [kind]

end Literal

/-- The token of a comparison. -/
def compareKind : CompareOp → TokenKind
  | .eq => .eq
  | .ne => .ne
  | .lt => .lt
  | .le => .le
  | .gt => .gt
  | .ge => .ge

/-- A test of a text against a pattern. -/
inductive TextTest where
  | like
  | matching

namespace TextTest

/-- The keyword of a test. -/
def kind : TextTest → TokenKind
  | like => .like
  | matching => .matching

/-- The expression that a test makes of its operand, pattern and place. -/
def expr : TextTest → Expr → String → Bool → Nat → Expr
  | like => .like
  | matching => .matching

end TextTest

/-- The brackets around a set. -/
inductive Bracket where
  | round
  | square

namespace Bracket

/-- The token that opens a set. -/
def opening : Bracket → TokenKind
  | round => .leftParen
  | square => .leftBracket

/-- The token that closes it. -/
def closing : Bracket → TokenKind
  | round => .rightParen
  | square => .rightBracket

theorem opening_inj {b b' : Bracket} (h : b.opening = b'.opening) : b = b' := by
  cases b <;> cases b' <;> simp_all [opening]

theorem closing_eq (b : Bracket) : b.closing = .rightParen ∨ b.closing = .rightBracket := by
  cases b with
  | round => exact .inl rfl
  | square => exact .inr rfl

end Bracket

/-! ## Phrases -/

/-- What the grammar derives. A test is what stands behind the operand of a predicate. -/
inductive Nonterminal where
  | disjunction
  | conjunction
  | negation
  | predicate
  | test
  | operand
  | argument
deriving DecidableEq

/-- What one of them denotes. A test makes a predicate of its operand. -/
@[reducible] def Nonterminal.Meaning : Nonterminal → Type
  | .test => Expr → Expr
  | .argument => Arg
  | .disjunction | .conjunction | .negation | .predicate | .operand => Expr

/-- The token between several of them. -/
def Nonterminal.separator : Nonterminal → TokenKind
  | .conjunction => .or
  | .negation => .and
  | .disjunction | .predicate | .test | .operand | .argument => .comma

/-- One phrase, one or more with separators between them, or a list that may be empty. -/
inductive Form where
  | one (n : Nonterminal)
  | some (n : Nonterminal)
  | any (n : Nonterminal)

/-- What a phrase of a form denotes; several denote a list. -/
@[reducible] def Form.Meaning : Form → Type
  | .one n => n.Meaning
  | .some n | .any n => List n.Meaning

/-- A derivation. -/
inductive Phrase : Form → Type where
  | disjunction (conjunctions : Phrase (.some .conjunction)) : Phrase (.one .disjunction)
  | conjunction (negations : Phrase (.some .negation)) : Phrase (.one .conjunction)
  | not (m : Mark) (e : Phrase (.one .negation)) : Phrase (.one .negation)
  | plain (p : Phrase (.one .predicate)) : Phrase (.one .negation)
  | existing (m : Mark) (r : Route) : Phrase (.one .predicate)
  | existingIn (m opening : Mark) (r : Route) (closing : Mark) : Phrase (.one .predicate)
  | tested (e : Phrase (.one .operand)) (t : Phrase (.one .test)) : Phrase (.one .predicate)
  | untested : Phrase (.one .test)
  | compare (m : Mark) (op : CompareOp) (right : Phrase (.one .operand)) : Phrase (.one .test)
  | text (negated : Option Mark) (m : Mark) (test : TextTest) (m' : Mark) (pattern : String) :
    Phrase (.one .test)
  | between (negated : Option Mark) (m : Mark) (low : Phrase (.one .operand)) (m' : Mark)
    (high : Phrase (.one .operand)) : Phrase (.one .test)
  | within (negated : Option Mark) (m : Mark) (b : Bracket) (opening : Mark)
    (items : Phrase (.any .operand)) (closing : Mark) : Phrase (.one .test)
  | isNull (m : Mark) (negated : Option Mark) (m' : Mark) : Phrase (.one .test)
  | minus (m : Mark) (e : Phrase (.one .operand)) : Phrase (.one .operand)
  | literal (m : Mark) (l : Literal) : Phrase (.one .operand)
  | group (opening : Mark) (e : Phrase (.one .disjunction)) (closing : Mark) :
    Phrase (.one .operand)
  | call (m : Mark) (name : String) (opening : Mark) (args : Phrase (.any .argument))
    (closing : Mark) : Phrase (.one .operand)
  | path (r : Route) : Phrase (.one .operand)
  | expr (e : Phrase (.one .disjunction)) : Phrase (.one .argument)
  | lambda (m : Mark) (param : String) (arrow : Mark) (body : Phrase (.one .disjunction)) :
    Phrase (.one .argument)
  | last {n : Nonterminal} (x : Phrase (.one n)) : Phrase (.some n)
  | more {n : Nonterminal} (x : Phrase (.one n)) (m : Mark) (xs : Phrase (.some n)) :
    Phrase (.some n)
  | empty {n : Nonterminal} : Phrase (.any n)
  | items {n : Nonterminal} (xs : Phrase (.some n)) : Phrase (.any n)

/-- The `NOT` in front of a keyword, if there is one. -/
def negation : Option Mark → List Token
  | none => []
  | some m => [m.token .not]

/-- Where the test of a keyword begins: at the `NOT` in front of it, if there is one. -/
def negationPos (negated : Option Mark) (m : Mark) : Nat := (negated.getD m).pos

namespace Phrase

/-- The tokens that a phrase derives. -/
def tokens : {f : Form} → Phrase f → List Token
  | _, disjunction xs => xs.tokens
  | _, conjunction xs => xs.tokens
  | _, not m e => m.token .not :: e.tokens
  | _, plain p => p.tokens
  | _, existing m r => m.token .existing :: r.tokens
  | _, existingIn m opening r closing =>
    m.token .existing :: opening.token .leftParen :: (r.tokens ++ [closing.token .rightParen])
  | _, tested e t => e.tokens ++ t.tokens
  | _, untested => []
  | _, compare m op right => m.token (compareKind op) :: right.tokens
  | _, text negated m test m' pattern =>
    negation negated ++ [m.token test.kind, m'.token (.string pattern)]
  | _, between negated m low m' high =>
    negation negated ++ m.token .between :: (low.tokens ++ m'.token .and :: high.tokens)
  | _, within negated m b opening xs closing =>
    negation negated ++ m.token .within :: opening.token b.opening ::
      (xs.tokens ++ [closing.token b.closing])
  | _, isNull m negated m' => m.token .is :: (negation negated ++ [m'.token .null])
  | _, minus m e => m.token .minus :: e.tokens
  | _, literal m l => [m.token l.kind]
  | _, group opening e closing =>
    opening.token .leftParen :: (e.tokens ++ [closing.token .rightParen])
  | _, call m name opening args closing =>
    m.token (.ident name) :: opening.token .leftParen ::
      (args.tokens ++ [closing.token .rightParen])
  | _, path r => r.tokens
  | _, expr e => e.tokens
  | _, lambda m param arrow body => m.token (.ident param) :: arrow.token .arrow :: body.tokens
  | _, last x => x.tokens
  | _, @more n x m xs => x.tokens ++ m.token n.separator :: xs.tokens
  | _, empty => []
  | _, items xs => xs.tokens

/-- The syntax tree that a phrase denotes. -/
def meaning : {f : Form} → Phrase f → f.Meaning
  | _, disjunction xs => Parser.joined .or xs.meaning
  | _, conjunction xs => Parser.joined .and xs.meaning
  | _, not m e => .not e.meaning m.pos
  | _, plain p => p.meaning
  | _, existing _ r => .existing r.path
  | _, existingIn _ _ r _ => .existing r.path
  | _, tested e t => t.meaning e.meaning
  | _, untested => id
  | _, compare m op right => fun left => .compare op left right.meaning m.pos
  | _, text negated m test _ pattern => fun left =>
    test.expr left pattern negated.isSome (negationPos negated m)
  | _, between negated m low _ high => fun left =>
    .between left low.meaning high.meaning negated.isSome (negationPos negated m)
  | _, within negated m _ _ xs _ => fun left =>
    .within left xs.meaning negated.isSome (negationPos negated m)
  | _, isNull m negated _ => fun left => .isNull left negated.isSome m.pos
  | _, minus m e => Parser.negate e.meaning m.pos
  | _, literal m l => .literal l.value m.pos
  | _, group _ e _ => e.meaning
  | _, call m name _ args _ => .call name args.meaning m.pos
  | _, path r => .path r.path
  | _, expr e => .expr e.meaning
  | _, lambda m param _ body => .lambda param body.meaning m.pos
  | _, last x => [x.meaning]
  | _, more x _ xs => x.meaning :: xs.meaning
  | _, empty => []
  | _, items xs => xs.meaning

/-- How many disjunctions, `NOT`s and minus signs are around a point of a phrase at most. A whole
text, a group, an argument and the body of a predicate are disjunctions. -/
def depth : {f : Form} → Phrase f → Nat
  | _, disjunction xs => xs.depth + 1
  | _, conjunction xs => xs.depth
  | _, not _ e => e.depth + 1
  | _, plain p => p.depth
  | _, existing _ _ => 0
  | _, existingIn _ _ _ _ => 0
  | _, tested e t => max e.depth t.depth
  | _, untested => 0
  | _, compare _ _ right => right.depth
  | _, text _ _ _ _ _ => 0
  | _, between _ _ low _ high => max low.depth high.depth
  | _, within _ _ _ _ xs _ => xs.depth
  | _, isNull _ _ _ => 0
  | _, minus _ e => e.depth + 1
  | _, literal _ _ => 0
  | _, group _ e _ => e.depth
  | _, call _ _ _ args _ => args.depth
  | _, path _ => 0
  | _, expr e => e.depth
  | _, lambda _ _ _ body => body.depth
  | _, last x => x.depth
  | _, more x _ xs => max x.depth xs.depth
  | _, empty => 0
  | _, items xs => xs.depth

end Phrase

/-! ## Lookahead -/

open Switchyard.Filter.Parser (peek advance)

@[simp] theorem peek_cons (t : Token) (ts : List Token) : peek (t :: ts) = t := rfl

@[simp] theorem advance_cons_cons (t t' : Token) (ts : List Token) :
    advance (t :: t' :: ts) = t' :: ts := rfl

/-- The tokens that a test begins with. -/
def testStarters : List TokenKind :=
  [.eq, .ne, .lt, .le, .gt, .ge, .like, .matching, .between, .within, .is, .not]

/-- The tokens that go on a phrase, or make another phrase of it. -/
def Nonterminal.extenders : Nonterminal → List TokenKind
  | .operand => [.dot, .leftBracket, .leftParen]
  | .test | .predicate | .negation => testStarters ++ [.dot, .leftBracket, .leftParen]
  | .conjunction => .and :: (testStarters ++ [.dot, .leftBracket, .leftParen])
  | .disjunction => .or :: .and :: (testStarters ++ [.dot, .leftBracket, .leftParen])
  | .argument => .arrow :: .or :: .and :: (testStarters ++ [.dot, .leftBracket, .leftParen])

/-- Tokens that no phrase begins with. -/
def Nonterminal.nonstarters : Nonterminal → List TokenKind
  | .operand => [.existing, .not, .rightParen, .rightBracket, .eof]
  | .predicate => [.not, .rightParen, .rightBracket, .eof]
  | .disjunction | .conjunction | .negation | .argument => [.rightParen, .rightBracket, .eof]
  | .test => []

/-- Tokens that no phrase of a form begins with; an empty list may stand before any token. -/
def Form.nonstarters : Form → List TokenKind
  | .one n | .some n => n.nonstarters
  | .any _ => []

/-- Whether a phrase of the form ends before a token of this kind. -/
def Form.StopsAt : Form → TokenKind → Prop
  | .one n, k => k ∉ n.extenders
  | .some n, k => k ≠ n.separator ∧ k ∉ n.extenders
  | .any n, k => k ∈ n.nonstarters ∧ k ≠ n.separator ∧ k ∉ n.extenders

/-- A separator does not go on the phrase before it. -/
theorem stopsAt_separator {n : Nonterminal} (m : Mark) (ts : List Token) :
    (Form.one n).StopsAt (peek (m.token n.separator :: ts)).kind := by
  cases n <;> simp [Form.StopsAt, Nonterminal.separator, Nonterminal.extenders, testStarters]

/-- A bracket that closes does not go on the phrase before it. -/
theorem stopsAt_closing {n : Nonterminal} {k : TokenKind} (m : Mark) (ts : List Token)
    (h : k = .rightParen ∨ k = .rightBracket) :
    (Form.one n).StopsAt (peek (m.token k :: ts)).kind := by
  rcases h with rfl | rfl <;>
    cases n <;> simp [Form.StopsAt, Nonterminal.extenders, testStarters]

/-- Behind an argument stands nothing that would go on its expression. -/
theorem stopsAt_disjunction_of_argument {k : TokenKind} (h : (Form.one .argument).StopsAt k) :
    (Form.one .disjunction).StopsAt k := fun hk => h (List.mem_cons_of_mem _ hk)

theorem ne_arrow_of_argument {k : TokenKind} (h : (Form.one .argument).StopsAt k) :
    k ≠ .arrow := fun hk => h (hk ▸ List.mem_cons_self)

namespace Step

theorem peek_tokens (s : Step) (ts : List Token) :
    (peek (s.tokens ++ ts)).kind = .dot ∨ (peek (s.tokens ++ ts)).kind = .leftBracket := by
  cases s with
  | field dot m name => exact .inl rfl
  | keyword dot m k h => exact .inl rfl
  | index opening m x h closing => exact .inr rfl
  | quoted opening m key closing => exact .inr rfl

/-- Behind the root of a path stands no parenthesis. -/
theorem peek_steps_ne_leftParen (steps : List Step) {rest : List Token}
    (hrest : (Form.one .operand).StopsAt (peek rest).kind) :
    (peek (steps.flatMap Step.tokens ++ rest)).kind ≠ .leftParen := by
  cases steps with
  | nil => exact fun hk => hrest (hk ▸ by decide)
  | cons s steps =>
    rw [List.flatMap_cons, List.append_assoc]
    rcases s.peek_tokens (steps.flatMap Step.tokens ++ rest) with hk | hk
    · simp [hk]
    · simp [hk]

end Step

/-- A list of anything but tests ends before a bracket that closes. -/
theorem stopsAt_closing_any {n : Nonterminal} {k : TokenKind} (m : Mark) (ts : List Token)
    (hn : n ≠ .test) (h : k = .rightParen ∨ k = .rightBracket) :
    (Form.any n).StopsAt (peek (m.token k :: ts)).kind := by
  refine ⟨?_, ?_, stopsAt_closing m ts h⟩
  · rcases h with rfl | rfl <;> cases n <;> simp [Nonterminal.nonstarters] at hn ⊢
  · rcases h with rfl | rfl <;> cases n <;> simp [Nonterminal.separator]

/-- Whether the tokens begin like a predicate over a variable. -/
def StartsLambda (ts : List Token) : Prop :=
  (∃ name, (peek ts).kind = .ident name) ∧ (peek (advance ts)).kind = .arrow

/-- Whether a phrase is part of an expression. -/
def Form.isPlain : Form → Bool
  | .one .test | .some .test | .one .argument | .some .argument | .any _ => false
  | .one _ | .some _ => true

theorem Form.isPlain_one (n : Nonterminal) : (Form.some n).isPlain = (Form.one n).isPlain := by
  cases n <;> rfl

theorem peek_advance_cons {t : Token} {ts : List Token} (h : ts ≠ []) :
    advance (t :: ts) = ts := by
  cases ts with
  | nil => exact absurd rfl h
  | cons t' ts => rfl

namespace Phrase

theorem peek_not_nonstarter {f : Form} (t : Phrase f) (rest : List Token) :
    (peek (t.tokens ++ rest)).kind ∉ f.nonstarters := by
  induction t generalizing rest with
  | disjunction xs ih => exact ih rest
  | conjunction xs ih => exact ih rest
  | plain p ih => exact fun h => ih rest (List.mem_cons_of_mem _ h)
  | tested e t ih _ =>
    rw [tokens, List.append_assoc]
    exact fun h => ih _ (List.mem_cons_of_mem _ h)
  | literal m l =>
    cases l <;> simp [tokens, Literal.kind, Form.nonstarters, Nonterminal.nonstarters]
  | path r => simp [tokens, Route.tokens, Form.nonstarters, Nonterminal.nonstarters]
  | expr e ih => exact ih rest
  | last x ih => exact ih rest
  | more x m xs ih _ =>
    rw [tokens, List.append_assoc]
    exact ih _
  | _ => simp [tokens, Form.nonstarters, Nonterminal.nonstarters]

/-- Behind an operand stands what begins a test, or what follows the predicate. -/
theorem peek_test (t : Phrase (.one .test)) (rest : List Token) :
    t = untested ∨ (peek (t.tokens ++ rest)).kind ∈ testStarters := by
  cases t with
  | untested => exact .inl rfl
  | compare m op right => right; cases op <;> simp [tokens, compareKind, testStarters]
  | text negated m test m' pattern =>
    right
    cases negated <;> cases test <;> simp [tokens, negation, TextTest.kind, testStarters]
  | between negated m low m' high => right; cases negated <;> simp [tokens, negation, testStarters]
  | within negated m b opening xs closing =>
    right
    cases negated <;> simp [tokens, negation, testStarters]
  | isNull m negated m' => right; simp [tokens, testStarters]

theorem stopsAt_operand_of_test {k : TokenKind} (h : (Form.one .test).StopsAt k) :
    (Form.one .operand).StopsAt k := fun hk => h (List.mem_append_right _ hk)

/-- Behind the operand of a predicate stands nothing that would go on it. -/
theorem stopsAt_operand {t : Phrase (.one .test)} {rest : List Token}
    (h : (Form.one .test).StopsAt (peek rest).kind) :
    (Form.one .operand).StopsAt (peek (t.tokens ++ rest)).kind := by
  rcases t.peek_test rest with rfl | hs
  · exact stopsAt_operand_of_test h
  · intro hm
    have hdisj : ∀ k ∈ testStarters, k ∉ Nonterminal.operand.extenders := by decide
    exact hdisj _ hs hm

theorem peek_test_ne_arrow {t : Phrase (.one .test)} {rest : List Token}
    (h : (peek rest).kind ≠ .arrow) : (peek (t.tokens ++ rest)).kind ≠ .arrow := by
  rcases t.peek_test rest with rfl | hs
  · exact h
  · have hne : ∀ k ∈ testStarters, k ≠ .arrow := by decide
    exact hne _ hs

/-- An expression does not begin like a predicate over a variable. -/
theorem not_startsLambda {f : Form} (t : Phrase f) (hf : f.isPlain = true) {rest : List Token}
    (hrest : (peek rest).kind ≠ .arrow) : ¬StartsLambda (t.tokens ++ rest) := by
  induction t generalizing rest with
  | disjunction xs ih => exact ih rfl hrest
  | conjunction xs ih => exact ih rfl hrest
  | plain p ih => exact ih rfl hrest
  | tested e t ih _ =>
    rw [tokens, List.append_assoc]
    exact ih rfl (peek_test_ne_arrow hrest)
  | literal m l => cases l <;> simp [tokens, Literal.kind, StartsLambda]
  -- A path may be a single name, so what stands behind it must be no arrow.
  | path r =>
    intro h
    obtain ⟨root, name, steps⟩ := r
    have harrow := h.2
    rw [tokens, Route.tokens, List.cons_append] at harrow
    cases steps with
    | nil =>
      cases rest with
      | nil => simp [advance] at harrow
      | cons t rest => exact hrest harrow
    | cons s steps => cases s <;> simp [Step.tokens] at harrow
  | @last n x ih => exact ih (Form.isPlain_one n ▸ hf) hrest
  | @more n x m xs ih _ =>
    rw [tokens, List.append_assoc]
    refine ih (Form.isPlain_one n ▸ hf) ?_
    cases n <;> simp [Nonterminal.separator]
  | untested => cases hf
  | compare => cases hf
  | text => cases hf
  | between => cases hf
  | within => cases hf
  | isNull => cases hf
  | expr => cases hf
  | lambda => cases hf
  | empty => cases hf
  | items => cases hf
  | _ => simp [tokens, StartsLambda]

end Phrase

end Grammar

end Switchyard.Filter
