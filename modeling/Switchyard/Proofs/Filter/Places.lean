import Switchyard.Proofs.Filter.BoundNames
import Switchyard.Proofs.Filter.Comparisons

/-!
# Phrases at other places

What a token is depends on its characters alone, and what a phrase denotes on its tokens up to where
they stand. So a text that is an expression of its own is the same expression as a part of another
text, with any blanks between its tokens.

* `pieces`: the characters of the tokens of a text.
* `readingOf`, `Scans.map_reading`: what the token with given characters is.
* `Form.Same`, `Phrase.exists_of_reading`: tokens that are read as those of a phrase make a phrase
  that denotes the same.
-/

namespace Switchyard.Filter

open Grammar

variable {us : List Token}

/-! ## Tokens -/

/-- The characters of each token of a text, without the end token; none if it has no tokens. -/
def pieces (source : String) : List (List Char) :=
  match tokenize source with
  | .ok ts => ts.dropLast.map (·.lexeme)
  | .error _ => []

theorem pieces_of_scans {source : String} (h : Scans [] 0 source.toList us) :
    pieces source = us.map (·.lexeme) := by
  rw [pieces, tokenize, tokensFrom_eq_ok_of_scans h]
  simp

/-- What the token with these characters is. -/
def readingOf (text : List Char) : TokenKind × List Char :=
  match text with
  | [] => (.eof, [])
  | c :: cs => ((lexeme c cs).toOption.elim .eof (·.1), text)

theorem readingOf_of_lexeme {c : Char} {cs : List Char} {k : TokenKind} {n : Nat}
    (h : lexeme c cs = .ok (k, n)) : readingOf (c :: cs) = (k, c :: cs) := by
  rw [readingOf, h]
  rfl

theorem Spells.readingOf_eq {k : TokenKind} {text : List Char} (h : Spells k text) :
    readingOf text = (k, text) := by
  obtain ⟨c, cs, rfl, hk⟩ := h.lexeme
  exact readingOf_of_lexeme hk

/-- Tokens are what their characters say, whatever stands around them. -/
theorem Scans.map_reading {rest front : List Char} {pos : Nat} (h : Scans rest pos front us) :
    us.map Token.reading = (us.map (·.lexeme)).map readingOf := by
  rw [List.map_map]
  refine List.map_congr_left fun t ht => ?_
  obtain ⟨before, after, c, cs, -, -, hlexeme, hk⟩ := h.exists_of_mem ht
  have hkind := lexeme_of_append hk (Nat.le_refl _)
  rw [Function.comp_apply, hlexeme, readingOf_of_lexeme hkind, Token.reading, hlexeme]

theorem exists_scans_of_pieces {source : String} {texts : List (List Char)}
    (h : pieces source = texts) (hne : texts ≠ []) :
    ∃ us, Scans [] 0 source.toList us ∧ us.map Token.reading = texts.map readingOf := by
  cases hts : tokenize source with
  | error e =>
    rw [pieces, hts] at h
    exact absurd h.symm hne
  | ok ts =>
    obtain ⟨us, hscans, -⟩ := tokensFrom_eq_ok.mp hts
    exact ⟨us, hscans, by rw [← h, pieces_of_scans hscans, hscans.map_reading]⟩

theorem exists_mark_of_pieces {k : TokenKind} {text : List Char} {texts : List (List Char)}
    (hk : Spells k text) (h : us.map Token.reading = (text :: texts).map readingOf) :
    ∃ (m : Mark) (vs : List Token), us = m.token k :: vs ∧
      vs.map Token.reading = texts.map readingOf := by
  obtain ⟨u, vs, rfl, hu, hvs⟩ := List.map_eq_cons_iff.mp h
  rw [hk.readingOf_eq] at hu
  have hkind : u.kind = k := (Prod.mk.inj hu).1
  exact ⟨Mark.of u, vs, by rw [Mark.token_of hkind], hvs⟩

theorem exists_split_of_pieces {k : TokenKind} {text : List Char} {front back : List (List Char)}
    (hk : Spells k text) (h : us.map Token.reading = (front ++ text :: back).map readingOf) :
    ∃ (vs : List Token) (m : Mark) (ws : List Token), us = vs ++ m.token k :: ws ∧
      vs.map Token.reading = front.map readingOf ∧ ws.map Token.reading = back.map readingOf := by
  rw [List.map_append] at h
  obtain ⟨vs, ws, rfl, hvs, hws⟩ := List.map_eq_append_iff.mp h
  obtain ⟨m, ws, rfl, hback⟩ := exists_mark_of_pieces hk hws
  exact ⟨vs, m, ws, rfl, hvs, hback⟩

/-! ## Meanings -/

/-- Whether two meanings of a form differ at most in where they stand. Tests do if they make such
expressions of such operands. -/
def Grammar.Nonterminal.Same : (n : Nonterminal) → n.Meaning → n.Meaning → Prop
  | .test, x, y => ∀ a b : Expr, a.Renamed b → (x a).Renamed (y b)
  | .argument, x, y => ∀ xs ys, Expr.RenamedArgs xs ys → Expr.RenamedArgs (x :: xs) (y :: ys)
  | .disjunction, x, y | .conjunction, x, y | .negation, x, y | .predicate, x, y
  | .operand, x, y => Expr.Renamed x y

/-- Several meanings are compared place by place. -/
def Grammar.Form.Same : (f : Form) → f.Meaning → f.Meaning → Prop
  | .one n => n.Same
  | .some n | .any n => List.Forall₂ n.Same

theorem renamedAll_of_forall₂ {xs ys : List Expr} (h : List.Forall₂ Expr.Renamed xs ys) :
    Expr.RenamedAll xs ys := by
  induction h with
  | nil => exact .nil
  | cons h _ ih => exact .cons h ih

theorem renamedArgs_of_forall₂ {xs ys : List Arg}
    (h : List.Forall₂ Nonterminal.argument.Same xs ys) : Expr.RenamedArgs xs ys := by
  induction h with
  | nil => exact .nil
  | cons h _ ih => exact h _ _ ih

theorem renamed_joined {join : List Expr → Expr} {xs ys : List Expr}
    (hjoin : Expr.RenamedAll xs ys → (join xs).Renamed (join ys))
    (h : List.Forall₂ Expr.Renamed xs ys) :
    (Parser.joined join xs).Renamed (Parser.joined join ys) := by
  have hall := hjoin (renamedAll_of_forall₂ h)
  cases h with
  | nil => exact hall
  | cons h hs =>
    cases hs with
    | nil => exact h
    | cons h' hs => exact hall

theorem renamed_negate {a b : Expr} (h : a.Renamed b) (p q : Nat) :
    (Parser.negate a p).Renamed (Parser.negate b q) := by
  cases h with
  | literal v =>
    cases v with
    | number x => exact .literal _ _ _
    | _ => exact .neg (.literal _ _ _) _ _
  | _ => exact .neg (by constructor <;> assumption) _ _

/-! ## Phrases -/

theorem exists_negation_of_reading {n : Option Mark} {ts : List Token}
    (h : us.map Token.reading = (negation n ++ ts).map Token.reading) :
    ∃ (n' : Option Mark) (vs : List Token), us = negation n' ++ vs ∧ n'.isSome = n.isSome ∧
      vs.map Token.reading = ts.map Token.reading := by
  cases n with
  | none => exact ⟨none, us, rfl, rfl, h⟩
  | some m =>
    obtain ⟨m', vs, rfl, -, hvs⟩ := exists_mark_of_reading h
    exact ⟨some m', vs, rfl, rfl, hvs⟩

theorem exists_append_of_reading {ts ts' : List Token}
    (h : us.map Token.reading = (ts ++ ts').map Token.reading) :
    ∃ vs vs', us = vs ++ vs' ∧ vs.map Token.reading = ts.map Token.reading ∧
      vs'.map Token.reading = ts'.map Token.reading := by
  rw [List.map_append] at h
  exact List.map_eq_append_iff.mp h

/-- Tokens that are read as those of a phrase make a phrase that denotes the same. -/
theorem Grammar.Phrase.exists_of_reading {f : Form} (t : Phrase f)
    (h : us.map Token.reading = t.tokens.map Token.reading) :
    ∃ t' : Phrase f, t'.tokens = us ∧ t'.depth = t.depth ∧ f.Same t.meaning t'.meaning := by
  -- On the derivation, for all tokens that are read alike: those of a phrase part into those of its
  -- own parts, mark by mark. The depth is carried along, as the limit of the parser counts it.
  induction t generalizing us with
  | disjunction xs ih =>
    obtain ⟨xs, rfl, hdepth, hs⟩ := ih h
    exact ⟨.disjunction xs, rfl, congrArg (· + 1) hdepth, renamed_joined .or hs⟩
  | conjunction xs ih =>
    obtain ⟨xs, rfl, hdepth, hs⟩ := ih h
    exact ⟨.conjunction xs, rfl, hdepth, renamed_joined .and hs⟩
  | not m e ih =>
    obtain ⟨m, us, rfl, -, h⟩ := exists_mark_of_reading h
    obtain ⟨e, rfl, hdepth, he⟩ := ih h
    exact ⟨.not m e, rfl, congrArg (· + 1) hdepth, .not he _ _⟩
  | plain p ih =>
    obtain ⟨p, rfl, hdepth, hp⟩ := ih h
    exact ⟨.plain p, rfl, hdepth, hp⟩
  | existing m r =>
    obtain ⟨m, us, rfl, -, h⟩ := exists_mark_of_reading h
    obtain ⟨r, rfl, hroot, hsegments⟩ := r.exists_of_reading h
    exact ⟨.existing m r, rfl, rfl, .existing hroot.symm hsegments.symm⟩
  | existingIn m opening r closing =>
    obtain ⟨m, us, rfl, -, h⟩ := exists_mark_of_reading h
    obtain ⟨opening, us, rfl, -, h⟩ := exists_mark_of_reading h
    obtain ⟨us, vs, rfl, h, hclosing⟩ := exists_append_of_reading h
    obtain ⟨r, rfl, hroot, hsegments⟩ := r.exists_of_reading h
    obtain ⟨closing, vs, rfl, -, h⟩ := exists_mark_of_reading hclosing
    obtain rfl := List.map_eq_nil_iff.mp h
    exact ⟨.existingIn m opening r closing, rfl, rfl, .existing hroot.symm hsegments.symm⟩
  | tested e t ihe iht =>
    obtain ⟨us, vs, rfl, he, ht⟩ := exists_append_of_reading h
    obtain ⟨e, rfl, hde, he⟩ := ihe he
    obtain ⟨t, rfl, hdt, ht⟩ := iht ht
    exact ⟨.tested e t, rfl, congrArg₂ max hde hdt, ht _ _ he⟩
  | untested =>
    obtain rfl := List.map_eq_nil_iff.mp h
    exact ⟨.untested, rfl, rfl, fun a b hab => hab⟩
  | compare m op right ih =>
    obtain ⟨m, us, rfl, -, h⟩ := exists_mark_of_reading h
    obtain ⟨right, rfl, hdepth, hr⟩ := ih h
    exact ⟨.compare m op right, rfl, hdepth, fun a b hab => .compare op hab hr _ _⟩
  | text n m test m' pattern =>
    obtain ⟨n', us, rfl, hn, h⟩ := exists_negation_of_reading h
    obtain ⟨m, us, rfl, -, h⟩ := exists_mark_of_reading h
    obtain ⟨m', us, rfl, -, h⟩ := exists_mark_of_reading h
    obtain rfl := List.map_eq_nil_iff.mp h
    refine ⟨.text n' m test m' pattern, rfl, rfl, fun a b hab => ?_⟩
    rw [Phrase.meaning, Phrase.meaning, hn]
    cases test with
    | like => exact .like hab pattern _ _ _
    | matching => exact .matching hab pattern _ _ _
  | between n m low m' high ihl ihh =>
    obtain ⟨n', us, rfl, hn, h⟩ := exists_negation_of_reading h
    obtain ⟨m, us, rfl, -, h⟩ := exists_mark_of_reading h
    obtain ⟨us, vs, rfl, hlow, hback⟩ := exists_append_of_reading h
    obtain ⟨low, rfl, hdl, hl⟩ := ihl hlow
    obtain ⟨m', vs, rfl, -, hhigh⟩ := exists_mark_of_reading hback
    obtain ⟨high, rfl, hdh, hh⟩ := ihh hhigh
    refine ⟨.between n' m low m' high, rfl, congrArg₂ max hdl hdh, fun a b hab => ?_⟩
    rw [Phrase.meaning, Phrase.meaning, hn]
    exact .between hab hl hh _ _ _
  | within n m b opening items closing ih =>
    obtain ⟨n', us, rfl, hn, h⟩ := exists_negation_of_reading h
    obtain ⟨m, us, rfl, -, h⟩ := exists_mark_of_reading h
    obtain ⟨opening, us, rfl, -, h⟩ := exists_mark_of_reading h
    obtain ⟨us, vs, rfl, h, hclosing⟩ := exists_append_of_reading h
    obtain ⟨items, rfl, hdepth, hs⟩ := ih h
    obtain ⟨closing, vs, rfl, -, h⟩ := exists_mark_of_reading hclosing
    obtain rfl := List.map_eq_nil_iff.mp h
    refine ⟨.within n' m b opening items closing, rfl, hdepth, fun a c hac => ?_⟩
    rw [Phrase.meaning, Phrase.meaning, hn]
    exact .within hac (renamedAll_of_forall₂ hs) _ _ _
  | isNull m n m' =>
    obtain ⟨m, us, rfl, -, h⟩ := exists_mark_of_reading h
    obtain ⟨n', us, rfl, hn, h⟩ := exists_negation_of_reading h
    obtain ⟨m', us, rfl, -, h⟩ := exists_mark_of_reading h
    obtain rfl := List.map_eq_nil_iff.mp h
    refine ⟨.isNull m n' m', rfl, rfl, fun a b hab => ?_⟩
    rw [Phrase.meaning, Phrase.meaning, hn]
    exact .isNull hab _ _ _
  | minus m e ih =>
    obtain ⟨m, us, rfl, -, h⟩ := exists_mark_of_reading h
    obtain ⟨e, rfl, hdepth, he⟩ := ih h
    exact ⟨.minus m e, rfl, congrArg (· + 1) hdepth, renamed_negate he _ _⟩
  | literal m l =>
    obtain ⟨m, us, rfl, -, h⟩ := exists_mark_of_reading h
    obtain rfl := List.map_eq_nil_iff.mp h
    exact ⟨.literal m l, rfl, rfl, .literal _ _ _⟩
  | group opening e closing ih =>
    obtain ⟨opening, us, rfl, -, h⟩ := exists_mark_of_reading h
    obtain ⟨us, vs, rfl, h, hclosing⟩ := exists_append_of_reading h
    obtain ⟨e, rfl, hdepth, he⟩ := ih h
    obtain ⟨closing, vs, rfl, -, h⟩ := exists_mark_of_reading hclosing
    obtain rfl := List.map_eq_nil_iff.mp h
    exact ⟨.group opening e closing, rfl, hdepth, he⟩
  | call m name opening args closing ih =>
    obtain ⟨m, us, rfl, -, h⟩ := exists_mark_of_reading h
    obtain ⟨opening, us, rfl, -, h⟩ := exists_mark_of_reading h
    obtain ⟨us, vs, rfl, h, hclosing⟩ := exists_append_of_reading h
    obtain ⟨args, rfl, hdepth, hs⟩ := ih h
    obtain ⟨closing, vs, rfl, -, h⟩ := exists_mark_of_reading hclosing
    obtain rfl := List.map_eq_nil_iff.mp h
    exact ⟨.call m name opening args closing, rfl, hdepth,
      .call name (renamedArgs_of_forall₂ hs) _ _⟩
  | path r =>
    obtain ⟨r, rfl, hroot, hsegments⟩ := r.exists_of_reading h
    exact ⟨.path r, rfl, rfl, .path hroot.symm hsegments.symm⟩
  | expr e ih =>
    obtain ⟨e, rfl, hdepth, he⟩ := ih h
    exact ⟨.expr e, rfl, hdepth, fun xs ys hs => .expr he hs⟩
  | lambda m param arrow body ih =>
    obtain ⟨m, us, rfl, -, h⟩ := exists_mark_of_reading h
    obtain ⟨arrow, us, rfl, -, h⟩ := exists_mark_of_reading h
    obtain ⟨body, rfl, hdepth, he⟩ := ih h
    exact ⟨.lambda m param arrow body, rfl, hdepth, fun xs ys hs => .kept param he _ _ hs⟩
  | last x ih =>
    obtain ⟨x, rfl, hdepth, hx⟩ := ih h
    exact ⟨.last x, rfl, hdepth, .cons hx .nil⟩
  | more x m xs ihx ihxs =>
    obtain ⟨us, vs, rfl, hfront, hback⟩ := exists_append_of_reading h
    obtain ⟨x, rfl, hdx, hx⟩ := ihx hfront
    obtain ⟨m, vs, rfl, -, hmore⟩ := exists_mark_of_reading hback
    obtain ⟨xs, rfl, hdxs, hxs⟩ := ihxs hmore
    exact ⟨.more x m xs, rfl, congrArg₂ max hdx hdxs, .cons hx hxs⟩
  | empty =>
    obtain rfl := List.map_eq_nil_iff.mp h
    exact ⟨.empty, rfl, rfl, .nil⟩
  | items xs ih =>
    obtain ⟨xs, rfl, hdepth, hs⟩ := ih h
    exact ⟨.items xs, rfl, hdepth, hs⟩

end Switchyard.Filter
