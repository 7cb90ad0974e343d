import Switchyard.Filter.Field
import Switchyard.Proofs.Filter.Acceptance
import Switchyard.Proofs.Filter.Printing

/-!
# Fields compared with literals

A field path and a literal are texts of their own. With an equals sign between them they are a
comparison, and what each of them stands for is the same there as it is alone.

* `parsePath_eq_ok`: the texts that are field paths.
* `Field.parse_of_parsePath`: blanks around a field path do not matter.
* `IsLiteral`: the texts that are literals, and of which value.
* `parse_comparisons`: comparisons with `AND` between them are read as the conjunction of them.
-/

namespace Switchyard.Filter

open Switchyard.Filter.Parser Grammar

variable {source : String} {p : Path} {us : List Token}

/-! ## Paths -/

theorem exists_mark_of_reading {m : Mark} {k : TokenKind} {ts : List Token}
    (h : us.map Token.reading = (m.token k :: ts).map Token.reading) :
    ∃ (m' : Mark) (vs : List Token), us = m'.token k :: vs ∧ m'.lexeme = m.lexeme ∧
      vs.map Token.reading = ts.map Token.reading := by
  obtain ⟨u, vs, rfl, hu, hvs⟩ := List.map_eq_cons_iff.mp h
  obtain ⟨hk, hlexeme⟩ := Prod.mk.inj hu
  have hu : (Mark.of u).token k = u := Mark.token_of hk
  exact ⟨Mark.of u, vs, by rw [hu], hlexeme, hvs⟩

/-- Tokens that are read as those of a step make that step. -/
theorem Grammar.Step.exists_of_reading (s : Step)
    (h : us.map Token.reading = s.tokens.map Token.reading) :
    ∃ s' : Step, s'.tokens = us ∧ s'.segment = s.segment := by
  cases s with
  | field dot m name =>
    obtain ⟨dot', us, rfl, -, h⟩ := exists_mark_of_reading h
    obtain ⟨m', us, rfl, -, h⟩ := exists_mark_of_reading h
    obtain rfl := List.map_eq_nil_iff.mp h
    exact ⟨.field dot' m' name, rfl, rfl⟩
  | keyword dot m k hk =>
    obtain ⟨dot', us, rfl, -, h⟩ := exists_mark_of_reading h
    obtain ⟨m', us, rfl, hlexeme, h⟩ := exists_mark_of_reading h
    obtain rfl := List.map_eq_nil_iff.mp h
    exact ⟨.keyword dot' m' k hk, rfl, by rw [Step.segment, Step.segment, hlexeme]⟩
  | index opening m x hx closing =>
    obtain ⟨opening', us, rfl, -, h⟩ := exists_mark_of_reading h
    obtain ⟨m', us, rfl, -, h⟩ := exists_mark_of_reading h
    obtain ⟨closing', us, rfl, -, h⟩ := exists_mark_of_reading h
    obtain rfl := List.map_eq_nil_iff.mp h
    exact ⟨.index opening' m' x hx closing', rfl, rfl⟩
  | quoted opening m key closing =>
    obtain ⟨opening', us, rfl, -, h⟩ := exists_mark_of_reading h
    obtain ⟨m', us, rfl, -, h⟩ := exists_mark_of_reading h
    obtain ⟨closing', us, rfl, -, h⟩ := exists_mark_of_reading h
    obtain rfl := List.map_eq_nil_iff.mp h
    exact ⟨.quoted opening' m' key closing', rfl, rfl⟩

theorem exists_steps_of_reading (steps : List Step)
    (h : us.map Token.reading = (steps.flatMap Step.tokens).map Token.reading) :
    ∃ steps' : List Step, steps'.flatMap Step.tokens = us ∧
      steps'.map Step.segment = steps.map Step.segment := by
  induction steps generalizing us with
  | nil =>
    obtain rfl := List.map_eq_nil_iff.mp h
    exact ⟨[], rfl, rfl⟩
  | cons s steps ih =>
    rw [List.flatMap_cons, List.map_append] at h
    obtain ⟨front, back, rfl, hfront, hback⟩ := List.map_eq_append_iff.mp h
    obtain ⟨s', rfl, hs⟩ := s.exists_of_reading hfront
    obtain ⟨steps', rfl, hsteps⟩ := ih hback
    exact ⟨s' :: steps', rfl, by rw [List.map_cons, hs, hsteps, List.map_cons]⟩

/-- Tokens that are read as those of a path make a path with the same root and segments. -/
theorem Grammar.Route.exists_of_reading (r : Route)
    (h : us.map Token.reading = r.tokens.map Token.reading) :
    ∃ r' : Route, r'.tokens = us ∧ r'.path.root = r.path.root ∧
      r'.path.segments = r.path.segments := by
  obtain ⟨root, us, rfl, -, h⟩ := exists_mark_of_reading h
  obtain ⟨steps, rfl, hsteps⟩ := exists_steps_of_reading r.steps h
  exact ⟨⟨root, r.name, steps⟩, rfl, rfl, hsteps⟩

/-- A text is a field path if it is read as the tokens of one. -/
theorem parsePath_eq_ok :
    parsePath source = .ok p ↔ ∃ r : Route, Scans [] 0 source.toList r.tokens ∧ r.path = p := by
  unfold parsePath tokenize
  constructor
  · intro h
    obtain ⟨ts, hts, h⟩ := bind_eq_ok.mp h
    obtain ⟨us, hscans, rfl⟩ := tokensFrom_eq_ok.mp hts
    have hended : Ended (us ++ [⟨.eof, 0 + Text.byteLength source.toList, []⟩]) := ⟨us, _, rfl, rfl⟩
    split at h
    · next name hname =>
      obtain ⟨hsplit, hrest⟩ := hended.next hname (by simp)
      obtain ⟨⟨q, rest⟩, hpath, h⟩ := bind_eq_ok.mp h
      obtain ⟨r, rfl, htokens, hrest⟩ := pathFrom_sound (Mark.of _) hrest hpath
      dsimp only at h
      split at h
      · next hpeek =>
        obtain rfl := Except.ok.inj h
        -- Behind the path stands the end, so its tokens are all that there are.
        have hus : r.tokens = us :=
          eq_of_peek_eof (fun t ht => hscans.ne_eof ht) (hsplit.trans htokens) hrest hpeek
        exact ⟨r, hus ▸ hscans, rfl⟩
      · cases h
    · cases h
  · rintro ⟨r, hscans, rfl⟩
    have hend : Ended [⟨.eof, 0 + Text.byteLength source.toList, []⟩] := ⟨[], _, rfl, rfl⟩
    have hstop : (Form.one .operand).StopsAt .eof := by simp [Form.StopsAt, Nonterminal.extenders]
    have hadv := (hend.append (r.steps.flatMap Step.tokens)).advance_cons
      (r.root.token (.ident r.name))
    refine bind_eq_ok.mpr ⟨_, tokensFrom_eq_ok_of_scans hscans, ?_⟩
    rw [Route.tokens, List.cons_append, peek_cons, hadv]
    exact bind_eq_ok.mpr ⟨_, pathFrom_complete r hend hstop, if_pos rfl⟩

/-! ## Fields -/

/-- The field of a text that is a field path is the one of the path. -/
theorem Field.parse_of_parsePath (h : parsePath source = .ok p) :
    Field.parse source = .ok (Field.ofPath p) := by
  obtain ⟨r, hscans, rfl⟩ := parsePath_eq_ok.mp h
  obtain ⟨pos, htrim⟩ := hscans.trim
  obtain ⟨us, hus, hreading⟩ := htrim.placed 0
  obtain ⟨r', rfl, hroot, hsegments⟩ := r.exists_of_reading hreading
  have htrimmed : parsePath (String.ofList (Text.trim source.toList)) = .ok r'.path :=
    parsePath_eq_ok.mpr ⟨r', by rwa [String.toList_ofList], rfl⟩
  have hfield : Field.ofPath r'.path = Field.ofPath r.path := by
    simp [Field.ofPath, hroot, hsegments]
  rw [Field.parse, htrimmed, ← hfield]
  rfl

/-! ## Literals -/

/-- The tokens of a literal: its own, or a minus sign before the one of a number. -/
inductive IsLiteralKinds : Value → List TokenKind → Prop where
  | plain (l : Literal) : IsLiteralKinds l.value [l.kind]
  | negated (x : Binary64) : IsLiteralKinds (.number x.neg) [.minus, .number x]

/-- A text that is a literal and nothing else. -/
def IsLiteral (source : String) (v : Value) : Prop :=
  ∃ ts ks, tokenize source = .ok ts ∧ ts.map (·.kind) = ks ++ [.eof] ∧ IsLiteralKinds v ks

/-- The tokens of a literal are an operand that denotes its value. -/
theorem exists_operand {v : Value} (h : IsLiteralKinds v (us.map (·.kind))) :
    ∃ e : Phrase (.one .operand), e.tokens = us ∧ e.depth ≤ 1 ∧
      ∃ pos, e.meaning = .literal v pos := by
  generalize hks : us.map (·.kind) = ks at h
  cases h with
  | plain l =>
    obtain ⟨t, us, rfl, ht, hus⟩ := List.map_eq_cons_iff.mp hks
    obtain rfl := List.map_eq_nil_iff.mp hus
    exact ⟨.literal (Mark.of t) l, by rw [Phrase.tokens, Mark.token_of ht], Nat.zero_le _, _, rfl⟩
  | negated x =>
    obtain ⟨t, us, rfl, ht, hus⟩ := List.map_eq_cons_iff.mp hks
    obtain ⟨u, us, rfl, hu, hus⟩ := List.map_eq_cons_iff.mp hus
    obtain rfl := List.map_eq_nil_iff.mp hus
    refine ⟨.minus (Mark.of t) (.literal (Mark.of u) (.number x)), ?_, Nat.le_refl _, _, rfl⟩
    rw [Phrase.tokens, Phrase.tokens, Mark.token_of ht]
    exact congrArg (t :: [·]) (Mark.token_of hu)

theorem IsLiteral.exists_scans {v : Value} (h : IsLiteral source v) :
    ∃ us, Scans [] 0 source.toList us ∧ IsLiteralKinds v (us.map (·.kind)) := by
  obtain ⟨ts, ks, hts, hkinds, hks⟩ := h
  obtain ⟨us, hscans, rfl⟩ := tokensFrom_eq_ok.mp hts
  rw [List.map_append] at hkinds
  obtain rfl := (List.append_inj' hkinds rfl).1
  exact ⟨us, hscans, hks⟩

/-! ## Comparisons -/

/-- The text of a comparison of a field with a literal. -/
def comparison (path literal : String) : String := path ++ " == " ++ literal

/-- Texts of a path and a literal, and what they are by themselves. -/
structure IsComparable (texts : String × String) (sides : Path × Value) : Prop where
  path : parsePath texts.1 = .ok sides.1
  literal : IsLiteral texts.2 sides.2

/-- An expression that compares a path with a value, wherever it stands. -/
def Compares (sides : Path × Value) (e : Expr) : Prop :=
  ∃ p pos pos', e = .compare .eq (.path p) (.literal sides.2 pos) pos' ∧
    p.root = sides.1.root ∧ p.segments = sides.1.segments

variable {texts : List (String × String)} {sides : List (Path × Value)}

theorem kinds_of_reading {ts : List Token} (h : us.map Token.reading = ts.map Token.reading) :
    us.map (·.kind) = ts.map (·.kind) := by
  have hfst := congrArg (List.map Prod.fst) h
  rwa [List.map_map, List.map_map] at hfst

/-- A comparison is read as one wherever it stands. -/
theorem exists_comparison {texts : String × String} {sides : Path × Value}
    (h : IsComparable texts sides) (pos : Nat) :
    ∃ e : Phrase (.one .negation), Scans [] pos (comparison texts.1 texts.2).toList e.tokens ∧
      e.depth ≤ 1 ∧ Compares sides e.meaning := by
  obtain ⟨r, hr, hpath⟩ := parsePath_eq_ok.mp h.path
  obtain ⟨us, hus, hliteral⟩ := h.literal.exists_scans
  obtain ⟨rs, hrs, hreading⟩ := hr.placed pos
  obtain ⟨r', rfl, hroot, hsegments⟩ := r.exists_of_reading hreading
  let p₁ := pos + Text.byteLength texts.1.toList + ' '.utf8Size
  let p₂ := p₁ + Text.byteLength "==".toList + ' '.utf8Size
  have hsign := (@Spells.operator "==" .eq (by decide)).scans p₁
  obtain ⟨vs, hvs, hreading⟩ := hus.placed p₂
  rw [← kinds_of_reading hreading] at hliteral
  obtain ⟨e, rfl, hdepth, at_, hmeaning⟩ := exists_operand hliteral
  have hscans := hrs.spaced rfl (hsign.spaced rfl hvs)
  refine ⟨.plain (.tested (.path r') (.compare ⟨p₁, "==".toList⟩ .eq e)), ?_, ?_, ?_⟩
  · rw [comparison, String.toList_append, String.toList_append, List.append_assoc]
    exact hscans
  · simpa [Phrase.depth] using hdepth
  · refine ⟨r'.path, at_, _, congrArg (Expr.compare .eq (.path r'.path) · _) hmeaning, ?_, ?_⟩
    · rw [hroot, hpath]
    · rw [hsegments, hpath]

theorem exists_conjunction (h : List.Forall₂ IsComparable texts sides) (hne : texts ≠ [])
    (pos : Nat) :
    ∃ xs : Phrase (.some .negation),
      Scans [] pos (" AND ".toList.intercalate
        (texts.map fun t => (comparison t.1 t.2).toList)) xs.tokens ∧
      xs.depth ≤ 1 ∧ List.Forall₂ Compares sides xs.meaning := by
  induction h generalizing pos with
  | nil => exact absurd rfl hne
  | @cons t s texts sides ht hts ih =>
    obtain ⟨e, he, hdepth, hcompares⟩ := exists_comparison ht pos
    cases hts with
    | nil =>
      refine ⟨.last e, ?_, hdepth, .cons hcompares .nil⟩
      rw [List.map_singleton, List.intercalate_singleton]
      exact he
    | cons ht' hts =>
      let p₁ := pos + Text.byteLength (comparison t.1 t.2).toList + ' '.utf8Size
      let p₂ := p₁ + Text.byteLength "AND".toList + ' '.utf8Size
      have hand := (@Spells.keyword "and" .and "AND".toList (by decide) (by decide)).scans p₁
      obtain ⟨xs, hxs, hdepths, hmore⟩ := ih (by simp) p₂
      have hscans := he.spaced rfl (hand.spaced rfl hxs)
      refine ⟨.more e ⟨p₁, "AND".toList⟩ xs, ?_, Nat.max_le.mpr ⟨hdepth, hdepths⟩,
        .cons hcompares hmore⟩
      rw [List.map_cons, List.map_cons, List.intercalate_cons_cons, List.append_assoc]
      exact hscans

/-- A text that is read as the tokens of a phrase denotes what the phrase does. -/
theorem parse_of_scans {t : Phrase (.one .disjunction)} (h : Scans [] 0 source.toList t.tokens)
    (ht : t.depth ≤ maxDepth) : parse source = .ok t.meaning := by
  rw [parse, tokenize, tokensFrom_eq_ok_of_scans h]
  exact (parseTokens_eq_ok rfl fun t ht => h.ne_eof ht).mpr ⟨t, rfl, rfl, ht⟩

/-- Comparisons with `AND` between them are read as the conjunction of them. -/
theorem parse_comparisons (h : List.Forall₂ IsComparable texts sides) (hne : texts ≠ []) :
    ∃ es, parse (" AND ".intercalate (texts.map fun t => comparison t.1 t.2)) =
      .ok (joined .and es) ∧ List.Forall₂ Compares sides es := by
  obtain ⟨xs, hscans, hdepth, hmeaning⟩ := exists_conjunction h hne 0
  have hdepth' : (Phrase.disjunction (.last (.conjunction xs))).depth ≤ maxDepth := by
    show xs.depth + 1 ≤ 64
    omega
  refine ⟨xs.meaning, parse_of_scans ?_ hdepth', hmeaning⟩
  rw [String.toList_intercalate, List.map_map]
  exact hscans

end Switchyard.Filter
