import Switchyard.Proofs.Filter.Lexeme
import Switchyard.Proofs.Filter.Parsing
import Switchyard.Proofs.Filter.Unambiguous

/-!
# What a filter text means

The tokens of a text have one end token, which comes last. What stands before it is accepted if the
grammar derives it with at most 64 enclosures around any point, and there is at most one derivation.

* `tokensFrom_ended`: the end token of a text.
* `parseTokens_eq_ok`: the parser reads a disjunction up to the end token.
* `parse_accepts_grammar`: which texts the parser accepts, and which tree it builds.
-/

namespace Switchyard.Filter

open Switchyard.Filter.Parser Grammar

/-! ## The end token -/

/-- The tokens of a text end with its only end token. -/
theorem tokensFrom_ended {pos : Nat} {cs : List Char} {ts : List Token}
    (h : tokensFrom pos cs = .ok ts) :
    ∃ body last, ts = body ++ [last] ∧ last.kind = .eof ∧ ∀ t ∈ body, t.kind ≠ .eof := by
  fun_induction tokensFrom pos cs generalizing ts with
  | case1 pos =>
    obtain rfl := Except.ok.inj h
    exact ⟨[], _, rfl, rfl, by simp⟩
  | case2 pos c cs hblank ih => exact ih h
  | case3 pos c cs hblank fault hf => cases h
  | case4 pos c cs hblank k n hk token =>
    rename_i ih
    obtain ⟨rest, hrest, h⟩ := bind_eq_ok.mp h
    obtain rfl := Except.ok.inj h
    obtain ⟨body, last, rfl, hlast, hbody⟩ := ih hrest
    have htoken : token.kind ≠ .eof := lexeme_ne_eof hk
    exact ⟨token :: body, last, rfl, hlast, List.forall_mem_cons.mpr ⟨htoken, hbody⟩⟩

/-! ## Whole texts -/

section Whole

variable {body : List Token} {last : Token}

/-- Tokens that are left, the next of which is the end token, are nothing but that. -/
theorem eq_of_peek_eof (hbody : ∀ t ∈ body, t.kind ≠ .eof) {first rest : List Token}
    (hts : body ++ [last] = first ++ rest) (hrest : Ended rest) (hpeek : (peek rest).kind = .eof) :
    first = body := by
  obtain ⟨more, last', rfl, -⟩ := hrest
  rw [← List.append_assoc] at hts
  have hmore : body = first ++ more := (List.append_inj' hts rfl).1
  cases more with
  | nil => rw [hmore, List.append_nil]
  | cons t more =>
    have ht : t ∈ body := by
      rw [hmore]
      exact List.mem_append_right _ List.mem_cons_self
    exact absurd hpeek (hbody t ht)

theorem stopsAt_eof : (Form.one .disjunction).StopsAt .eof := by
  unfold Form.StopsAt
  decide

/-- The tokens of a whole text are parsed as the disjunction that they are. -/
theorem parseTokens_eq_ok (hlast : last.kind = .eof) (hbody : ∀ t ∈ body, t.kind ≠ .eof)
    {e : Expr} :
    parseTokens (body ++ [last]) = .ok e ↔
      ∃ t : Phrase (.one .disjunction), t.tokens = body ∧ t.meaning = e ∧ t.depth ≤ maxDepth := by
  have hreads : Reads (maxDepth + 1) (.one .disjunction) id (level maxDepth).expression :=
    (levelReads_level maxDepth).expression
  have hended : Ended (body ++ [last]) := ⟨body, last, rfl, hlast⟩
  unfold parseTokens wholeText
  constructor
  · intro h
    split at h
    · cases h
    · obtain ⟨⟨x, rest⟩, hx, h⟩ := bind_eq_ok.mp h
      obtain ⟨t, ht, hmean, hts, hrest⟩ := hreads.sound hended hx
      dsimp only at h
      split at h
      · -- The end is the only token of its kind, so what is left before it is nothing.
        next hpeek =>
        obtain rfl := Except.ok.inj h
        exact ⟨t, eq_of_peek_eof hbody hts hrest hpeek, hmean, Nat.le_of_lt_succ ht⟩
      · cases h
  · rintro ⟨t, rfl, rfl, ht⟩
    have hfirst : (peek (t.tokens ++ [last])).kind ≠ .eof :=
      fun hk => t.peek_not_nonstarter [last] (hk ▸ by decide)
    have hstop : (Form.one .disjunction).StopsAt (peek [last]).kind := by
      rw [peek_cons, hlast]
      exact stopsAt_eof
    have hend : Ended [last] := ⟨[], last, rfl, hlast⟩
    have hread := hreads.complete t (Nat.lt_succ_of_le ht) hend hstop
    rw [if_neg hfirst]
    exact bind_eq_ok.mpr ⟨_, hread, if_pos hlast⟩

end Whole

/-- A text is accepted just if the tokens before its end derive from the grammar, with at most 64
enclosures around any point. The tree that is built is the one of the derivation, and there is no
other derivation. -/
theorem parse_accepts_grammar {source : String} {ts : List Token} (h : tokenize source = .ok ts) :
    ∃ body last, ts = body ++ [last] ∧ last.kind = .eof ∧ (∀ t ∈ body, t.kind ≠ .eof) ∧
      (∀ e, parse source = .ok e ↔
        ∃ t : Phrase (.one .disjunction), t.tokens = body ∧ t.meaning = e ∧ t.depth ≤ 64) ∧
      ∀ t t' : Phrase (.one .disjunction), t.tokens = body → t'.tokens = body → t = t' := by
  obtain ⟨body, last, rfl, hlast, hbody⟩ := tokensFrom_ended h
  have hparse : parse source = parseTokens (body ++ [last]) := by
    rw [parse, h]
    rfl
  refine ⟨body, last, rfl, hlast, hbody, fun e => ?_, fun t t' ht ht' => ?_⟩
  · rw [hparse]
    exact parseTokens_eq_ok hlast hbody
  · exact Phrase.eq_of_tokens_eq stopsAt_eof (ht.trans ht'.symm)

/-- A filter with a keyword as the name of a field, the `AND` of a range and a predicate. -/
def nestedSource : String :=
  "NOT (a.in NOT BETWEEN -1 AND b['k'] AND c IS NULL) OR any(xs, x => x IN ['y', z])"

theorem parse_accepts_grammar_nested :
    ∃ ts, tokenize nestedSource = .ok ts ∧ ∃ body last, ts = body ++ [last] ∧
      ∃ t : Phrase (.one .disjunction), t.tokens = body ∧ t.depth ≤ 64 ∧
        parse nestedSource = .ok t.meaning ∧
        ∀ t' : Phrase (.one .disjunction), t'.tokens = body → t' = t := by
  have hsome : (parse nestedSource).toOption.isSome = true := by decide +kernel
  cases hts : tokenize nestedSource with
  | error fault =>
    rw [parse, hts] at hsome
    cases hsome
  | ok ts =>
    obtain ⟨body, last, hbody, -, -, haccepts, hunique⟩ := parse_accepts_grammar hts
    cases he : parse nestedSource with
    | error fault =>
      rw [he] at hsome
      cases hsome
    | ok e =>
      obtain ⟨t, ht, rfl, hdepth⟩ := (haccepts e).mp he
      exact ⟨ts, rfl, body, last, hbody, t, ht, hdepth, rfl, fun t' ht' => hunique t' t ht' ht⟩

end Switchyard.Filter
