import Switchyard.Proofs.Filter.Grammar
import Switchyard.Proofs.Result

/-!
# What the parsers read

A parser reads the phrases of a form if it accepts exactly these at the front of the tokens, leaves
the tokens behind them and gives their syntax trees. For acceptance to be exact the next token must
not go on the phrase; what is accepted is a phrase in any case.

* `Ended`: token lists with an end token, from which no parser falls off.
* `Reads`: a parser reads the phrases of a form whose depth is below a bound.
* `reads_some`, `reads_argument`, `reads_operand`: each parser, if the parsers that it calls read
  their phrases.
-/

namespace Switchyard.Filter

namespace Grammar

open Switchyard.Filter.Parser

variable {ts rest : List Token} {k : TokenKind}

/-! ## Tokens -/

/-- The tokens end with an end token. -/
def Ended (ts : List Token) : Prop := ∃ body last, ts = body ++ [last] ∧ last.kind = .eof

namespace Ended

theorem ne_nil (h : Ended ts) : ts ≠ [] := by
  obtain ⟨body, last, rfl, -⟩ := h
  exact List.append_ne_nil_of_right_ne_nil _ (List.cons_ne_nil _ _)

theorem append (ts : List Token) (h : Ended rest) : Ended (ts ++ rest) := by
  obtain ⟨body, last, rfl, hl⟩ := h
  exact ⟨ts ++ body, last, (List.append_assoc _ _ _).symm, hl⟩

theorem cons (t : Token) (h : Ended rest) : Ended (t :: rest) := h.append [t]

theorem advance_cons (h : Ended rest) (t : Token) : advance (t :: rest) = rest :=
  peek_advance_cons h.ne_nil

/-- A token that is not the end is taken off. -/
theorem next (h : Ended ts) (hk : (peek ts).kind = k) (hne : k ≠ .eof) :
    ts = (Mark.of (peek ts)).token k :: advance ts ∧ Ended (advance ts) := by
  obtain ⟨body, last, rfl, hl⟩ := h
  cases body with
  | nil => exact absurd (hk.symm.trans hl) hne
  | cons t body =>
    have hrest : Ended (body ++ [last]) := ⟨body, last, rfl, hl⟩
    have hadv : advance (t :: body ++ [last]) = body ++ [last] := hrest.advance_cons t
    rw [hadv, Mark.token_of hk]
    exact ⟨rfl, hrest⟩

end Ended

theorem failAt_ne_ok {α : Type} {t : Token} {fault : CompileFault} {r : α} :
    failAt t fault ≠ .ok r := by
  intro h
  cases h

theorem expect_eq_ok {what : String} {x : Unit} :
    expect k what ts = .ok (x, rest) ↔ (peek ts).kind = k ∧ advance ts = rest := by
  unfold expect failAt
  by_cases h : (peek ts).kind = k <;> simp [h]

/-- A parser reads the phrases of a form whose depth is below `d`; `value` is what it makes of what
they denote. -/
structure Reads {α : Type} (d : Nat) (f : Form) (value : f.Meaning → α) (p : Parser α) : Prop where
  sound : ∀ {ts rest : List Token} {x : α}, Ended ts → p ts = .ok (x, rest) →
    ∃ t : Phrase f, t.depth < d ∧ value t.meaning = x ∧ ts = t.tokens ++ rest ∧ Ended rest
  complete : ∀ (t : Phrase f) {rest : List Token}, t.depth < d → Ended rest →
    f.StopsAt (peek rest).kind → p (t.tokens ++ rest) = .ok (value t.meaning, rest)

/-! ## Paths -/

theorem keyword?_isSome : k.keyword?.isSome = true ↔ k ∈ TokenKind.keywords.map (·.2) := by
  unfold TokenKind.keyword?
  rw [Option.isSome_map, List.find?_isSome, List.mem_map]
  simp only [beq_iff_eq]

/-- What is a name behind a dot makes a step with it. -/
theorem exists_step_of_fieldName? {t : Token} {key : String} (h : fieldName? t = some key)
    (dot : Mark) : t.kind ≠ .eof ∧
      ∃ s : Step, s.tokens = [dot.token .dot, t] ∧ s.segment = .key key := by
  unfold fieldName? at h
  split at h
  · next name hk =>
    obtain rfl := Option.some.inj h
    refine ⟨by simp [hk], .field dot (Mark.of t) name, ?_, rfl⟩
    rw [Step.tokens, Mark.token_of hk]
  · next hk =>
    split at h
    · next hkey =>
      obtain rfl := Option.some.inj h
      have hmem := keyword?_isSome.mp hkey
      refine ⟨fun he => ?_, .keyword dot (Mark.of t) t.kind hmem, ?_, rfl⟩
      · rw [he] at hkey
        exact absurd hkey (by decide)
      · rw [Step.tokens, Mark.token_of rfl]
    · cases h

/-- What is a subscript makes a step with the brackets around it. -/
theorem exists_step_of_subscript? {t : Token} {segment : Segment} (h : subscript? t = some segment)
    (opening closing : Mark) : t.kind ≠ .eof ∧
      ∃ s : Step, s.tokens = [opening.token .leftBracket, t, closing.token .rightBracket] ∧
        s.segment = segment := by
  unfold subscript? at h
  split at h
  · next x hk =>
    split at h
    · next hx =>
      obtain rfl := Option.some.inj h
      rw [Bool.and_eq_true, Bool.not_eq_true'] at hx
      refine ⟨by simp [hk], .index opening (Mark.of t) x hx closing, ?_, rfl⟩
      rw [Step.tokens, Mark.token_of hk]
    · cases h
  · next key hk =>
    obtain rfl := Option.some.inj h
    refine ⟨by simp [hk], .quoted opening (Mark.of t) key closing, ?_, rfl⟩
    rw [Step.tokens, Mark.token_of hk]
  · cases h

/-- Where the steps of a path are read, there is one step in front of the others, or none. -/
theorem segments_succ {fuel : Nat} {segs : List Segment} (h : Ended ts)
    (hs : segments (fuel + 1) ts = .ok (segs, rest)) :
    (segs = [] ∧ ts = rest) ∨ ∃ (s : Step) (mid : List Token) (more : List Segment),
      ts = s.tokens ++ mid ∧ Ended mid ∧ segments fuel mid = .ok (more, rest) ∧
        s.segment :: more = segs := by
  -- The cases of the reader: a dot and a name, a bracket and a subscript, or the end of the path.
  unfold segments at hs
  split at hs
  · next hdot =>
    obtain ⟨hts, hnext⟩ := h.next hdot (by simp)
    dsimp only at hs
    split at hs
    · cases hs
    · next key hkey =>
      obtain ⟨⟨more, rest'⟩, hmore, hs⟩ := bind_eq_ok.mp hs
      obtain ⟨rfl, rfl⟩ := Prod.mk.inj (Except.ok.inj hs)
      obtain ⟨hne, s, htokens, hseg⟩ := exists_step_of_fieldName? hkey (Mark.of (peek ts))
      obtain ⟨hname, hmid⟩ := hnext.next rfl hne
      refine .inr ⟨s, _, more, ?_, hmid, hmore, congrArg (· :: more) hseg⟩
      rw [htokens]
      exact hts.trans (congrArg _ hname)
  · next hbracket =>
    obtain ⟨hts, hnext⟩ := h.next hbracket (by simp)
    dsimp only at hs
    split at hs
    · cases hs
    · next segment hsub =>
      obtain ⟨⟨⟨⟩, rest'⟩, hexpect, hs⟩ := bind_eq_ok.mp hs
      obtain ⟨hclose, rfl⟩ := expect_eq_ok.mp hexpect
      obtain ⟨⟨more, rest'⟩, hmore, hs⟩ := bind_eq_ok.mp hs
      obtain ⟨rfl, rfl⟩ := Prod.mk.inj (Except.ok.inj hs)
      obtain ⟨hne, s, htokens, rfl⟩ := exists_step_of_subscript? hsub (Mark.of (peek ts))
        (Mark.of (peek (advance (advance ts))))
      obtain ⟨hinner, hmid⟩ := hnext.next rfl hne
      obtain ⟨hclosing, hend⟩ := hmid.next hclose (by simp)
      refine .inr ⟨s, _, more, ?_, hend, hmore, rfl⟩
      rw [htokens]
      exact hts.trans (congrArg _ (hinner.trans (congrArg _ hclosing)))
  · obtain ⟨rfl, rfl⟩ := Prod.mk.inj (Except.ok.inj hs)
    exact .inl ⟨rfl, rfl⟩

/-- The steps of a path are read until one is missing. -/
theorem segments_sound {fuel : Nat} {segs : List Segment} (h : Ended ts)
    (hs : segments fuel ts = .ok (segs, rest)) :
    ∃ steps : List Step, steps.map Step.segment = segs ∧
      ts = steps.flatMap Step.tokens ++ rest ∧ Ended rest := by
  induction fuel generalizing ts segs with
  | zero =>
    obtain ⟨rfl, rfl⟩ := Prod.mk.inj (Except.ok.inj hs)
    exact ⟨[], rfl, rfl, h⟩
  | succ fuel ih =>
    rcases segments_succ h hs with ⟨rfl, rfl⟩ | ⟨s, mid, more, rfl, hmid, hmore, rfl⟩
    · exact ⟨[], rfl, rfl, h⟩
    · obtain ⟨steps, rfl, rfl, hrest⟩ := ih hmid hmore
      refine ⟨s :: steps, rfl, ?_, hrest⟩
      rw [List.flatMap_cons, List.append_assoc]

/-- A step at the front is read. -/
theorem segments_step (s : Step) (fuel : Nat) (h : Ended ts) :
    segments (fuel + 1) (s.tokens ++ ts) =
      (segments fuel ts).map fun (more, rest) => (s.segment :: more, rest) := by
  have hadv : ∀ t : Token, advance (t :: ts) = ts := h.advance_cons
  cases s with
  | field dot m name =>
    simp only [Step.tokens, segments, List.cons_append, List.nil_append, peek_cons,
      Mark.kind_token, advance_cons_cons, fieldName?, hadv]
    cases segments fuel ts <;> rfl
  -- Behind a dot a keyword is a name like any other, in its own spelling.
  | keyword dot m k hk =>
    have hname : fieldName? (m.token k) = some (String.ofList m.lexeme) := by
      have hkey := keyword?_isSome.mpr hk
      unfold fieldName?
      split
      · next name hident =>
        rw [Mark.kind_token] at hident
        exact absurd (hident ▸ hk) ident_not_keyword
      · rw [Mark.kind_token, if_pos hkey]
        rfl
    simp only [Step.tokens, segments, List.cons_append, List.nil_append, peek_cons,
      Mark.kind_token, advance_cons_cons, hname, hadv]
    cases segments fuel ts <;> rfl
  | index opening m x hx closing =>
    have hsub : subscript? (m.token (.number x)) = some (.index x.toNat64) := by
      simp [subscript?, hx]
    simp only [Step.tokens, segments, List.cons_append, List.nil_append, peek_cons,
      Mark.kind_token, advance_cons_cons, hsub, expect, hadv, ok_bind, ↓reduceIte]
    cases segments fuel ts <;> rfl
  | quoted opening m key closing =>
    have hsub : subscript? (m.token (.string key)) = some (.key key) := rfl
    simp only [Step.tokens, segments, List.cons_append, List.nil_append, peek_cons,
      Mark.kind_token, advance_cons_cons, hsub, expect, hadv, ok_bind, ↓reduceIte]
    cases segments fuel ts <;> rfl

/-- All steps are read, if nothing behind them goes on the path. -/
theorem segments_complete {steps : List Step} {fuel : Nat}
    (hfuel : (steps.flatMap Step.tokens).length ≤ fuel) (h : Ended rest)
    (hstop : (Form.one .operand).StopsAt (peek rest).kind) :
    segments fuel (steps.flatMap Step.tokens ++ rest) = .ok (steps.map Step.segment, rest) := by
  induction steps generalizing fuel with
  | nil =>
    cases fuel with
    | zero => rfl
    | succ fuel =>
      have hdot : (peek rest).kind ≠ .dot := fun hk => hstop (hk ▸ by decide)
      have hbracket : (peek rest).kind ≠ .leftBracket := fun hk => hstop (hk ▸ by decide)
      unfold segments
      split
      · next hk => exact absurd hk hdot
      · next hk => exact absurd hk hbracket
      · rfl
  | cons s steps ih =>
    have hlen : 0 < s.tokens.length := by cases s <;> simp [Step.tokens]
    rw [List.flatMap_cons, List.length_append] at hfuel
    cases fuel with
    | zero => omega
    | succ fuel =>
      have hfuel' : (steps.flatMap Step.tokens).length ≤ fuel := by omega
      have hmore := ih hfuel'
      rw [List.flatMap_cons, List.append_assoc, segments_step s fuel (h.append _), hmore]
      rfl

/-- The path whose root has been read. -/
theorem pathFrom_sound (root : Mark) {name : String} {x : Path} (h : Ended ts)
    (hp : pathFrom name root.pos ts = .ok (x, rest)) :
    ∃ r : Route, r.path = x ∧ root.token (.ident name) :: ts = r.tokens ++ rest ∧ Ended rest := by
  obtain ⟨⟨segs, rest'⟩, hs, hp⟩ := bind_eq_ok.mp hp
  obtain ⟨rfl, rfl⟩ := Prod.mk.inj (Except.ok.inj hp)
  obtain ⟨steps, rfl, rfl, hrest⟩ := segments_sound h hs
  exact ⟨⟨root, name, steps⟩, rfl, rfl, hrest⟩

theorem pathFrom_complete (r : Route) (h : Ended rest)
    (hstop : (Form.one .operand).StopsAt (peek rest).kind) :
    pathFrom r.name r.root.pos (r.steps.flatMap Step.tokens ++ rest) = .ok (r.path, rest) := by
  have hlen : (r.steps.flatMap Step.tokens).length ≤
      (r.steps.flatMap Step.tokens ++ rest).length := by simp
  exact bind_eq_ok.mpr ⟨_, segments_complete hlen h hstop, rfl⟩

/-! ## Lists -/

section Lists

variable {d : Nat} {n : Nonterminal} {p : Parser n.Meaning}

theorem separator_ne_eof (n : Nonterminal) : n.separator ≠ .eof := by
  cases n <;> simp [Nonterminal.separator]

theorem separated_zero_eq_ok {sep : TokenKind} {q : Parser α} {xs : List α} :
    separated sep q 0 ts = .ok (xs, rest) ↔ ∃ x, q ts = .ok (x, rest) ∧ [x] = xs := by
  simp only [separated, bind_eq_ok, Prod.exists, pure_eq, Except.ok.injEq, Prod.mk.injEq]
  constructor
  · rintro ⟨x, _, hx, hxs, rfl⟩
    exact ⟨x, hx, hxs⟩
  · rintro ⟨x, hx, hxs⟩
    exact ⟨x, rest, hx, hxs, rfl⟩

/-- Several phrases are read if one is, and the others behind a separator if there is one. -/
theorem separated_succ_eq_ok {sep : TokenKind} {q : Parser α} {fuel : Nat} {xs : List α} :
    separated sep q (fuel + 1) ts = .ok (xs, rest) ↔ ∃ x mid, q ts = .ok (x, mid) ∧
      ((peek mid).kind = sep ∧
          (∃ more, separated sep q fuel (advance mid) = .ok (more, rest) ∧ x :: more = xs) ∨
        (peek mid).kind ≠ sep ∧ [x] = xs ∧ mid = rest) := by
  rw [separated, bind_eq_ok, Prod.exists]
  refine exists_congr fun x => exists_congr fun mid => and_congr_right fun _ => ?_
  by_cases hsep : (peek mid).kind = sep
  · simp only [hsep, ↓reduceIte, bind_eq_ok, Prod.exists, pure_eq, Except.ok.injEq, Prod.mk.injEq,
      true_and, ne_eq, not_true_eq_false, false_and, or_false]
    constructor
    · rintro ⟨more, rest', hmore, hxs, rfl⟩
      exact ⟨more, hmore, hxs⟩
    · rintro ⟨more, hmore, hxs⟩
      exact ⟨more, rest, hmore, hxs, rfl⟩
  · simp [hsep, pure_eq]

theorem separated_sound (hp : Reads d (.one n) id p) {fuel : Nat} {xs : List n.Meaning}
    (h : Ended ts) (hs : separated n.separator p fuel ts = .ok (xs, rest)) :
    ∃ t : Phrase (.some n), t.depth < d ∧ t.meaning = xs ∧ ts = t.tokens ++ rest ∧ Ended rest := by
  induction fuel generalizing ts xs with
  | zero =>
    obtain ⟨x, hx, rfl⟩ := separated_zero_eq_ok.mp hs
    obtain ⟨t, hd, hmean, hts, hrest⟩ := hp.sound h hx
    obtain rfl : t.meaning = x := hmean
    exact ⟨.last t, hd, rfl, hts, hrest⟩
  | succ fuel ih =>
    obtain ⟨x, mid, hx, hmore⟩ := separated_succ_eq_ok.mp hs
    obtain ⟨t, hd, hmean, hts, hmid⟩ := hp.sound h hx
    obtain rfl : t.meaning = x := hmean
    rcases hmore with ⟨hsep, more, hmore, rfl⟩ | ⟨-, rfl, rfl⟩
    · obtain ⟨hnext, hend⟩ := hmid.next hsep (separator_ne_eof n)
      obtain ⟨t', hd', rfl, hts', hrest⟩ := ih hend hmore
      refine ⟨.more t (Mark.of (peek mid)) t', Nat.max_lt.mpr ⟨hd, hd'⟩, rfl, ?_, hrest⟩
      rw [Phrase.tokens, List.append_assoc, List.cons_append, ← hts', ← hnext]
      exact hts
    · exact ⟨.last t, hd, rfl, hts, hmid⟩

theorem separated_complete (hp : Reads d (.one n) id p) :
    ∀ (t : Phrase (.some n)) {fuel : Nat} {rest : List Token}, t.tokens.length ≤ fuel →
      t.depth < d → Ended rest → (Form.some n).StopsAt (peek rest).kind →
      separated n.separator p fuel (t.tokens ++ rest) = .ok (t.meaning, rest)
  | .last x, fuel, rest, _, hd, hrest, hstop => by
    have hx : p (x.tokens ++ rest) = .ok (x.meaning, rest) := hp.complete x hd hrest hstop.2
    cases fuel with
    | zero => exact separated_zero_eq_ok.mpr ⟨_, hx, rfl⟩
    | succ fuel => exact separated_succ_eq_ok.mpr ⟨_, _, hx, .inr ⟨hstop.1, rfl, rfl⟩⟩
  | .more x m xs, fuel, rest, hlen, hd, hrest, hstop => by
    obtain ⟨hdx, hds⟩ := Nat.max_lt.mp hd
    have hmid : Ended (xs.tokens ++ rest) := hrest.append _
    have hx : p (x.tokens ++ m.token n.separator :: (xs.tokens ++ rest)) =
        .ok (x.meaning, m.token n.separator :: (xs.tokens ++ rest)) :=
      hp.complete x hdx (hmid.cons _) (stopsAt_separator m _)
    rw [Phrase.tokens, List.length_append, List.length_cons] at hlen
    rw [Phrase.tokens, List.append_assoc, List.cons_append]
    cases fuel with
    | zero => omega
    | succ fuel =>
      have hfuel : xs.tokens.length ≤ fuel := by omega
      have hxs := separated_complete hp xs hfuel hds hrest hstop
      rw [← hmid.advance_cons (m.token n.separator)] at hxs
      exact separated_succ_eq_ok.mpr ⟨_, _, hx, .inl ⟨rfl, _, hxs, rfl⟩⟩

/-- One phrase after the other is read, up to one without a separator behind it. -/
theorem reads_some (hp : Reads d (.one n) id p) :
    Reads d (.some n) id fun ts => separated n.separator p ts.length ts where
  sound h hs := separated_sound hp h hs
  complete t rest hd hrest hstop := by
    have hlen : t.tokens.length ≤ (t.tokens ++ rest).length := by simp
    exact separated_complete hp t hlen hd hrest hstop

theorem closedList_eq_ok {close : TokenKind} {what : String} {q : Parser α} {xs : List α} :
    closedList close what q ts = .ok (xs, rest) ↔
      (peek ts).kind = close ∧ [] = xs ∧ advance ts = rest ∨
      (peek ts).kind ≠ close ∧ ∃ mid, separated .comma q ts.length ts = .ok (xs, mid) ∧
        (peek mid).kind = close ∧ advance mid = rest := by
  unfold closedList
  by_cases h : (peek ts).kind = close
  · simp [h, ok_bind, pure_eq, expect]
  · simp only [h, ↓reduceIte, bind_eq_ok, liftM_eq, expect_eq_ok, Prod.exists, pure_eq,
      Except.ok.injEq, Prod.mk.injEq, false_and, ne_eq, not_false_eq_true, true_and, false_or]
    constructor
    · rintro ⟨ys, mid, hs, _, _, ⟨hk, rfl⟩, rfl, rfl⟩
      exact ⟨mid, hs, hk, rfl⟩
    · rintro ⟨mid, hs, hk, rfl⟩
      exact ⟨xs, mid, hs, (), _, ⟨hk, rfl⟩, rfl, rfl⟩

variable {close : TokenKind} {what : String}

theorem closedList_sound (hp : Reads d (.one n) id p) (hn : n.separator = .comma) (hd : 0 < d)
    (hclose : close = .rightParen ∨ close = .rightBracket) {xs : List n.Meaning} (h : Ended ts)
    (hs : closedList close what p ts = .ok (xs, rest)) :
    ∃ (t : Phrase (.any n)) (m : Mark), t.depth < d ∧ t.meaning = xs ∧
      ts = t.tokens ++ m.token close :: rest ∧ Ended rest := by
  have hne : close ≠ .eof := by rcases hclose with rfl | rfl <;> simp
  rcases closedList_eq_ok.mp hs with ⟨hk, rfl, rfl⟩ | ⟨-, mid, hsep, hk, rfl⟩
  · obtain ⟨hts, hrest⟩ := h.next hk hne
    exact ⟨.empty, Mark.of (peek ts), hd, rfl, hts, hrest⟩
  · rw [← hn] at hsep
    obtain ⟨t, ht, hmean, hts, hmid⟩ := separated_sound hp h hsep
    obtain ⟨hlast, hrest⟩ := hmid.next hk hne
    refine ⟨.items t, Mark.of (peek mid), ht, hmean, ?_, hrest⟩
    rw [← hlast]
    exact hts

theorem closedList_complete (hp : Reads d (.one n) id p) (hn : n.separator = .comma)
    (hne : n ≠ .test) (hclose : close = .rightParen ∨ close = .rightBracket)
    {t : Phrase (.any n)} (ht : t.depth < d) {m : Mark} (hrest : Ended rest) :
    closedList close what p (t.tokens ++ m.token close :: rest) = .ok (t.meaning, rest) := by
  obtain ⟨hnon, hstop⟩ := stopsAt_closing_any m rest hne hclose
  have hadv : advance (m.token close :: rest) = rest := hrest.advance_cons _
  refine closedList_eq_ok.mpr ?_
  cases t with
  | empty => exact .inl ⟨rfl, rfl, hadv⟩
  | items xs =>
    have hfirst : (peek (xs.tokens ++ m.token close :: rest)).kind ≠ close := by
      intro hk
      have hp := xs.peek_not_nonstarter (m.token close :: rest)
      rw [hk] at hp
      exact hp hnon
    have hs := (reads_some hp).complete xs ht (hrest.cons (m.token close)) hstop
    rw [hn] at hs
    exact .inr ⟨hfirst, _, hs, rfl, hadv⟩

end Lists

/-! ## Operands -/

section Operands

variable {d : Nat} {expression : Parser Expr}

/-- Two tokens tell a predicate over a variable from an expression. -/
theorem reads_argument (he : Reads d (.one .disjunction) id expression) :
    Reads d (.one .argument) id (argument expression) where
  sound {ts rest x} h hs := by
    unfold argument at hs
    split at hs
    · next param hident harrow =>
      obtain ⟨⟨body, mid⟩, hbody, hs⟩ := bind_eq_ok.mp hs
      obtain ⟨rfl, rfl⟩ := Prod.mk.inj (Except.ok.inj hs)
      obtain ⟨hfirst, hnext⟩ := h.next hident (by simp)
      obtain ⟨hsecond, hend⟩ := hnext.next harrow (by simp)
      obtain ⟨t, hd, rfl, hts, hrest⟩ := he.sound hend hbody
      refine ⟨.lambda (Mark.of (peek ts)) param (Mark.of (peek (advance ts))) t, hd, rfl, ?_, hrest⟩
      rw [Phrase.tokens, List.cons_append, List.cons_append, ← hts]
      exact hfirst.trans (congrArg _ hsecond)
    · obtain ⟨⟨e, mid⟩, hexpr, hs⟩ := bind_eq_ok.mp hs
      obtain ⟨rfl, rfl⟩ := Prod.mk.inj (Except.ok.inj hs)
      obtain ⟨t, hd, rfl, hts, hrest⟩ := he.sound h hexpr
      exact ⟨.expr t, hd, rfl, hts, hrest⟩
  complete t rest hd hrest hstop := by
    have hdisj := stopsAt_disjunction_of_argument hstop
    cases t with
    | expr e =>
      -- An expression may be a single name, so what stands behind it must be no arrow.
      have hplain : ¬StartsLambda (e.tokens ++ rest) :=
        e.not_startsLambda rfl (ne_arrow_of_argument hstop)
      have hexpr := he.complete e hd hrest hdisj
      rw [Phrase.tokens]
      unfold argument
      split
      · next param hk hk' => exact absurd ⟨⟨param, hk⟩, hk'⟩ hplain
      · exact bind_eq_ok.mpr ⟨_, hexpr, rfl⟩
    | lambda m param arrow body =>
      have hbody := he.complete body hd hrest hdisj
      have hadv := (hrest.append body.tokens).advance_cons (arrow.token .arrow)
      rw [← hadv] at hbody
      exact bind_eq_ok.mpr ⟨_, hbody, rfl⟩

theorem arguments_eq_ok {args : List Arg} : arguments expression ts = .ok (args, rest) ↔
    (peek ts).kind = .leftParen ∧
      closedList .rightParen "')' to close the argument list" (argument expression)
        (advance ts) = .ok (args, rest) := by
  unfold arguments
  rw [bind_eq_ok]
  constructor
  · rintro ⟨⟨⟨⟩, mid⟩, hopen, hlist⟩
    obtain ⟨hk, rfl⟩ := expect_eq_ok.mp hopen
    exact ⟨hk, hlist⟩
  · rintro ⟨hk, hlist⟩
    exact ⟨((), advance ts), expect_eq_ok.mpr ⟨hk, rfl⟩, hlist⟩

section Primary

variable {name : String} {x : Expr}

theorem primary_literal {l : Literal} (hk : (peek ts).kind = l.kind) :
    primary expression ts = .ok (.literal l.value (peek ts).pos, advance ts) := by
  cases l <;> simp only [Literal.kind] at hk <;> simp [primary, hk, Literal.value, pure_eq]

theorem primary_group (hk : (peek ts).kind = .leftParen) :
    primary expression ts = .ok (x, rest) ↔ ∃ mid, expression (advance ts) = .ok (x, mid) ∧
      (peek mid).kind = .rightParen ∧ advance mid = rest := by
  unfold primary
  simp only [hk, bind_eq_ok, Prod.exists, liftM_eq, expect_eq_ok, pure_eq, Except.ok.injEq,
    Prod.mk.injEq]
  constructor
  · rintro ⟨_, mid, hexpr, _, _, ⟨hclose, rfl⟩, rfl, rfl⟩
    exact ⟨mid, hexpr, hclose, rfl⟩
  · rintro ⟨mid, hexpr, hclose, rfl⟩
    exact ⟨x, mid, hexpr, (), _, ⟨hclose, rfl⟩, rfl, rfl⟩

theorem primary_call (hk : (peek ts).kind = .ident name)
    (hopen : (peek (advance ts)).kind = .leftParen) :
    primary expression ts = .ok (x, rest) ↔ ∃ args,
      arguments expression (advance ts) = .ok (args, rest) ∧ .call name args (peek ts).pos = x := by
  unfold primary
  simp only [hk, hopen, ↓reduceIte, bind_eq_ok, Prod.exists, pure_eq, Except.ok.injEq,
    Prod.mk.injEq]
  constructor
  · rintro ⟨args, _, hargs, rfl, rfl⟩
    exact ⟨args, hargs, rfl⟩
  · rintro ⟨args, hargs, rfl⟩
    exact ⟨args, rest, hargs, rfl, rfl⟩

theorem primary_path (hk : (peek ts).kind = .ident name)
    (hopen : (peek (advance ts)).kind ≠ .leftParen) :
    primary expression ts = .ok (x, rest) ↔ ∃ p,
      pathFrom name (peek ts).pos (advance ts) = .ok (p, rest) ∧ .path p = x := by
  unfold primary
  simp only [hk, hopen, ↓reduceIte, bind_eq_ok, Prod.exists, liftM_eq, pure_eq, Except.ok.injEq,
    Prod.mk.injEq]
  constructor
  · rintro ⟨p, _, hp, rfl, rfl⟩
    exact ⟨p, hp, rfl⟩
  · rintro ⟨p, hp, rfl⟩
    exact ⟨p, rest, hp, rfl, rfl⟩

/-- The tokens are those of an operand that denotes `x`, with `rest` behind it. -/
def IsOperand (d : Nat) (x : Expr) (ts rest : List Token) : Prop :=
  ∃ t : Phrase (.one .operand), t.depth < d ∧ t.meaning = x ∧ ts = t.tokens ++ rest ∧ Ended rest

theorem literal_sound (hd : 0 < d) (h : Ended ts) {l : Literal} (hk : (peek ts).kind = l.kind)
    (hs : primary expression ts = .ok (x, rest)) : IsOperand d x ts rest := by
  rw [primary_literal hk] at hs
  obtain ⟨rfl, rfl⟩ := Prod.mk.inj (Except.ok.inj hs)
  have hne : l.kind ≠ .eof := by cases l <;> simp [Literal.kind]
  obtain ⟨hts, hrest⟩ := h.next hk hne
  exact ⟨.literal (Mark.of (peek ts)) l, hd, rfl, hts, hrest⟩

theorem group_sound (he : Reads d (.one .disjunction) id expression) (h : Ended ts)
    (hk : (peek ts).kind = .leftParen) (hs : primary expression ts = .ok (x, rest)) :
    IsOperand d x ts rest := by
  obtain ⟨mid, hexpr, hclose, rfl⟩ := (primary_group hk).mp hs
  obtain ⟨hfirst, hnext⟩ := h.next hk (by simp)
  obtain ⟨t, ht, rfl, hts, hmid⟩ := he.sound hnext hexpr
  obtain ⟨hlast, hrest⟩ := hmid.next hclose (by simp)
  refine ⟨.group (Mark.of (peek ts)) t (Mark.of (peek mid)), ht, rfl, ?_, hrest⟩
  rw [Phrase.tokens, List.cons_append, List.append_assoc, List.singleton_append, ← hlast, ← hts]
  exact hfirst

/-- Behind a name the opening parenthesis tells a call from a path. -/
theorem name_sound (he : Reads d (.one .disjunction) id expression) (hd : 0 < d) (h : Ended ts)
    (hk : (peek ts).kind = .ident name) (hs : primary expression ts = .ok (x, rest)) :
    IsOperand d x ts rest := by
  obtain ⟨hfirst, hnext⟩ := h.next hk (by simp)
  by_cases hopen : (peek (advance ts)).kind = .leftParen
  · obtain ⟨args, hargs, rfl⟩ := (primary_call hk hopen).mp hs
    obtain ⟨-, hlist⟩ := arguments_eq_ok.mp hargs
    obtain ⟨hsecond, hend⟩ := hnext.next hopen (by simp)
    obtain ⟨t, closing, ht, rfl, hts, hrest⟩ :=
      closedList_sound (reads_argument he) rfl hd (.inl rfl) hend hlist
    refine ⟨.call (Mark.of (peek ts)) name (Mark.of (peek (advance ts))) t closing, ht, rfl, ?_,
      hrest⟩
    rw [Phrase.tokens, List.cons_append, List.cons_append, List.append_assoc,
      List.singleton_append, ← hts, ← hsecond]
    exact hfirst
  · obtain ⟨p, hpath, rfl⟩ := (primary_path hk hopen).mp hs
    obtain ⟨r, rfl, hts, hrest⟩ := pathFrom_sound (Mark.of (peek ts)) hnext hpath
    exact ⟨.path r, hd, rfl, hfirst.trans hts, hrest⟩

theorem primary_sound (he : Reads d (.one .disjunction) id expression) (hd : 0 < d) (h : Ended ts)
    (hs : primary expression ts = .ok (x, rest)) : IsOperand d x ts rest := by
  have hlit (l : Literal) (hk : (peek ts).kind = l.kind) : IsOperand d x ts rest :=
    literal_sound hd h hk hs
  cases hk : (peek ts).kind with
  | number n => exact hlit (.number n) hk
  | string t => exact hlit (.string t) hk
  | bool b => exact hlit (.bool b) hk
  | null => exact hlit .null hk
  | leftParen => exact group_sound he h hk hs
  | ident name => exact name_sound he hd h hk hs
  | _ => simp [primary, hk, failAt_ne_ok] at hs

variable {m opening closing : Mark}

theorem group_complete (he : Reads d (.one .disjunction) id expression)
    {e : Phrase (.one .disjunction)} (ht : e.depth < d) (hrest : Ended rest) :
    primary expression ((Phrase.group opening e closing).tokens ++ rest) =
      .ok (e.meaning, rest) := by
  have hclosing : Ended (closing.token .rightParen :: rest) := hrest.cons _
  have hexpr := he.complete e ht hclosing (stopsAt_closing closing rest (.inl rfl))
  rw [← (hclosing.append e.tokens).advance_cons (opening.token .leftParen)] at hexpr
  rw [Phrase.tokens, List.cons_append, List.append_assoc, List.singleton_append]
  exact (primary_group rfl).mpr ⟨_, hexpr, rfl, hrest.advance_cons _⟩

theorem call_complete (he : Reads d (.one .disjunction) id expression)
    {args : Phrase (.any .argument)} (ht : args.depth < d) (hrest : Ended rest) :
    primary expression ((Phrase.call m name opening args closing).tokens ++ rest) =
      .ok (.call name args.meaning m.pos, rest) := by
  have hargs : Ended (args.tokens ++ closing.token .rightParen :: rest) :=
    (hrest.cons _).append _
  have hlist : closedList .rightParen "')' to close the argument list" (argument expression)
      (args.tokens ++ closing.token .rightParen :: rest) = .ok (args.meaning, rest) :=
    closedList_complete (reads_argument he) rfl (by decide) (.inl rfl) ht hrest
  have hadv : advance (m.token (.ident name) :: opening.token .leftParen ::
      (args.tokens ++ closing.token .rightParen :: rest)) =
        opening.token .leftParen :: (args.tokens ++ closing.token .rightParen :: rest) :=
    (hargs.cons _).advance_cons _
  rw [← hargs.advance_cons (opening.token .leftParen)] at hlist
  rw [Phrase.tokens, List.cons_append, List.cons_append, List.append_assoc, List.singleton_append]
  refine (primary_call rfl ?_).mpr ⟨args.meaning, ?_, rfl⟩
  · rw [hadv]
    rfl
  · rw [hadv]
    exact arguments_eq_ok.mpr ⟨rfl, hlist⟩

theorem path_complete (r : Route) (hrest : Ended rest)
    (hstop : (Form.one .operand).StopsAt (peek rest).kind) :
    primary expression (r.tokens ++ rest) = .ok (.path r.path, rest) := by
  have hsteps : Ended (r.steps.flatMap Step.tokens ++ rest) := hrest.append _
  have hadv := hsteps.advance_cons (r.root.token (.ident r.name))
  have hopen := Step.peek_steps_ne_leftParen r.steps hstop
  rw [← hadv] at hopen
  have hpath := pathFrom_complete r hrest hstop
  rw [← hadv] at hpath
  exact (primary_path rfl hopen).mpr ⟨r.path, hpath, rfl⟩

/-- Every operand but a minus sign before another is read at once. -/
theorem primary_complete (he : Reads d (.one .disjunction) id expression)
    {t : Phrase (.one .operand)} (ht : t.depth < d) (hminus : ∀ m e, t ≠ .minus m e)
    (hrest : Ended rest) (hstop : (Form.one .operand).StopsAt (peek rest).kind) :
    primary expression (t.tokens ++ rest) = .ok (t.meaning, rest) := by
  cases t with
  | minus m e => exact absurd rfl (hminus m e)
  | literal m l =>
    have hread : primary expression (m.token l.kind :: rest) =
        .ok (.literal l.value m.pos, advance (m.token l.kind :: rest)) := primary_literal rfl
    rwa [hrest.advance_cons] at hread
  | group opening e closing => exact group_complete he ht hrest
  | call m name opening args closing => exact call_complete he ht hrest
  | path r => exact path_complete r hrest hstop

end Primary

section Marked

variable {enclose : Enclosure (Except CompileError)} {mark : TokenKind} {wrap : Expr → Nat → Expr}
  {inner plain : Parser Expr} {x : Expr}

theorem marked_eq_ok (hk : (peek ts).kind = mark) :
    marked enclose mark wrap inner plain ts = .ok (x, rest) ↔
      ∃ e, enclose (peek ts).pos (inner (advance ts)) = .ok (e, rest) ∧
        wrap e (peek ts).pos = x := by
  simp only [marked, hk, ↓reduceIte, bind_eq_ok, Prod.exists, pure_eq, Except.ok.injEq,
    Prod.mk.injEq]
  constructor
  · rintro ⟨e, _, he, hx, rfl⟩
    exact ⟨e, he, hx⟩
  · rintro ⟨e, he, hx⟩
    exact ⟨e, rest, he, hx, rfl⟩

theorem marked_plain (hk : (peek ts).kind ≠ mark) :
    marked enclose mark wrap inner plain ts = plain ts := if_neg hk

end Marked

/-- An operand is read if what its minus sign encloses is. -/
theorem reads_operand {enclose : Enclosure (Except CompileError)} {inner : Parser Expr}
    (he : Reads (d + 1) (.one .disjunction) id expression)
    (hi : ∀ pos, Reads d (.one .operand) id fun ts => enclose pos (inner ts)) :
    Reads (d + 1) (.one .operand) id
      (marked enclose .minus negate inner (primary expression)) where
  sound {ts rest x} h hs := by
    by_cases hk : (peek ts).kind = .minus
    · obtain ⟨e, he', rfl⟩ := (marked_eq_ok hk).mp hs
      obtain ⟨hfirst, hnext⟩ := h.next hk (by simp)
      obtain ⟨t, ht, rfl, hts, hrest⟩ := (hi _).sound hnext he'
      refine ⟨.minus (Mark.of (peek ts)) t, Nat.succ_lt_succ ht, rfl, ?_, hrest⟩
      rw [Phrase.tokens, List.cons_append, ← hts]
      exact hfirst
    · rw [marked_plain hk] at hs
      exact primary_sound he (Nat.succ_pos d) h hs
  complete t rest ht hrest hstop := by
    -- Only the form with a minus sign goes through the enclosure; all others are primaries.
    by_cases hm : ∃ m e, t = .minus m e
    · obtain ⟨m, e, rfl⟩ := hm
      have hi' := (hi m.pos).complete e (Nat.lt_of_succ_lt_succ ht) hrest hstop
      rw [← (hrest.append e.tokens).advance_cons (m.token .minus)] at hi'
      have hfirst : (peek ((Phrase.minus m e).tokens ++ rest)).kind = .minus := rfl
      exact (marked_eq_ok hfirst).mpr ⟨_, hi', rfl⟩
    · have hne : ∀ m e, t ≠ .minus m e := fun m e h => hm ⟨m, e, h⟩
      have hfirst : (peek (t.tokens ++ rest)).kind ≠ .minus := by
        cases t with
        | minus m e => exact absurd rfl (hne m e)
        | literal m l => cases l <;> simp [Phrase.tokens, Literal.kind]
        | group | call | path => simp [Phrase.tokens, Route.tokens]
      rw [marked_plain hfirst]
      exact primary_complete he ht hne hrest hstop

end Operands

end Grammar

end Switchyard.Filter
