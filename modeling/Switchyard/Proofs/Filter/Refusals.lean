import Switchyard.Proofs.Filter.Positions
import Switchyard.Proofs.Filter.Reading
import Switchyard.Proofs.Filter.Scanning

/-!
# Errors of filters point into their text

A parser refuses a text at a token in front of it, and builds expressions whose offsets are those of
tokens. The checks behind it point at these offsets.

* `Within`, `PointsAt`: the tokens that are left, and errors about one of the tokens.
* `Stays`, `Keeps`: a result, and a parser, that can be refused in that way only and leaves an
  expression with the offsets of tokens. There is a rule for each way in which results are put
  together and a lemma for each parser.
* `keeps_level`: the parsers of every level, by induction on the enclosures that are left.
* `parseTokens_refused`: what the tokens of a text can be refused at.
* `refused_in_source`: where the error of a text points, and what it quotes.
-/

namespace Switchyard.Filter

namespace Parser

variable {α β : Type} {whole ts rest : List Token} {t : Token} {fault : CompileFault}

/-! ## Tokens that are left -/

/-- The tokens are the last ones of `whole`, one at least. -/
def Within (whole ts : List Token) : Prop := ts ≠ [] ∧ ts <:+ whole

theorem Within.peek_mem (h : Within whole ts) : peek ts ∈ whole := by
  obtain ⟨hne, hsuffix⟩ := h
  cases ts with
  | nil => exact absurd rfl hne
  | cons t ts => exact hsuffix.subset List.mem_cons_self

theorem Within.advance (h : Within whole ts) : Within whole (advance ts) := by
  obtain ⟨hne, hsuffix⟩ := h
  match ts with
  | [] => exact absurd rfl hne
  | [t] => exact ⟨hne, hsuffix⟩
  | t :: u :: ts => exact ⟨List.cons_ne_nil _ _, (List.suffix_cons t _).trans hsuffix⟩

/-- A token that may be there has been taken. -/
theorem Within.ite_advance (h : Within whole ts) (c : Prop) [Decidable c] :
    Within whole (if c then Parser.advance ts else ts) := by
  split_ifs
  · exact h.advance
  · exact h

/-- The offset is that of a token. -/
def IsPlace (whole : List Token) (pos : Nat) : Prop := pos ∈ whole.map Token.pos

theorem Within.isPlace (h : Within whole ts) : IsPlace whole (peek ts).pos :=
  List.mem_map_of_mem h.peek_mem

/-- The error points at one of the tokens, and what it quotes of the text is that token. -/
def PointsAt (whole : List Token) (e : CompileError) : Prop :=
  ∃ t ∈ whole, e.position = t.pos ∧
    (e.fault.found? = none ∨ e.fault.found? = some (found t))

theorem pointsAt_of_isPlace {e : CompileError} (h : IsPlace whole e.position)
    (hf : e.fault.found? = none) : PointsAt whole e := by
  obtain ⟨t, ht, hpos⟩ := List.mem_map.mp h
  exact ⟨t, ht, hpos.symm, .inl hf⟩

/-! ## Results -/

/-- An error points at a token; a value is `good`, and tokens are left behind it. -/
structure Stays (whole : List Token) (good : α → Prop)
    (r : Except CompileError (α × List Token)) : Prop where
  refused : ∀ {e}, r = .error e → PointsAt whole e
  accepted : ∀ {x rest}, r = .ok (x, rest) → good x ∧ Within whole rest

namespace Stays

variable {good : α → Prop} {good' : β → Prop} {r : Except CompileError (α × List Token)}

theorem ok {x : α} (hx : good x) (h : Within whole rest) : Stays whole good (.ok (x, rest)) where
  refused := nofun
  accepted h' := by
    obtain ⟨rfl, rfl⟩ := Prod.mk.inj (Except.ok.inj h')
    exact ⟨hx, h⟩

theorem fail (ht : t ∈ whole) (hf : fault.found? = none ∨ fault.found? = some (found t)) :
    Stays whole good (failAt t fault) where
  refused := by
    rintro _ ⟨⟩
    exact ⟨t, ht, rfl, hf⟩
  accepted := nofun

theorem bind {f : α × List Token → Except CompileError (β × List Token)}
    (h : Stays whole good r)
    (hf : ∀ x rest, good x → Within whole rest → Stays whole good' (f (x, rest))) :
    Stays whole good' (r >>= f) where
  refused he := by
    rcases bind_eq_error.mp he with he | ⟨⟨x, rest⟩, hr, he⟩
    · exact h.refused he
    · obtain ⟨hx, hrest⟩ := h.accepted hr
      exact (hf x rest hx hrest).refused he
  accepted he := by
    obtain ⟨⟨x, rest⟩, hr, he⟩ := bind_eq_ok.mp he
    obtain ⟨hx, hrest⟩ := h.accepted hr
    exact (hf x rest hx hrest).accepted he

/-- A result of which only the tokens that are left matter. -/
theorem next {f : Unit × List Token → Except CompileError (β × List Token)}
    {r : Except CompileError (Unit × List Token)} (h : Stays whole (fun _ => True) r)
    (hf : ∀ rest, Within whole rest → Stays whole good' (f ((), rest))) :
    Stays whole good' (r >>= f) :=
  h.bind fun _ rest _ hrest => hf rest hrest

theorem mono {good' : α → Prop} (h : Stays whole good r) (hg : ∀ x, good x → good' x) :
    Stays whole good' r :=
  ⟨h.refused, fun hr => (h.accepted hr).imp_left (hg _)⟩

end Stays

/-- On tokens that are left, the results of a parser stay among the tokens. -/
def Keeps (whole : List Token) (good : α → Prop) (p : Parser α) : Prop :=
  ∀ {ts}, Within whole ts → Stays whole good (p ts)

/-! ## Tokens and lists -/

theorem keeps_expect (kind : TokenKind) (what : String) :
    Keeps whole (fun _ => True) (expect kind what) := by
  intro ts h
  unfold expect
  split_ifs
  · exact .ok trivial h.advance
  · exact .fail h.peek_mem (.inr rfl)

theorem keeps_separated {good : α → Prop} {p : Parser α} (hp : Keeps whole good p)
    (separator : TokenKind) (fuel : Nat) :
    Keeps whole (fun xs => xs ≠ [] ∧ ∀ x ∈ xs, good x) (separated separator p fuel) := by
  induction fuel with
  | zero =>
    intro ts h
    exact (hp h).bind fun x rest hx hrest =>
      .ok ⟨List.cons_ne_nil _ _, List.forall_mem_singleton.mpr hx⟩ hrest
  | succ fuel ih =>
    intro ts h
    refine (hp h).bind fun x rest hx hrest => ?_
    dsimp only
    split_ifs
    · refine (ih hrest.advance).bind fun xs rest hxs hrest => ?_
      exact .ok ⟨List.cons_ne_nil _ _, List.forall_mem_cons.mpr ⟨hx, hxs.2⟩⟩ hrest
    · exact .ok ⟨List.cons_ne_nil _ _, List.forall_mem_singleton.mpr hx⟩ hrest

theorem keeps_closedList {good : α → Prop} {p : Parser α} (hp : Keeps whole good p)
    (close : TokenKind) (what : String) :
    Keeps whole (fun xs => ∀ x ∈ xs, good x) (closedList close what p) := by
  intro ts h
  unfold closedList
  split_ifs
  · exact (keeps_expect _ _ h).next fun _ hrest => .ok (List.forall_mem_nil _) hrest
  · exact (keeps_separated hp .comma _ h).bind fun _ _ hxs hmid =>
      (keeps_expect _ _ hmid).next fun _ hrest => .ok hxs.2 hrest

/-! ## Paths -/

theorem keeps_segments (fuel : Nat) : Keeps whole (fun _ => True) (segments fuel) := by
  induction fuel with
  | zero => exact fun h => .ok trivial h
  | succ fuel ih =>
    intro ts h
    unfold segments
    split
    · dsimp only
      split
      · exact .fail h.advance.peek_mem (.inr rfl)
      · exact (ih h.advance.advance).bind fun _ _ _ hrest => .ok trivial hrest
    · dsimp only
      split
      · exact .fail h.advance.peek_mem (.inl rfl)
      · exact (keeps_expect _ _ h.advance.advance).next fun _ hmid =>
          (ih hmid).bind fun _ _ _ hrest => .ok trivial hrest
    · exact .ok trivial h

theorem keeps_pathFrom {root : String} {pos : Nat} (hpos : IsPlace whole pos) :
    Keeps whole (fun p => IsPlace whole p.pos) (pathFrom root pos) :=
  fun h => (keeps_segments _ h).bind fun _ _ _ hrest => .ok hpos hrest

/-! ## Operands -/

/-- The offsets in the expression are those of tokens. -/
def Sited (whole : List Token) (e : Expr) : Prop := e.positions ⊆ whole.map Token.pos

section Operands

variable {expression : Parser Expr}

theorem keeps_argument (he : Keeps whole (Sited whole) expression) :
    Keeps whole (fun a => a.positions ⊆ whole.map Token.pos) (argument expression) := by
  intro ts h
  unfold argument
  split
  · exact (he h.advance.advance).bind fun _ _ hbody hrest =>
      .ok (List.cons_subset.mpr ⟨h.isPlace, hbody⟩) hrest
  · exact (he h).bind fun _ _ hx hrest => .ok hx hrest

theorem keeps_arguments (he : Keeps whole (Sited whole) expression) :
    Keeps whole (fun args => positionsArgs args ⊆ whole.map Token.pos)
      (arguments expression) := by
  intro ts h
  refine (keeps_expect _ _ h).next fun ts h => ?_
  exact (keeps_closedList (keeps_argument he) .rightParen "')' to close the argument list"
    h).mono fun _ => positionsArgs_subset

theorem sited_literal {v : Value} (h : Within whole ts) :
    Sited whole (.literal v (peek ts).pos) :=
  List.cons_subset.mpr ⟨h.isPlace, List.nil_subset _⟩

theorem keeps_primary (he : Keeps whole (Sited whole) expression) :
    Keeps whole (Sited whole) (primary expression) := by
  intro ts h
  unfold primary
  dsimp only
  -- The four literals, a group, a name, and what starts no operand.
  split
  · exact .ok (sited_literal h) h.advance
  · exact .ok (sited_literal h) h.advance
  · exact .ok (sited_literal h) h.advance
  · exact .ok (sited_literal h) h.advance
  · exact (he h.advance).bind fun _ _ hx hmid =>
      (keeps_expect _ _ hmid).next fun _ hrest => .ok hx hrest
  · split_ifs
    · exact (keeps_arguments he h.advance).bind fun _ _ hargs hrest =>
        .ok (List.cons_subset.mpr ⟨h.isPlace, hargs⟩) hrest
    · exact (keeps_pathFrom h.isPlace h.advance).bind fun _ _ hp hrest =>
        .ok (List.cons_subset.mpr ⟨hp, List.nil_subset _⟩) hrest
  · exact .fail h.peek_mem (.inr rfl)

theorem sited_negate {e : Expr} {pos : Nat} (he : Sited whole e) (hpos : IsPlace whole pos) :
    Sited whole (negate e pos) := by
  unfold negate
  split
  · exact List.cons_subset.mpr ⟨hpos, List.nil_subset _⟩
  · exact List.cons_subset.mpr ⟨hpos, he⟩

end Operands

/-! ## Predicates -/

section Predicates

variable {operand : Parser Expr} {left : Expr} {negated : Bool} {pos : Nat}

theorem keeps_existence : Keeps whole (Sited whole) existence := by
  intro ts h
  unfold existence
  dsimp only
  have hroot := h.advance.ite_advance ((peek (advance ts)).kind = .leftParen)
  split
  · refine (keeps_pathFrom hroot.isPlace hroot.advance).bind fun p rest hp hrest => ?_
    have hsited : Sited whole (.existing p) := List.cons_subset.mpr ⟨hp, List.nil_subset _⟩
    dsimp only
    split_ifs
    · exact (keeps_expect _ _ hrest).next fun _ hrest => .ok hsited hrest
    · exact .ok hsited hrest
  · exact .fail hroot.peek_mem (.inl rfl)

theorem keeps_keywordPredicate (ho : Keeps whole (Sited whole) operand)
    (hleft : Sited whole left) (hpos : IsPlace whole pos) :
    Keeps whole (Sited whole) (keywordPredicate operand left negated pos) := by
  intro ts h
  have hunder : pos :: left.positions ⊆ whole.map Token.pos := List.cons_subset.mpr ⟨hpos, hleft⟩
  unfold keywordPredicate
  dsimp only
  -- `LIKE`, `MATCHES`, `BETWEEN`, `IN`, `IS`, and an operand alone.
  split
  · split
    · exact .ok hunder h.advance.advance
    · exact .fail h.advance.peek_mem (.inl rfl)
  · split
    · exact .ok hunder h.advance.advance
    · exact .fail h.advance.peek_mem (.inl rfl)
  · exact (ho h.advance).bind fun _ _ hlow hmid =>
      (keeps_expect _ _ hmid).next fun _ hmid =>
        (ho hmid).bind fun _ _ hhigh hrest =>
          .ok (List.append_subset.mpr ⟨List.append_subset.mpr ⟨hunder, hlow⟩, hhigh⟩) hrest
  · split
    · exact .fail h.advance.peek_mem (.inl rfl)
    · exact (keeps_closedList ho _ _ h.advance.advance).bind fun _ _ hset hrest =>
        .ok (List.append_subset.mpr ⟨hunder, positionsAll_subset hset⟩) hrest
  · have hnull := h.advance.ite_advance ((peek (advance ts)).kind = .not)
    exact (keeps_expect _ _ hnull).next fun _ hrest => .ok hunder hrest
  · exact .ok hleft h

theorem keeps_predicate (ho : Keeps whole (Sited whole) operand) :
    Keeps whole (Sited whole) (predicate operand) := by
  intro ts h
  unfold predicate
  split_ifs
  · exact keeps_existence h
  · refine (ho h).bind fun left ts hleft h => ?_
    dsimp only
    split
    · exact (ho h.advance).bind fun _ _ hright hrest =>
        .ok (List.cons_subset.mpr ⟨h.isPlace, List.append_subset.mpr ⟨hleft, hright⟩⟩) hrest
    · exact keeps_keywordPredicate ho hleft h.isPlace (h.ite_advance _)

end Predicates

/-! ## Levels -/

section Levels

variable {negation : Parser Expr}

/-- An `AND` or `OR` points at its first operand. -/
theorem sited_joined {join : List Expr → Expr} (hjoin : join = .and ∨ join = .or)
    {es : List Expr} (hne : es ≠ []) (h : ∀ e ∈ es, Sited whole e) :
    Sited whole (joined join es) := by
  match es with
  | [] => exact absurd rfl hne
  | [e] => exact h e List.mem_cons_self
  | e :: e' :: es =>
    have hfirst : IsPlace whole e.pos := h e List.mem_cons_self e.pos_mem_positions
    rcases hjoin with rfl | rfl <;>
      exact List.cons_subset.mpr ⟨hfirst, positionsAll_subset h⟩

theorem keeps_conjunction (hn : Keeps whole (Sited whole) negation) :
    Keeps whole (Sited whole) (conjunction negation) :=
  fun h => (keeps_separated hn .and _ h).bind fun _ _ hes hrest =>
    .ok (sited_joined (.inl rfl) hes.1 hes.2) hrest

theorem keeps_disjunction (hn : Keeps whole (Sited whole) negation) :
    Keeps whole (Sited whole) (disjunction negation) :=
  fun h => (keeps_separated (keeps_conjunction hn) .or _ h).bind fun _ _ hes hrest =>
    .ok (sited_joined (.inr rfl) hes.1 hes.2) hrest

/-- The parsers of a level stay among the tokens. -/
structure LevelKeeps (whole : List Token) (l : Level (Except CompileError)) : Prop where
  expression : Keeps whole (Sited whole) l.expression
  negation : Keeps whole (Sited whole) l.negation
  operand : Keeps whole (Sited whole) l.operand

variable {enclose : Enclosure (Except CompileError)} {inner : Level (Except CompileError)}

/-- Entering an enclosure behind a token refuses that token or keeps what it holds. -/
theorem keeps_marked {mark : TokenKind} {wrap : Expr → Nat → Expr} {inner plain : Parser Expr}
    (henclose : ∀ {pos}, IsPlace whole pos →
      Keeps whole (Sited whole) fun ts => enclose pos (inner ts))
    (hwrap : ∀ {e pos}, Sited whole e → IsPlace whole pos → Sited whole (wrap e pos))
    (hplain : Keeps whole (Sited whole) plain) :
    Keeps whole (Sited whole) (marked enclose mark wrap inner plain) := by
  intro ts h
  unfold marked
  dsimp only
  split_ifs
  · exact (henclose h.isPlace h.advance).bind fun _ _ hx hrest => .ok (hwrap hx h.isPlace) hrest
  · exact hplain h

theorem keeps_around
    (hx : ∀ {pos}, IsPlace whole pos →
      Keeps whole (Sited whole) fun ts => enclose pos (disjunction inner.negation ts))
    (hn : ∀ {pos}, IsPlace whole pos →
      Keeps whole (Sited whole) fun ts => enclose pos (inner.negation ts))
    (ho : ∀ {pos}, IsPlace whole pos →
      Keeps whole (Sited whole) fun ts => enclose pos (inner.operand ts)) :
    LevelKeeps whole (.around enclose inner) := by
  have hexpression : Keeps whole (Sited whole) (Level.around enclose inner).expression :=
    fun h => hx h.isPlace h
  have hoperand : Keeps whole (Sited whole) (Level.around enclose inner).operand :=
    keeps_marked ho sited_negate (keeps_primary hexpression)
  have hnot : ∀ {e : Expr} {pos : Nat}, Sited whole e → IsPlace whole pos →
      Sited whole (.not e pos) := fun he hpos => List.cons_subset.mpr ⟨hpos, he⟩
  exact ⟨hexpression, keeps_marked hn hnot (keeps_predicate hoperand), hoperand⟩

/-- Where nothing may be enclosed, the enclosure is refused. -/
theorem keeps_none {pos : Nat} (hpos : IsPlace whole pos) (held : Parser Expr) :
    Keeps whole (Sited whole) fun ts => Enclosure.none pos (held ts) :=
  fun _ => ⟨fun he => Except.error.inj he ▸ pointsAt_of_isPlace hpos rfl, nofun⟩

theorem keeps_level (depth : Nat) : LevelKeeps whole (level depth) := by
  induction depth with
  | zero =>
    exact keeps_around (fun hpos => keeps_none hpos _) (fun hpos => keeps_none hpos _)
      fun hpos => keeps_none hpos _
  | succ depth ih =>
    exact keeps_around (fun _ => keeps_disjunction ih.negation) (fun _ => ih.negation)
      fun _ => ih.operand

end Levels

end Parser

/-! ## Token lists -/

open Switchyard.Filter.Parser

variable {ts : List Token} {e : CompileError} {x : Expr} {source : String}

/-- Without tokens in front of the end token an expression is refused at the start of its text;
otherwise it is refused at one of its tokens. -/
theorem parseTokens_refused (h : ts ≠ []) (he : parseTokens ts = .error e) :
    (peek ts).kind = .eof ∧ e = ⟨0, .emptyExpression⟩ ∨
      (peek ts).kind ≠ .eof ∧ PointsAt ts e := by
  have hwhole : Within ts ts := ⟨h, List.suffix_refl ts⟩
  unfold parseTokens wholeText at he
  split_ifs at he with heof
  · exact .inl ⟨heof, (Except.error.inj he).symm⟩
  · refine .inr ⟨heof, ?_⟩
    have hstays := (keeps_level maxDepth).expression hwhole
    rcases bind_eq_error.mp he with he | ⟨⟨x, rest⟩, hr, he⟩
    · exact hstays.refused he
    · obtain ⟨-, hrest⟩ := hstays.accepted hr
      dsimp only at he
      split_ifs at he
      · cases he
      · rw [← Except.error.inj he]
        exact ⟨peek rest, hrest.peek_mem, rfl, .inr rfl⟩

theorem parseTokens_accepted (h : ts ≠ []) (hx : parseTokens ts = .ok x) :
    (peek ts).kind ≠ .eof ∧ Sited ts x := by
  have hwhole : Within ts ts := ⟨h, List.suffix_refl ts⟩
  unfold parseTokens wholeText at hx
  split_ifs at hx with heof
  refine ⟨heof, ?_⟩
  obtain ⟨⟨x', rest⟩, hr, hx⟩ := bind_eq_ok.mp hx
  obtain ⟨hsited, -⟩ := ((keeps_level maxDepth).expression hwhole).accepted hr
  dsimp only at hx
  split_ifs at hx
  · obtain rfl := Except.ok.inj hx
    exact hsited
  · exact absurd hx Grammar.failAt_ne_ok

/-- A text that has tokens is refused at one of them by the checks too. -/
theorem compile_refused (fs : HostFunctions) (hts : tokenize source = .ok ts) (h : ts ≠ [])
    (he : compile fs source = .error e) :
    (peek ts).kind = .eof ∧ e = ⟨0, .emptyExpression⟩ ∨
      (peek ts).kind ≠ .eof ∧ PointsAt ts e := by
  have hparse : parse source = parseTokens ts := by
    rw [parse, hts]
    rfl
  rw [compile, hparse] at he
  rcases bind_eq_error.mp he with he | ⟨x, hx, he⟩
  · exact parseTokens_refused h he
  · obtain ⟨heof, hsited⟩ := parseTokens_accepted h hx
    have hblames : Blames x.positions (Except.error e : Compiled Expression) := by
      rw [← he]
      exact (blames_lower fs x []).bind fun _ =>
        (Blames.require x.pos_mem_positions rfl).bind fun _ => .ok _
    obtain ⟨hpos, hfound⟩ := hblames e rfl
    exact .inr ⟨heof, pointsAt_of_isPlace (hsited hpos) hfound⟩

/-! ## Texts -/

theorem found?_of_lexeme {c : Char} {cs : List Char} {fault : CompileFault}
    (h : lexeme c cs = .error fault) : fault.found? = none := by
  rw [lexeme_eq] at h
  split at h
  · cases h
  · unfold content at h
    split_ifs at h
    · split at h
      · cases h
      · rw [← Except.error.inj h]
        rfl
    · rw [← Except.error.inj h]
      rfl

/-- What an error says it found at a token: the end of the text, or the characters of the text that
the token covers. -/
def Quotes (source : String) (t : Token) : Found → Prop
  | none => t.kind = .eof
  | some text => t.kind ≠ .eof ∧ IsSlice source t.pos t.stop text.toList

theorem quotes_found {t : Token} (h : IsSlice source t.pos t.stop t.lexeme) :
    Quotes source t (found t) := by
  unfold found
  split_ifs with hk
  · exact hk
  · refine ⟨hk, ?_⟩
    rwa [String.toList_ofList]

/-- An error points between two characters of its text or at one of its ends: to the start of one of
the tokens, if the text has any before its end. It quotes nothing of the text but that token. -/
structure PointsInto (source : String) (e : CompileError) : Prop where
  boundary : IsBoundary source e.position
  bounded : e.position ≤ source.utf8ByteSize
  blank : (tokenize source).toOption.isSome = true → (∀ c ∈ source.toList, Text.isBlank c = true) →
    e.position = 0
  token : ∀ ts, tokenize source = .ok ts → (∃ c ∈ source.toList, Text.isBlank c = false) →
    ∃ t ∈ ts, e.position = t.pos
  quoted : ∀ f, e.fault.found? = some f → (∃ words, e.fault.message = words ++ f.describe) ∧
    ∃ ts, tokenize source = .ok ts ∧ ∃ t ∈ ts, e.position = t.pos ∧ Quotes source t f

/-- An error that is found when the text is cut into tokens. -/
theorem pointsInto_of_tokenize (h : tokenize source = .error e) : PointsInto source e := by
  obtain ⟨front, c, back, us, hsource, -, hfault, hpos⟩ := scans_of_tokensFrom_eq_error h
  rw [Nat.zero_add] at hpos
  have hboundary : IsBoundary source e.position := hpos ▸ isBoundary_of_append hsource
  refine ⟨hboundary, hboundary.le, fun hok => ?_, fun ts hts => ?_, fun f hf => ?_⟩
  · rw [h] at hok
    cases hok
  · rw [h] at hts
    cases hts
  · rw [found?_of_lexeme hfault] at hf
    cases hf

/-- An error that is found among the tokens of the text. -/
theorem pointsInto_of_pointsAt (hts : tokenize source = .ok ts) (heof : (peek ts).kind ≠ .eof)
    (h : PointsAt ts e) : PointsInto source e := by
  obtain ⟨us, hscans, rfl⟩ := exists_scans_of_tokenize hts
  obtain ⟨t, ht, hpos, hfound⟩ := h
  have htiles := hscans.tiles
  have hboundary : IsBoundary source e.position := hpos ▸ (htiles.bounded t ht).1
  refine ⟨hboundary, hboundary.le, fun _ hblank => ?_, fun ts hts' _ => ?_, fun f hf => ?_⟩
  · rw [hscans.eq_nil_iff.mpr hblank] at heof
    exact absurd rfl heof
  · obtain rfl := Except.ok.inj (hts.symm.trans hts')
    exact ⟨t, ht, hpos⟩
  · rcases hfound with hnone | hsome
    · rw [hnone] at hf
      cases hf
    · obtain rfl := Option.some.inj (hsome.symm.trans hf)
      have hquotes := quotes_found (htiles.spelled t ht)
      exact ⟨CompileFault.exists_message hf, _, hts, t, ht, hpos, hquotes⟩

/-- Where the error of a text that does not compile points, and what it quotes. -/
theorem refused_in_source {fs : HostFunctions} (h : compile fs source = .error e) :
    PointsInto source e := by
  cases hts : tokenize source with
  | error e' =>
    rw [compile, parse, hts] at h
    obtain rfl := Except.error.inj h
    exact pointsInto_of_tokenize hts
  | ok ts =>
    obtain ⟨us, hscans, rfl⟩ := exists_scans_of_tokenize hts
    rcases compile_refused fs hts (by simp) h with ⟨heof, rfl⟩ | ⟨heof, hat⟩
    · have hblank : us = [] := by
        cases us with
        | nil => rfl
        | cons t us => exact absurd heof (hscans.ne_eof List.mem_cons_self)
      have hboundary : IsBoundary source 0 :=
        isBoundary_of_append (List.nil_append source.toList).symm
      refine ⟨hboundary, Nat.zero_le _, fun _ _ => rfl, fun ts _ hc => ?_, fun f hf => ?_⟩
      · obtain ⟨c, hc, hne⟩ := hc
        exact absurd (hscans.eq_nil_iff.mp hblank c hc) (by simp [hne])
      · cases hf
    · exact pointsInto_of_pointsAt hts heof hat

/-- A string with a character of two bytes, and another one where `NULL` should be. -/
theorem refused_in_source_accents :
    compile .empty "'é' IS 'ü'" = .error ⟨8, .expected "NULL after IS" (some "'ü'")⟩ ∧
      PointsInto "'é' IS 'ü'" ⟨8, .expected "NULL after IS" (some "'ü'")⟩ := by
  have herror : (match compile .empty "'é' IS 'ü'" with
      | .error e => some e
      | .ok _ => none) = some ⟨8, .expected "NULL after IS" (some "'ü'")⟩ := by decide +kernel
  have h : compile .empty "'é' IS 'ü'" = .error ⟨8, .expected "NULL after IS" (some "'ü'")⟩ := by
    split at herror
    · next he => rw [he, Option.some.inj herror]
    · cases herror
  exact ⟨h, refused_in_source h⟩

end Switchyard.Filter
