import Mathlib.Data.List.Forall2
import Switchyard.Proofs.Result
import Switchyard.Subject

/-!
# What a subject pattern stands for

A pattern text is cut at its dots, and what it means can be said of the pieces alone. Each piece
takes a run of the tokens of a subject: a literal takes itself, `*` takes one token whatever it is,
and `>` takes one or more.

* `IsSplit`, `isSplit_iff`: the pieces of a text between its dots.
* `SubjectPattern.IsWellFormed`: the pieces that a pattern can be made of.
* `SubjectPattern.Aligns`: the tokens of a subject are taken by the pieces of a pattern.
* `SubjectPattern.parse_eq_ok`: which texts are patterns, and of which tokens.
* `SubjectPattern.fits_iff`: what the tokens of a pattern fit.
* `SubjectPattern.accepts_as_written`: which texts are patterns, and what they accept.
-/

namespace Switchyard

/-! ## Cutting at dots -/

/-- The pieces of a text between its dots: no piece has a dot in it, and joined with dots they are
the text. -/
structure IsSplit (text : String) (pieces : List String) : Prop where
  ne_nil : pieces ≠ []
  no_dot : ∀ t ∈ pieces, '.' ∉ t.toList
  joined : ".".intercalate pieces = text

theorem map_toList_subjectTokens (text : String) :
    (subjectTokens text).map String.toList = text.toList.splitOn '.' := by
  rw [subjectTokens, List.map_map, List.splitOn_eq_splitOnP]
  exact List.map_id'' (fun _ => String.toList_ofList) _

theorem not_mem_of_mem_splitOnP {α : Type} {p : α → Bool} {xs piece : List α}
    (h : piece ∈ xs.splitOnP p) : ∀ x ∈ piece, p x = false := by
  induction xs generalizing piece with
  | nil => simp_all
  | cons y ys ih =>
    rw [List.splitOnP_cons_eq_if_modifyHead] at h
    by_cases hy : p y = true
    · simp only [hy, ↓reduceIte, List.mem_cons] at h
      rcases h with rfl | h
      · simp
      · exact ih h
    · simp only [hy, Bool.false_eq_true, ↓reduceIte] at h
      cases hs : ys.splitOnP p with
      | nil => simp [hs] at h
      | cons first rest =>
        rw [hs] at ih h
        simp only [List.modifyHead_cons, List.mem_cons] at h
        rcases h with rfl | h
        · have hfirst := ih List.mem_cons_self
          simpa [hy] using hfirst
        · exact ih (List.mem_cons_of_mem _ h)

/-- The pieces of a text are its tokens and nothing else is. -/
theorem isSplit_iff {text : String} {pieces : List String} :
    IsSplit text pieces ↔ pieces = subjectTokens text := by
  have hinj : Function.Injective (List.map String.toList) :=
    List.map_injective_iff.mpr fun _ _ => String.toList_injective
  constructor
  · rintro ⟨hne, hdot, rfl⟩
    apply hinj
    rw [map_toList_subjectTokens, String.toList_intercalate]
    refine (List.splitOn_intercalate '.' ?_ (by simpa using hne)).symm
    simpa using hdot
  · rintro rfl
    refine ⟨by simp [subjectTokens], fun t ht hmem => ?_, ?_⟩
    · obtain ⟨cs, hcs, rfl⟩ := List.mem_map.mp ht
      rw [String.toList_ofList] at hmem
      have hfalse := not_mem_of_mem_splitOnP hcs '.' hmem
      simp at hfalse
    · apply String.toList_injective
      rw [String.toList_intercalate, map_toList_subjectTokens]
      exact List.intercalate_splitOn '.'

namespace SubjectPattern

/-! ## Patterns -/

/-- The pieces that a pattern can be made of: none is empty, a wildcard stands alone in its piece,
and nothing comes behind a `>`. -/
structure IsWellFormed (pieces : List String) : Prop where
  ne_empty : ∀ t ∈ pieces, t ≠ ""
  star_alone : ∀ t ∈ pieces, '*' ∈ t.toList → t = "*"
  tail_alone : ∀ t ∈ pieces, '>' ∈ t.toList → t = ">"
  tail_last : ∀ before after, pieces = before ++ ">" :: after → after = []

/-- The token of a pattern that a piece is. -/
def tokenOf (piece : String) : SubjectToken :=
  if piece = "*" then .one else if piece = ">" then .tail else .literal piece

variable {t : String} {ts : List String}

theorem isWellFormed_nil : IsWellFormed [] := ⟨by simp, by simp, by simp, by simp⟩

theorem isWellFormed_cons :
    IsWellFormed (t :: ts) ↔ t ≠ "" ∧ ('*' ∈ t.toList → t = "*") ∧ ('>' ∈ t.toList → t = ">") ∧
      (t = ">" → ts = []) ∧ IsWellFormed ts := by
  constructor
  · rintro ⟨hne, hstar, htail, hlast⟩
    refine ⟨hne t (by simp), hstar t (by simp), htail t (by simp), ?_, ?_⟩
    · rintro rfl
      exact hlast [] ts rfl
    · exact ⟨fun u hu => hne u (by simp [hu]), fun u hu => hstar u (by simp [hu]),
        fun u hu => htail u (by simp [hu]),
        fun before after h => hlast (t :: before) after (by simp [h])⟩
  · rintro ⟨hne, hstar, htail, hlast, hts⟩
    refine ⟨by simpa [hne] using hts.ne_empty, ?_, ?_, fun before after h => ?_⟩
    · simpa using ⟨hstar, hts.star_alone⟩
    · simpa using ⟨htail, hts.tail_alone⟩
    · cases before with
      | nil =>
        obtain ⟨rfl, rfl⟩ := List.cons.inj h
        exact hlast rfl
      | cons u before => exact hts.tail_last before after (List.cons.inj h).2

/-- A piece is read as the token that it is, unless it is ill-formed where it stands. -/
theorem token_eq_ok {position : Nat} {isLast : Bool} {tok : SubjectToken} :
    token position isLast t = .ok tok ↔
      (t ≠ "" ∧ ('*' ∈ t.toList → t = "*") ∧ ('>' ∈ t.toList → t = ">") ∧
        (t = ">" → isLast = true)) ∧ tok = tokenOf t := by
  unfold token tokenOf
  by_cases hempty : t = ""
  · simp [hempty]
  by_cases hstar : t = "*"
  · subst hstar
    simp only [hempty, ↓reduceIte, Except.ok.injEq, eq_comm (a := tok)]
    simp
  by_cases htail : t = ">"
  · subst htail
    cases isLast with
    | false => simp
    | true =>
      simp only [hempty, hstar, ↓reduceIte, Except.ok.injEq, eq_comm (a := tok)]
      simp
  -- A wildcard that has survived the first three cases stands beside other characters.
  have hany : t.toList.any (fun c => c == '*' || c == '>') = true ↔
      '*' ∈ t.toList ∨ '>' ∈ t.toList := by
    simp only [List.any_eq_true, Bool.or_eq_true, beq_iff_eq]
    constructor
    · rintro ⟨c, hc, rfl | rfl⟩
      · exact .inl hc
      · exact .inr hc
    · rintro (hc | hc)
      · exact ⟨_, hc, .inl rfl⟩
      · exact ⟨_, hc, .inr rfl⟩
  by_cases hwild : '*' ∈ t.toList ∨ '>' ∈ t.toList
  · simp only [hempty, hstar, htail, hany.mpr hwild, ↓reduceIte]
    simp
    tauto
  · obtain ⟨hs, hg⟩ := not_or.mp hwild
    simp only [hempty, hstar, htail, mt hany.mp hwild, hs, hg, ↓reduceIte, eq_comm (a := tok)]
    simp [hempty]

/-- Pieces are read as the tokens that they are if they are well formed, and refused otherwise. -/
theorem tokensFrom_eq_ok {position : Nat} {toks : List SubjectToken} :
    tokensFrom position ts = .ok toks ↔ IsWellFormed ts ∧ toks = ts.map tokenOf := by
  induction ts generalizing position toks with
  | nil => simp [tokensFrom, isWellFormed_nil, eq_comm]
  | cons t ts ih =>
    rw [tokensFrom, isWellFormed_cons]
    simp only [bind_eq_ok, token_eq_ok, ih, List.isEmpty_iff]
    constructor
    · rintro ⟨tok, ⟨hhead, rfl⟩, rest, ⟨hts, rfl⟩, h⟩
      obtain rfl := Except.ok.inj h
      exact ⟨⟨hhead.1, hhead.2.1, hhead.2.2.1, hhead.2.2.2, hts⟩, rfl⟩
    · rintro ⟨⟨hne, hstar, htail, hlast, hts⟩, rfl⟩
      exact ⟨_, ⟨⟨hne, hstar, htail, hlast⟩, rfl⟩, _, ⟨hts, rfl⟩, rfl⟩

/-- A text is a pattern if its tokens are well formed. -/
theorem parse_eq_ok {text : String} {p : SubjectPattern} :
    parse text = .ok p ↔
      IsWellFormed (subjectTokens text) ∧ p = ⟨text, (subjectTokens text).map tokenOf⟩ := by
  unfold parse
  by_cases hempty : text = ""
  · subst hempty
    have hbad : ¬IsWellFormed (subjectTokens "") := fun h => h.ne_empty "" (by decide) rfl
    simp [hbad]
  · simp only [hempty, ↓reduceIte]
    cases htoks : tokensFrom 0 (subjectTokens text) with
    | error fault =>
      have hbad : ¬IsWellFormed (subjectTokens text) := fun h => by
        rw [tokensFrom_eq_ok.mpr ⟨h, rfl⟩] at htoks
        cases htoks
      simp [hbad]
    | ok toks =>
      obtain ⟨hts, rfl⟩ := tokensFrom_eq_ok.mp htoks
      simp [hts, eq_comm]

/-! ## Alignment -/

/-- The run of tokens that a piece of a pattern takes. -/
inductive Takes : String → List String → Prop where
  | literal {t : String} (h : t ≠ "*" ∧ t ≠ ">") : Takes t [t]
  | one (q : String) : Takes "*" [q]
  | tail (q : String) (qs : List String) : Takes ">" (q :: qs)

/-- Tokens align with the pieces of a pattern if they can be cut into runs, one for each piece and
in their order, that the pieces take. -/
def Aligns (pieces tokens : List String) : Prop :=
  ∃ runs, List.Forall₂ Takes pieces runs ∧ runs.flatten = tokens

variable {qs run : List String}

theorem takes_iff :
    Takes t run ↔ (t = "*" ∧ ∃ q, run = [q]) ∨ (t = ">" ∧ run ≠ []) ∨
      ((t ≠ "*" ∧ t ≠ ">") ∧ run = [t]) := by
  constructor
  · intro h
    cases h with
    | literal h => exact .inr (.inr ⟨h, rfl⟩)
    | one q => exact .inl ⟨rfl, q, rfl⟩
    | tail q qs => exact .inr (.inl ⟨rfl, List.cons_ne_nil q qs⟩)
  · rintro (⟨rfl, q, rfl⟩ | ⟨rfl, hne⟩ | ⟨h, rfl⟩)
    · exact .one q
    · obtain ⟨q, qs, rfl⟩ := List.exists_cons_of_ne_nil hne
      exact .tail q qs
    · exact .literal h

theorem aligns_nil : Aligns [] qs ↔ qs = [] := by simp [Aligns, eq_comm]

theorem aligns_cons :
    Aligns (t :: ts) qs ↔ ∃ run rest, qs = run ++ rest ∧ Takes t run ∧ Aligns ts rest := by
  constructor
  · rintro ⟨runs, hruns, rfl⟩
    cases hruns with
    | cons ht hts => exact ⟨_, _, rfl, ht, _, hts, rfl⟩
  · rintro ⟨run, rest, rfl, ht, runs, hruns, rfl⟩
    exact ⟨run :: runs, .cons ht hruns, rfl⟩

theorem aligns_one : Aligns ("*" :: ts) qs ↔ ∃ q rest, qs = q :: rest ∧ Aligns ts rest := by
  rw [aligns_cons]
  constructor
  · rintro ⟨run, rest, rfl, ht, h⟩
    obtain ⟨q, rfl⟩ : ∃ q, run = [q] := by simpa [takes_iff] using ht
    exact ⟨q, rest, rfl, h⟩
  · rintro ⟨q, rest, rfl, h⟩
    exact ⟨[q], rest, rfl, .one q, h⟩

theorem aligns_tail : Aligns [">"] qs ↔ qs ≠ [] := by
  rw [aligns_cons]
  constructor
  · rintro ⟨run, rest, rfl, ht, -⟩
    have hrun : run ≠ [] := by simpa [takes_iff] using ht
    simp [hrun]
  · intro h
    obtain ⟨q, rest, rfl⟩ := List.exists_cons_of_ne_nil h
    exact ⟨q :: rest, [], by simp, .tail q rest, aligns_nil.mpr rfl⟩

theorem aligns_literal (ht : t ≠ "*" ∧ t ≠ ">") :
    Aligns (t :: ts) qs ↔ ∃ rest, qs = t :: rest ∧ Aligns ts rest := by
  rw [aligns_cons]
  constructor
  · rintro ⟨run, rest, rfl, htakes, h⟩
    obtain rfl : run = [t] := by simpa [takes_iff, ht] using htakes
    exact ⟨rest, rfl, h⟩
  · rintro ⟨rest, rfl, h⟩
    exact ⟨[t], rest, rfl, .literal ht, h⟩

/-- Without a `>` each piece takes one token. -/
theorem Aligns.length_eq (h : Aligns ts qs) (ht : ">" ∉ ts) : qs.length = ts.length := by
  obtain ⟨runs, hruns, rfl⟩ := h
  induction hruns with
  | nil => rfl
  | cons htakes _ ih =>
    rw [List.mem_cons, not_or] at ht
    cases htakes with
    | tail => exact absurd rfl ht.1
    | _ => simp [ih ht.2]

/-- The tokens of a pattern fit tokens none of which is empty and that align with its pieces. -/
theorem fits_iff (h : IsWellFormed ts) :
    fits (ts.map tokenOf) qs = true ↔ (∀ q ∈ qs, q ≠ "") ∧ Aligns ts qs := by
  induction ts generalizing qs with
  | nil => cases qs <;> simp [fits, aligns_nil]
  | cons t ts ih =>
    obtain ⟨hne, -, -, hlast, hts⟩ := isWellFormed_cons.mp h
    rw [List.map_cons]
    by_cases hstar : t = "*"
    · subst hstar
      rw [aligns_one, show tokenOf "*" = .one from rfl]
      cases qs with
      | nil => simp [fits]
      | cons q qs => simp [fits, ih hts, and_assoc]
    by_cases htail : t = ">"
    · -- A `>` is the last piece, and the tokens that are left are all its own.
      obtain rfl := hlast htail
      subst htail
      rw [aligns_tail, show tokenOf ">" = .tail from rfl]
      cases qs <;> simp [fits]
    · have hlit : tokenOf t = .literal t := by simp [tokenOf, hstar, htail]
      rw [aligns_literal ⟨hstar, htail⟩, hlit]
      cases qs with
      | nil => simp [fits]
      | cons q qs =>
        simp only [fits, ih hts, Bool.and_eq_true, beq_iff_eq, List.forall_mem_cons,
          List.cons.injEq]
        constructor
        · rintro ⟨rfl, hqs, ha⟩
          exact ⟨⟨hne, hqs⟩, qs, ⟨rfl, rfl⟩, ha⟩
        · rintro ⟨⟨-, hqs⟩, rest, ⟨rfl, rfl⟩, ha⟩
          exact ⟨rfl, hqs, ha⟩

/-- A text is a pattern just if the pieces between its dots are not empty, a wildcard stands alone
in its piece, and a `>` is the last one. The pattern then accepts the subjects that have no empty
token and whose tokens align with the pieces; without a `>` there are as many of them. -/
theorem accepts_as_written (text : String) :
    (∀ pieces, IsSplit text pieces ↔ pieces = subjectTokens text) ∧
    ((∃ p, parse text = .ok p) ↔ IsWellFormed (subjectTokens text)) ∧
    ∀ p, parse text = .ok p → ∀ subject,
      (p.accepts subject = true ↔
        (∀ q ∈ subjectTokens subject, q ≠ "") ∧
          Aligns (subjectTokens text) (subjectTokens subject)) ∧
      (p.accepts subject = true → ">" ∉ subjectTokens text →
        (subjectTokens subject).length = (subjectTokens text).length) := by
  refine ⟨fun pieces => isSplit_iff, ?_, fun p hp subject => ?_⟩
  · constructor
    · rintro ⟨p, hp⟩
      exact (parse_eq_ok.mp hp).1
    · exact fun h => ⟨_, parse_eq_ok.mpr ⟨h, rfl⟩⟩
  · obtain ⟨hwell, rfl⟩ := parse_eq_ok.mp hp
    have hfits : accepts ⟨text, (subjectTokens text).map tokenOf⟩ subject = true ↔ _ :=
      fits_iff hwell
    exact ⟨hfits, fun h ht => (hfits.mp h).2.length_eq ht⟩

/-- A literal, a wildcard for one token and one for the rest. -/
theorem accepts_as_written_orders :
    parse "orders.*.>" = .ok ⟨"orders.*.>", [.literal "orders", .one, .tail]⟩ ∧
      accepts ⟨"orders.*.>", [.literal "orders", .one, .tail]⟩ "orders.eu.new.v2" = true ∧
      ">" ∉ subjectTokens "orders.*" ∧
      (subjectTokens "orders.eu").length = (subjectTokens "orders.*").length := by
  have hparse : parse "orders.*.>" = .ok ⟨"orders.*.>", [.literal "orders", .one, .tail]⟩ := rfl
  have hparse' : parse "orders.*" = .ok ⟨"orders.*", [.literal "orders", .one]⟩ := rfl
  obtain ⟨-, -, h⟩ := accepts_as_written "orders.*.>"
  obtain ⟨-, -, h'⟩ := accepts_as_written "orders.*"
  have htail : ">" ∉ subjectTokens "orders.*" := by decide
  refine ⟨hparse, (h _ hparse "orders.eu.new.v2").1.mpr ⟨by decide, ?_⟩, htail,
    (h' _ hparse' "orders.eu").2 (by decide) htail⟩
  exact ⟨[["orders"], ["eu"], ["new", "v2"]],
    .cons (.literal (by decide)) (.cons (.one "eu") (.cons (.tail "new" ["v2"]) .nil)), rfl⟩

end SubjectPattern

end Switchyard
