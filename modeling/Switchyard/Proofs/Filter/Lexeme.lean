import Switchyard.Filter.Lexer
import Switchyard.Proofs.Numeral

/-!
# Where a token ends

The kind of a token and its length are told by its own characters: they stay the same if the text is
cut off behind the token, and if a blank follows it there.

* `operator?`, `Lexed`: the four sorts of tokens, and how each is read; `lexeme_eq_ok`.
* `lexeme_of_append`: a token is read in the same way if the text is cut off behind it.
* `lexeme_append_blank`: a blank goes on no token.
* `lexeme_ends`: no token begins or ends with a blank.
-/

namespace Switchyard.Filter

open Text

/-! ## Operators -/

/-- The token of one or two marks that starts with `c`, and how many of them are behind `c`; `next`
is the character there. -/
def operator? (c : Char) (next : Option Char) : Option (TokenKind × Nat) :=
  match c, next with
  | '(', _ => some (.leftParen, 0)
  | ')', _ => some (.rightParen, 0)
  | '[', _ => some (.leftBracket, 0)
  | ']', _ => some (.rightBracket, 0)
  | ',', _ => some (.comma, 0)
  | '.', _ => some (.dot, 0)
  | '-', _ => some (.minus, 0)
  | '=', some '=' => some (.eq, 1)
  | '=', some '>' => some (.arrow, 1)
  | '=', _ => some (.eq, 0)
  | '!', some '=' => some (.ne, 1)
  | '!', _ => some (.not, 0)
  | '<', some '=' => some (.le, 1)
  | '<', some '>' => some (.ne, 1)
  | '<', _ => some (.lt, 0)
  | '>', some '=' => some (.ge, 1)
  | '>', _ => some (.gt, 0)
  | '&', some '&' => some (.and, 1)
  | '|', some '|' => some (.or, 1)
  | _, _ => none

/-- Either quotation mark. -/
def IsQuote (c : Char) : Prop := c = '\'' ∨ c = '"'

instance : DecidablePred IsQuote := fun c => inferInstanceAs (Decidable (c = '\'' ∨ c = '"'))

/-- What a string, a number or a word starts with. -/
def IsContentStart (c : Char) : Prop := IsQuote c ∨ c.isDigit = true ∨ isWordStart c = true

variable {b c q : Char} {next : Option Char} {k : TokenKind} {n : Nat} {cs s rest : List Char}

theorem operator?_of_isContentStart (h : IsContentStart c) : operator? c next = none := by
  unfold operator?
  split <;> first | rfl | simp [IsContentStart, IsQuote, isWordStart] at h

theorem operator?_not_blank (h : operator? c next = some (k, n)) :
    isBlank c = false ∧ (n = 0 ∨ n = 1 ∧ ∃ d, next = some d ∧ isBlank d = false) := by
  unfold operator? at h
  split at h <;> cases h <;> simp <;> decide

/-- A single mark is read without the character that follows. -/
theorem operator?_none (h : operator? c next = some (k, 0)) : operator? c none = some (k, 0) := by
  unfold operator? at h
  split at h <;> cases h <;> rfl

/-- A blank goes on no mark. -/
theorem operator?_some_blank (hb : isBlank b = true) : operator? c (some b) = operator? c none := by
  have hmark : b ≠ '=' ∧ b ≠ '>' ∧ b ≠ '&' ∧ b ≠ '|' := by
    refine ⟨?_, ?_, ?_, ?_⟩ <;> rintro rfl <;> simp [isBlank] at hb
  obtain ⟨h1, h2, h3, h4⟩ := hmark
  unfold operator?
  split <;> simp_all

/-! ## Strings -/

theorem IsQuote.ne_backslash (h : IsQuote q) : q ≠ '\\' := by
  rcases h with rfl | rfl <;> decide

theorem quoted_escape (q c : Char) (cs : List Char) :
    quoted q ('\\' :: c :: cs) = (quoted q cs).map fun (s, n) => (unescape c :: s, n + 2) := rfl

theorem quoted_close (hq : q ≠ '\\') (cs : List Char) : quoted q (q :: cs) = some ([], 1) := by
  simp [quoted, hq]

theorem quoted_plain (hc : c ≠ '\\') (hq : c ≠ q) (cs : List Char) :
    quoted q (c :: cs) = (quoted q cs).map fun (s, n) => (c :: s, n + 1) := by
  simp [quoted, hc, hq]

theorem quoted_bounds (h : quoted q cs = some (s, n)) : 0 < n ∧ n ≤ cs.length := by
  fun_induction quoted q cs generalizing s n with
  | case1 => cases h
  | case2 c cs ih =>
    obtain ⟨⟨t, m⟩, ht, h⟩ := Option.map_eq_some_iff.mp h
    cases h
    have := ih ht
    simp
    omega
  | case3 cs hne =>
    cases h
    simp
  | case4 c cs hne hc ih =>
    obtain ⟨⟨t, m⟩, ht, h⟩ := Option.map_eq_some_iff.mp h
    cases h
    have := ih ht
    simp
    omega

/-- A string ends at its closing quote, whatever follows. -/
theorem quoted_append (hq : q ≠ '\\') (h : quoted q cs = some (s, n)) (more : List Char) :
    quoted q (cs ++ more) = some (s, n) := by
  fun_induction quoted q cs generalizing s n with
  | case1 => cases h
  | case2 c cs ih =>
    obtain ⟨⟨t, m⟩, ht, h⟩ := Option.map_eq_some_iff.mp h
    cases h
    rw [List.cons_append, List.cons_append, quoted_escape, ih ht]
    rfl
  | case3 cs hne =>
    cases h
    exact quoted_close hq _
  | case4 c cs hne hc ih =>
    obtain ⟨⟨t, m⟩, ht, h⟩ := Option.map_eq_some_iff.mp h
    cases h
    have hback : c ≠ '\\' := by
      rintro rfl
      cases cs with
      | nil => simp [quoted] at ht
      | cons d ds => exact hne d ds rfl rfl
    rw [List.cons_append, quoted_plain hback hc, ih ht]
    rfl

theorem quoted_of_append (hq : q ≠ '\\') (h : quoted q (cs ++ rest) = some (s, n))
    (hn : n ≤ cs.length) : quoted q cs = some (s, n) := by
  fun_induction quoted q cs generalizing s n with
  | case1 =>
    have := (quoted_bounds h).1
    simp at hn
    omega
  | case2 c cs ih =>
    rw [List.cons_append, List.cons_append, quoted_escape] at h
    obtain ⟨⟨t, m⟩, ht, h⟩ := Option.map_eq_some_iff.mp h
    cases h
    rw [ih ht (by simpa using hn)]
    rfl
  | case3 cs hne => rwa [List.cons_append, quoted_close hq] at h
  | case4 c cs hne hc ih =>
    by_cases hback : c = '\\'
    · -- A backslash that is the last character would need one behind it.
      subst hback
      cases cs with
      | nil =>
        cases rest with
        | nil => simp [quoted, hc] at h
        | cons d ds =>
          rw [List.singleton_append, quoted_escape] at h
          obtain ⟨⟨t, m⟩, -, h⟩ := Option.map_eq_some_iff.mp h
          cases h
          simp at hn
      | cons d ds => exact absurd rfl (hne d ds rfl)
    · rw [List.cons_append, quoted_plain hback hc] at h
      obtain ⟨⟨t, m⟩, ht, h⟩ := Option.map_eq_some_iff.mp h
      cases h
      rw [ih ht (by simpa using hn)]
      rfl

theorem quoted_last (h : quoted q cs = some (s, n)) : (cs.take n).getLast? = some q := by
  fun_induction quoted q cs generalizing s n with
  | case1 => cases h
  | case2 c cs ih =>
    obtain ⟨⟨t, m⟩, ht, h⟩ := Option.map_eq_some_iff.mp h
    cases h
    simp [List.getLast?_cons, ih ht]
  | case3 cs hne =>
    cases h
    rfl
  | case4 c cs hne hc ih =>
    obtain ⟨⟨t, m⟩, ht, h⟩ := Option.map_eq_some_iff.mp h
    cases h
    simp [List.getLast?_cons, ih ht]

/-! ## Words -/

theorem isAlpha_iff : c.isAlpha = true ↔
    (65 ≤ c.toNat ∧ c.toNat ≤ 90) ∨ (97 ≤ c.toNat ∧ c.toNat ≤ 122) := by
  show (decide (65 ≤ c.val ∧ c.val ≤ 90) ||
    (decide (97 ≤ c.val) && decide (c.val ≤ 122))) = true ↔ _
  simp [UInt32.le_iff_toNat_le]

theorem isDigit_iff : c.isDigit = true ↔ 48 ≤ c.toNat ∧ c.toNat ≤ 57 := by
  show (decide (48 ≤ c.val) && decide (c.val ≤ 57)) = true ↔ _
  simp [UInt32.le_iff_toNat_le]

theorem isWordStart_iff : isWordStart c = true ↔ c.isAlpha = true ∨ c.toNat = 95 := by
  have hunder : c = '_' ↔ c.toNat = 95 := Char.toNat_inj.symm
  simp [isWordStart, hunder]

theorem isWordChar_iff : isWordChar c = true ↔ isWordStart c = true ∨ c.isDigit = true := by
  simp only [isWordStart, isWordChar, Char.isAlphanum, Bool.or_eq_true]
  exact or_right_comm

theorem isBlank_of_isWordChar (h : isWordChar c = true) : isBlank c = false := by
  rw [isWordChar_iff, isWordStart_iff, isAlpha_iff, isDigit_iff] at h
  exact isBlank_of_printable (by omega)

theorem isWordChar_of_isWordStart (h : isWordStart c = true) : isWordChar c = true :=
  isWordChar_iff.mpr (.inl h)

theorem not_isDigit_of_isWordStart (h : isWordStart c = true) : ¬c.isDigit = true := by
  rw [isWordStart_iff, isAlpha_iff] at h
  rw [isDigit_iff]
  omega

theorem takeWhile_of_append {α : Type} {p : α → Bool} {xs ys zs : List α}
    (h : (xs ++ ys).takeWhile p = zs) (hz : zs.length ≤ xs.length) : xs.takeWhile p = zs := by
  rw [List.takeWhile_append] at h
  split at h
  · next hall =>
    have hxs : xs.takeWhile p = xs :=
      (List.takeWhile_prefix p).eq_of_length hall
    rw [hxs]
    have hlen := congrArg List.length h
    rw [List.length_append] at hlen
    rw [← h, List.length_eq_zero_iff.mp (by omega : (ys.takeWhile p).length = 0), List.append_nil]
  · exact h

/-! ## Tokens -/

/-- The number that the text of a numeral denotes. -/
def numberOf (text : List Char) : Binary64 := ((Numeral.ofChars? text).getD ⟨0, 0⟩).toBinary64

/-- The token that starts with `c` and goes on in `cs`: its kind, and how many of `cs` it takes. -/
inductive Lexed (c : Char) (cs : List Char) : TokenKind → Nat → Prop where
  | operator {k : TokenKind} {n : Nat} (h : operator? c cs.head? = some (k, n)) : Lexed c cs k n
  | string {s : List Char} {n : Nat} (hc : IsQuote c) (h : quoted c cs = some (s, n)) :
      Lexed c cs (.string (String.ofList s)) n
  | number {n : Nat} (hc : c.isDigit = true) (h : Numeral.length (c :: cs) = n + 1) :
      Lexed c cs (.number (numberOf (c :: cs.take n))) n
  | word {more : List Char} (hc : isWordStart c = true) (h : cs.takeWhile isWordChar = more) :
      Lexed c cs (.ofWord (c :: more)) more.length

/-- The token that starts with `c`, if it is no operator. -/
def content (c : Char) (cs : List Char) : Except CompileFault (TokenKind × Nat) :=
  if IsQuote c then
    match quoted c cs with
    | some (s, n) => .ok (.string (String.ofList s), n)
    | none => .error .unterminatedString
  else if c.isDigit then
    .ok (.number (numberOf ((c :: cs).take (Numeral.length (c :: cs)))),
      Numeral.length (c :: cs) - 1)
  else if isWordStart c then
    .ok (.ofWord (c :: cs.takeWhile isWordChar), (cs.takeWhile isWordChar).length)
  else .error (.unexpectedCharacter c)

theorem lexeme_eq (c : Char) (cs : List Char) :
    lexeme c cs = match operator? c cs.head? with
      | some token => .ok token
      | none => content c cs := by
  unfold lexeme
  split
  case h_20 =>
    have hnone : operator? c cs.head? = none := by
      cases cs <;> simp_all [operator?]
    rw [hnone]
    rfl
  all_goals first | rfl | (cases cs <;> simp_all [operator?])

theorem one_le_length (hc : c.isDigit = true) (cs : List Char) :
    1 ≤ Numeral.length (c :: cs) := by
  have hrun : Numeral.digitRun ([c] ++ cs) = 1 + Numeral.digitRun cs :=
    Numeral.digitRun_append (by simpa using hc) cs
  rw [Numeral.length, ← List.singleton_append, hrun]
  omega

/-- Every token is of one of the four sorts. -/
theorem lexeme_eq_ok : lexeme c cs = .ok (k, n) ↔ Lexed c cs k n := by
  rw [lexeme_eq]
  constructor
  · intro h
    split at h
    · next token htoken =>
      cases h
      exact .operator htoken
    · unfold content at h
      split_ifs at h with hquote hdigit hword
      · split at h
        · next hs =>
          cases h
          exact .string hquote hs
        · cases h
      · -- The lexer counts what stands behind the first digit, `Lexed.number` the whole numeral.
        have hlen : Numeral.length (c :: cs) = Numeral.length (c :: cs) - 1 + 1 := by
          have := one_le_length hdigit cs
          omega
        rw [hlen, List.take_succ_cons] at h
        cases h
        exact .number hdigit hlen
      · cases h
        exact .word hword rfl
  · intro h
    cases h with
    | operator h => rw [h]
    | string hc h =>
      rw [operator?_of_isContentStart (.inl hc)]
      dsimp only
      rw [content, if_pos hc, h]
    | number hc h =>
      have hquote : ¬IsQuote c := by
        rintro (rfl | rfl) <;> simp at hc
      rw [operator?_of_isContentStart (.inr (.inl hc))]
      dsimp only
      rw [content, if_neg hquote, if_pos hc, h]
      rfl
    | word hc h =>
      have hquote : ¬IsQuote c := by
        rintro (rfl | rfl) <;> simp [isWordStart] at hc
      have hdigit : ¬c.isDigit = true := not_isDigit_of_isWordStart hc
      rw [operator?_of_isContentStart (.inr (.inr hc))]
      dsimp only
      rw [content, if_neg hquote, if_neg hdigit, if_pos hc, h]

theorem TokenKind.ofWord_ne_eof (word : List Char) : ofWord word ≠ .eof := by
  have hkeyword : ∀ p ∈ keywords, p.2 ≠ .eof := by decide
  unfold ofWord
  split
  · next h => exact hkeyword _ (List.mem_of_find?_eq_some h)
  · simp

theorem lexeme_ne_eof (h : lexeme c cs = .ok (k, n)) : k ≠ .eof := by
  cases lexeme_eq_ok.mp h with
  | operator h =>
    unfold operator? at h
    split at h <;> cases h <;> simp
  | string => simp
  | number => simp
  | word => exact TokenKind.ofWord_ne_eof _

theorem length_le_of_lexeme (h : lexeme c cs = .ok (k, n)) : n ≤ cs.length := by
  cases lexeme_eq_ok.mp h with
  | operator h =>
    rcases (operator?_not_blank h).2 with rfl | ⟨rfl, d, hd, -⟩
    · exact Nat.zero_le _
    · cases cs with
      | nil => cases hd
      | cons d cs => simp
  | string hc h => exact (quoted_bounds h).2
  | number hc h =>
    have := Numeral.length_le (c :: cs)
    rw [List.length_cons] at this
    omega
  | word hc hmore =>
    rw [← hmore]
    exact (List.takeWhile_prefix _).length_le

/-- A token is read in the same way if the text is cut off behind it. -/
theorem lexeme_of_append (h : lexeme c (cs ++ rest) = .ok (k, n)) (hn : n ≤ cs.length) :
    lexeme c cs = .ok (k, n) := by
  rw [lexeme_eq_ok] at h ⊢
  cases h with
  | operator h =>
    cases cs with
    | nil =>
      obtain rfl : n = 0 := by simpa using hn
      exact .operator (operator?_none h)
    | cons d cs => exact .operator h
  | string hc h => exact .string hc (quoted_of_append hc.ne_backslash h hn)
  | number hc h =>
    rw [List.take_append_of_le_length hn]
    refine .number hc ?_
    rw [Numeral.length_append hc cs rest (by omega), h]
  | word hc h => exact .word hc (takeWhile_of_append h hn)

/-- A blank goes on no token. -/
theorem lexeme_append_blank (h : lexeme c cs = .ok (k, n)) (hb : isBlank b = true)
    (rest : List Char) : lexeme c (cs ++ b :: rest) = .ok (k, n) := by
  have hn := length_le_of_lexeme h
  rw [lexeme_eq_ok] at h ⊢
  cases h with
  | operator h =>
    cases cs with
    | nil => exact .operator ((operator?_some_blank hb).trans h)
    | cons d cs => exact .operator h
  | string hc h => exact .string hc (quoted_append hc.ne_backslash h _)
  | number hc h =>
    have htake : (cs ++ b :: rest).take n = cs.take n := List.take_append_of_le_length hn
    rw [← htake]
    exact .number hc ((Numeral.length_append_blank hc hb cs rest).trans h)
  | word hc h =>
    have hword : isWordChar b ≠ true := fun hw => by
      simp [isBlank_of_isWordChar hw] at hb
    refine .word hc ?_
    rw [List.takeWhile_append]
    split
    · next hall =>
      rw [List.takeWhile_cons_of_neg hword, List.append_nil, ← h]
      exact ((List.takeWhile_prefix _).eq_of_length hall).symm
    · exact h

/-- No token begins or ends with a blank. -/
theorem lexeme_ends (h : lexeme c cs = .ok (k, n)) :
    isBlank c = false ∧ ∀ d ∈ (c :: cs.take n).getLast?, isBlank d = false := by
  cases lexeme_eq_ok.mp h with
  -- An operator is one or two characters, and neither of them is a blank.
  | operator h =>
    obtain ⟨hc, rfl | ⟨rfl, d, hd, hblank⟩⟩ := operator?_not_blank h
    · exact ⟨hc, by simpa using hc⟩
    · obtain ⟨cs, rfl⟩ : ∃ more, cs = d :: more := by
        cases cs with
        | nil => cases hd
        | cons e cs =>
          cases hd
          exact ⟨cs, rfl⟩
      exact ⟨hc, by simpa using hblank⟩
  | string hc h =>
    have hquote : isBlank c = false := by
      rcases hc with rfl | rfl <;> rfl
    exact ⟨hquote, by simpa [List.getLast?_cons, quoted_last h] using hquote⟩
  | number hc hlen =>
    have hall : ∀ d ∈ c :: cs.take n, isBlank d = false := by
      have hnumeral := Numeral.isNumeral_take hc cs
      rw [hlen, List.take_succ_cons] at hnumeral
      exact fun d hd => (hnumeral.isNumeralChar d hd).isBlank
    exact ⟨hall c List.mem_cons_self, fun d hd => hall d (List.mem_of_getLast? hd)⟩
  | @word more hc hmore =>
    have hall : ∀ d ∈ c :: cs.take more.length, isBlank d = false := by
      rw [← hmore, ← List.prefix_iff_eq_take.mp (List.takeWhile_prefix isWordChar)]
      refine List.forall_mem_cons.mpr ⟨?_, fun d hd => ?_⟩
      · exact isBlank_of_isWordChar (isWordChar_of_isWordStart hc)
      · exact isBlank_of_isWordChar (List.mem_takeWhile_imp hd)
    exact ⟨hall c List.mem_cons_self, fun d hd => hall d (List.mem_of_getLast? hd)⟩

end Switchyard.Filter
