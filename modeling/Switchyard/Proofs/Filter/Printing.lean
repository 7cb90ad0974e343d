import Mathlib.Data.List.Forall2
import Switchyard.Proofs.Filter.Scanning

/-!
# Writing tokens and reading them back

A token can be spelled in more than one way: the case of a keyword, the sign for an operator, the
quotes of a string and the form of a number are free. Spellings with single spaces between them are
read back as the tokens they spell.

* `IsName`, `IsPrintable`: the kinds of tokens that can be written.
* `Spells`, `exists_spells`: how each of them is written.
* `exists_spells_of_isNumeral`: no numeral is left out.
* `Spells.scans`: a spelling is read as one token.
* `tokenize_undoes_printing`: spellings with spaces between them are read as their tokens.
-/

namespace Switchyard.Filter

open Text

/-! ## Spellings -/

/-- Every operator under each of its signs. -/
def operators : List (String × TokenKind) :=
  [("(", .leftParen), (")", .rightParen), ("[", .leftBracket), ("]", .rightBracket),
    (",", .comma), (".", .dot), ("-", .minus), ("=>", .arrow), ("=", .eq), ("==", .eq),
    ("!=", .ne), ("<>", .ne), ("<", .lt), ("<=", .le), (">", .gt), (">=", .ge), ("&&", .and),
    ("||", .or), ("!", .not)]

/-- A letter or an underscore, then letters, digits and underscores, that are no keyword in any
letter case. -/
def IsName (text : List Char) : Prop :=
  (∃ c cs, text = c :: cs ∧ isWordStart c = true ∧ ∀ d ∈ cs, isWordChar d = true) ∧
    ∀ p ∈ TokenKind.keywords, text.map Char.toLower ≠ p.1.toList

/-- The character of a string as it is written between the quotes `q`. -/
def escaped (q c : Char) : List Char := if c = '\\' ∨ c = q then ['\\', c] else [c]

/-- The ways to write a token. -/
inductive Spells : TokenKind → List Char → Prop where
  | name {text : List Char} (h : IsName text) : Spells (.ident (String.ofList text)) text
  | number {text : List Char} {x : Numeral} (h : Numeral.IsNumeral text)
      (hx : Numeral.ofChars? text = some x) : Spells (.number x.toBinary64) text
  | string {q : Char} (s : String) (hq : IsQuote q) :
      Spells (.string s) (q :: (s.toList.flatMap (escaped q) ++ [q]))
  | keyword {word : String} {k : TokenKind} {text : List Char}
      (h : (word, k) ∈ TokenKind.keywords) (ht : text.map Char.toLower = word.toList) :
      Spells k text
  | operator {sign : String} {k : TokenKind} (h : (sign, k) ∈ operators) : Spells k sign.toList

/-- The tokens that can be written: all but the end of the text, words that are no names and doubles
that no numeral denotes. -/
def IsPrintable : TokenKind → Prop
  | .eof => False
  | .ident name => IsName name.toList
  | .number x => ∃ text y, Numeral.IsNumeral text ∧ Numeral.ofChars? text = some y ∧
      y.toBinary64 = x
  | _ => True

variable {k : TokenKind} {text s : List Char} {q : Char} {pos : Nat} {ks : List TokenKind}
  {texts : List (List Char)}

/-- Everything that can be written has a spelling. -/
theorem exists_spells (h : IsPrintable k) : ∃ text, Spells k text := by
  have hlower : ∀ p ∈ TokenKind.keywords, p.1.toList.map Char.toLower = p.1.toList := by decide
  have hfixed : ∀ k, (∃ p ∈ TokenKind.keywords ++ operators, p.2 = k) →
      ∃ text, Spells k text := by
    rintro _ ⟨p, hp, rfl⟩
    rcases List.mem_append.mp hp with hp | hp
    · exact ⟨p.1.toList, .keyword hp (hlower p hp)⟩
    · exact ⟨p.1.toList, .operator hp⟩
  cases k with
  | ident name => exact ⟨name.toList, by simpa using Spells.name h⟩
  | number x =>
    obtain ⟨text, y, htext, hy, rfl⟩ := h
    exact ⟨text, .number htext hy⟩
  | string s => exact ⟨_, .string s (.inl rfl)⟩
  | eof => exact h.elim
  | bool b => cases b <;> exact hfixed _ (by decide)
  | _ => exact hfixed _ (by decide)

/-- Every numeral spells a number. -/
theorem exists_spells_of_isNumeral (h : Numeral.IsNumeral text) : ∃ x, Spells (.number x) text := by
  obtain ⟨x, hx⟩ := Numeral.exists_ofChars? h
  exact ⟨x.toBinary64, .number h hx⟩

/-! ## Words -/

theorem isAlpha_of_toLower {c : Char} (h : c.toLower.isAlpha = true) : c.isAlpha = true := by
  unfold Char.toLower at h
  split at h
  · next hupper =>
      rw [isAlpha_iff]
      simpa [UInt32.le_iff_toNat_le] using Or.inl hupper
  · exact h

theorem lexeme_word {c : Char} {cs : List Char} (hc : isWordStart c = true)
    (hcs : ∀ d ∈ cs, isWordChar d = true) :
    lexeme c cs = .ok (.ofWord (c :: cs), cs.length) := by
  have hall : cs.takeWhile isWordChar = cs := by simpa using hcs
  exact lexeme_eq_ok.mpr (.word hc hall)

theorem ofWord_of_isName (h : IsName text) :
    TokenKind.ofWord text = .ident (String.ofList text) := by
  have hnone : TokenKind.keywords.find? (fun p => p.1.toList == text.map Char.toLower) = none := by
    refine List.find?_eq_none.mpr fun p hp heq => h.2 p hp ?_
    exact (beq_iff_eq.mp heq).symm
  rw [TokenKind.ofWord, hnone]

theorem ofWord_of_keyword {word : String} (h : (word, k) ∈ TokenKind.keywords)
    (ht : text.map Char.toLower = word.toList) : TokenKind.ofWord text = k := by
  have hfind : ∀ p ∈ TokenKind.keywords,
      TokenKind.keywords.find? (fun q => q.1.toList == p.1.toList) = some p := by decide
  rw [TokenKind.ofWord, ht, hfind _ h]

/-- A keyword is made of letters alone. -/
theorem isAlpha_of_keyword {word : String} (h : (word, k) ∈ TokenKind.keywords)
    (ht : text.map Char.toLower = word.toList) : text ≠ [] ∧ ∀ d ∈ text, d.isAlpha = true := by
  have hlower : ∀ p ∈ TokenKind.keywords, p.1.toList ≠ [] ∧
      p.1.toList.all Char.isAlpha = true := by decide
  obtain ⟨hne, hall⟩ := hlower _ h
  refine ⟨?_, fun d hd => isAlpha_of_toLower (List.all_eq_true.mp hall _ ?_)⟩
  · rintro rfl
    exact hne ht.symm
  · show d.toLower ∈ word.toList
    rw [← ht]
    exact List.mem_map_of_mem hd

/-! ## Strings and numbers -/

/-- Reading a string undoes its escapes. -/
theorem quoted_escaped (hq : IsQuote q) (s : List Char) :
    quoted q (s.flatMap (escaped q) ++ [q]) = some (s, (s.flatMap (escaped q) ++ [q]).length) := by
  induction s with
  | nil => exact quoted_close hq.ne_backslash []
  | cons c s ih =>
    rw [List.flatMap_cons, List.append_assoc]
    by_cases hc : c = '\\' ∨ c = q
    · have hback : unescape c = c := by
        rcases hc with rfl | rfl
        · rfl
        · rcases hq with rfl | rfl <;> rfl
      rw [escaped, if_pos hc, List.cons_append, List.singleton_append, quoted_escape, ih, hback]
      rfl
    · obtain ⟨hback, hquote⟩ := not_or.mp hc
      rw [escaped, if_neg hc, List.singleton_append, quoted_plain hback hquote, ih]
      rfl

theorem lexeme_numeral (h : Numeral.IsNumeral text) :
    ∃ c cs, text = c :: cs ∧ lexeme c cs = .ok (.number (numberOf text), cs.length) := by
  have hlen : Numeral.length text = text.length :=
    Nat.le_antisymm (Numeral.length_le text) (by simpa using h.length_le [])
  obtain ⟨whole, more, exponent, rfl, ⟨hne, hdigits⟩, -, -⟩ := h
  obtain ⟨c, cs, rfl⟩ := List.exists_cons_of_ne_nil hne
  rw [List.cons_append] at hlen ⊢
  refine ⟨c, _, rfl, lexeme_eq_ok.mpr ?_⟩
  have hnumber := Lexed.number (hdigits c List.mem_cons_self) hlen
  rwa [List.take_length] at hnumber

/-! ## Reading back -/

/-- A spelling is read as one token. -/
theorem Spells.lexeme (h : Spells k text) :
    ∃ c cs, text = c :: cs ∧ lexeme c cs = .ok (k, cs.length) := by
  cases h with
  | name h =>
    obtain ⟨⟨c, cs, rfl, hc, hcs⟩, -⟩ := id h
    exact ⟨c, cs, rfl, by rw [lexeme_word hc hcs, ofWord_of_isName h]⟩
  | number h hx =>
    obtain ⟨c, cs, rfl, hk⟩ := lexeme_numeral h
    refine ⟨c, cs, rfl, ?_⟩
    rw [hk, numberOf, hx]
    rfl
  | @string q s hq =>
    refine ⟨q, _, rfl, lexeme_eq_ok.mpr ?_⟩
    have hstring := Lexed.string hq (quoted_escaped hq s.toList)
    rwa [String.ofList_toList] at hstring
  | keyword h ht =>
    obtain ⟨hne, hall⟩ := isAlpha_of_keyword h ht
    obtain ⟨c, cs, rfl⟩ := List.exists_cons_of_ne_nil hne
    have hstart : ∀ d ∈ c :: cs, isWordStart d = true :=
      fun d hd => isWordStart_iff.mpr (.inl (hall d hd))
    have hc := hstart c List.mem_cons_self
    have hcs := fun d hd => isWordChar_of_isWordStart (hstart d (List.mem_cons_of_mem c hd))
    exact ⟨c, cs, rfl, by rw [lexeme_word hc hcs, ofWord_of_keyword h ht]⟩
  | operator h =>
    -- The table of operators is closed, so the lexer is run on each of its entries.
    have hsign : ∀ p ∈ operators, (p.1.toList.head?.bind fun c =>
        operator? c p.1.toList.tail.head?) = some (p.2, p.1.toList.tail.length) := by decide
    obtain ⟨c, hc, hoperator⟩ := Option.bind_eq_some_iff.mp (hsign _ h)
    exact ⟨c, _, List.eq_cons_of_mem_head? hc, lexeme_eq_ok.mpr (.operator hoperator)⟩

theorem Spells.scans (h : Spells k text) (pos : Nat) : Scans [] pos text [⟨k, pos, text⟩] := by
  obtain ⟨c, cs, rfl, hk⟩ := h.lexeme
  have hscans : Scans [] pos (c :: (cs ++ [])) [⟨k, pos, c :: cs⟩] :=
    .token (by simpa using hk) .done
  rwa [List.append_nil] at hscans

theorem exists_scans_intercalate (h : List.Forall₂ Spells ks texts) (pos : Nat) :
    ∃ ts, Scans [] pos ([' '].intercalate texts) ts ∧ ts.map (·.kind) = ks := by
  induction h generalizing pos with
  | nil => exact ⟨[], .done, rfl⟩
  | @cons k text ks texts hk hks ih =>
    cases hks with
    | nil => exact ⟨_, by simpa using hk.scans pos, rfl⟩
    | cons hk' hks =>
      obtain ⟨ts, hts, hkinds⟩ := ih (pos + byteLength text + ' '.utf8Size)
      refine ⟨[⟨k, pos, text⟩] ++ ts, ?_, by simp [hkinds]⟩
      rw [List.intercalate_cons_cons, List.append_assoc, List.singleton_append]
      exact (hk.scans pos).spaced rfl hts

/-- Tokens other than the end of the text can be written, and however they are, with single spaces
between them they are read back as they were. -/
theorem tokenize_undoes_printing (ks : List TokenKind) (h : ∀ k ∈ ks, IsPrintable k) :
    (∃ texts : List String, List.Forall₂ (fun k text => Spells k text.toList) ks texts) ∧
    ∀ texts : List String, List.Forall₂ (fun k text => Spells k text.toList) ks texts →
      ∃ ts, tokenize (" ".intercalate texts) = .ok ts ∧ ts.map (·.kind) = ks ++ [.eof] := by
  constructor
  · induction ks with
    | nil => exact ⟨[], .nil⟩
    | cons k ks ih =>
      obtain ⟨text, htext⟩ := exists_spells (h k List.mem_cons_self)
      obtain ⟨texts, htexts⟩ := ih fun k hk => h k (List.mem_cons_of_mem _ hk)
      exact ⟨String.ofList text :: texts, .cons (by simpa using htext) htexts⟩
  · intro texts htexts
    have hchars : List.Forall₂ Spells ks (texts.map String.toList) :=
      List.forall₂_map_right_iff.mpr htexts
    obtain ⟨ts, hts, hkinds⟩ := exists_scans_intercalate hchars 0
    have htokens := tokensFrom_eq_ok_of_scans hts
    rw [← String.toList_singleton, ← String.toList_intercalate] at htokens
    exact ⟨_, htokens, by simp [hkinds]⟩

/-- A name, a keyword in mixed case, a string with a quote in it, an operator and a number. -/
theorem tokenize_undoes_printing_mixed :
    ∃ ts, tokenize "in_x aNd 'it\\'s' <> 1.5e+3" = .ok ts ∧ ts.map (·.kind) =
      [.ident "in_x", .and, .string "it's", .ne, .number (Numeral.toBinary64 ⟨15, 2⟩), .eof] := by
  have hname : IsName "in_x".toList :=
    ⟨⟨'i', ['n', '_', 'x'], rfl, rfl, by simp [isWordChar]⟩, by decide⟩
  have hnumeral : Numeral.IsNumeral "1.5e+3".toList :=
    ⟨['1'], ['.', '5'], ['e', '+', '3'], rfl, ⟨by simp, by simp⟩,
      .point ⟨by simp, by simp⟩,
      @Numeral.IsExponent.power 'e' ['+'] ['3'] (.inl rfl) (.inr (.inl rfl)) ⟨by simp, by simp⟩⟩
  have hvalue : Numeral.ofChars? "1.5e+3".toList = some ⟨15, 2⟩ := rfl
  refine (tokenize_undoes_printing [.ident "in_x", .and, .string "it's", .ne,
    .number (Numeral.toBinary64 ⟨15, 2⟩)] ?_).2
    ["in_x", "aNd", "'it\\'s'", "<>", "1.5e+3"] ?_
  · simpa [IsPrintable] using ⟨hname, _, hnumeral, _, hvalue, rfl⟩
  · exact .cons (.name hname) (.cons (@Spells.keyword "and" _ _ (by decide) (by decide))
      (.cons (.string "it's" (.inl rfl)) (.cons (.operator (by decide))
        (.cons (.number hnumeral hvalue) .nil))))

end Switchyard.Filter
