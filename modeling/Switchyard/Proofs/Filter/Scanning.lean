import Mathlib.Data.List.Induction
import Switchyard.Proofs.Filter.Lexeme
import Switchyard.Proofs.Result

/-!
# Where the tokens of a text lie

The scan of a text goes on from token to token over the blanks between them, and stops at the end of
the text or at a character that starts no token. What it has read by then does not depend on what
it has yet to read.

* `Scans`: a text is read as tokens, whatever is behind it.
* `tokensFrom_of_scans`, `exists_scans`: the tokens of a text are what its scan reads.
* `Scans.of_append`, `Scans.followed`, `Scans.append`: what may stand behind a text that is read.
* `Scans.placed`, `Scans.trim`: where a text stands and the blanks around it do not matter.
* `Scans.exists_of_mem`: where a token that is read stands.
* `Scans.eq_nil_iff`: which texts have no token.
* `Tiles`: how tokens lie in a text that they cover but for its blanks.
* `tokens_tile_source`: how the tokens of a text lie, and what is read in front of a fault.
-/

namespace Switchyard.Filter

open Text

/-! ## The scan -/

/-- In front of `rest`, the text `front` at byte `pos` is read as the tokens `ts`. -/
inductive Scans (rest : List Char) : Nat → List Char → List Token → Prop where
  | done {pos : Nat} : Scans rest pos [] []
  | blank {pos : Nat} {c : Char} {front : List Char} {ts : List Token}
      (hc : isAsciiBlank c = true) (h : Scans rest (pos + c.utf8Size) front ts) :
      Scans rest pos (c :: front) ts
  | token {pos : Nat} {c : Char} {cs front : List Char} {k : TokenKind} {ts : List Token}
      (hk : lexeme c (cs ++ (front ++ rest)) = .ok (k, cs.length))
      (h : Scans rest (Token.stop ⟨k, pos, c :: cs⟩) front ts) :
      Scans rest pos (c :: (cs ++ front)) (⟨k, pos, c :: cs⟩ :: ts)

variable {pos : Nat} {b c : Char} {cs front back rest : List Char} {k : TokenKind} {n : Nat}
  {t : Token} {ts us : List Token} {source : String} {e : CompileError}

theorem isAsciiBlank_of_lexeme (h : lexeme c cs = .ok (k, n)) : ¬isAsciiBlank c = true :=
  fun hb => by simpa [isBlank_of_isAsciiBlank hb] using (lexeme_ends h).1

theorem tokensFrom_token (h : lexeme c cs = .ok (k, n)) :
    tokensFrom pos (c :: cs) =
      (tokensFrom (Token.stop ⟨k, pos, c :: cs.take n⟩) (cs.drop n)).map
        (⟨k, pos, c :: cs.take n⟩ :: ·) := by
  rw [tokensFrom, if_neg (isAsciiBlank_of_lexeme h), h]
  rfl

/-- What a scan has read are the first tokens of the text. -/
theorem tokensFrom_of_scans (h : Scans rest pos front ts) :
    tokensFrom pos (front ++ rest) =
      (tokensFrom (pos + byteLength front) rest).map (ts ++ ·) := by
  induction h with
  | @done pos =>
    show tokensFrom pos rest = (tokensFrom pos rest).map id
    cases tokensFrom pos rest <;> rfl
  | blank hc h ih =>
    rw [List.cons_append, tokensFrom, if_pos hc, ih, byteLength_cons, Nat.add_assoc]
  | @token pos c cs front k ts hk h ih =>
    have hpos : Token.stop ⟨k, pos, c :: cs⟩ + byteLength front =
        pos + byteLength (c :: (cs ++ front)) := by
      simp [Token.stop, Token.len]
      omega
    rw [List.cons_append, List.append_assoc, tokensFrom_token hk, List.take_left, List.drop_left,
      ih, hpos]
    cases tokensFrom (pos + byteLength (c :: (cs ++ front))) rest <;> rfl

theorem tokensFrom_eq_ok_of_scans (h : Scans [] pos front ts) :
    tokensFrom pos front = .ok (ts ++ [⟨.eof, pos + byteLength front, []⟩]) := by
  have htokens := tokensFrom_of_scans h
  rw [List.append_nil] at htokens
  rw [htokens, tokensFrom]
  rfl

/-- A scan goes on to the end of the text or to a fault. -/
theorem exists_scans (pos : Nat) (cs : List Char) :
    ∃ front rest ts, cs = front ++ rest ∧ Scans rest pos front ts ∧
      (rest = [] ∨ ∃ c back fault, rest = c :: back ∧ isAsciiBlank c = false ∧
        lexeme c back = .error fault) := by
  fun_induction tokensFrom pos cs with
  | case1 pos => exact ⟨[], [], [], rfl, .done, .inl rfl⟩
  | case2 pos c cs hblank ih =>
    obtain ⟨front, rest, ts, rfl, hscans, hrest⟩ := ih
    exact ⟨c :: front, rest, ts, rfl, .blank hblank hscans, hrest⟩
  | case3 pos c cs hblank fault hf =>
    exact ⟨[], c :: cs, [], rfl, .done, .inr ⟨c, cs, fault, rfl, by simpa using hblank, hf⟩⟩
  | case4 pos c cs hblank k n hk token =>
    rename_i ih
    obtain ⟨front, rest, ts, hcs, hscans, hrest⟩ := ih
    have hn : (cs.take n).length = n :=
      List.length_take_of_le (length_le_of_lexeme hk)
    have hsplit : cs = cs.take n ++ (front ++ rest) := by rw [← hcs, List.take_append_drop]
    rw [hsplit, ← hn] at hk
    refine ⟨c :: (cs.take n ++ front), rest, token :: ts, ?_, .token ?_ hscans, hrest⟩
    · rw [List.cons_append, List.append_assoc, ← hsplit]
    · simpa [hn] using hk

/-- The tokens of a text are what a scan of all of it reads, and the end token. -/
theorem tokensFrom_eq_ok : tokensFrom pos cs = .ok ts ↔
    ∃ us, Scans [] pos cs us ∧ ts = us ++ [⟨.eof, pos + byteLength cs, []⟩] := by
  constructor
  · intro h
    obtain ⟨front, rest, us, rfl, hscans, hrest⟩ := exists_scans pos cs
    rw [tokensFrom_of_scans hscans] at h
    rcases hrest with rfl | ⟨c, back, fault, rfl, hblank, hfault⟩
    · rw [tokensFrom] at h
      cases h
      exact ⟨us, by simpa using hscans, by simp⟩
    · rw [tokensFrom, if_neg (by simp [hblank]), hfault] at h
      cases h
  · rintro ⟨us, hscans, rfl⟩
    exact tokensFrom_eq_ok_of_scans hscans

/-- A scan that fails has read the text in front of the fault. -/
theorem scans_of_tokensFrom_eq_error (h : tokensFrom pos cs = .error e) :
    ∃ front c back ts, cs = front ++ c :: back ∧ Scans (c :: back) pos front ts ∧
      lexeme c back = .error e.fault ∧ e.position = pos + byteLength front := by
  obtain ⟨front, rest, ts, rfl, hscans, hrest⟩ := exists_scans pos cs
  rw [tokensFrom_of_scans hscans] at h
  rcases hrest with rfl | ⟨c, back, fault, rfl, hblank, hfault⟩
  · rw [tokensFrom] at h
    cases h
  · rw [tokensFrom, if_neg (by simp [hblank]), hfault] at h
    cases h
    exact ⟨front, c, back, ts, rfl, hscans, hfault, rfl⟩

/-! ## What stands behind -/

/-- What is read stays the same if the text is cut off somewhere behind it. -/
theorem Scans.of_append (h : Scans (rest ++ back) pos front ts) : Scans rest pos front ts := by
  induction h with
  | done => exact .done
  | blank hc h ih => exact .blank hc ih
  | token hk h ih =>
    refine .token ?_ ih
    rw [← List.append_assoc, ← List.append_assoc] at hk
    rw [← List.append_assoc]
    exact lexeme_of_append hk (by simp)

/-- What is read stays the same if a blank follows. -/
theorem Scans.followed (h : Scans [] pos front ts) (hb : isAsciiBlank b = true)
    (back : List Char) : Scans (b :: back) pos front ts := by
  induction h with
  | done => exact .done
  | blank hc h ih => exact .blank hc ih
  | token hk h ih =>
    refine .token ?_ ih
    rw [List.append_nil] at hk
    rw [← List.append_assoc]
    exact lexeme_append_blank hk (isBlank_of_isAsciiBlank hb) back

theorem Scans.append (h : Scans (back ++ rest) pos front ts)
    (h' : Scans rest (pos + byteLength front) back us) :
    Scans rest pos (front ++ back) (ts ++ us) := by
  induction h with
  | done => exact h'
  | blank hc h ih =>
    refine .blank hc (ih ?_)
    rwa [Nat.add_assoc]
  | @token pos c cs front k ts hk h ih =>
    rw [List.cons_append, List.append_assoc, List.cons_append]
    refine .token (by rwa [List.append_assoc]) (ih ?_)
    rw [Token.stop, Token.len, Nat.add_assoc, ← byteLength_append]
    exact h'

/-- Texts with a blank between them are read one after the other. -/
theorem Scans.spaced (h : Scans [] pos front ts) (hb : isAsciiBlank b = true)
    (h' : Scans rest (pos + byteLength front + b.utf8Size) back us) :
    Scans rest pos (front ++ b :: back) (ts ++ us) :=
  (h.followed hb (back ++ rest)).append (.blank hb h')

/-! ## Other places -/

/-- What a token is, wherever it stands. -/
def Token.reading (t : Token) : TokenKind × List Char := (t.kind, t.lexeme)

/-- A text is read in the same way at another place. -/
theorem Scans.placed (h : Scans rest pos front ts) (pos' : Nat) :
    ∃ us, Scans rest pos' front us ∧ us.map Token.reading = ts.map Token.reading := by
  induction h generalizing pos' with
  | done => exact ⟨[], .done, rfl⟩
  | @blank pos c front ts hc h ih =>
    obtain ⟨us, hus, hreading⟩ := ih (pos' + c.utf8Size)
    exact ⟨us, .blank hc hus, hreading⟩
  | @token pos c cs front k ts hk h ih =>
    obtain ⟨us, hus, hreading⟩ := ih (Token.stop ⟨k, pos', c :: cs⟩)
    exact ⟨⟨k, pos', c :: cs⟩ :: us, .token hk hus, by rw [List.map_cons, hreading]; rfl⟩

/-! ## Blanks at the ends -/

theorem Scans.trimStart (h : Scans rest pos front ts) :
    ∃ pos', Scans rest pos' (Text.trimStart front) ts := by
  induction h with
  | done => exact ⟨0, .done⟩
  | blank hc h ih =>
    rw [Text.trimStart, List.dropWhile_cons_of_pos (isBlank_of_isAsciiBlank hc)]
    exact ih
  | token hk h ih =>
    rw [Text.trimStart, List.dropWhile_cons_of_neg (by simp [(lexeme_ends hk).1])]
    exact ⟨_, .token hk h⟩

/-- A blank at the end is read as nothing. -/
theorem Scans.of_append_blank (h : Scans [] pos (front ++ [b]) ts) (hb : isBlank b = true) :
    Scans [] pos front ts := by
  generalize hall : front ++ [b] = all at h
  induction h generalizing front with
  | done => simp at hall
  | @blank pos c cs ts hc h ih =>
    cases front with
    | nil =>
      obtain ⟨rfl, rfl⟩ := List.cons.inj hall
      cases h
      exact .done
    | cons d front =>
      obtain ⟨rfl, rfl⟩ := List.cons.inj hall
      exact .blank hc (ih rfl)
  | @token pos c cs after k ts hk h ih =>
    rcases List.eq_nil_or_concat after with rfl | ⟨after, d, rfl⟩
    · -- The token would end with the blank.
      have hlast := (lexeme_ends hk).2 b
      rw [List.take_left, ← List.append_nil cs, ← hall] at hlast
      simp [hb] at hlast
    · rw [List.concat_eq_append] at *
      have hall' : front ++ [b] = (c :: (cs ++ after)) ++ [d] := by simpa using hall
      obtain ⟨rfl, hd⟩ := List.append_inj' hall' rfl
      obtain rfl := List.singleton_inj.mp hd
      refine .token ?_ (ih rfl)
      rw [List.append_nil] at hk ⊢
      rw [← List.append_assoc] at hk
      exact lexeme_of_append hk (by simp)

theorem Scans.of_append_blanks (h : Scans [] pos (front ++ back) ts)
    (hb : ∀ b ∈ back, isBlank b = true) : Scans [] pos front ts := by
  induction back using List.reverseRecOn with
  | nil => simpa using h
  | append_singleton back b ih =>
    rw [← List.append_assoc] at h
    exact ih (h.of_append_blank (hb b (by simp))) fun d hd => hb d (by simp [hd])

/-- Blanks at either end are read as nothing. -/
theorem Scans.trim (h : Scans [] pos front ts) : ∃ pos', Scans [] pos' (Text.trim front) ts := by
  obtain ⟨pos', h⟩ := h.trimStart
  have hsplit := List.takeWhile_append_dropWhile (p := isBlank)
    (l := (Text.trimStart front).reverse)
  have hkept : Text.trimStart front =
      Text.trim front ++ ((Text.trimStart front).reverse.takeWhile isBlank).reverse := by
    rw [Text.trim, ← List.reverse_append, hsplit, List.reverse_reverse]
  rw [hkept] at h
  exact ⟨pos', h.of_append_blanks fun b hb => List.mem_takeWhile_imp (List.mem_reverse.mp hb)⟩

/-! ## Where tokens stand -/

/-- A token that is read stands in the text with its characters at its place, and is read there. -/
theorem Scans.exists_of_mem (h : Scans rest pos front ts) (ht : t ∈ ts) :
    ∃ before after c cs, front = before ++ (t.lexeme ++ after) ∧
      t.pos = pos + byteLength before ∧ t.lexeme = c :: cs ∧
      lexeme c (cs ++ (after ++ rest)) = .ok (t.kind, cs.length) := by
  induction h with
  | done => cases ht
  | @blank pos c front ts hc h ih =>
    obtain ⟨before, after, d, cs, rfl, hpos, hlexeme, hk⟩ := ih ht
    exact ⟨c :: before, after, d, cs, rfl, by rw [hpos, byteLength_cons, Nat.add_assoc],
      hlexeme, hk⟩
  | @token pos c cs front k ts hk h ih =>
    rcases List.mem_cons.mp ht with rfl | ht
    · exact ⟨[], front, c, cs, rfl, rfl, rfl, hk⟩
    · obtain ⟨before, after, d, ds, rfl, hpos, hlexeme, hk⟩ := ih ht
      refine ⟨c :: (cs ++ before), after, d, ds, by simp, ?_, hlexeme, hk⟩
      rw [hpos, Token.stop, Token.len, Nat.add_assoc, ← byteLength_append, List.cons_append]

theorem Scans.ne_eof (h : Scans rest pos front ts) (ht : t ∈ ts) : t.kind ≠ .eof := by
  obtain ⟨before, after, c, cs, -, -, -, hk⟩ := h.exists_of_mem ht
  exact lexeme_ne_eof hk

theorem Scans.bounds (h : Scans rest pos front ts) (ht : t ∈ ts) :
    pos ≤ t.pos ∧ t.pos < t.stop ∧ t.stop ≤ pos + byteLength front := by
  obtain ⟨before, after, c, cs, rfl, hpos, hlexeme, -⟩ := h.exists_of_mem ht
  have hc := c.utf8Size_pos
  simp [Token.stop, Token.len, hlexeme, hpos]
  omega

theorem Scans.ordered (h : Scans rest pos front ts) :
    ts.Pairwise fun t u => t.pos < u.pos ∧ t.stop ≤ u.pos := by
  induction h with
  | done => exact .nil
  | blank hc h ih => exact ih
  | @token pos c cs front k ts hk h ih =>
    refine .cons (fun u hu => ?_) ih
    have hle := (h.bounds hu).1
    have hlt : pos < Token.stop ⟨k, pos, c :: cs⟩ := by
      simp [Token.stop, Token.len]
      have := c.utf8Size_pos
      omega
    exact ⟨by show pos < u.pos; omega, hle⟩

/-- A character that no token covers is a blank. -/
theorem Scans.blank_of_uncovered (h : Scans rest pos front ts) {before after : List Char}
    (hfront : front = before ++ c :: after)
    (huncovered : ∀ t ∈ ts, ¬(t.pos ≤ pos + byteLength before ∧
      pos + byteLength before < t.stop)) : isAsciiBlank c = true := by
  induction h generalizing before with
  | done => simp at hfront
  | @blank pos d front ts hd h ih =>
    cases before with
    | nil =>
      obtain ⟨rfl, -⟩ := List.cons.inj hfront
      exact hd
    | cons d' before =>
      obtain ⟨rfl, rfl⟩ := List.cons.inj hfront
      refine ih rfl fun t ht => ?_
      rw [Nat.add_assoc, ← byteLength_cons]
      exact huncovered t ht
  | @token pos d cs front k ts hk h ih =>
    -- Nothing in front of the end of the first token is uncovered.
    have hstop : ¬pos + byteLength before < Token.stop ⟨k, pos, d :: cs⟩ := fun hlt =>
      huncovered _ List.mem_cons_self ⟨Nat.le_add_right _ _, hlt⟩
    have hsplit : (d :: cs) ++ front = before ++ c :: after := hfront
    rcases List.append_eq_append_iff.mp hsplit with ⟨before', rfl, hafter⟩ | ⟨cs', hcs, hafter⟩
    · refine ih hafter fun t ht => ?_
      rw [Token.stop, Token.len, Nat.add_assoc, ← byteLength_append]
      exact huncovered t (List.mem_cons_of_mem _ ht)
    · cases cs' with
      | nil =>
        refine @ih [] (by simpa using hafter.symm) fun t ht => ?_
        rw [List.append_nil] at hcs
        have := huncovered t (List.mem_cons_of_mem _ ht)
        simpa [Token.stop, Token.len, hcs] using this
      | cons c' cs' =>
        refine absurd ?_ hstop
        have := c'.utf8Size_pos
        rw [Token.stop, Token.len]
        simp only [hcs, byteLength_append, byteLength_cons]
        omega

/-- Just a blank text is read as no token. -/
theorem Scans.eq_nil_iff (h : Scans rest pos front ts) :
    ts = [] ↔ ∀ c ∈ front, isBlank c = true := by
  constructor
  · rintro rfl c hc
    obtain ⟨before, after, rfl⟩ := List.append_of_mem hc
    exact isBlank_of_isAsciiBlank (h.blank_of_uncovered rfl (by simp))
  · intro hblank
    cases ts with
    | nil => rfl
    | cons t ts =>
      obtain ⟨before, after, c, cs, rfl, -, hlexeme, hk⟩ := h.exists_of_mem List.mem_cons_self
      have hc : isBlank c = true := hblank c (by simp [hlexeme])
      exact absurd hc (by simp [(lexeme_ends hk).1])

/-! ## The whole text -/

/-- Whether a byte offset stands between characters of the text or at one of its ends. -/
def IsBoundary (source : String) (p : Nat) : Prop := String.Pos.Raw.IsValid source ⟨p⟩

/-- The text from byte `p` to byte `q` is `text`. -/
def IsSlice (source : String) (p q : Nat) (text : List Char) : Prop :=
  ∃ before after, source.toList = before ++ (text ++ after) ∧ p = byteLength before ∧
    q = p + byteLength text

/-- Tokens cover a text but for its blanks, each read as it would be by itself. -/
structure Tiles (source : String) (ts : List Token) : Prop where
  ended : ∃ body, ts = body ++ [⟨.eof, source.utf8ByteSize, []⟩] ∧ ∀ t ∈ body, t.kind ≠ .eof
  ordered : ts.Pairwise fun t u => t.pos < u.pos ∧ t.stop ≤ u.pos
  bounded : ∀ t ∈ ts, IsBoundary source t.pos ∧ IsBoundary source t.stop
  spelled : ∀ t ∈ ts, IsSlice source t.pos t.stop t.lexeme
  blank : ∀ p c, IsSlice source p (p + c.utf8Size) [c] →
    (∀ t ∈ ts, ¬(t.pos ≤ p ∧ p < t.stop)) → isAsciiBlank c = true
  alone : ∀ t ∈ ts, t.kind ≠ .eof →
    tokenize (String.ofList t.lexeme) = .ok [⟨t.kind, 0, t.lexeme⟩, ⟨.eof, t.len, []⟩]

theorem isBoundary_of_append (h : source.toList = front ++ back) :
    IsBoundary source (byteLength front) := by
  refine String.Pos.Raw.isValid_iff_exists_append.mpr ⟨.ofList front, .ofList back, ?_, ?_⟩
  · rw [← String.ofList_append, ← h, String.ofList_toList]
  · rw [String.rawEndPos, utf8ByteSize_ofList]

theorem IsSlice.isBoundary {p q : Nat} {text : List Char} (h : IsSlice source p q text) :
    IsBoundary source p ∧ IsBoundary source q := by
  obtain ⟨before, after, hsource, rfl, rfl⟩ := h
  refine ⟨isBoundary_of_append hsource, ?_⟩
  rw [← byteLength_append]
  exact isBoundary_of_append (by rw [hsource, List.append_assoc])

theorem utf8ByteSize_eq (source : String) : source.utf8ByteSize = byteLength source.toList := by
  rw [← utf8ByteSize_ofList, String.ofList_toList]

theorem IsBoundary.le {p : Nat} (h : IsBoundary source p) : p ≤ source.utf8ByteSize :=
  String.Pos.Raw.le_iff.mp h.le_rawEndPos

theorem exists_scans_of_tokenize (h : tokenize source = .ok ts) :
    ∃ us, Scans [] 0 source.toList us ∧ ts = us ++ [⟨.eof, source.utf8ByteSize, []⟩] := by
  obtain ⟨us, hscans, rfl⟩ := tokensFrom_eq_ok.mp h
  exact ⟨us, hscans, by rw [Nat.zero_add, utf8ByteSize_eq]⟩

/-- Between a token and the next there are only blanks. -/
theorem Tiles.gap {before after : List Token} {t u : Token} {gap : List Char}
    (h : Tiles source (before ++ t :: u :: after)) (hgap : IsSlice source t.stop u.pos gap) :
    ∀ c ∈ gap, isAsciiBlank c = true := by
  intro c hc
  obtain ⟨left, right, rfl⟩ := List.append_of_mem hc
  obtain ⟨front, back, hsource, hstop, hpos⟩ := hgap
  have hlen : u.pos = t.stop + byteLength left + (c.utf8Size + byteLength right) := by
    rw [hpos, byteLength_append, byteLength_cons, Nat.add_assoc]
  have hsize := c.utf8Size_pos
  refine h.blank (t.stop + byteLength left) c
    ⟨front ++ left, right ++ back, by simp [hsource], by simp [hstop], by simp⟩ ?_
  -- A token either ends where the gap begins, or begins where it ends.
  obtain ⟨-, hrest, hbefore⟩ := List.pairwise_append.mp h.ordered
  obtain ⟨-, hafter⟩ := List.pairwise_cons.mp hrest
  intro v hv hcovers
  rcases List.mem_append.mp hv with hv | hv
  · have := (hbefore v hv t List.mem_cons_self).2
    have : t.pos ≤ t.stop := Nat.le_add_right _ _
    omega
  rcases List.mem_cons.mp hv with rfl | hv
  · omega
  rcases List.mem_cons.mp hv with rfl | hv
  · omega
  · have := ((List.pairwise_cons.mp hafter).1 v hv).1
    omega

/-- The characters of a token are a text of their own that is read as that token. -/
theorem tokenize_lexeme (h : lexeme c (cs ++ rest) = .ok (k, cs.length)) :
    tokenize (String.ofList (c :: cs)) =
      .ok [⟨k, 0, c :: cs⟩, ⟨.eof, byteLength (c :: cs), []⟩] := by
  have hk : lexeme c (cs ++ ([] ++ [])) = .ok (k, cs.length) := by
    rw [List.append_nil, List.append_nil]
    exact lexeme_of_append h (Nat.le_refl _)
  have hscans : Scans [] 0 (c :: (cs ++ [])) [⟨k, 0, c :: cs⟩] := .token hk .done
  rw [List.append_nil] at hscans
  rw [tokenize, String.toList_ofList, tokensFrom_eq_ok_of_scans hscans, Nat.zero_add]
  rfl

theorem Scans.tiles (h : Scans [] 0 source.toList ts) :
    Tiles source (ts ++ [⟨.eof, source.utf8ByteSize, []⟩]) := by
  have hend : IsSlice source source.utf8ByteSize source.utf8ByteSize [] :=
    ⟨source.toList, [], by simp, utf8ByteSize_eq source, rfl⟩
  -- The end of the text is a token as well, of no characters.
  have hslice : ∀ t ∈ ts ++ [⟨.eof, source.utf8ByteSize, []⟩],
      IsSlice source t.pos t.stop t.lexeme := fun t ht => by
    rcases List.mem_append.mp ht with ht | ht
    · obtain ⟨before, after, c, cs, hsource, hpos, -⟩ := h.exists_of_mem ht
      exact ⟨before, after, hsource, by rw [hpos, Nat.zero_add], rfl⟩
    · obtain rfl := List.mem_singleton.mp ht
      exact hend
  refine ⟨⟨ts, rfl, fun t ht => h.ne_eof ht⟩, ?_, fun t ht => (hslice t ht).isBoundary, hslice,
    ?_, ?_⟩
  · refine List.pairwise_append.mpr ⟨h.ordered, List.pairwise_singleton _ _, fun t ht u hu => ?_⟩
    obtain rfl := List.mem_singleton.mp hu
    have := h.bounds ht
    simp only [utf8ByteSize_eq]
    omega
  · rintro p c ⟨before, after, hsource, rfl, -⟩ huncovered
    refine h.blank_of_uncovered hsource fun t ht => ?_
    rw [Nat.zero_add]
    exact huncovered t (List.mem_append_left _ ht)
  · intro t ht heof
    rcases List.mem_append.mp ht with ht | ht
    · obtain ⟨before, after, c, cs, -, -, hlexeme, hk⟩ := h.exists_of_mem ht
      rw [Token.len, hlexeme]
      exact tokenize_lexeme hk
    · obtain rfl := List.mem_singleton.mp ht
      exact absurd rfl heof

/-- The tokens of a text cover it but for its blanks. If the text has none, the fault stands between
two of its characters, and the tokens that are read in front of it are those of the text up to
there. -/
theorem tokens_tile_source (source : String) :
    (∀ ts, tokenize source = .ok ts → Tiles source ts) ∧
    ∀ e, tokenize source = .error e →
      IsBoundary source e.position ∧ e.position < source.utf8ByteSize ∧
      ∃ front c back ts, source.toList = front ++ c :: back ∧ e.position = byteLength front ∧
        Scans (c :: back) 0 front ts ∧ lexeme c back = .error e.fault ∧
        tokenize (String.ofList front) = .ok (ts ++ [⟨.eof, e.position, []⟩]) := by
  refine ⟨fun ts h => ?_, fun e h => ?_⟩
  · obtain ⟨us, hscans, rfl⟩ := tokensFrom_eq_ok.mp h
    rw [Nat.zero_add, ← utf8ByteSize_eq]
    exact hscans.tiles
  · obtain ⟨front, c, back, ts, hsource, hscans, hfault, hpos⟩ := scans_of_tokensFrom_eq_error h
    rw [Nat.zero_add] at hpos
    refine ⟨hpos ▸ isBoundary_of_append hsource, ?_, front, c, back, ts, hsource, hpos, hscans,
      hfault, ?_⟩
    · have := c.utf8Size_pos
      rw [hpos, utf8ByteSize_eq, hsource, byteLength_append, byteLength_cons]
      omega
    · have hcut : Scans [] 0 front ts := hscans.of_append
      rw [tokenize, String.toList_ofList, tokensFrom_eq_ok_of_scans hcut, Nat.zero_add, hpos]

/-- Characters of two bytes inside a string, and a fault behind one. -/
theorem tokens_tile_source_accents :
    Tiles "'é' <>x" [⟨.string "é", 0, ['\'', 'é', '\'']⟩, ⟨.ne, 5, ['<', '>']⟩,
        ⟨.ident "x", 7, ['x']⟩, ⟨.eof, 8, []⟩] ∧
      IsBoundary "'é' #x" 5 := by
  constructor
  · exact (tokens_tile_source "'é' <>x").1 _ (by decide +kernel)
  · exact ((tokens_tile_source "'é' #x").2 ⟨5, .unexpectedCharacter '#'⟩ (by decide +kernel)).1

end Switchyard.Filter
