import Switchyard.Proofs.Filter.Places
import Switchyard.Proofs.Filter.Registration

/-!
# Calls of host functions

A registered function is called by its name, unless the name is a keyword: the registry takes
keywords for names, and the language does not.

* `IsKeyword`, `compileArgument`, `callPieces`: what a call is made of.
* `ReadsAsOperand`: pieces that are an operand wherever they stand, as those of a call are
  (`readsAsOperand_call`) and those of a literal (`readsAsOperand_literal`).
* `not_isKeyword_of_parse`: no expression calls a function whose name is a keyword.
* `callable_unless_keyword`: comparisons of a call with a literal compile if the name is no keyword.
  If it is one, the registration changes nothing.
-/

namespace Switchyard.Filter

open Switchyard.Filter.Parser Grammar

/-- A keyword, in any letter case. -/
def IsKeyword (name : String) : Prop :=
  ∃ p ∈ TokenKind.keywords, name.toList.map Char.toLower = p.1.toList

instance (name : String) : Decidable (IsKeyword name) :=
  inferInstanceAs (Decidable (∃ p ∈ TokenKind.keywords, _))

/-- What a text compiles to that stands inside of one enclosure, as an argument of a call does. -/
def compileArgument (fs : HostFunctions) (text : String) : Compiled Typed := do
  let ts ← tokenize text
  let (e, rest) ← (level (maxDepth - 1)).expression ts
  if (peek rest).kind = .eof then e.lower fs []
  else failAt (peek rest) (.unexpected (found (peek rest)))

/-- The pieces of a call with these arguments. -/
def callPieces (name : String) (args : List String) : List (List Char) :=
  name.toList :: ['('] :: ([[',']].intercalate (args.map pieces) ++ [[')']])

variable {fs fs' : HostFunctions} {f : HostFunction} {source text literal : String}
  {texts : List String} {res : Typed} {rs : List Typed} {us : List Token} {v : Value}

/-! ## Arguments -/

theorem exists_phrase_of_compileArgument (h : compileArgument fs text = .ok res) :
    ∃ t : Phrase (.one .disjunction), Scans [] 0 text.toList t.tokens ∧ t.depth < maxDepth ∧
      t.meaning.lower fs [] = .ok res := by
  obtain ⟨ts, hts, h⟩ := bind_eq_ok.mp h
  obtain ⟨us, hscans, rfl⟩ := tokensFrom_eq_ok.mp hts
  obtain ⟨⟨e, rest⟩, he, h⟩ := bind_eq_ok.mp h
  have hended : Ended (us ++ [⟨.eof, 0 + Text.byteLength text.toList, []⟩]) := ⟨us, _, rfl, rfl⟩
  obtain ⟨t, ht, rfl, htokens, hrest⟩ :=
    (levelReads_level (maxDepth - 1)).expression.sound hended he
  dsimp only at h
  split at h
  · next hpeek =>
    have hus : t.tokens = us :=
      eq_of_peek_eof (fun u hu => hscans.ne_eof hu) htokens hrest hpeek
    exact ⟨t, hus ▸ hscans, ht, h⟩
  · cases h

/-- An argument means the same wherever it stands. -/
theorem exists_argument (h : compileArgument fs text = .ok res)
    (hus : us.map Token.reading = (pieces text).map readingOf) :
    ∃ t : Phrase (.one .argument), t.tokens = us ∧ t.depth < maxDepth ∧
      ∃ e, t.meaning = .expr e ∧ e.lower fs [] = .ok res := by
  obtain ⟨t, hscans, ht, hlower⟩ := exists_phrase_of_compileArgument h
  rw [pieces_of_scans hscans, ← hscans.map_reading] at hus
  obtain ⟨t', rfl, hdepth, hsame⟩ := t.exists_of_reading hus
  exact ⟨.expr t', rfl, hdepth ▸ ht, _, rfl, lower_renamed hsame hlower⟩

theorem exists_arguments (name : String)
    (h : List.Forall₂ (fun text res => compileArgument fs text = .ok res) texts rs)
    (hne : texts ≠ [])
    (hus : us.map Token.reading = ([[',']].intercalate (texts.map pieces)).map readingOf) :
    ∃ ts : Phrase (.some .argument), ts.tokens = us ∧ ts.depth < maxDepth ∧
      lowerArgs fs name ts.meaning [] = .ok rs := by
  induction h generalizing us with
  | nil => exact absurd rfl hne
  | @cons text res texts rs hres hmore ih =>
    cases hmore with
    | nil =>
      rw [List.map_singleton, List.intercalate_singleton] at hus
      obtain ⟨t, rfl, ht, e, he, hlower⟩ := exists_argument hres hus
      refine ⟨.last t, rfl, ht, ?_⟩
      rw [Phrase.meaning, he]
      exact lowerArgs_expr.mpr ⟨res, [], hlower, rfl, rfl⟩
    | cons hres' hmore =>
      rw [List.map_cons, List.map_cons, List.intercalate_cons_cons, List.append_assoc] at hus
      obtain ⟨us, m, vs, rfl, hfront, hback⟩ :=
        exists_split_of_pieces (@Spells.operator "," .comma (by decide)) hus
      obtain ⟨t, rfl, ht, e, he, hlower⟩ := exists_argument hres hfront
      obtain ⟨ts, rfl, hts, hlowers⟩ := ih (List.cons_ne_nil _ _) hback
      refine ⟨.more t m ts, rfl, Nat.max_lt.mpr ⟨ht, hts⟩, ?_⟩
      rw [Phrase.meaning, he]
      exact lowerArgs_expr.mpr ⟨res, _, hlower, hlowers, rfl⟩

/-! ## Calls -/

theorem isName_of_isValidName {name : String} (h : HostFunctions.isValidName name = true)
    (hk : ¬IsKeyword name) : IsName name.toList := by
  unfold HostFunctions.isValidName at h
  split at h
  · cases h
  · next c cs hname =>
    obtain ⟨hc, hcs⟩ := Bool.and_eq_true_iff.mp h
    exact ⟨⟨c, cs, hname, hc, List.all_eq_true.mp hcs⟩, fun p hp heq => hk ⟨p, hp, heq⟩⟩

/-- A call of a registered function becomes a call of that function. -/
theorem lower_host (h : fs.register f = .ok fs') {scope : List String} {args : List Arg} {pos : Nat}
    (hargs : lowerArgs fs' f.name args scope = .ok rs) (harity : rs.length = f.arity) :
    (Expr.call f.name args pos).lower fs' scope = .ok (.host f (rs.map (·.1)), none) := by
  have hown : ¬IsOwnName f.name := by
    rw [← isReserved_iff, (HostFunctions.register_eq_ok.mp h).1]
    exact Bool.false_ne_true
  have hbuiltin : Builtin.ofName? f.name = none :=
    Option.not_isSome_iff_eq_none.mp fun hb => hown (.inl hb)
  have hquantifier : quantifierOf? f.name args.length = none :=
    Option.not_isSome_iff_eq_none.mp fun hq => hown (.inr ⟨_, hq⟩)
  have hfind := HostFunctions.find?_register_self h
  exact (lower_call hquantifier).mpr
    ⟨rs, hargs, callNode_eq_ok.mpr (.inr ⟨hbuiltin, f, hfind, harity, rfl⟩)⟩

/-- Wherever the pieces stand, they are an operand that compiles to `res`. -/
def ReadsAsOperand (fs : HostFunctions) (texts : List (List Char)) (res : Typed) : Prop :=
  ∀ us, us.map Token.reading = texts.map readingOf →
    ∃ e : Phrase (.one .operand), e.tokens = us ∧ e.depth < maxDepth ∧
      e.meaning.lower fs [] = .ok res

theorem readsAsOperand_call (h : fs.register f = .ok fs') (hk : ¬IsKeyword f.name)
    (hargs : List.Forall₂ (fun text res => compileArgument fs' text = .ok res) texts rs)
    (harity : texts.length = f.arity) :
    ReadsAsOperand fs' (callPieces f.name texts) (.host f (rs.map (·.1)), none) := by
  intro us hus
  have hname : Spells (.ident f.name) f.name.toList := by
    simpa using Spells.name (isName_of_isValidName (HostFunctions.register_eq_ok.mp h).2.1 hk)
  obtain ⟨m, us, rfl, hopening⟩ := exists_mark_of_pieces hname hus
  obtain ⟨opening, us, rfl, hinner⟩ :=
    exists_mark_of_pieces (@Spells.operator "(" .leftParen (by decide)) hopening
  obtain ⟨vs, closing, ws, rfl, hvs, hend⟩ :=
    exists_split_of_pieces (@Spells.operator ")" .rightParen (by decide)) hinner
  obtain rfl := List.map_eq_nil_iff.mp hend
  have hlist : ∃ ts : Phrase (.any .argument), ts.tokens = vs ∧ ts.depth < maxDepth ∧
      lowerArgs fs' f.name ts.meaning [] = .ok rs := by
    cases hargs with
    | nil =>
      obtain rfl := List.map_eq_nil_iff.mp hvs
      exact ⟨.empty, rfl, by decide, rfl⟩
    | cons hres hmore =>
      obtain ⟨ts, rfl, hts, hlower⟩ :=
        exists_arguments f.name (.cons hres hmore) (List.cons_ne_nil _ _) hvs
      exact ⟨.items ts, rfl, hts, hlower⟩
  obtain ⟨ts, rfl, hts, hlower⟩ := hlist
  exact ⟨.call m f.name opening ts closing, rfl, hts,
    lower_host h hlower (hargs.length_eq.symm.trans harity)⟩

/-! ## Comparisons -/

theorem readsAsOperand_literal (h : IsLiteral literal v) :
    ReadsAsOperand fs (pieces literal) (.const v, some v.type) := by
  intro us hus
  obtain ⟨vs, hscans, hkinds⟩ := h.exists_scans
  rw [pieces_of_scans hscans, ← hscans.map_reading] at hus
  rw [← kinds_of_reading hus] at hkinds
  obtain ⟨e, rfl, hdepth, pos, he⟩ := exists_operand hkinds
  exact ⟨e, rfl, Nat.lt_of_le_of_lt hdepth (by decide), he ▸ lower_literal.mpr rfl⟩

/-- A comparison of two operands compiles if both do and at least one is not constant. -/
theorem compile_compare {left right : List (List Char)} {sign : String} {op : CompareOp}
    {a b : Node} {s t : StaticType} (hl : ReadsAsOperand fs left (a, s))
    (hr : ReadsAsOperand fs right (b, t)) (hsign : (sign, compareKind op) ∈ operators)
    (horder : op.isOrdering = true → s.mayCompare t = true)
    (hfold : (Node.compare op a b).isFoldable = false)
    (h : pieces source = left ++ sign.toList :: right) :
    compile fs source = .ok ⟨source, .compare op a b⟩ := by
  obtain ⟨us, hscans, hus⟩ := exists_scans_of_pieces h (by simp)
  obtain ⟨us, m, vs, rfl, hleft, hright⟩ := exists_split_of_pieces (.operator hsign) hus
  obtain ⟨l, rfl, hdl, hl⟩ := hl us hleft
  obtain ⟨r, rfl, hdr, hr⟩ := hr vs hright
  have hparse : parse source = .ok (.compare op l.meaning r.meaning m.pos) :=
    parse_of_scans
      (t := .disjunction (.last (.conjunction (.last (.plain (.tested l (.compare m op r)))))))
      hscans (Nat.succ_le_of_lt (Nat.max_lt.mpr ⟨hdl, hdr⟩))
  refine compile_eq_ok.mpr ⟨_, .compare op a b, some .bool, hparse, ?_, rfl, rfl⟩
  exact lower_compare.mpr ⟨a, s, b, t, hl, hr, horder, fold_eq_ok.mpr (.inr ⟨hfold, rfl, rfl⟩)⟩

/-- An order is asked of a literal that has one. -/
theorem mayCompare_of_isLiteral (h : IsLiteral literal v) (hv : v.type ≠ .bool) :
    StaticType.mayCompare none (some v.type) = true ∧
      StaticType.mayCompare (some v.type) none = true := by
  obtain ⟨ts, ks, -, -, hkinds⟩ := h
  cases hkinds with
  | negated x => exact ⟨rfl, rfl⟩
  | plain l =>
    cases l with
    | bool b => exact absurd rfl hv
    | _ => exact ⟨rfl, rfl⟩

/-- Every comparison of a call of the function with a literal, in either order, compiles to one of a
call of the host function. The arguments are as many texts as the function takes that compile where
they stand. -/
def HostFunction.IsCallableIn (fs : HostFunctions) (f : HostFunction) : Prop :=
  ∀ (source literal sign : String) (texts : List String) (rs : List Typed) (v : Value)
    (op : CompareOp),
    List.Forall₂ (fun text res => compileArgument fs text = .ok res) texts rs →
    texts.length = f.arity → IsLiteral literal v → (sign, compareKind op) ∈ operators →
    (op.isOrdering = true → v.type ≠ .bool) →
    (pieces source = callPieces f.name texts ++ sign.toList :: pieces literal →
      compile fs source = .ok ⟨source, .compare op (.host f (rs.map (·.1))) (.const v)⟩) ∧
    (pieces source = pieces literal ++ sign.toList :: callPieces f.name texts →
      compile fs source = .ok ⟨source, .compare op (.const v) (.host f (rs.map (·.1)))⟩)

theorem isCallable_of_register (h : fs.register f = .ok fs') (hk : ¬IsKeyword f.name) :
    f.IsCallableIn fs' := by
  intro source literal sign texts rs v op hargs harity hliteral hsign horder
  have hcall := readsAsOperand_call h hk hargs harity
  have hvalue : ReadsAsOperand fs' (pieces literal) (.const v, some v.type) :=
    readsAsOperand_literal hliteral
  have hordered := fun ho => mayCompare_of_isLiteral hliteral (horder ho)
  exact ⟨compile_compare hcall hvalue hsign (fun ho => (hordered ho).1) rfl,
    compile_compare hvalue hcall hsign (fun ho => (hordered ho).2) rfl⟩

/-! ## Keywords -/

/-- The functions that are called have the property. -/
def AllFunctions (P : String → Prop) (ms : List Mention) : Prop :=
  ∀ name, .function name ∈ ms → P name

section Keywords

variable {P : String → Prop} {ms ns : List Mention}

@[simp] theorem allFunctions_nil : AllFunctions P [] := fun _ h => nomatch h

@[simp] theorem allFunctions_root {name : String} :
    AllFunctions P (.root name :: ms) ↔ AllFunctions P ms := by
  simp [AllFunctions]

@[simp] theorem allFunctions_param {name : String} :
    AllFunctions P (.param name :: ms) ↔ AllFunctions P ms := by
  simp [AllFunctions]

@[simp] theorem allFunctions_function {name : String} :
    AllFunctions P (.function name :: ms) ↔ P name ∧ AllFunctions P ms := by
  simp [AllFunctions]

@[simp] theorem allFunctions_append :
    AllFunctions P (ms ++ ns) ↔ AllFunctions P ms ∧ AllFunctions P ns := by
  simp only [AllFunctions, List.mem_append, or_imp, forall_and]

theorem allFunctions_mentionsAll {es : List Expr} :
    AllFunctions P (mentionsAll es) ↔ ∀ e ∈ es, AllFunctions P e.mentions := by
  induction es with
  | nil => simp [mentionsAll]
  | cons e es ih => simp [mentionsAll, ih]

theorem allFunctions_mentionsArgs {args : List Arg} :
    AllFunctions P (mentionsArgs args) ↔ ∀ a ∈ args, AllFunctions P (mentionsArgs [a]) := by
  induction args with
  | nil => simp [mentionsArgs]
  | cons a args ih => cases a <;> simp [mentionsArgs, ih]

end Keywords

/-- Whether a meaning calls functions with the property only. A test does if it calls no others than
its operand and those. -/
def Grammar.Nonterminal.Calls (P : String → Prop) : (n : Nonterminal) → n.Meaning → Prop
  | .test, x => ∀ e : Expr, AllFunctions P e.mentions → AllFunctions P (x e).mentions
  | .argument, x => AllFunctions P (mentionsArgs [x])
  | .disjunction, x | .conjunction, x | .negation, x | .predicate, x | .operand, x =>
    AllFunctions P (Expr.mentions x)

/-- Several meanings call such functions only if each does. -/
def Grammar.Form.Calls (P : String → Prop) : (f : Form) → f.Meaning → Prop
  | .one n, x => n.Calls P x
  | .some n, xs | .any n, xs => ∀ x ∈ xs, n.Calls P x

theorem allFunctions_joined {P : String → Prop} {join : List Expr → Expr} {es : List Expr}
    (hjoin : (join es).mentions = mentionsAll es) (h : ∀ e ∈ es, AllFunctions P e.mentions) :
    AllFunctions P (joined join es).mentions := by
  unfold joined
  split
  · exact h _ List.mem_cons_self
  · rw [hjoin]
    exact allFunctions_mentionsAll.mpr h

theorem mentions_negate (e : Expr) (pos : Nat) : (negate e pos).mentions = e.mentions := by
  unfold negate
  split <;> rfl

/-- The functions that a phrase calls are named by its tokens. -/
theorem Grammar.Phrase.calls {P : String → Prop} {f : Form} (t : Phrase f)
    (h : ∀ u ∈ t.tokens, ∀ name, u.kind = .ident name → P name) : f.Calls P t.meaning := by
  induction t with
  | disjunction xs ih => exact allFunctions_joined rfl (ih h)
  | conjunction xs ih => exact allFunctions_joined rfl (ih h)
  | not m e ih => exact ih fun u hu => h u (.tail _ hu)
  | plain p ih => exact ih h
  | existing m r => exact allFunctions_root.mpr allFunctions_nil
  | existingIn m opening r closing => exact allFunctions_root.mpr allFunctions_nil
  | tested e t ihe iht =>
    obtain ⟨he, ht⟩ := List.forall_mem_append.mp h
    exact iht ht _ (ihe he)
  -- A test is given its left operand, so its calls are those of its own tokens and of that operand.
  | untested => exact fun e he => he
  | compare m op right ih =>
    exact fun e he => allFunctions_append.mpr ⟨he, ih fun u hu => h u (.tail _ hu)⟩
  | text n m test m' pattern =>
    cases test with
    | like => exact fun e he => he
    | matching => exact fun e he => he
  | between n m low m' high ihl ihh =>
    obtain ⟨-, hrest⟩ := List.forall_mem_append.mp h
    obtain ⟨-, hrest⟩ := List.forall_mem_cons.mp hrest
    obtain ⟨hlow, hrest⟩ := List.forall_mem_append.mp hrest
    obtain ⟨-, hhigh⟩ := List.forall_mem_cons.mp hrest
    exact fun e he =>
      allFunctions_append.mpr ⟨allFunctions_append.mpr ⟨he, ihl hlow⟩, ihh hhigh⟩
  | within n m b opening items closing ih =>
    obtain ⟨-, hrest⟩ := List.forall_mem_append.mp h
    obtain ⟨-, hrest⟩ := List.forall_mem_cons.mp hrest
    obtain ⟨-, hrest⟩ := List.forall_mem_cons.mp hrest
    obtain ⟨hitems, -⟩ := List.forall_mem_append.mp hrest
    exact fun e he => allFunctions_append.mpr ⟨he, allFunctions_mentionsAll.mpr (ih hitems)⟩
  | isNull m n m' => exact fun e he => he
  | minus m e ih =>
    show AllFunctions P (negate e.meaning m.pos).mentions
    rw [mentions_negate]
    exact ih fun u hu => h u (.tail _ hu)
  | literal m l => exact allFunctions_nil
  | group opening e closing ih =>
    obtain ⟨-, hrest⟩ := List.forall_mem_cons.mp h
    exact ih (List.forall_mem_append.mp hrest).1
  | call m name opening args closing ih =>
    obtain ⟨hname, hrest⟩ := List.forall_mem_cons.mp h
    obtain ⟨-, hrest⟩ := List.forall_mem_cons.mp hrest
    have hargs := ih (List.forall_mem_append.mp hrest).1
    exact allFunctions_function.mpr ⟨hname name rfl, allFunctions_mentionsArgs.mpr hargs⟩
  | path r => exact allFunctions_root.mpr allFunctions_nil
  | expr e ih => exact allFunctions_append.mpr ⟨ih h, allFunctions_nil⟩
  | lambda m param arrow body ih =>
    have hbody := ih fun u hu => h u (.tail _ (.tail _ hu))
    exact allFunctions_param.mpr (allFunctions_append.mpr ⟨hbody, allFunctions_nil⟩)
  | last x ih => exact List.forall_mem_singleton.mpr (ih h)
  | more x m xs ihx ihxs =>
    obtain ⟨hx, hrest⟩ := List.forall_mem_append.mp h
    exact List.forall_mem_cons.mpr ⟨ihx hx, ihxs (List.forall_mem_cons.mp hrest).2⟩
  | empty => exact List.forall_mem_nil _
  | items xs ih => exact ih h

/-- A word that is read as a name is no keyword. -/
theorem not_isKeyword_of_ofWord {word : List Char} {name : String}
    (h : TokenKind.ofWord word = .ident name) : ¬IsKeyword name := by
  unfold TokenKind.ofWord at h
  split at h
  · next word' k hfind =>
    have hmem : k ∈ TokenKind.keywords.map (·.2) :=
      List.mem_map.mpr ⟨_, List.mem_of_find?_eq_some hfind, rfl⟩
    exact absurd (h ▸ hmem) ident_not_keyword
  · next hfind =>
    obtain rfl := TokenKind.ident.inj h
    rintro ⟨p, hp, heq⟩
    rw [String.toList_ofList] at heq
    have hnone := List.find?_eq_none.mp hfind p hp
    simp [heq] at hnone

theorem not_isKeyword_of_lexeme {c : Char} {cs : List Char} {k : TokenKind} {n : Nat}
    {name : String} (h : lexeme c cs = .ok (k, n)) (hk : k = .ident name) : ¬IsKeyword name := by
  cases lexeme_eq_ok.mp h with
  | operator h =>
    unfold operator? at h
    split at h <;> cases h <;> cases hk
  | string => cases hk
  | number => cases hk
  | word => exact not_isKeyword_of_ofWord hk

/-- No expression calls a function whose name is a keyword. -/
theorem not_isKeyword_of_parse {e : Expr} (h : parse source = .ok e) {name : String}
    (hm : .function name ∈ e.mentions) : ¬IsKeyword name := by
  obtain ⟨ts, hts, h⟩ := bind_eq_ok.mp h
  obtain ⟨us, hscans, rfl⟩ := tokensFrom_eq_ok.mp hts
  obtain ⟨t, rfl, rfl, -⟩ := (parseTokens_eq_ok rfl fun u hu => hscans.ne_eof hu).mp h
  refine t.calls (P := fun name => ¬IsKeyword name) (fun u hu name hname => ?_) name hm
  obtain ⟨before, after, c, cs, -, -, -, hk⟩ := hscans.exists_of_mem hu
  exact not_isKeyword_of_lexeme hk hname

/-! ## Registered functions -/

/-- A registered function can be called by its name unless that is a keyword. If it is, no text
calls the function: with it and without it the same texts compile, and to the same. -/
theorem callable_unless_keyword (h : fs.register f = .ok fs') :
    (¬IsKeyword f.name → f.IsCallableIn fs') ∧
      (IsKeyword f.name → ∀ source x, compile fs' source = .ok x ↔ compile fs source = .ok x) := by
  refine ⟨isCallable_of_register h, fun hk source x => ?_⟩
  have hsame : ∀ ast, parse source = .ok ast → ∀ name, .function name ∈ ast.mentions →
      fs'.find? name = fs.find? name := by
    intro ast hparse name hm
    refine HostFunctions.find?_register_of_ne h ?_
    rintro rfl
    exact not_isKeyword_of_parse hparse hm hk
  have hpatterns := HostFunctions.patterns_register h
  exact ⟨compile_elsewhere hpatterns.symm fun ast hparse name hm f hf =>
      hsame ast hparse name hm ▸ hf,
    compile_elsewhere hpatterns fun ast hparse name hm f hf =>
      (hsame ast hparse name hm).symm ▸ hf⟩

/-- A function of two arguments that gives the first one back. -/
def preferred : HostFunction := ⟨"preferred_2", 2, fun args => ⟨.ok (args.headD .null), 0⟩⟩

theorem callable_unless_keyword_preferred :
    ∃ fs rs, HostFunctions.empty.register preferred = .ok fs ∧ ¬IsKeyword preferred.name ∧
      compile fs "'x' <= preferred_2( payload.a ,length(subject) )" =
        .ok ⟨"'x' <= preferred_2( payload.a ,length(subject) )",
          .compare .le (.const (.string "x")) (.host preferred rs)⟩ := by
  let fs : HostFunctions := ⟨[("preferred_2", preferred)], .standard⟩
  have hpath : ∃ res, compileArgument fs "payload.a" = .ok res := exists_eq_ok (by decide +kernel)
  have hcall : ∃ res, compileArgument fs "length(subject)" = .ok res :=
    exists_eq_ok (by decide +kernel)
  obtain ⟨first, hfirst⟩ := hpath
  obtain ⟨second, hsecond⟩ := hcall
  have hliteral : IsLiteral "'x'" (.string "x") :=
    ⟨[⟨.string "x", 0, "'x'".toList⟩, ⟨.eof, 3, []⟩], [.string "x"], by with_unfolding_all rfl, rfl,
      .plain (.string "x")⟩
  have hkeyword : ¬IsKeyword preferred.name := by decide
  have hregister : HostFunctions.empty.register preferred = .ok fs := rfl
  have hcallable := (callable_unless_keyword hregister).1 hkeyword
  refine ⟨fs, _, rfl, hkeyword, (hcallable _ "'x'" "<=" ["payload.a", "length(subject)"] _ _ .le
    (.cons hfirst (.cons hsecond .nil)) rfl hliteral (by decide) (by decide)).2 ?_⟩
  decide +kernel

/-- A function whose name is a keyword. -/
def membership : HostFunction := ⟨"in", 1, fun _ => ⟨.ok (.bool true), 0⟩⟩

/-- The registry takes the name, and a comparison of a call with a literal is refused. -/
theorem keyword_not_callable :
    ∃ fs res, HostFunctions.empty.register membership = .ok fs ∧
      compileArgument fs "payload.x" = .ok res ∧ IsLiteral "true" (.bool true) ∧
      pieces "in(payload.x) == true" =
        callPieces "in" ["payload.x"] ++ "==".toList :: pieces "true" ∧
      ∀ x, compile fs "in(payload.x) == true" ≠ .ok x := by
  let fs : HostFunctions := ⟨[("in", membership)], .standard⟩
  have hargument : ∃ res, compileArgument fs "payload.x" = .ok res :=
    exists_eq_ok (by decide +kernel)
  have hrefused : (compile fs "in(payload.x) == true").toOption.isSome = false := by decide +kernel
  have hliteral : IsLiteral "true" (.bool true) :=
    ⟨[⟨.bool true, 0, "true".toList⟩, ⟨.eof, 4, []⟩], [.bool true], by with_unfolding_all rfl, rfl,
      .plain (.bool true)⟩
  obtain ⟨res, hres⟩ := hargument
  refine ⟨fs, res, rfl, hres, hliteral, by decide +kernel, fun x hx => ?_⟩
  rw [hx] at hrefused
  cases hrefused

end Switchyard.Filter
