import Switchyard.Proofs.Filter.Height

/-!
# Counting enclosures

The levels of the parser bound how deep a text encloses. The same parsers may keep one counter
instead: it is raised when an enclosure is entered, lowered when it is left, and a text is refused
when it passes the limit. Then the parsers call each other without a bound of their own.

* `Counting`, `counted`: refusals with a counter, and the enclosures that are counted.
* `CountsAs`, `Keeps`: what counts comes to what is read without a counter, and the counter is back
  where it was. Every parser of the grammar does if those it calls do.
* `keepsLevel_turn`, `keepsLevel_of_turn_eq`: the level of a parser is what the counter leaves room
  for.
* `counting`, `turn_eq_iff`: parsers that call themselves inside enclosures, and no others do.
* `depth_limits_tree`: what the limit says of the counter and of the trees.
-/

namespace Switchyard.Filter

open Switchyard.Filter.Parser (Level Enclosure maxDepth separated closedList argument arguments
  primary keywordPredicate predicate conjunction disjunction marked negate level wholeText)

/-- Refusals, with the number of enclosures that have been entered and not been left. -/
abbrev Counting := StateT Nat (Except CompileError)

namespace Counting

variable {α β : Type}

/-! ## Counted enclosures -/

/-- Counts an enclosure. The one that passes the limit is refused. -/
def enter (pos : Nat) : Counting Unit := fun depth =>
  if depth + 1 > maxDepth then .error ⟨pos, .nestedTooDeeply⟩ else .ok ((), depth + 1)

/-- Takes an enclosure off the counter. -/
def leave : Counting Unit := fun depth => .ok ((), depth - 1)

/-- What an enclosure holds is entered before it is read and left behind it. -/
def counted : Enclosure Counting := fun pos held => do
  enter pos
  let read ← held
  leave
  pure read

/-- The parsers, in terms of those that they call inside enclosures. -/
def turn (calls : Level Counting) : Level Counting := .around counted calls

/-! ## The counter goes back -/

/-- Started with the counter at `d`, `x` comes to what `y` does, and the counter is at `d` again. -/
def CountsAs (d : Nat) (x : Counting α) (y : Except CompileError α) : Prop :=
  x d = y.map fun a => (a, d)

namespace CountsAs

variable {d : Nat} {x : Counting α} {y : Except CompileError α}

theorem pure (a : α) : CountsAs d (pure a) (pure a) := rfl

/-- What does not look at the counter leaves it as it is. -/
theorem lift (y : Except CompileError α) : CountsAs d (liftM y) (liftM y) := by
  cases y <;> rfl

theorem bind {f : α → Counting β} {g : α → Except CompileError β} (h : CountsAs d x y)
    (hfg : ∀ a, CountsAs d (f a) (g a)) : CountsAs d (x >>= f) (y >>= g) := by
  have hrun : (x >>= f) d = x d >>= fun r => f r.1 r.2 := rfl
  unfold CountsAs
  rw [hrun, h]
  cases y with
  | error e => rfl
  | ok a => exact hfg a

theorem ite {c : Prop} [Decidable c] {x' : Counting α} {y' : Except CompileError α}
    (h : CountsAs d x y) (h' : CountsAs d x' y') :
    CountsAs d (if c then x else x') (if c then y else y') := by
  split
  · exact h
  · exact h'

end CountsAs

/-- Started with the counter at `d`, the parser `c` comes to what `p` does, and the counter is at
`d` again. -/
def Keeps (d : Nat) (c : ParserIn Counting α) (p : Parser α) : Prop :=
  ∀ ts, CountsAs d (c ts) (p ts)

variable {d : Nat}

theorem counted_run (pos : Nat) (x : Counting (Expr × List Token)) :
    counted pos x d = enter pos d >>= fun r => x r.2 >>= fun s => .ok (s.1, s.2 - 1) := rfl

/-- Below the limit an enclosure is what is read in it with the counter one higher. -/
theorem CountsAs.counted {x : Counting (Expr × List Token)}
    {y : Except CompileError (Expr × List Token)} (h : CountsAs (d + 1) x y) (hd : d < maxDepth)
    (pos : Nat) : CountsAs d (counted pos x) (Enclosure.plain pos y) := by
  have henter : enter pos d = .ok ((), d + 1) := if_neg (Nat.not_lt.mpr hd)
  unfold CountsAs
  rw [counted_run, henter, ok_bind, h]
  cases y <;> rfl

theorem counted_at_limit (hd : maxDepth ≤ d) (pos : Nat) (x : Counting (Expr × List Token))
    (y : Except CompileError (Expr × List Token)) :
    CountsAs d (counted pos x) (Enclosure.none pos y) := by
  have henter : enter pos d = .error ⟨pos, .nestedTooDeeply⟩ := if_pos (Nat.lt_succ_of_le hd)
  unfold CountsAs
  rw [counted_run, henter]
  rfl

/-! ## The parsers of the grammar -/

theorem Keeps.separated {c : ParserIn Counting α} {p : Parser α} (h : Keeps d c p)
    (separator : TokenKind) (fuel : Nat) :
    Keeps d (separated separator c fuel) (Parser.separated separator p fuel) := by
  induction fuel with
  | zero => exact fun ts => (h ts).bind fun _ => .pure _
  | succ fuel ih =>
    exact fun ts => (h ts).bind fun _ => ((ih _).bind fun _ => .pure _).ite (.pure _)

variable {expression operand negation : ParserIn Counting Expr}
  {expression' operand' negation' : Parser Expr}

theorem Keeps.closedList {c : ParserIn Counting α} {p : Parser α} (h : Keeps d c p)
    (close : TokenKind) (what : String) :
    Keeps d (closedList close what c) (Parser.closedList close what p) := fun _ =>
  .ite ((CountsAs.pure _).bind fun _ => (CountsAs.lift _).bind fun _ => .pure _)
    ((h.separated _ _ _).bind fun _ => (CountsAs.lift _).bind fun _ => .pure _)

theorem Keeps.argument (h : Keeps d expression expression') :
    Keeps d (argument expression) (Parser.argument expression') := by
  intro ts
  unfold Parser.argument
  split
  · exact (h _).bind fun _ => .pure _
  · exact (h _).bind fun _ => .pure _

theorem Keeps.arguments (h : Keeps d expression expression') :
    Keeps d (arguments expression) (Parser.arguments expression') := fun _ =>
  (CountsAs.lift _).bind fun _ => h.argument.closedList _ _ _

theorem Keeps.primary (h : Keeps d expression expression') :
    Keeps d (primary expression) (Parser.primary expression') := by
  intro ts
  unfold Parser.primary
  dsimp only
  -- The four literals, a group, a name, and what starts no operand.
  split
  · exact .pure _
  · exact .pure _
  · exact .pure _
  · exact .pure _
  · exact (h _).bind fun _ => (CountsAs.lift _).bind fun _ => .pure _
  · exact ((h.arguments _).bind fun _ => .pure _).ite ((CountsAs.lift _).bind fun _ => .pure _)
  · exact .lift _

theorem Keeps.keywordPredicate (h : Keeps d operand operand') (left : Expr) (negated : Bool)
    (pos : Nat) : Keeps d (keywordPredicate operand left negated pos)
      (Parser.keywordPredicate operand' left negated pos) := by
  intro ts
  unfold Parser.keywordPredicate
  dsimp only
  -- `LIKE`, `MATCHES`, `BETWEEN`, `IN`, `IS`, and an operand alone.
  split
  · split
    · exact .pure _
    · exact .lift _
  · split
    · exact .pure _
    · exact .lift _
  · exact (h _).bind fun _ => (CountsAs.lift _).bind fun _ => (h _).bind fun _ => .pure _
  · split
    · exact .lift _
    · exact (h.closedList _ _ _).bind fun _ => .pure _
  · exact (CountsAs.lift _).bind fun _ => .pure _
  · exact .pure _

theorem Keeps.predicate (h : Keeps d operand operand') :
    Keeps d (predicate operand) (Parser.predicate operand') := by
  intro ts
  refine (CountsAs.lift _).ite ((h ts).bind fun (left, rest) => ?_)
  dsimp only
  split
  · exact (h _).bind fun _ => .pure _
  · exact h.keywordPredicate _ _ _ _

theorem Keeps.conjunction (h : Keeps d negation negation') :
    Keeps d (conjunction negation) (Parser.conjunction negation') := fun _ =>
  (h.separated _ _ _).bind fun _ => .pure _

theorem Keeps.disjunction (h : Keeps d negation negation') :
    Keeps d (disjunction negation) (Parser.disjunction negation') := fun _ =>
  (h.conjunction.separated _ _ _).bind fun _ => .pure _

/-! ## Parsers that call each other -/

/-- Started with the counter at `d`, the parsers come to what those of a level do. -/
structure KeepsLevel (d : Nat) (calls : Level Counting) (l : Level (Except CompileError)) :
    Prop where
  expression : Keeps d calls.expression l.expression
  negation : Keeps d calls.negation l.negation
  operand : Keeps d calls.operand l.operand

variable {calls : Level Counting} {l : Level (Except CompileError)}

theorem Keeps.marked {enclose : Enclosure (Except CompileError)}
    {inner plain : ParserIn Counting Expr} {inner' plain' : Parser Expr}
    (henclose : ∀ pos ts, CountsAs d (counted pos (inner ts)) (enclose pos (inner' ts)))
    (hplain : Keeps d plain plain') (mark : TokenKind) (wrap : Expr → Nat → Expr) :
    Keeps d (marked counted mark wrap inner plain)
      (Parser.marked enclose mark wrap inner' plain') := fun ts =>
  ((henclose _ _).bind fun _ => .pure _).ite (hplain ts)

/-- The parsers around others keep the counter if the enclosures in them do. -/
theorem keepsLevel_around {enclose : Enclosure (Except CompileError)}
    (hx : ∀ pos ts, CountsAs d (counted pos (disjunction calls.negation ts))
      (enclose pos (Parser.disjunction l.negation ts)))
    (hn : ∀ pos ts, CountsAs d (counted pos (calls.negation ts)) (enclose pos (l.negation ts)))
    (ho : ∀ pos ts, CountsAs d (counted pos (calls.operand ts)) (enclose pos (l.operand ts))) :
    KeepsLevel d (turn calls) (.around enclose l) := by
  have hexpression : Keeps d (turn calls).expression (Level.around enclose l).expression :=
    fun ts => hx _ ts
  have hoperand : Keeps d (turn calls).operand (Level.around enclose l).operand :=
    Keeps.marked ho hexpression.primary .minus negate
  exact ⟨hexpression, Keeps.marked hn hoperand.predicate .not .not, hoperand⟩

/-- The level of a parser is what the counter leaves room for. -/
theorem keepsLevel_turn
    (h : d < maxDepth → KeepsLevel (d + 1) calls (level (maxDepth - (d + 1)))) :
    KeepsLevel d (turn calls) (level (maxDepth - d)) := by
  by_cases hd : d < maxDepth
  · have hlevel : maxDepth - d = maxDepth - (d + 1) + 1 := by omega
    have hinner := h hd
    rw [hlevel]
    exact keepsLevel_around (fun pos ts => (hinner.negation.disjunction ts).counted hd pos)
      (fun pos ts => (hinner.negation ts).counted hd pos)
      fun pos ts => (hinner.operand ts).counted hd pos
  · have hle : maxDepth ≤ d := Nat.le_of_not_lt hd
    rw [Nat.sub_eq_zero_of_le hle]
    exact keepsLevel_around (fun pos _ => counted_at_limit hle pos _ _)
      (fun pos _ => counted_at_limit hle pos _ _) fun pos _ => counted_at_limit hle pos _ _

/-- Parsers that call themselves inside enclosures come to what the levels do, and the counter is
back where it was: by induction on how far it is from the limit. -/
theorem keepsLevel_of_turn_eq (h : turn calls = calls) (d : Nat) :
    KeepsLevel d calls (level (maxDepth - d)) := by
  have hturn : KeepsLevel d (turn calls) (level (maxDepth - d)) :=
    keepsLevel_turn fun _ => keepsLevel_of_turn_eq h (d + 1)
  rwa [h] at hturn
termination_by maxDepth - d

/-- The parsers, with so many enclosures one inside the other written out. -/
def unrolled : Nat → Level Counting
  | 0 => turn .refusing
  | n + 1 => turn (unrolled n)

/-- What is enclosed deeper than it is written out is behind the limit and never read. -/
theorem keepsLevel_unrolled {n : Nat} (hn : maxDepth ≤ d + n) :
    KeepsLevel d (unrolled n) (level (maxDepth - d)) := by
  induction n generalizing d with
  | zero => exact keepsLevel_turn fun hd => absurd hd (Nat.not_lt.mpr hn)
  | succ n ih => exact keepsLevel_turn fun _ => ih (by omega)

/-- The parsers that call themselves inside enclosures. -/
def counting : Level Counting := unrolled maxDepth

theorem keepsLevel_counting (d : Nat) : KeepsLevel d counting (level (maxDepth - d)) :=
  keepsLevel_unrolled (Nat.le_add_left _ _)

/-- Parsers that come to what the same levels do are the same. -/
theorem eq_of_keepsLevel {calls calls' : Level Counting} {l : Nat → Level (Except CompileError)}
    (h : ∀ d, KeepsLevel d calls (l d)) (h' : ∀ d, KeepsLevel d calls' (l d)) : calls = calls' := by
  have heq : ∀ {c c' : ParserIn Counting Expr} {p : Nat → Parser Expr}, (∀ d, Keeps d c (p d)) →
      (∀ d, Keeps d c' (p d)) → c = c' :=
    fun hc hc' => funext fun ts => funext fun d => (hc d ts).trans (hc' d ts).symm
  obtain ⟨expression, negation, operand⟩ := calls
  obtain ⟨expression', negation', operand'⟩ := calls'
  rw [Level.mk.injEq]
  exact ⟨heq (fun d => (h d).expression) fun d => (h' d).expression,
    heq (fun d => (h d).negation) fun d => (h' d).negation,
    heq (fun d => (h d).operand) fun d => (h' d).operand⟩

/-- The parsers call themselves inside enclosures, and they are the only ones that do. -/
theorem turn_eq_iff : turn calls = calls ↔ calls = counting := by
  constructor
  · exact fun h => eq_of_keepsLevel (keepsLevel_of_turn_eq h) keepsLevel_counting
  · rintro rfl
    exact eq_of_keepsLevel (fun d => keepsLevel_turn fun _ => keepsLevel_counting (d + 1))
      keepsLevel_counting

/-! ## Whole texts -/

/-- A parser leaves the counter where it found it, whatever it reads. -/
def Restores (c : ParserIn Counting α) : Prop := ∀ ts d x d', c ts d = .ok (x, d') → d' = d

theorem restores_of_keeps {c : ParserIn Counting α} {p : Nat → Parser α}
    (h : ∀ d, Keeps d c (p d)) : Restores c := by
  intro ts d x d' hc
  obtain ⟨r, -, hr⟩ := map_eq_ok.mp ((h d ts).symm.trans hc)
  exact (congrArg Prod.snd hr).symm

/-- Every construct of the language leaves the counter where it was. -/
structure RestoresAll (calls : Level Counting) : Prop where
  expression : Restores calls.expression
  conjunction : Restores (conjunction calls.negation)
  negation : Restores calls.negation
  predicate : Restores (predicate calls.operand)
  operand : Restores calls.operand
  primary : Restores (primary calls.expression)
  arguments : Restores (arguments calls.expression)
  items : ∀ close what, Restores (closedList close what calls.operand)

theorem restoresAll_counting : RestoresAll counting where
  expression := restores_of_keeps fun d => (keepsLevel_counting d).expression
  conjunction := restores_of_keeps fun d => (keepsLevel_counting d).negation.conjunction
  negation := restores_of_keeps fun d => (keepsLevel_counting d).negation
  predicate := restores_of_keeps fun d => (keepsLevel_counting d).operand.predicate
  operand := restores_of_keeps fun d => (keepsLevel_counting d).operand
  primary := restores_of_keeps fun d => (keepsLevel_counting d).expression.primary
  arguments := restores_of_keeps fun d => (keepsLevel_counting d).expression.arguments
  items close what :=
    restores_of_keeps fun d => (keepsLevel_counting d).operand.closedList close what

/-- The expression of a filter text, read with a counter that starts at zero. -/
def parse (source : String) : Except CompileError Expr := do
  let ts ← tokenize source
  let (e, _) ← wholeText counting.expression ts 0
  .ok e

theorem parse_eq (source : String) : parse source = Filter.parse source := by
  have hwhole : ∀ ts, CountsAs 0 (wholeText counting.expression ts) (parseTokens ts) := fun ts =>
    (CountsAs.lift _).ite (((keepsLevel_counting 0).expression ts).bind fun _ =>
      (CountsAs.pure _).ite (.lift _))
  refine congrArg (tokenize source >>= ·) (funext fun ts => ?_)
  rw [hwhole ts]
  cases parseTokens ts <;> rfl

end Counting

/-- A text is parsed to a tree of at most 256 expressions one inside the other, and none of them
compiles to a higher one: going through the trees takes no more calls inside calls than that. With a
counter the parser does the same, and each construct leaves the counter where it was. -/
theorem depth_limits_tree :
    (∀ source e, parse source = .ok e → e.height ≤ 4 * 64 ∧
      ∀ fs scope x n t, e.Occurs [] scope x → x.lower fs scope = .ok (n, t) →
        n.height ≤ 4 * 64) ∧
    (∀ source, Counting.parse source = parse source) ∧
    Counting.turn Counting.counting = Counting.counting ∧
    Counting.RestoresAll Counting.counting := by
  refine ⟨fun source e he => ?_, Counting.parse_eq, Counting.turn_eq_iff.mpr rfl,
    Counting.restoresAll_counting⟩
  have hheight : e.height ≤ 4 * 64 := height_le_of_parse he
  refine ⟨hheight, fun fs scope x n t hx hn => ?_⟩
  calc n.height ≤ x.height := height_of_lower hn
    _ ≤ e.height := Expr.height_of_occurs hx
    _ ≤ 4 * 64 := hheight

/-- A predicate in a predicate, with an `OR` and an `AND` between them, around a `NOT`, a range and
a minus sign. -/
def deepSource : String :=
  "any(payload.xs, x => x.tag IN ['a'] OR any(x.ys, y => NOT -y.n BETWEEN 1 AND 9 AND y IS NULL))"

theorem depth_limits_tree_deep :
    ∃ e x ts y depth, parse deepSource = .ok e ∧ e.height = 8 ∧ e.height ≤ 4 * 64 ∧
      compile .empty deepSource = .ok x ∧ x.root.height ≤ 4 * 64 ∧
      tokenize deepSource = .ok ts ∧ Counting.counting.expression ts 5 = .ok (y, depth) ∧
      depth = 5 := by
  have hparse : (parse deepSource).toOption.map Expr.height = some 8 := by decide +kernel
  have hcompile : (compile .empty deepSource).toOption.isSome = true := by decide +kernel
  have hcount : ((tokenize deepSource).toOption.bind fun ts =>
      (Counting.counting.expression ts 5).toOption).isSome = true := by decide +kernel
  obtain ⟨x, hx⟩ := exists_eq_ok hcompile
  obtain ⟨e, root, t, he, hroot, -, rfl⟩ := compile_eq_ok.mp hx
  obtain ⟨⟨y, depth⟩, hy⟩ := Option.isSome_iff_exists.mp hcount
  obtain ⟨ts, hts, hy⟩ := Option.bind_eq_some_iff.mp hy
  have hcounting := toOption_eq_some.mp hy
  obtain ⟨htree, -, -, hrestores⟩ := depth_limits_tree
  obtain ⟨hle, hnodes⟩ := htree _ _ he
  rw [he] at hparse
  exact ⟨e, _, ts, y, depth, he, Option.some.inj hparse, hle, hx, hnodes _ _ _ _ _ .root hroot,
    toOption_eq_some.mp hts, hcounting, hrestores.expression _ _ _ _ hcounting⟩

end Switchyard.Filter
