import Switchyard.Filter.Lexer
import Switchyard.Filter.Syntax

/-!
# Parsing filters

Precedence, lowest first: `OR`, `AND`, `NOT`, predicates (`==`, `LIKE`, `BETWEEN`, …), unary minus,
and then literals, paths, calls and groups.

A group, an argument, a predicate body, a `NOT` and a minus sign each enclose what is in them. The
grammar is written once over what entering an enclosure does (`Level.around`): the parsers for an
expression, for what may stand under `NOT` and for what may stand under a minus sign, in terms of
those for what is enclosed, in any monad that can refuse a text.

Filters are read in levels, one for each number of enclosures that are still allowed. Entering an
enclosure goes to the level below, and below the last level nothing may be enclosed. So the depth of
a text is bounded and the levels are built by recursion on the number of enclosures that are left.
-/

namespace Switchyard.Filter

/-- What reads a phrase off the front of the tokens, with the effects of a monad. -/
abbrev ParserIn (m : Type → Type) (α : Type) := List Token → m (α × List Token)

/-- What reads a phrase off the front of the tokens. -/
abbrev Parser (α : Type) := ParserIn (Except CompileError) α

namespace Parser

/-- How many enclosures may be around a token. -/
def maxDepth : Nat := 64

/-! ## Tokens -/

/-- The next token. Token lists end with the end token, so there always is one. -/
def peek (ts : List Token) : Token := ts.headD ⟨.eof, 0, []⟩

/-- The tokens behind the next one; the end token stays. -/
def advance (ts : List Token) : List Token :=
  match ts with
  | _ :: t :: rest => t :: rest
  | _ => ts

/-- A token as error messages quote it. -/
def found (t : Token) : Found :=
  if t.kind = .eof then none else some (String.ofList t.lexeme)

/-- Refuses a token with a fault at its place. -/
def failAt (t : Token) (fault : CompileFault) : Except CompileError α :=
  .error ⟨t.pos, fault⟩

/-- Takes a token of the given kind; `what` is its name in the error. -/
def expect (kind : TokenKind) (what : String) : Parser Unit := fun ts =>
  if (peek ts).kind = kind then .ok ((), advance ts)
  else failAt (peek ts) (.expected what (found (peek ts)))

/-! ## Paths -/

/-- The name behind a dot; keywords are names here and keep their spelling. -/
def fieldName? (t : Token) : Option String :=
  match t.kind with
  | .ident name => some name
  | kind => if kind.keyword?.isSome then some (String.ofList t.lexeme) else none

/-- What stands between brackets: a natural number or a quoted key. A number above `2 ^ 64 - 1`
counts as that one. -/
def subscript? (t : Token) : Option Segment :=
  match t.kind with
  | .number x => if x.isInteger && !x.isNegative then some (.index x.toNat64) else none
  | .string key => some (.key key)
  | _ => none

/-- The steps of a path behind its root. -/
def segments : Nat → Parser (List Segment)
  | 0, ts => .ok ([], ts)
  | fuel + 1, ts =>
    match (peek ts).kind with
    | .dot => do
      let name := peek (advance ts)
      match fieldName? name with
      | none => failAt name (.expected "a field name" (found name))
      | some key =>
        let (more, rest) ← segments fuel (advance (advance ts))
        .ok (.key key :: more, rest)
    | .leftBracket => do
      let inner := peek (advance ts)
      match subscript? inner with
      | none => failAt inner .badIndex
      | some segment =>
        let ((), rest) ← expect .rightBracket "']'" (advance (advance ts))
        let (more, rest) ← segments fuel rest
        .ok (segment :: more, rest)
    | _ => .ok ([], ts)

/-- A path whose root has been read. -/
def pathFrom (root : String) (pos : Nat) : Parser Path := fun ts => do
  let (segs, rest) ← segments ts.length ts
  .ok (⟨root, segs, pos⟩, rest)

/-- `EXISTS` and a path, perhaps in parentheses. -/
def existence : Parser Expr := fun ts => do
  let ts := advance ts
  let grouped := (peek ts).kind = .leftParen
  let ts := if grouped then advance ts else ts
  match (peek ts).kind with
  | .ident root =>
    let (p, rest) ← pathFrom root (peek ts).pos (advance ts)
    if grouped then
      let ((), rest) ← expect .rightParen "')'" rest
      .ok (.existing p, rest)
    else .ok (.existing p, rest)
  | _ => failAt (peek ts) .existsWithoutPath

/-! ## Lists -/

variable {m : Type → Type} [Monad m] [MonadLiftT (Except CompileError) m]

/-- One or more phrases with separators between them. `fuel` bounds the number of phrases; the
number of tokens is always enough. -/
def separated (separator : TokenKind) (phrase : ParserIn m α) : Nat → ParserIn m (List α)
  | 0, ts => do
    let (x, rest) ← phrase ts
    pure ([x], rest)
  | fuel + 1, ts => do
    let (x, rest) ← phrase ts
    if (peek rest).kind = separator then
      let (xs, rest) ← separated separator phrase fuel (advance rest)
      pure (x :: xs, rest)
    else pure ([x], rest)

/-- The phrases of a list, up to and with the bracket that closes it; `what` is its name in the
error. -/
def closedList (close : TokenKind) (what : String) (phrase : ParserIn m α) :
    ParserIn m (List α) := fun ts => do
  let (xs, rest) ←
    if (peek ts).kind = close then pure ([], ts)
    else separated .comma phrase ts.length ts
  let ((), rest) ← expect close what rest
  pure (xs, rest)

/-! ## Primaries -/

/-- One argument: a predicate `x => …` or an expression. -/
def argument (expression : ParserIn m Expr) : ParserIn m Arg := fun ts =>
  match (peek ts).kind, (peek (advance ts)).kind with
  | .ident param, .arrow => do
    let (body, rest) ← expression (advance (advance ts))
    pure (.lambda param body (peek ts).pos, rest)
  | _, _ => do
    let (e, rest) ← expression ts
    pure (.expr e, rest)

/-- The argument list of a call, from its opening parenthesis on. -/
def arguments (expression : ParserIn m Expr) : ParserIn m (List Arg) := fun ts => do
  let ((), ts) ← expect .leftParen "'('" ts
  closedList .rightParen "')' to close the argument list" (argument expression) ts

/-- A literal, a group, a call or a path. -/
def primary (expression : ParserIn m Expr) : ParserIn m Expr := fun ts =>
  let t := peek ts
  let rest := advance ts
  match t.kind with
  | .number x => pure (.literal (.number x) t.pos, rest)
  | .string s => pure (.literal (.string s) t.pos, rest)
  | .bool b => pure (.literal (.bool b) t.pos, rest)
  | .null => pure (.literal .null t.pos, rest)
  | .leftParen => do
    let (inner, rest) ← expression rest
    let ((), rest) ← expect .rightParen "')'" rest
    pure (inner, rest)
  | .ident name =>
    if (peek rest).kind = .leftParen then do
      let (args, rest) ← arguments expression rest
      pure (.call name args t.pos, rest)
    else do
      let (p, rest) ← pathFrom name t.pos rest
      pure (.path p, rest)
  | _ => failAt t (.expected "an expression" (found t))

/-- A minus sign before an operand: a number literal is negated in place. -/
def negate (operand : Expr) (pos : Nat) : Expr :=
  match operand with
  | .literal (.number x) _ => .literal (.number x.neg) pos
  | e => .neg e pos

/-! ## Predicates -/

/-- The comparison that a token stands for. -/
def compareOp? : TokenKind → Option CompareOp
  | .eq => some .eq
  | .ne => some .ne
  | .lt => some .lt
  | .le => some .le
  | .gt => some .gt
  | .ge => some .ge
  | _ => none

/-- Whether `NOT` may stand before the keyword of a predicate. -/
def isNegatable : TokenKind → Bool
  | .like | .matching | .between | .within => true
  | _ => false

/-- The bracket that closes a set that the given token opens. -/
def closing? : TokenKind → Option TokenKind
  | .leftParen => some .rightParen
  | .leftBracket => some .rightBracket
  | _ => none

/-- The predicate that a keyword starts behind its left operand, or the operand alone. `pos` is the
offset of the keyword, or of the `NOT` before it. -/
def keywordPredicate (operand : ParserIn m Expr) (left : Expr) (negated : Bool) (pos : Nat) :
    ParserIn m Expr := fun ts =>
  let rest := advance ts
  match (peek ts).kind with
  | .like =>
    match (peek rest).kind with
    | .string pattern => pure (.like left pattern negated pos, advance rest)
    | _ => failAt (peek rest) (.patternNotLiteral "LIKE")
  | .matching =>
    match (peek rest).kind with
    | .string pattern => pure (.matching left pattern negated pos, advance rest)
    | _ => failAt (peek rest) (.patternNotLiteral "MATCHES")
  | .between => do
    let (low, rest) ← operand rest
    let ((), rest) ← expect .and "AND in BETWEEN" rest
    let (high, rest) ← operand rest
    pure (.between left low high negated pos, rest)
  | .within =>
    match closing? (peek rest).kind with
    | none => failAt (peek rest) .setNotBracketed
    | some close => do
      let (items, rest) ← closedList close "closing bracket of IN list" operand (advance rest)
      pure (.within left items negated pos, rest)
  | .is => do
    let isNot := (peek rest).kind = .not
    let rest := if isNot then advance rest else rest
    let ((), rest) ← expect .null "NULL after IS" rest
    pure (.isNull left isNot pos, rest)
  | _ => pure (left, ts)

/-- An operand with the comparison or predicate behind it, or `EXISTS`. -/
def predicate (operand : ParserIn m Expr) : ParserIn m Expr := fun ts =>
  if (peek ts).kind = .existing then existence ts
  else do
    let (left, ts) ← operand ts
    let t := peek ts
    match compareOp? t.kind with
    | some op =>
      let (right, rest) ← operand (advance ts)
      pure (.compare op left right t.pos, rest)
    | none =>
      let negated := t.kind = .not && isNegatable (peek (advance ts)).kind
      keywordPredicate operand left negated t.pos (if negated then advance ts else ts)

/-! ## Connectives -/

/-- A list of operands as one expression; a single operand stands for itself. -/
def joined (join : List Expr → Expr) (operands : List Expr) : Expr :=
  match operands with
  | [e] => e
  | es => join es

/-- Operands with `AND` between them. -/
def conjunction (negation : ParserIn m Expr) : ParserIn m Expr := fun ts => do
  let (es, rest) ← separated .and negation ts.length ts
  pure (joined .and es, rest)

/-- Conjunctions with `OR` between them. -/
def disjunction (negation : ParserIn m Expr) : ParserIn m Expr := fun ts => do
  let (es, rest) ← separated .or (conjunction negation) ts.length ts
  pure (joined .or es, rest)

/-! ## Enclosures -/

/-- What entering an enclosure at an offset makes of reading what it holds. -/
abbrev Enclosure (m : Type → Type) := Nat → m (Expr × List Token) → m (Expr × List Token)

/-- The parsers that enclosures are read with. -/
structure Level (m : Type → Type) where
  /-- A whole expression, as in a group. -/
  expression : ParserIn m Expr
  /-- An expression without `OR` and `AND` outside groups. -/
  negation : ParserIn m Expr
  /-- An operand of a comparison. -/
  operand : ParserIn m Expr

/-- An expression with a mark in front, which encloses it, or one without. -/
def marked (enclose : Enclosure m) (mark : TokenKind) (wrap : Expr → Nat → Expr)
    (inner plain : ParserIn m Expr) : ParserIn m Expr := fun ts =>
  let t := peek ts
  if t.kind = mark then do
    let (e, rest) ← enclose t.pos (inner (advance ts))
    pure (wrap e t.pos, rest)
  else plain ts

/-- The parsers around those of what is enclosed. -/
def Level.around (enclose : Enclosure m) (inner : Level m) : Level m :=
  let expression : ParserIn m Expr := fun ts =>
    enclose (peek ts).pos (disjunction inner.negation ts)
  let operand := marked enclose .minus negate inner.operand (primary expression)
  let negation := marked enclose .not .not inner.negation (predicate operand)
  ⟨expression, negation, operand⟩

/-- Nothing is read. -/
def Level.refusing : Level m :=
  let refuse : ParserIn m Expr := fun ts => failAt (peek ts) .nestedTooDeeply
  ⟨refuse, refuse, refuse⟩

/-- Nothing may be enclosed. -/
def Enclosure.none : Enclosure (Except CompileError) := fun pos _ => .error ⟨pos, .nestedTooDeeply⟩

/-- What an enclosure holds is read as it stands. -/
def Enclosure.plain : Enclosure (Except CompileError) := fun _ held => held

/-- The level in which `depth` enclosures are left. -/
def level : Nat → Level (Except CompileError)
  | 0 => .around .none .refusing
  | depth + 1 => .around .plain (level depth)

/-- A whole text: an expression up to the end token. -/
def wholeText (expression : ParserIn m Expr) (ts : List Token) : m Expr := do
  if (peek ts).kind = .eof then (.error ⟨0, .emptyExpression⟩ : Except CompileError Expr)
  else
    let (e, rest) ← expression ts
    if (peek rest).kind = .eof then pure e
    else failAt (peek rest) (.unexpected (found (peek rest)))

end Parser

/-- The expression that a token list denotes. -/
def parseTokens (ts : List Token) : Except CompileError Expr :=
  Parser.wholeText (Parser.level Parser.maxDepth).expression ts

/-- The expression of a filter text. -/
def parse (source : String) : Except CompileError Expr := do
  parseTokens (← tokenize source)

/-- The path of a text that is a field path and nothing else. -/
def parsePath (source : String) : Except CompileError Path := do
  let ts ← tokenize source
  match (Parser.peek ts).kind with
  | .ident root =>
    let (p, rest) ← Parser.pathFrom root (Parser.peek ts).pos (Parser.advance ts)
    if (Parser.peek rest).kind = .eof then .ok p
    else Parser.failAt (Parser.peek rest) .inputAfterPath
  | _ => Parser.failAt (Parser.peek ts) .notAPath

end Switchyard.Filter
