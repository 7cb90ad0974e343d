/-!
# Glob patterns

The patterns of `LIKE`: `*` stands for any run of characters, `?` for exactly one, and a backslash
makes the next character stand for itself. A pattern matches whole texts only.

The matcher goes through the pieces and the text at once. A run takes nothing at first; when a piece
behind it does not fit, the most recent run takes one character more, and no run before it is looked
at again. So a match takes at most about as many steps as pieces times characters, however many
stars there are.

* `Glob.Attempt.lt_of_next?`: every step comes nearer to the end.
-/

namespace Switchyard

/-- One piece of a pattern. -/
inductive GlobPiece where
  | literal (c : Char)
  | one
  | run
deriving DecidableEq, Repr

/-- Whether a piece takes exactly one character, and this one. -/
def GlobPiece.takes : GlobPiece → Char → Bool
  | .literal d, c => d == c
  | .one, _ => true
  | .run, _ => false

/-- A glob pattern: its text and its pieces. -/
structure Glob where
  source : String
  pieces : List GlobPiece
deriving DecidableEq, Repr

namespace Glob

/-- The pieces of a pattern text. Stars in a row count as one; a backslash at the end stands for
itself. -/
def piecesOf : List Char → List GlobPiece
  | [] => []
  | '*' :: cs =>
    match piecesOf cs with
    | .run :: rest => .run :: rest
    | rest => .run :: rest
  | '?' :: cs => .one :: piecesOf cs
  | '\\' :: c :: cs => .literal c :: piecesOf cs
  | c :: cs => .literal c :: piecesOf cs

/-- The pattern of a text. -/
def ofString (pattern : String) : Glob :=
  ⟨pattern, piecesOf pattern.toList⟩

/-- A run that may take more: the pieces behind it, and the text that they are tried on. -/
structure Resumption where
  pieces : List GlobPiece
  text : List Char
deriving DecidableEq, Repr

/-- A match under way: the pieces and the text that are left, and the most recent run. -/
structure Attempt where
  pieces : List GlobPiece
  text : List Char
  latest : Option Resumption
deriving DecidableEq, Repr

namespace Attempt

/-- Goes back to the most recent run, which takes one character more. -/
def resume? (a : Attempt) : Option Attempt :=
  match a.latest with
  | some ⟨pieces, _ :: text⟩ => some ⟨pieces, text, some ⟨pieces, text⟩⟩
  | _ => none

/-- The next step of a match that has text left, if it does not fail. -/
def next? (a : Attempt) : Option Attempt :=
  match a.pieces, a.text with
  | .run :: pieces, text => some ⟨pieces, text, some ⟨pieces, text⟩⟩
  | p :: pieces, c :: text => if p.takes c then some ⟨pieces, text, a.latest⟩ else a.resume?
  | _, _ => a.resume?

/-- How much text a match may still go through, from the most recent run on. -/
def extent (a : Attempt) : Nat :=
  match a.latest with
  | none => a.text.length + 1
  | some r => max r.text.length a.text.length

theorem extent_lt_of_resume? {a b : Attempt} (h : a.resume? = some b) : b.extent < a.extent := by
  unfold resume? at h
  split at h
  · next qs d ds hl =>
    cases h
    simp only [extent, hl, List.length_cons]
    omega
  · cases h

/-- A step that goes back leaves less text for the run; any other leaves no more of it, and fewer
pieces. -/
theorem lt_of_next? {a b : Attempt} (h : a.next? = some b) :
    b.extent < a.extent ∨ b.extent ≤ a.extent ∧ b.pieces.length < a.pieces.length := by
  unfold next? at h
  split at h
  · next ps hp =>
    cases h
    refine .inr ⟨?_, by simp [hp]⟩
    cases hl : a.latest <;> simp only [extent, hl] <;> omega
  · next p ps c cs _ hp hc =>
    split at h
    · cases h
      have hlen : a.text.length = cs.length + 1 := by simp [hc]
      refine .inr ⟨?_, by simp [hp]⟩
      cases hl : a.latest <;> simp only [extent, hl] <;> omega
    · exact .inl (extent_lt_of_resume? h)
  · exact .inl (extent_lt_of_resume? h)

/-- Goes on until the text is taken or the match fails. What is left of the pieces then must be
runs. -/
def finish (a : Attempt) : Bool :=
  match a.text with
  | [] => a.pieces.all (· == .run)
  | _ :: _ =>
    match _h : a.next? with
    | none => false
    | some b => b.finish
termination_by (a.extent, a.pieces.length)
decreasing_by
  rcases lt_of_next? _h with hlt | ⟨hle, hlt⟩
  · exact Prod.Lex.left _ _ hlt
  · rcases Nat.lt_or_eq_of_le hle with hlt' | heq
    · exact Prod.Lex.left _ _ hlt'
    · rw [heq]
      exact Prod.Lex.right _ hlt

end Attempt

/-- Whether the pattern matches the whole text. -/
def accepts (g : Glob) (text : String) : Bool :=
  (Attempt.mk g.pieces text.toList none).finish

end Glob

end Switchyard
