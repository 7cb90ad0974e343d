import Switchyard.Text.Utf8

/-!
# Subject patterns

Subjects are tokens with dots between them, such as `orders.eu.created`. In a pattern `*` stands for
exactly one token and `>`, as the last token only, for one or more. No token of a subject that
matches is empty.

* `first?_of_accepts`: a pattern that starts with a literal accepts only subjects that do so
  too.
-/

namespace Switchyard

/-- The tokens of a subject or of a pattern text. -/
def subjectTokens (text : String) : List String :=
  (text.toList.splitOnP (· == '.')).map String.ofList

/-- The first token of a subject. -/
def firstToken (subject : String) : String := (subjectTokens subject).headD ""

/-- One token of a pattern. -/
inductive SubjectToken where
  | literal (text : String)
  | one
  | tail
deriving DecidableEq, Repr

/-- A subject pattern: its text and its tokens. -/
structure SubjectPattern where
  source : String
  tokens : List SubjectToken
deriving DecidableEq, Inhabited, Repr

/-- What is wrong with a pattern text. -/
inductive SubjectFault where
  | empty
  | emptyToken (position : Nat)
  | tailNotLast
  | partialWildcard (token : String)
deriving DecidableEq, Repr

/-- The text of the fault. -/
def SubjectFault.message : SubjectFault → String
  | .empty => "pattern is empty"
  | .emptyToken position => s!"empty token at position {position}"
  | .tailNotLast => "'>' is only allowed as the final token"
  | .partialWildcard token => s!"wildcard must occupy a whole token, found '{token}'"

/-- A refused pattern text. -/
structure SubjectError where
  pattern : String
  fault : SubjectFault
deriving DecidableEq, Repr

/-- The text of the error, with the pattern. -/
def SubjectError.message (e : SubjectError) : String :=
  s!"invalid subject pattern '{e.pattern}': {e.fault.message}"

namespace SubjectPattern

/-- One token of a pattern text at a position. -/
def token (position : Nat) (isLast : Bool) (text : String) : Except SubjectFault SubjectToken :=
  if text = "" then .error (.emptyToken position)
  else if text = "*" then .ok .one
  else if text = ">" then (if isLast then .ok .tail else .error .tailNotLast)
  else if text.toList.any (fun c => c == '*' || c == '>') then .error (.partialWildcard text)
  else .ok (.literal text)

/-- The tokens of a pattern text from a position on. -/
def tokensFrom (position : Nat) : List String → Except SubjectFault (List SubjectToken)
  | [] => .ok []
  | text :: rest => do
    let t ← token position rest.isEmpty text
    let ts ← tokensFrom (position + 1) rest
    .ok (t :: ts)

/-- The pattern of a text. -/
def parse (text : String) : Except SubjectError SubjectPattern :=
  if text = "" then .error ⟨text, .empty⟩
  else
    match tokensFrom 0 (subjectTokens text) with
    | .ok tokens => .ok ⟨text, tokens⟩
    | .error fault => .error ⟨text, fault⟩

/-- Whether tokens of a pattern fit the tokens of a subject. -/
def fits : List SubjectToken → List String → Bool
  | .tail :: _, parts => !parts.isEmpty && parts.all (· != "")
  | .one :: ts, p :: ps => p != "" && fits ts ps
  | .literal text :: ts, p :: ps => p == text && fits ts ps
  | [], ps => ps.isEmpty
  | _ :: _, [] => false

/-- Whether the pattern accepts a subject. -/
def accepts (p : SubjectPattern) (subject : String) : Bool :=
  fits p.tokens (subjectTokens subject)

/-- The first token, if it is a literal. -/
def first? (p : SubjectPattern) : Option String :=
  match p.tokens with
  | .literal text :: _ => some text
  | _ => none

theorem first?_of_accepts {p : SubjectPattern} {subject first : String}
    (h : p.accepts subject = true) (hf : p.first? = some first) : firstToken subject = first := by
  unfold first? at hf
  unfold accepts at h
  unfold firstToken
  split at hf
  next text ts ht =>
    simp only [Option.some.injEq] at hf
    subst hf
    rw [ht] at h
    cases hs : subjectTokens subject with
    | nil => simp [hs, fits] at h
    | cons q qs =>
      simp only [hs, fits, Bool.and_eq_true, beq_iff_eq] at h
      simpa using h.1
  next => simp at hf

end SubjectPattern

end Switchyard
