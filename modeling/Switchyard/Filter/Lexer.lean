import Switchyard.Decimal.Numeral
import Switchyard.Filter.Error
import Switchyard.Filter.Token
import Switchyard.Text.Blank

/-!
# Cutting filter text into tokens

`tokenize` drops ASCII blanks and reads the longest token at the front of the rest until the text
is used up. `lexeme` says what the first token of a text is: its kind and how many characters it
has beyond the first one.
-/

namespace Switchyard.Filter

open Text

/-- What a word starts with. -/
def isWordStart (c : Char) : Bool := c.isAlpha || c == '_'

/-- What a word goes on with. -/
def isWordChar (c : Char) : Bool := c.isAlphanum || c == '_'

/-- The character that a backslash and `c` denote in a string. -/
def unescape (c : Char) : Char :=
  match c with
  | 'n' => '\n'
  | 't' => '\t'
  | 'r' => '\r'
  | c => c

/-- The content of a string after its opening quote, and how many characters it takes with its
closing quote; none if the quote never comes. -/
def quoted (quote : Char) : List Char → Option (List Char × Nat)
  | [] => none
  | '\\' :: c :: cs => (quoted quote cs).map fun (s, n) => (unescape c :: s, n + 2)
  | c :: cs =>
    if c = quote then some ([], 1)
    else (quoted quote cs).map fun (s, n) => (c :: s, n + 1)

/-- The token that starts with the character `c` and goes on in `cs`: its kind and the number of
characters it takes from `cs`. -/
def lexeme (c : Char) (cs : List Char) : Except CompileFault (TokenKind × Nat) :=
  match c, cs with
  | '(', _ => .ok (.leftParen, 0)
  | ')', _ => .ok (.rightParen, 0)
  | '[', _ => .ok (.leftBracket, 0)
  | ']', _ => .ok (.rightBracket, 0)
  | ',', _ => .ok (.comma, 0)
  | '.', _ => .ok (.dot, 0)
  | '-', _ => .ok (.minus, 0)
  | '=', '=' :: _ => .ok (.eq, 1)
  | '=', '>' :: _ => .ok (.arrow, 1)
  | '=', _ => .ok (.eq, 0)
  | '!', '=' :: _ => .ok (.ne, 1)
  | '!', _ => .ok (.not, 0)
  | '<', '=' :: _ => .ok (.le, 1)
  | '<', '>' :: _ => .ok (.ne, 1)
  | '<', _ => .ok (.lt, 0)
  | '>', '=' :: _ => .ok (.ge, 1)
  | '>', _ => .ok (.gt, 0)
  | '&', '&' :: _ => .ok (.and, 1)
  | '|', '|' :: _ => .ok (.or, 1)
  | c, cs =>
    if c = '\'' ∨ c = '"' then
      match quoted c cs with
      | some (s, n) => .ok (.string (String.ofList s), n)
      | none => .error .unterminatedString
    else if c.isDigit then
      let n := Numeral.length (c :: cs)
      let x := (Numeral.ofChars? ((c :: cs).take n)).getD ⟨0, 0⟩
      .ok (.number x.toBinary64, n - 1)
    else if isWordStart c then
      let more := cs.takeWhile isWordChar
      .ok (.ofWord (c :: more), more.length)
    else .error (.unexpectedCharacter c)

/-- The tokens of a text that starts at byte `pos`, the end token included. -/
def tokensFrom (pos : Nat) : List Char → Except CompileError (List Token)
  | [] => .ok [⟨.eof, pos, []⟩]
  | c :: cs =>
    if isAsciiBlank c then tokensFrom (pos + c.utf8Size) cs
    else
      match lexeme c cs with
      | .error fault => .error ⟨pos, fault⟩
      | .ok (kind, n) => do
        let token : Token := ⟨kind, pos, c :: cs.take n⟩
        let rest ← tokensFrom token.stop (cs.drop n)
        .ok (token :: rest)
termination_by cs => cs.length
decreasing_by all_goals simp only [List.length_cons, List.length_drop]; omega

/-- The tokens of a filter text. -/
def tokenize (source : String) : Except CompileError (List Token) :=
  tokensFrom 0 source.toList

end Switchyard.Filter
