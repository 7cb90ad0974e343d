import Switchyard.Binary64
import Switchyard.Text.Utf8

/-!
# Tokens of filter text

A token is its kind, the byte offset it starts at and its lexeme, the characters it was read from.
The end of the text is a token too; its lexeme is empty.
-/

namespace Switchyard.Filter

/-- The kind of a token, with the content of names, numbers and strings. -/
inductive TokenKind where
  | ident (name : String)
  | number (x : Binary64)
  | string (s : String)
  | bool (b : Bool)
  | null
  | and
  | or
  | not
  | like
  | matching
  | between
  | within
  | existing
  | is
  | eq
  | ne
  | lt
  | le
  | gt
  | ge
  | leftParen
  | rightParen
  | leftBracket
  | rightBracket
  | comma
  | dot
  | arrow
  | minus
  | eof
deriving DecidableEq, Inhabited, Repr

namespace TokenKind

/-- The keywords, each with its spelling in lower case. -/
def keywords : List (String × TokenKind) :=
  [("true", .bool true), ("false", .bool false), ("null", .null), ("and", .and), ("or", .or),
    ("not", .not), ("like", .like), ("matches", .matching), ("between", .between), ("in", .within),
    ("exists", .existing), ("is", .is)]

/-- The spelling of a keyword. The operator forms of `and`, `or` and `not` share it. -/
def keyword? (k : TokenKind) : Option String :=
  (keywords.find? fun p => p.2 == k).map (·.1)

/-- The kind of a word: a keyword in any letter case, or a name. -/
def ofWord (word : List Char) : TokenKind :=
  match keywords.find? fun p => p.1.toList == word.map Char.toLower with
  | some (_, k) => k
  | none => .ident (String.ofList word)

end TokenKind

/-- A token: what it is, where it starts and the characters it was read from. -/
structure Token where
  kind : TokenKind
  pos : Nat
  lexeme : List Char
deriving DecidableEq, Inhabited, Repr

namespace Token

/-- The number of bytes a token covers. -/
def len (t : Token) : Nat := Text.byteLength t.lexeme

/-- The byte offset behind the token. -/
def stop (t : Token) : Nat := t.pos + t.len

end Token

end Switchyard.Filter
