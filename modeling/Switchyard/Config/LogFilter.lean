import Switchyard.Decimal.Numeral
import Switchyard.Regex.Reader
import Switchyard.Text.Property

/-!
# Log filters

Log messages are not written by the router but by a logging library, which reads the filter for them
itself; the router asks it whether it can. What that library accepts is assumed here, and nothing is
assumed of what a filter then lets through.

The assumption is `isLogFilter`: a filter is made of directives between commas, each a level, a
target, or a target and a span with fields, with a level behind an equals sign. A directive is read
without the blanks around it, but its parts are then cut at the same positions out of the text with
the blanks. Blanks before a directive so spoil its level, and blanks behind it belong to its level.
Values of fields are read as regular expressions (`Regex.compile?`, with what that leaves out).
-/

namespace Switchyard.Config

open Text

/-- Whether a text names a level, by a word in any case or by a number up to five. -/
def isLevel (cs : List Char) : Bool :=
  let digits := if cs.head? = some '+' then cs.drop 1 else cs
  if !digits.isEmpty && digits.all Char.isDigit then Numeral.ofDigits digits ≤ 5
  else ["error", "warn", "info", "debug", "trace", "off"].contains
    (String.ofList (cs.map Char.toLower))

/-- Whether a text is a number behind a plus sign. -/
def isPlusNumber : List Char → Bool
  | '+' :: cs =>
    (Numeral.ofChars? cs).isSome ||
      ["inf", "infinity", "nan"].contains (String.ofList (cs.map Char.toLower))
  | _ => false

/-- Whether a text is a field that a span must have: a name, or a name and a value. A value that is
no number must be a regular expression. -/
def isField (cs : List Char) : Bool :=
  match cs.splitOnP (· == '=') with
  | _ :: value :: _ => isPlusNumber value || (Regex.compile? (String.ofList value)).isSome
  | _ => !cs.isEmpty

/-- What part of a directive is being read; numbers are the positions where parts start. -/
inductive DirectiveState where
  | start
  | levelOrTarget
  | span
  | field (begun : Nat)
  /-- Behind the fields of a span. -/
  | fields
  /-- Behind a span. -/
  | target
  | level (begun : Nat)
deriving DecidableEq, Repr

/-- The part of a text between two positions. -/
def between (cs : List Char) (start stop : Nat) : List Char := (cs.drop start).take (stop - start)

/-- Reads one character, which stands at a position of the directive without blanks; `text` is the
directive with them. -/
def DirectiveState.step (text : List Char) (position : Nat) (c : Char) :
    DirectiveState → Option DirectiveState
  | .start =>
    if c = '[' then some .span
    else if c = '-' || c = ':' || c = '_' || Property.alphanumeric.contains c then
      some .levelOrTarget
    else none
  | .levelOrTarget =>
    if c = '=' then some (.level (position + 1))
    else if c = '[' then some .span
    else some .levelOrTarget
  | .span =>
    if c = ']' then some .target
    else if c = '\x7b' then some (.field (position + 1))
    else some .span
  | .field begun =>
    if c = '\x7d' then if isField (between text begun position) then some .fields else none
    else some (.field begun)
  | .fields => if c = ']' then some .target else none
  | .target => if c = '=' then some (.level (position + 1)) else none
  | .level begun => some (.level begun)

/-- Whether a directive may end here. -/
def DirectiveState.mayEnd (text : List Char) : DirectiveState → Bool
  | .levelOrTarget | .target => true
  | .level begun => (text.drop begun).isEmpty || isLevel (text.drop begun)
  | _ => false

/-- Whether a text is a directive. -/
def isDirective (text : List Char) : Bool :=
  match (trim text).zipIdx.foldlM (fun s p => s.step text p.2 p.1) DirectiveState.start with
  | some s => s.mayEnd text
  | none => false

/-- Whether the logging library can read a text as a filter. Empty directives do not count. -/
def isLogFilter (text : String) : Bool :=
  (text.toList.splitOnP (· == ',')).all fun d => d.isEmpty || isDirective d

end Switchyard.Config
