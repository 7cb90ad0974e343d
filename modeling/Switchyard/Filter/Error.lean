import Switchyard.Value.Basic

/-!
# Errors of filters

`CompileError` is why a filter text is refused, with the byte offset it points at; `EvalError` is
why the evaluation of a filter has no value. Each cause is a constructor and its wording is in one
function.
-/

namespace Switchyard.Filter

/-- The type of a sub-expression as far as it is known before any event; none means any type. -/
abbrev StaticType := Option ValueType

namespace StaticType

/-- The word for a type in error texts. -/
def name (t : StaticType) : String :=
  match t with
  | none => "any"
  | some t => t.name

/-- A type that checks can rely on. What is null or of any type passes every check. -/
def isKnown (t : StaticType) : Bool :=
  t != none && t != some .null

end StaticType

/-! ## Evaluation -/

/-- What is wrong with the arguments of a function. -/
inductive ArgumentFault where
  | unsupported (found : ValueType)
  | unrecognisedDate (text : String)
  | unrecognisedDuration (text : String)
  | epochOutOfRange
  | durationOutOfRange
  | notNegatable (found : ValueType)
  /-- A fault that a host function reports in its own words. -/
  | reported (message : String)
deriving DecidableEq, Repr

/-- The text of the fault. -/
def ArgumentFault.message : ArgumentFault → String
  | .unsupported found => s!"unsupported {found.name} argument"
  | .unrecognisedDate text => s!"unrecognised date '{text}'"
  | .unrecognisedDuration text => s!"unrecognised duration '{text}'"
  | .epochOutOfRange => "epoch seconds out of range"
  | .durationOutOfRange => "duration out of range"
  | .notNegatable found => s!"cannot negate {found.name}"
  | .reported message => message

/-- Why an evaluation has no value. -/
inductive EvalError where
  | typeMismatch (op : String) (left right : ValueType)
  | notBoolean (found : ValueType)
  | invalidArgument (function : String) (fault : ArgumentFault)
  | budgetExceeded (limit : Nat)
  | timeout (limitMillis : Nat)
deriving DecidableEq, Repr

namespace EvalError

/-- The text of the error. -/
def message : EvalError → String
  | .typeMismatch op left right => s!"cannot apply '{op}' to {left.name} and {right.name}"
  | .notBoolean found => s!"expected a boolean, found {found.name}"
  | .invalidArgument function fault => s!"{function}: {fault.message}"
  | .budgetExceeded limit => s!"node visit budget of {limit} exhausted"
  | .timeout limitMillis => s!"evaluation exceeded {limitMillis}ms"

/-- An overrun ends the whole evaluation; any other error only makes the enclosing operand
unknown. -/
def isOverrun : EvalError → Bool
  | .budgetExceeded _ | .timeout _ => true
  | _ => false

end EvalError

/-! ## Compilation -/

/-- What stands at a place where something else was expected: the end of the text, or a lexeme. -/
abbrev Found := Option String

/-- The words for what was found. -/
def Found.describe (found : Found) : String :=
  match found with
  | none => "end of input"
  | some lexeme => s!"'{lexeme}'"

/-- Why a filter text is refused. -/
inductive CompileFault where
  /- Text that is no sequence of tokens. -/
  | unexpectedCharacter (c : Char)
  | unterminatedString
  /- Tokens that are no expression. -/
  | emptyExpression
  | unexpected (found : Found)
  | expected (what : String) (found : Found)
  | nestedTooDeeply
  | existsWithoutPath
  | patternNotLiteral (op : String)
  | setNotBracketed
  | badIndex
  | notAPath
  | inputAfterPath
  /- Names and shapes that no expression may have. -/
  | invalidRegex
  | unexpectedPredicate (function : String)
  | unknownFunction (name : String)
  | quantifierShape (quantifier : String)
  | unknownIdentifier (name : String)
  /- Types that never fit. -/
  | notNegatable (found : StaticType)
  | operandNotBoolean (context : String) (found : StaticType)
  | operandNotString (op : String) (found : StaticType)
  | notOrdered (op : String) (left right : StaticType)
  | setNotConstant
  | argumentCount (function : String) (given : Nat)
  | badArgument (function : String) (position : Nat) (allowed : List ValueType)
      (found : StaticType)
  | hostArgumentCount (function : String) (expected given : Nat)
  | collectionNotArray (quantifier : String) (found : StaticType)
  | subjectHasNoFields
  | filterNotBoolean (found : StaticType)
  | constantFails (error : EvalError)
deriving DecidableEq, Repr

namespace CompileFault

/-- A fault of types, as opposed to one of grammar and names. -/
def isTypeFault : CompileFault → Bool
  | .notNegatable _ | .operandNotBoolean .. | .operandNotString .. | .notOrdered ..
  | .setNotConstant | .argumentCount .. | .badArgument .. | .hostArgumentCount ..
  | .collectionNotArray .. | .subjectHasNoFields | .filterNotBoolean _ | .constantFails _ => true
  | _ => false

/-- The text of the fault. -/
def message : CompileFault → String
  | .unexpectedCharacter c => s!"unexpected character '{c}'"
  | .unterminatedString => "unterminated string literal"
  | .emptyExpression => "empty expression"
  | .unexpected found => s!"unexpected {found.describe}"
  | .expected what found => s!"expected {what}, found {found.describe}"
  | .nestedTooDeeply => "expression nested too deeply"
  | .existsWithoutPath => "EXISTS requires a field path"
  | .patternNotLiteral op => s!"{op} requires a string literal pattern"
  | .setNotBracketed => "IN requires a parenthesized list"
  | .badIndex => "index must be a non-negative integer or a quoted key"
  | .notAPath => "expected a field path"
  | .inputAfterPath => "unexpected input after field path"
  | .invalidRegex => "invalid regex"
  | .unexpectedPredicate function => s!"{function}() does not take a predicate"
  | .unknownFunction name => s!"unknown function '{name}'"
  | .quantifierShape quantifier => s!"{quantifier}() expects (collection, x => predicate)"
  | .unknownIdentifier name =>
    s!"unknown identifier '{name}'; fields start with payload, headers or subject"
  | .notNegatable found => s!"cannot negate {found.name}"
  | .operandNotBoolean context found =>
    s!"{context} expects a boolean operand, found {found.name}"
  | .operandNotString op found => s!"{op} applies to strings, found {found.name}"
  | .notOrdered op left right =>
    s!"cannot order {left.name} against {right.name} with '{op}'"
  | .setNotConstant => "IN requires a set of literal values"
  | .argumentCount function given => s!"{function}() called with {given} arguments"
  | .badArgument function position allowed found =>
    let types := " or ".intercalate (allowed.map ValueType.name)
    s!"{function}() argument {position} must be {types}, found {found.name}"
  | .hostArgumentCount function wanted given =>
    s!"{function}() expects {wanted} arguments, got {given}"
  | .collectionNotArray quantifier found =>
    s!"{quantifier}() needs an array, found {found.name}"
  | .subjectHasNoFields => "subject has no fields"
  | .filterNotBoolean found => s!"filter must be a boolean expression, found {found.name}"
  | .constantFails error => error.message

end CompileFault

/-- A refused filter text: where, as a byte offset, and why. -/
structure CompileError where
  position : Nat
  fault : CompileFault
deriving DecidableEq, Repr

/-- The text of a compile error names its kind and its position. -/
def CompileError.message (e : CompileError) : String :=
  if e.fault.isTypeFault then s!"type error at {e.position}: {e.fault.message}"
  else s!"syntax error at {e.position}: {e.fault.message}"

end Switchyard.Filter
