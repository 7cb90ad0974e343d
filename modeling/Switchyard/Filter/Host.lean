import Switchyard.Filter.Builtin
import Switchyard.Filter.Lexer
import Switchyard.Filter.Pattern

/-!
# Host functions

Functions that the application around the router adds to the filter language. A host function
answers with a value or an error, and may take time. A registry holds them by name; names of
built-in functions and quantifiers are taken. It also holds the engine that gives patterns their
meaning, which no registration changes.

* `register_eq_ok`: which functions are added.
* `patterns_register`: the engine stays the same.
* `find?_register_self`, `find?_register_of_ne`: a new function is found under its name, and every
  other name keeps its function.
-/

namespace Switchyard.Filter

/-- What a call of a host function comes to. -/
structure HostReply where
  result : Except EvalError Value
  /-- How long the call took. -/
  millis : Nat

/-- A function of the application. -/
structure HostFunction where
  name : String
  arity : Nat
  run : List Value → HostReply

/-- Why a host function is not registered. -/
inductive RegistrationError where
  | reserved (name : String)
  | invalidName (name : String)
deriving DecidableEq, Repr

/-- The text of the error. -/
def RegistrationError.message : RegistrationError → String
  | .reserved name => s!"function name '{name}' is reserved by a built-in"
  | .invalidName name => s!"function name '{name}' is not a valid identifier"

/-- What filters get from outside the language: host functions, each name once, and patterns. -/
structure HostFunctions where
  functions : List (String × HostFunction)
  patterns : PatternEngine

namespace HostFunctions

/-- No host functions, with the engine of this library. -/
def empty : HostFunctions := ⟨[], .standard⟩

/-- How many functions are registered. -/
def size (fs : HostFunctions) : Nat := fs.functions.length

/-- The function of a name. -/
def find? (fs : HostFunctions) (name : String) : Option HostFunction :=
  Assoc.find? name fs.functions

/-- Whether the name belongs to the language itself. -/
def isReserved (name : String) : Bool :=
  (Builtin.ofName? name).isSome || (Quantifier.ofName? name).isSome

/-- Names are made of ASCII letters, digits and underscores and do not start with a digit. -/
def isValidName (name : String) : Bool :=
  match name.toList with
  | [] => false
  | c :: cs => isWordStart c && cs.all isWordChar

/-- Adds a function, in place of the one of the same name. -/
def register (fs : HostFunctions) (f : HostFunction) :
    Except RegistrationError HostFunctions :=
  if isReserved f.name then .error (.reserved f.name)
  else if !isValidName f.name then .error (.invalidName f.name)
  else .ok { fs with functions := Assoc.insert f.name f fs.functions }

variable {fs fs' : HostFunctions} {f : HostFunction}

theorem register_eq_ok : fs.register f = .ok fs' ↔
    isReserved f.name = false ∧ isValidName f.name = true ∧
      { fs with functions := Assoc.insert f.name f fs.functions } = fs' := by
  unfold register
  cases isReserved f.name <;> cases isValidName f.name <;> simp

theorem patterns_register (h : fs.register f = .ok fs') : fs'.patterns = fs.patterns := by
  obtain ⟨-, -, rfl⟩ := register_eq_ok.mp h
  rfl

theorem find?_register_self (h : fs.register f = .ok fs') : fs'.find? f.name = some f := by
  obtain ⟨-, -, rfl⟩ := register_eq_ok.mp h
  exact Assoc.find?_insert_self ..

theorem find?_register_of_ne (h : fs.register f = .ok fs') {name : String} (hne : name ≠ f.name) :
    fs'.find? name = fs.find? name := by
  obtain ⟨-, -, rfl⟩ := register_eq_ok.mp h
  exact Assoc.find?_insert_of_ne hne ..

end HostFunctions

end Switchyard.Filter
