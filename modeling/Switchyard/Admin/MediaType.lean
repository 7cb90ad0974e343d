/-!
# Media types

`isJsonMediaType` says which media types announce a JSON body: `application/json`, and the types of
`application` whose name ends in `+json`. Parameters may follow, and letters may be of either case.
-/

namespace Switchyard.Admin

/-- What the names of types and parameters are made of. -/
def isTokenChar (c : Char) : Bool := c.isAlphanum || "!#$%&'*+-.^_`|~".toList.contains c

/-- What may stand between quotes. -/
def isQuotedChar (c : Char) : Bool := 0x20 ≤ c.toNat && c.toNat != 0x7F

/-- What the parameters of a media type are read as: each state says what has been read last. -/
inductive ParameterState where
  /-- A semicolon, and blanks perhaps. -/
  | start
  | name
  /-- An equals sign. -/
  | equals
  | value
  /-- An opening quote, and whether characters stand behind it. -/
  | quoted (isEmpty : Bool)
  /-- A closing quote, and blanks perhaps. -/
  | closed
deriving DecidableEq, Repr

/-- Reads one character of the parameters. -/
def ParameterState.step (s : ParameterState) (c : Char) : Option ParameterState :=
  match s with
  | .start => if c = ' ' then some .start else if isTokenChar c then some .name else none
  | .name => if c = '=' then some .equals else if isTokenChar c then some .name else none
  | .equals =>
    if c = '"' then some (.quoted true) else if isTokenChar c then some .value else none
  | .value => if c = ';' then some .start else if isTokenChar c then some .value else none
  | .quoted isEmpty =>
    if c = '"' && !isEmpty then some .closed else if isQuotedChar c then some (.quoted false)
    else none
  | .closed => if c = ';' then some .start else if c = ' ' then some .closed else none

/-- Whether the parameters may end here. -/
def ParameterState.mayEnd : ParameterState → Bool
  | .start | .equals | .value | .closed => true
  | .name | .quoted _ => false

/-- Whether a text is a list of parameters, as it stands behind the first semicolon. -/
def areParameters (cs : List Char) : Bool :=
  match cs.foldlM ParameterState.step .start with
  | some s => s.mayEnd
  | none => false

/-- Whether a name of a type is `json`, up to its last plus sign or behind it. -/
def isJsonName (name : List Char) : Bool :=
  let suffix := (name.reverse.takeWhile (· != '+')).reverse
  let before := (name.take (name.length - suffix.length)).dropLast
  if before.isEmpty then name == "json".toList
  else before == "json".toList || suffix == "json".toList

/-- Whether a media type announces a JSON body. -/
def isJsonMediaType (text : String) : Bool :=
  let cs := text.toList.map Char.toLower
  let kind := cs.takeWhile (· != '/')
  let rest := (cs.dropWhile (· != '/')).drop 1
  let name := rest.takeWhile (· != ';')
  let parameters := (rest.dropWhile (· != ';')).drop 1
  kind == "application".toList && name.all isTokenChar && isJsonName name &&
    areParameters parameters

end Switchyard.Admin
