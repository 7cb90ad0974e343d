import Switchyard.Event
import Switchyard.Filter.Parser
import Switchyard.Text.Blank

/-!
# Fields

A field is a path whose root is known: the payload, the headers, the subject, or the element that
an enclosing quantifier is looking at. `Field.find?` is what a field denotes in an event; none
means that it is absent, which is not the same as a field that is present and null.
-/

namespace Switchyard.Filter

/-- Where a field starts. -/
inductive FieldRoot where
  | payload
  | headers
  | subject
  /-- The element of the quantifier with so many quantifiers around it. -/
  | binding (slot : Nat)
deriving DecidableEq, Repr

/-- A resolved path. -/
structure Field where
  root : FieldRoot
  segments : List Segment
deriving DecidableEq, Repr

/-- The text of a root. -/
def FieldRoot.render : FieldRoot → String
  | .payload => "payload"
  | .headers => "headers"
  | .subject => "subject"
  | .binding slot => s!"${slot}"

/-- The text of a segment, with the dot or the brackets. -/
def Segment.render : Segment → String
  | .key name => s!".{name}"
  | .index i => s!"[{i}]"

/-- The value one step further in. -/
def Segment.step? (v : Value) : Segment → Option Value
  | .key name => v.member? name
  | .index i => v.item? i

/-- The value at the end of a path into a value. -/
def walk? (v : Value) : List Segment → Option Value
  | [] => some v
  | s :: rest => (s.step? v).bind fun next => walk? next rest

namespace Field

/-- The text of a field. -/
def render (f : Field) : String :=
  f.root.render ++ String.join (f.segments.map Segment.render)

/-- The field that a path denotes in simple filters and templates. A path with another root than
`payload`, `headers` or `subject` starts in the payload, and so does one into the subject. -/
def ofPath (p : Path) : Field :=
  if p.root = "payload" then ⟨.payload, p.segments⟩
  else if p.root = "headers" then ⟨.headers, p.segments⟩
  else if p.root = "subject" ∧ p.segments = [] then ⟨.subject, []⟩
  else ⟨.payload, .key p.root :: p.segments⟩

/-- The field of a text, blanks around it aside. -/
def parse (source : String) : Except CompileError Field :=
  (parsePath (String.ofList (Text.trim source.toList))).map ofPath

/-- All headers of an event as one object. -/
def headerObject (e : Event) : Value :=
  .object (Assoc.ofList (e.headers.entries.map fun h => (h.1, .string h.2)))

/-- What a field denotes in an event, or nothing if it is absent. -/
def find? (f : Field) (e : Event) : Option Value :=
  match f.root, f.segments with
  | .payload, segments => walk? e.payload segments
  | .headers, [] => some (headerObject e)
  | .headers, [.key name] => (e.header? name).map .string
  | .subject, [] => some (.string e.subject)
  | _, _ => none

/-- The event after a field has been looked up in it. -/
def after (f : Field) (e : Event) : Event :=
  if f.root = .payload then e.opened else e

end Field

end Switchyard.Filter
