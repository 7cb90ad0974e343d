import Switchyard.Filter.Field
import Switchyard.Text.Search
import Switchyard.Value.Render

/-!
# Templates

Texts with placeholders in double braces: the identifier of the route, or a field of the event. A
field that is absent or null is replaced by nothing; what is filled in is not looked at again.
-/

namespace Switchyard

/-- A piece of a template. -/
inductive TemplatePart where
  | text (s : String)
  | field (f : Filter.Field)
  | routeId
deriving DecidableEq, Repr

/-- A template: its text and its pieces. -/
structure Template where
  source : String
  parts : List TemplatePart
deriving DecidableEq, Repr

/-- Why a text is no template. -/
inductive TemplateError where
  | unclosed (source : String)
  | empty (source : String)
  | badPlaceholder (name : String) (error : Filter.CompileError)
deriving DecidableEq, Repr

/-- The text of the error. -/
def TemplateError.message : TemplateError → String
  | .unclosed source => s!"unclosed placeholder in '{source}'"
  | .empty source => s!"empty placeholder in '{source}'"
  | .badPlaceholder name error =>
    "bad placeholder '\x7b\x7b" ++ name ++ "\x7d\x7d': " ++ error.message

namespace Template

/-- What a placeholder starts with. -/
def openMark : List Char := ['{', '{']

/-- What a placeholder ends with. -/
def closeMark : List Char := ['}', '}']

/-- What a placeholder stands for. -/
def placeholder (source : String) (body : List Char) : Except TemplateError TemplatePart :=
  let name := String.ofList (Text.trim body)
  if name = "" then .error (.empty source)
  else if name = "route_id" then .ok .routeId
  else
    match Filter.Field.parse name with
    | .ok f => .ok (.field f)
    | .error e => .error (.badPlaceholder name e)

/-- A piece of text, which is left out if it is empty. -/
def textPart (cs : List Char) : List TemplatePart :=
  if cs.isEmpty then [] else [.text (String.ofList cs)]

/-- The pieces of a text; `source` is the whole template. -/
def partsOf (source : String) (cs : List Char) : Except TemplateError (List TemplatePart) :=
  match _h : Text.cut? openMark cs with
  | none => .ok (textPart cs)
  | some (before, after) =>
    match _h' : Text.cut? closeMark after with
    | none => .error (.unclosed source)
    | some (body, rest) => do
      let part ← placeholder source body
      let more ← partsOf source rest
      .ok (textPart before ++ part :: more)
termination_by cs.length
decreasing_by
  have h := Text.length_of_cut _h
  have h' := Text.length_of_cut _h'
  simp only [openMark, closeMark, List.length_cons, List.length_nil] at h h'
  omega

/-- The template of a text. -/
def parse (source : String) : Except TemplateError Template :=
  (partsOf source source.toList).map fun parts => ⟨source, parts⟩

/-- Whether the template has no placeholder. -/
def isStatic (t : Template) : Bool :=
  t.parts.all fun
    | .text _ => true
    | _ => false

/-- What a piece becomes for an event and a route. -/
def renderPart (event : Event) (routeId : String) : TemplatePart → String
  | .text s => s
  | .routeId => routeId
  | .field f => ((f.find? event).map Value.render).getD ""

/-- The text of the template for an event and a route. -/
def render (t : Template) (event : Event) (routeId : String) : String :=
  String.join (t.parts.map (renderPart event routeId))

end Template

end Switchyard
