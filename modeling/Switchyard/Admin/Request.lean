import Switchyard.Admin.MediaType
import Switchyard.Event
import Switchyard.Json.Typed
import Switchyard.Json.Writer
import Switchyard.Rule.Command
import Switchyard.Text.Percent

/-!
# Admin requests

What a request to the control interface asks for. A request is refused for one of several reasons,
which are looked at in a fixed order: its credentials, its path, its method, and then its path
parameter or its body.

A request is taken here as the server in front of the interface hands it over, and two things are
assumed of that server. A body is a text: bytes that are no UTF-8 do not occur. And a body is as
short as the server wants it: one that is too long is answered by the server itself (with 413) and
asks for nothing.

* `Request.action`: what a request asks for, or why it is refused.
-/

namespace Switchyard.Admin

/-- A request to the control interface. -/
structure Request where
  /-- The identifier of the event, if the request brings one to try out. -/
  eventId : String
  method : String
  path : String
  authorization : Option String
  contentType : Option String
  body : String
deriving DecidableEq, Inhabited, Repr

/-- An event to try out. -/
structure SampleEvent where
  subject : String
  headers : Dict String
  payload : Json
deriving Inhabited, Repr

/-- The event of a sample. Its payload is written as text and read again like any other. -/
def SampleEvent.event (e : SampleEvent) (id : String) : Event :=
  .ofBytes id e.subject (.ofDict e.headers) e.payload.canonical.render.toUTF8

/-- What a request asks for. -/
inductive Action where
  | status
  | list
  | get (routeId : String)
  | stats
  | command (c : RuleCommand)
  | delete (routeId : String)
  | tryOut (event : Event)
deriving Inhabited, Repr

/-- Why a request is refused before the registry is asked. -/
inductive Refusal where
  | unauthorized
  | unknownPath
  | wrongMethod
  | badPathText
  | unsupportedBody
  | malformedBody
  | mismatchedBody
deriving DecidableEq, Repr

/-- The HTTP status of a refusal. -/
def Refusal.status : Refusal → Nat
  | .unauthorized => 401
  | .unknownPath => 404
  | .wrongMethod => 405
  | .badPathText => 400
  | .unsupportedBody => 415
  | .malformedBody => 400
  | .mismatchedBody => 422

/-! ## Headers -/

/-- Whether the text of a header can be looked at: tabs, blanks and visible ASCII characters. -/
def isHeaderText (text : String) : Bool :=
  text.toList.all fun c => c == '\t' || (0x20 ≤ c.toNat && c.toNat < 0x7F)

/-- Whether a request has the key: its header is `Bearer`, a blank and the key, and nothing else. -/
def Request.isAuthorized (r : Request) (key : String) : Bool :=
  r.authorization.any fun text => isHeaderText text && text == "Bearer " ++ key

/-- Whether a request says that its body is JSON. -/
def Request.hasJsonBody (r : Request) : Bool :=
  r.contentType.any fun text => isHeaderText text && isJsonMediaType text

/-! ## Bodies -/

open Json in
/-- The other members of a command; the operation must be known when it is read, and stands once. -/
def commandMember : Typed.OnMember (Option String × List (String × Json)) := fun key state =>
  if key = "op" then
    if state.1.isSome then .error .mismatched
    else .ok (some fun cs => do
      let (op, rest) ← Typed.string cs
      if ["add", "update", "remove"].contains op then .ok ((some op, state.2), rest)
      else .error .mismatched)
  else .ok (some fun cs => do
    let (x, rest) ← Typed.value (maxDepth - 1) cs
    .ok ((state.1, state.2 ++ [(key, x)]), rest))

open Json in
/-- The items of a command that is written as an array, behind its operation. -/
def commandItems : Nat → Typed (List Json)
  | 0, _ => .error .malformed
  | fuel + 1, cs => do
    match ← Typed.nextItem? false (Typed.value (maxDepth - 1)) cs with
    | none => .ok ([], ← Typed.closeArray cs)
    | some (x, rest) =>
      let (xs, rest) ← commandItems fuel rest
      .ok (x :: xs, rest)

open Json in
/-- A command. -/
def readCommand : Typed RuleCommand := fun cs => do
  let (parts, rest) ← match skipSpace cs with
    | '\x7b' :: rest => do
      let ((op, ms), rest) ←
        Typed.members commandMember Typed.skip (rest.length + 1) true (none, []) rest
      .ok ((op, Json.object ms), rest)
    | '[' :: rest => do
      match ← Typed.nextItem? true Typed.string rest with
      | none => .error .mismatched
      | some (op, rest) =>
        if ["add", "update", "remove"].contains op then
          let (xs, rest) ← commandItems (rest.length + 1) rest
          .ok ((some op, Json.array xs), rest)
        else .error .mismatched
    | rest => .error (Typed.otherKind rest)
  match parts.1.bind fun op => RuleCommand.ofParts? op parts.2 with
  | some c => .ok (c, rest)
  | none => .error .mismatched

/-- The parts of a sample event that have been read. -/
structure SampleParts where
  subject : Option String
  headers : Option (Dict String)
  payload : Option Json

namespace SampleParts

/-- No part has been read. -/
def empty : SampleParts := ⟨none, none, none⟩

/-- The event, if the parts it cannot do without are there. -/
def event? (p : SampleParts) : Option SampleEvent :=
  p.subject.map fun subject => ⟨subject, p.headers.getD .empty, p.payload.getD .null⟩

end SampleParts

open Json in
/-- Reads a part of a sample event; none may stand twice. -/
def sampleMember : Typed.OnMember SampleParts := fun key p =>
  let part (isSet : Bool) (r : Typed SampleParts) :
      Except TypedFault (Option (Typed SampleParts)) :=
    if isSet then .error .mismatched else .ok (some r)
  match key with
  | "subject" => part p.subject.isSome fun cs => do
    let (x, rest) ← Typed.string cs
    .ok ({ p with subject := some x }, rest)
  | "headers" => part p.headers.isSome fun cs => do
    let (x, rest) ← Typed.map Typed.string cs
    .ok ({ p with headers := some x }, rest)
  | "payload" => part p.payload.isSome fun cs => do
    let (x, rest) ← Typed.value (maxDepth - 1) cs
    .ok ({ p with payload := some x }, rest)
  | _ => .ok none

open Json in
/-- A sample event, as an object or as an array of its parts in order. -/
def readSample : Typed SampleEvent := fun cs => do
  let (p, rest) ← match skipSpace cs with
    | '\x7b' :: rest =>
      Typed.members sampleMember Typed.skip (rest.length + 1) true SampleParts.empty rest
    | '[' :: rest => do
      match ← Typed.nextItem? true Typed.string rest with
      | none => .error .mismatched
      | some (subject, rest) =>
        match ← Typed.nextItem? false (Typed.map Typed.string) rest with
        | none => .ok (⟨some subject, none, none⟩, ← Typed.closeArray rest)
        | some (headers, rest) =>
          match ← Typed.nextItem? false (Typed.value (maxDepth - 1)) rest with
          | none => .ok (⟨some subject, some headers, none⟩, ← Typed.closeArray rest)
          | some (payload, rest) =>
            .ok (⟨some subject, some headers, some payload⟩, ← Typed.closeArray rest)
    | rest => .error (Typed.otherKind rest)
  match p.event? with
  | some e => .ok (e, rest)
  | none => .error .mismatched

/-- The body of a request. -/
def Request.readBody (r : Request) (reader : Json.Typed α) : Except Refusal α :=
  if r.hasJsonBody then
    match Json.Typed.whole reader r.body with
    | .ok x => .ok x
    | .error .malformed => .error .malformedBody
    | .error .mismatched => .error .mismatchedBody
  else .error .unsupportedBody

/-! ## Paths and methods -/

/-- What the paths lead to. -/
inductive Resource where
  | status
  | rules
  /-- The rule whose identifier a path ends in, in percent-encoding. -/
  | rule (text : String)
  | stats
  | route
deriving DecidableEq, Repr

/-- What a path leads to; what follows a question mark or a hash sign is not part of it. -/
def Resource.ofPath? (path : String) : Option Resource :=
  let path := path.toList.takeWhile fun c => c != '?' && c != '#'
  match (path.splitOnP (· == '/')).map String.ofList with
  | ["", "admin", "status"] => some .status
  | ["", "admin", "rules"] => some .rules
  | ["", "admin", "rules", text] => if text = "" then none else some (.rule text)
  | ["", "admin", "stats"] => some .stats
  | ["", "admin", "route"] => some .route
  | _ => none

/-- The identifier that the last part of a path stands for. -/
def routeIdOf (text : String) : Except Refusal String :=
  match Text.percentDecode? text with
  | some routeId => .ok routeId
  | none => .error .badPathText

/-- Whether a method only reads; `HEAD` is answered like `GET`, without the body. -/
def isReading (method : String) : Bool := method == "GET" || method == "HEAD"

/-- What a request with the right credentials asks for. -/
def Request.authorizedAction (r : Request) : Except Refusal Action :=
  match Resource.ofPath? r.path with
  | none => .error .unknownPath
  | some .status => if isReading r.method then .ok .status else .error .wrongMethod
  | some .rules =>
    if isReading r.method then .ok .list
    else if r.method = "POST" then (r.readBody readCommand).map .command
    else .error .wrongMethod
  | some (.rule text) =>
    if isReading r.method then (routeIdOf text).map .get
    else if r.method = "DELETE" then (routeIdOf text).map .delete
    else .error .wrongMethod
  | some .stats => if isReading r.method then .ok .stats else .error .wrongMethod
  | some .route =>
    if r.method = "POST" then (r.readBody readSample).map fun e => .tryOut (e.event r.eventId)
    else .error .wrongMethod

/-- What a request asks for. -/
def Request.action (r : Request) (key : String) : Except Refusal Action :=
  if r.isAuthorized key then r.authorizedAction else .error .unauthorized

end Switchyard.Admin
