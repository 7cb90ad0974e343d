import Switchyard.Dispatch

/-!
# Delivery

Targets are handed to forwarders by their kind. Every target is offered once, in order, whatever
became of those before it, and ends up in exactly one of the two lists of the report. A forwarder
may go by what has been offered before, so that is kept as well.

* `Forwarder.offer`: the one way in which a forwarder is called, which keeps the call as an offer.
* `Forwarders.deliver`, `Forwarders.deliverAll`: what becomes of a target, and of all targets.
-/

namespace Switchyard

/-- Why a target was not delivered. -/
inductive ForwardError where
  | unknownKind (kind : String)
  | rejected (destination reason : String)
  | unavailable (reason : String)
deriving DecidableEq, Repr

/-- The text of the error. -/
def ForwardError.message : ForwardError → String
  | .unknownKind kind => s!"no forwarder registered for kind '{kind}'"
  | .rejected destination reason => s!"delivery to '{destination}' rejected: {reason}"
  | .unavailable reason => s!"forwarder unavailable: {reason}"

/-- What a forwarder can know when it is offered a target. -/
structure Occasion where
  event : Event
  /-- The targets of the event that forwarders have been offered before, in order. -/
  before : List ForwardTarget

/-- What delivers the targets of one kind. It need not give equal targets the same answer. -/
structure Forwarder where
  kind : String
  deliver : Occasion → ForwardTarget → Except ForwardError Unit

/-- A target in the hands of a forwarder. -/
structure Offer where
  forwarder : Forwarder
  target : ForwardTarget

/-- What is done while the targets of an event are offered: it goes by the offers before it and
leaves those that there are after it. -/
abbrev Offering (α : Type) := StateM (List Offer) α

/-- Offers a target to a forwarder. Nothing else calls forwarders, so there is an offer for every
call. -/
def Forwarder.offer (f : Forwarder) (event : Event) (t : ForwardTarget) :
    Offering (Except ForwardError Unit) := fun before =>
  (f.deliver ⟨event, before.map (·.target)⟩ t, before ++ [⟨f, t⟩])

/-- The forwarder that accepts everything and sends it nowhere. -/
def Forwarder.echo : Forwarder := ⟨"echo", fun _ _ => .ok ()⟩

/-- The forwarders by kind. -/
structure Forwarders where
  byKind : List (String × Forwarder)

namespace Forwarders

/-- No forwarders. -/
def empty : Forwarders := ⟨[]⟩

/-- Adds a forwarder, in place of the one of the same kind. -/
def register (fs : Forwarders) (f : Forwarder) : Forwarders := ⟨Assoc.insert f.kind f fs.byKind⟩

/-- The forwarders of a router that was given none. -/
def withEcho : Forwarders := empty.register .echo

/-- The kinds that have a forwarder. -/
def kinds (fs : Forwarders) : List String := fs.byKind.map (·.1)

/-- The forwarder of a kind. -/
def find? (fs : Forwarders) (kind : String) : Option Forwarder := Assoc.find? kind fs.byKind

/-- Delivers a target through the forwarder of its kind. -/
def deliver (fs : Forwarders) (event : Event) (t : ForwardTarget) :
    Offering (Except ForwardError Unit) :=
  match fs.find? t.kind with
  | some f => f.offer event t
  | none => pure (.error (.unknownKind t.kind))

end Forwarders

/-- A target that was not delivered, and why. -/
structure FailedDelivery where
  target : ForwardTarget
  error : ForwardError
deriving DecidableEq, Repr

/-- What became of the targets of an event. -/
structure DeliveryReport where
  eventId : String
  delivered : List ForwardTarget
  failed : List FailedDelivery
deriving DecidableEq, Repr

namespace DeliveryReport

/-- The report on an event of which nothing has been offered yet. -/
def empty (eventId : String) : DeliveryReport := ⟨eventId, [], []⟩

/-- Whether nothing failed. -/
def isComplete (r : DeliveryReport) : Bool := r.failed.isEmpty

/-- How many deliveries were tried. -/
def size (r : DeliveryReport) : Nat := r.delivered.length + r.failed.length

/-- The report with one target more. -/
def add (r : DeliveryReport) (t : ForwardTarget) : Except ForwardError Unit → DeliveryReport
  | .ok () => { r with delivered := r.delivered ++ [t] }
  | .error e => { r with failed := r.failed ++ [⟨t, e⟩] }

/-- The document of a report. -/
def encode (r : DeliveryReport) : Json :=
  .object [("event_id", .string r.eventId),
    ("delivered", .array (r.delivered.map ForwardTarget.encode)),
    ("failed", .array (r.failed.map fun f =>
      .object [("target", f.target.encode), ("error", .string f.error.message)])),
    ("complete", .bool r.isComplete), ("count", .whole r.size)]

end DeliveryReport

/-- The delivery of an event under way, or at its end. -/
structure Delivery where
  report : DeliveryReport
  /-- What forwarders have been offered, in order. -/
  offers : List Offer

namespace Delivery

/-- The delivery of an event before its first target. -/
def start (event : Event) : Delivery := ⟨.empty event.id, []⟩

/-- Delivers one target more, and reports on it. -/
def next (fs : Forwarders) (event : Event) (d : Delivery) (t : ForwardTarget) : Delivery :=
  let (answer, offers) := (fs.deliver event t).run d.offers
  ⟨d.report.add t answer, offers⟩

end Delivery

/-- Offers targets to the forwarders, in order. -/
def Forwarders.deliverAll (fs : Forwarders) (event : Event) (targets : List ForwardTarget) :
    Delivery :=
  targets.foldl (Delivery.next fs event) (.start event)

end Switchyard
