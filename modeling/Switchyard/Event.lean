import Switchyard.Json.Reader
import Switchyard.Value.Basic

/-!
# Events

What is routed: a subject, named headers and a payload. A payload that comes in as bytes is read as
JSON when a filter or a template first looks at it; one that is no JSON document counts as null.

* `Headers`: headers in some order, no two of them of one name.
* `Event.header?`: what a name stands for.
-/

namespace Switchyard

/-- The value of a payload that came in as bytes: null unless they are one JSON document. -/
def payloadOfBytes (bytes : ByteArray) : Value :=
  match String.fromUTF8? bytes with
  | none => .null
  | some text =>
    match Json.read? text.toList with
    | none => .null
    | some document => .ofJson document.canonical

/-! ## Headers -/

/-- Headers in some order. Names that differ in the case of a letter are two names. -/
structure Headers where
  /-- The names and the values. -/
  entries : List (String × String)
  distinct : (entries.map (·.1)).Nodup
deriving DecidableEq, Repr

namespace Headers

/-- No headers. -/
def empty : Headers := ⟨[], .nil⟩

instance : Inhabited Headers := ⟨empty⟩

/-- A header is its name and its value. -/
instance : Membership (String × String) Headers := ⟨fun hs h => h ∈ hs.entries⟩

instance (h : String × String) (hs : Headers) : Decidable (h ∈ hs) :=
  inferInstanceAs (Decidable (h ∈ hs.entries))

/-- Whether headers are the same, in any order. -/
def Perm (hs ks : Headers) : Prop := hs.entries.Perm ks.entries

instance (hs ks : Headers) : Decidable (hs.Perm ks) :=
  inferInstanceAs (Decidable (hs.entries.Perm ks.entries))

/-- The headers without the one of a name. -/
def erase (hs : Headers) (name : String) : Headers where
  entries := hs.entries.filter fun h => h.1 != name
  distinct := hs.distinct.sublist (List.filter_sublist.map _)

/-- The headers with a value for a name, in place of the one that it has. -/
def set (hs : Headers) (name value : String) : Headers where
  entries := (hs.erase name).entries ++ [(name, value)]
  distinct := by
    rw [List.map_append, List.nodup_append]
    refine ⟨(hs.erase name).distinct, List.pairwise_singleton _ _, fun n hn m hm => ?_⟩
    obtain ⟨h, hmem, rfl⟩ := List.mem_map.mp hn
    obtain rfl := List.mem_singleton.mp hm
    exact bne_iff_ne.mp (List.mem_filter.mp hmem).2

/-- The headers that a list of pairs denotes; of two values for one name the later counts. -/
def ofList (pairs : List (String × String)) : Headers :=
  pairs.foldl (fun hs p => hs.set p.1 p.2) empty

/-- The headers of a map. -/
def ofDict (m : Dict String) : Headers where
  entries := m.pairs
  distinct := by
    have hne : ∀ {p q : String × String}, p.1 < q.1 → p.1 ≠ q.1 := fun h he =>
      String.lt_irrefl _ (he ▸ h)
    exact List.pairwise_map.mpr (m.ordered.imp hne)

end Headers

/-! ## Events -/

/-- An event on its way. -/
structure Event where
  /-- What tells the event from all others. -/
  id : String
  subject : String
  headers : Headers
  payload : Value
  /-- Whether the payload has been looked at. -/
  isOpened : Bool
deriving Inhabited, Repr

namespace Event

/-- An event whose payload is still bytes. -/
def ofBytes (id subject : String) (headers : Headers) (bytes : ByteArray) : Event :=
  { id, subject, headers, payload := payloadOfBytes bytes, isOpened := false }

/-- An event made from a document. -/
def ofDocument (id subject : String) (headers : Headers) (document : Json) : Event :=
  { id, subject, headers, payload := .ofJson document.canonical, isOpened := true }

/-- The event after its payload has been looked at. -/
def opened (e : Event) : Event := { e with isOpened := true }

/-- Whether two names differ at most in the case of ASCII letters. -/
def sameName (a b : String) : Bool := a.toLower == b.toLower

/-- The header of a name: the one of exactly this name, or else the first that differs only in the
case of ASCII letters. -/
def header? (e : Event) (name : String) : Option String :=
  match e.headers.entries.find? fun h => h.1 == name with
  | some h => some h.2
  | none => (e.headers.entries.find? fun h => sameName h.1 name).map (·.2)

end Event

end Switchyard
