import Switchyard.Json.Basic

/-!
# Stored documents

A document is kept in canonical form: its reals are finite, and every object has its members in
increasing order of their keys. Such a document is its own canonical form, and the canonical form of
any document is of this kind.

* `Json.IsStored`: the documents that are kept.
* `Json.IsStored.canonical_eq`, `Json.isStored_canonical`: they are the canonical forms.
* `Document`: a document that is kept.
-/

namespace Switchyard

namespace Json

/-- A document as it is kept: no real is infinite or NaN, and the members of each object are in
order. -/
inductive IsStored : Json → Prop where
  | null : IsStored .null
  | bool (b : Bool) : IsStored (.bool b)
  | whole (n : Int) : IsStored (.whole n)
  | real {x : Binary64} (h : x.isFinite = true) : IsStored (.real x)
  | string (s : String) : IsStored (.string s)
  | array {items : List Json} (h : ∀ x ∈ items, IsStored x) : IsStored (.array items)
  | object {members : List (String × Json)} (ho : Assoc.IsOrdered members)
      (h : ∀ m ∈ members, IsStored m.2) : IsStored (.object members)

theorem canonicalItems_eq_map (items : List Json) : canonicalItems items = items.map canonical := by
  induction items with
  | nil => rfl
  | cons x items ih => rw [canonicalItems, ih, List.map_cons]

theorem canonicalMembers_eq_map (members : List (String × Json)) :
    canonicalMembers members = members.map fun m => (m.1, m.2.canonical) := by
  induction members with
  | nil => rfl
  | cons m members ih => rw [canonicalMembers, ih, List.map_cons]

/-- A document that is kept is its own canonical form. -/
theorem IsStored.canonical_eq {j : Json} (h : j.IsStored) : j.canonical = j := by
  induction h with
  | null | bool | whole | string => rfl
  | real h => rw [canonical, if_pos h]
  | array _ ih => rw [canonical, canonicalItems_eq_map, List.map_congr_left ih, List.map_id']
  | @object members ho _ ih =>
    rw [canonical, canonicalMembers_eq_map, Assoc.map_eq_self ih, Assoc.ofList_eq_self ho]

mutual

theorem isStored_canonical : ∀ j : Json, j.canonical.IsStored
  | .null => .null
  | .bool b => .bool b
  | .whole n => .whole n
  | .real x => by
    rw [canonical]
    split
    · next h => exact .real h
    · exact .null
  | .string s => .string s
  | .array items => .array (isStored_canonicalItems items)
  | .object members =>
    .object (Assoc.isOrdered_ofList _) fun m hm =>
      isStored_canonicalMembers members m (Assoc.mem_ofList hm)

theorem isStored_canonicalItems : ∀ items : List Json, ∀ x ∈ canonicalItems items, x.IsStored
  | [] => nofun
  | y :: items => List.forall_mem_cons.mpr ⟨isStored_canonical y, isStored_canonicalItems items⟩

theorem isStored_canonicalMembers :
    ∀ members : List (String × Json), ∀ m ∈ canonicalMembers members, m.2.IsStored
  | [] => nofun
  | (_, y) :: members =>
    List.forall_mem_cons.mpr ⟨isStored_canonical y, isStored_canonicalMembers members⟩

end

end Json

/-- The object of a map. -/
def Json.ofDict (m : Dict Json) : Json := .object m.pairs

/-- A document as it is kept. -/
structure Document where
  /-- The document itself. -/
  json : Json
  isStored : json.IsStored
deriving Repr

namespace Document

/-- The document that is kept of a document that is read. -/
def ofJson (j : Json) : Document := ⟨j.canonical, j.isStored_canonical⟩

instance : Inhabited Document := ⟨ofJson .null⟩

theorem eq_of_json_eq {d d' : Document} (h : d.json = d'.json) : d = d' := by
  cases d
  cases d'
  cases h
  rfl

theorem ofJson_json (d : Document) : ofJson d.json = d := by
  obtain ⟨j, h⟩ := d
  simp only [ofJson, h.canonical_eq]

end Document

end Switchyard
