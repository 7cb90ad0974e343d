import Switchyard.Proofs.Json.Decode
import Switchyard.Rule.Spec

/-!
# Definitions as documents

What a definition has nothing to say about is left out of its document, and the reader puts the same
thing in its place, so a definition that is written is read back, whichever of its members are
there.

* `TargetSpec.decoder_encode`: a target is read back.
* `RuleSpec.ExpiryReadsBack`: the definitions whose expiry is read back.
* `RuleSpec.IsIn`, `RuleSpec.ofRecord?_of_isIn`: a definition is read from its members, whatever
  else stands beside them.
* `RuleSpec.decoder_encode`: a definition is read back.
-/

namespace Switchyard

/-! ## Members that may be left out -/

variable {α : Type}

@[simp] theorem Record.find?_memberUnless (isAbsent : Bool) (n : String) (j : Json)
    (name : String) :
    Record.find? (memberUnless isAbsent n j) name =
      if isAbsent = false ∧ n = name then some j else none := by
  cases isAbsent <;> simp [memberUnless, find?]

@[simp] theorem Record.find?_optionalMember (n : String) (encode : α → Json) (x : Option α)
    (name : String) :
    Record.find? (optionalMember n encode x) name = if n = name then x.map encode else none := by
  cases x <;> simp [optionalMember, find?]

theorem keys_memberUnless (isAbsent : Bool) (name : String) (j : Json) :
    ((memberUnless isAbsent name j).map (·.1)).Sublist [name] := by
  cases isAbsent <;> simp [memberUnless]

theorem keys_optionalMember (name : String) (encode : α → Json) (x : Option α) :
    ((optionalMember name encode x).map (·.1)).Sublist [name] := by
  cases x <;> simp [optionalMember]

namespace TargetSpec

/-- The members of the document of a target. -/
def members (t : TargetSpec) : Record :=
  [("kind", .string t.kind), ("destination", .string t.destination)] ++
    memberUnless t.fields.isEmpty "fields" (.ofDict (t.fields.map .string))

theorem ofJson?_encode (isStrict : Bool) (t : TargetSpec) :
    Record.ofJson? isStrict ["kind", "destination", "fields"] t.encode = some t.members := by
  refine Record.ofJson?_object ?_ (by decide)
  rw [List.map_append]
  exact (List.Sublist.refl ["kind", "destination"]).append (keys_memberUnless _ _ _)

/-- A target that is written is read back. -/
theorem decoder_encode (isStrict : Bool) (t : TargetSpec) :
    decoder isStrict t.encode = some t := by
  have hkind : Record.required t.members "kind" .string = some t.kind := rfl
  have hdestination : Record.withDefault t.members "destination" .string "" =
      some t.destination := rfl
  have hmap : Decoder.dict .string (.ofDict (t.fields.map .string)) = some t.fields :=
    Decoder.dict_ofDict fun _ => rfl
  have hfields : Record.withDefault t.members "fields" (.dict .string) .empty = some t.fields :=
    Record.withDefault_eq_some (by simp [members])
      (fun hempty => (Dict.eq_empty_of_isEmpty hempty).symm) fun _ => hmap
  simp only [decoder, bind, Option.bind_eq_some_iff]
  exact ⟨_, ofJson?_encode isStrict t, _, hkind, _, hdestination, _, hfields, rfl⟩

end TargetSpec

namespace RuleSpec

/-- The text of the expiry, if there is one, reads back as the same time. -/
def ExpiryReadsBack (s : RuleSpec) : Prop :=
  ∀ t, s.expiresAt = some t → Rfc3339.readRelaxed? (Rfc3339.write t).toList = some t

variable {s : RuleSpec} {r : Record}

theorem keys_members (s : RuleSpec) : (s.members.map (·.1)).Sublist names := by
  simp only [members, List.map_append]
  exact (((((List.Sublist.refl ["route_id", "subject"]).append (keys_memberUnless _ _ _)).append
    (keys_optionalMember _ _ _)).append (.refl ["targets"])).append
    (keys_optionalMember _ _ _)).append (keys_optionalMember _ _ _)

/-- The record has the members of the definition, and perhaps others. -/
def IsIn (s : RuleSpec) (r : Record) : Prop :=
  ∀ name ∈ names, r.find? name = Record.find? s.members name

namespace IsIn

theorem filter (hr : s.IsIn r) :
    r.withDefault "filter" (.dict .document) .empty = some s.filter := by
  have hmap : Decoder.dict .document s.filterDocument = some s.filter :=
    Decoder.dict_ofDict fun d => congrArg some d.ofJson_json
  refine Record.withDefault_eq_some ?_ (fun hempty => (Dict.eq_empty_of_isEmpty hempty).symm)
    fun _ => hmap
  rw [hr _ (by decide)]
  simp [members]

theorem filterExpr (hr : s.IsIn r) : r.optional "filter_expr" .string = some s.filterExpr := by
  refine Record.optional_eq_some (e := .string) ?_ fun _ _ => ⟨nofun, rfl⟩
  rw [hr _ (by decide)]
  simp [members]

theorem targets (hr : s.IsIn r) (isStrict : Bool) :
    r.withDefault "targets" (.list (TargetSpec.decoder isStrict)) [] = some s.targets := by
  have hfind : r.find? "targets" = some (.array (s.targets.map TargetSpec.encode)) := by
    rw [hr _ (by decide)]
    simp [members]
  unfold Record.withDefault
  rw [hfind]
  exact Decoder.list_array fun t _ => TargetSpec.decoder_encode isStrict t

theorem expiresAt (hr : s.IsIn r) (h : s.ExpiryReadsBack) :
    r.optional "expires_at" Instant.decode? = some s.expiresAt := by
  refine Record.optional_eq_some (e := Instant.encode) ?_ fun t ht => ⟨nofun, h t ht⟩
  rw [hr _ (by decide)]
  simp [members]

theorem ttl (hr : s.IsIn r) : r.optional "ttl_secs" .word = some s.ttlSeconds := by
  refine Record.optional_eq_some (e := fun n : UInt64 => .whole n.toNat) ?_ fun n _ =>
    ⟨nofun, Decoder.word_whole n⟩
  rw [hr _ (by decide)]
  simp only [members, Record.find?_append, Record.find?_optionalMember]
  cases s.ttlSeconds <;> simp

end IsIn

/-- A definition is read from a record that has its members. -/
theorem ofRecord?_of_isIn (hr : s.IsIn r) (hexpiry : s.ExpiryReadsBack) (isStrict : Bool) :
    ofRecord? isStrict r = some s := by
  have hid : r.required "route_id" .string = some s.routeId := by
    rw [Record.required, hr _ (by decide)]
    rfl
  have hsubject : r.required "subject" .string = some s.subject := by
    rw [Record.required, hr _ (by decide)]
    rfl
  simp only [ofRecord?, bind, Option.bind_eq_some_iff]
  exact ⟨_, hid, _, hsubject, _, hr.filter, _, hr.filterExpr, _, hr.targets isStrict, _,
    hr.expiresAt hexpiry, _, hr.ttl, rfl⟩

/-- A definition that is written is read back. -/
theorem decoder_encode (hexpiry : s.ExpiryReadsBack) (isStrict : Bool) :
    decoder isStrict s.encode = some s := by
  have hrecord : Record.ofJson? isStrict names s.encode = some s.members :=
    Record.ofJson?_object (keys_members s) (by decide)
  rw [decoder, hrecord]
  exact ofRecord?_of_isIn (fun _ _ => rfl) hexpiry isStrict

end RuleSpec

end Switchyard
