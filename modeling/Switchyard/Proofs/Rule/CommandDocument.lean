import Switchyard.Proofs.Rule.Document
import Switchyard.Rule.Command

/-!
# Commands as documents

A command is written as one object that holds its operation and the members of its definition, and
it is read back as it was.

* `RuleCommand.ExpiryReadsBack`: the commands whose expiry is read back.
* `RuleCommand.decode?_encode`: a command that is written is read back.
* `RuleCommand.survives_document`: commands survive their documents, and documents of commands the
  commands that they are read as.

All this is about documents and not about their texts. The reader of texts brings a number to its
power of ten in steps, each of which rounds (`Json.realOfParts?`), so the text of a real is not
always read as that real.
-/

namespace Switchyard

namespace RuleCommand

/-- The text of the expiry in the command, if there is one, reads back as the same time. -/
def ExpiryReadsBack (c : RuleCommand) : Prop := ∀ s, c.spec? = some s → s.ExpiryReadsBack

theorem decode?_object {op : String} {members : Record} (h : "op" ∉ members.map (·.1)) :
    decode? (.object (("op", .string op) :: members)) = ofParts? op (.object members) := by
  have hne : ∀ m ∈ members, m.1 ≠ "op" := fun m hm he => h (List.mem_map.mpr ⟨m, hm, he⟩)
  have hop : members.filter (fun m => m.1 == "op") = [] :=
    List.filter_eq_nil_iff.mpr fun m hm => by simpa using hne m hm
  have hrest : members.filter (fun m => m.1 != "op") = members :=
    List.filter_eq_self.mpr fun m hm => by simpa using hne m hm
  simp [decode?, hop, hrest]

/-- A command that is written is read back. -/
theorem decode?_encode {c : RuleCommand} (hexpiry : c.ExpiryReadsBack) :
    decode? c.encode = some c := by
  cases c with
  | add rule replace =>
    have hkeys := (RuleSpec.keys_members rule).cons_cons "replace"
    have hrecord : Record.ofJson? true ("replace" :: RuleSpec.names)
        (.object (("replace", .bool replace) :: rule.members)) =
          some (("replace", .bool replace) :: rule.members) :=
      Record.ofJson?_object hkeys (by decide)
    have hin : rule.IsIn (("replace", .bool replace) :: rule.members) := fun name hname => by
      have hne : "replace" ≠ name := fun he => absurd (he ▸ hname) (by decide)
      rw [Record.find?_cons, if_neg hne]
    have hspec := RuleSpec.ofRecord?_of_isIn hin (hexpiry rule rfl) true
    rw [encode, decode?_object fun hop => absurd (hkeys.subset hop) (by decide)]
    simp only [ofParts?, bind, Option.bind_eq_some_iff]
    exact ⟨_, hrecord, _, hspec, _, rfl, rfl⟩
  | update rule =>
    have hkeys := RuleSpec.keys_members rule
    obtain ⟨_, hrecord, hspec⟩ := Option.bind_eq_some_iff.mp
      (RuleSpec.decoder_encode (hexpiry rule rfl) true)
    rw [encode, decode?_object fun hop => absurd (hkeys.subset hop) (by decide)]
    simp only [ofParts?, bind, Option.bind_eq_some_iff]
    exact ⟨_, hrecord, _, hspec, rfl⟩
  | remove id => rfl

/-- A command is read back from its document as it was, whatever its definition holds; so whatever
document a command was read from, its own document is read as the same. Nothing is said of the text
of the document, whose numbers are read with less care. -/
theorem survives_document {c : RuleCommand} (hexpiry : c.ExpiryReadsBack) :
    decode? c.encode = some c ∧ ∀ j, decode? j = some c → decode? c.encode = decode? j :=
  ⟨decode?_encode hexpiry, fun _ hj => (decode?_encode hexpiry).trans hj.symm⟩

/-- Fields with the values they must have, documents in documents among them. -/
def nestedFilter : Dict Document := .ofList
  [("payload.size", .ofJson (.real ⟨0x3ff8000000000000⟩)),
    ("payload.kind", .ofJson (.object [("b", .string "é"), ("a", .array [.null, .whole (-3)])]))]

/-- A target with a field, and one with a destination. -/
def nestedTargets : List TargetSpec :=
  [⟨"http", "", .ofList [("method", "PUT")]⟩, ⟨"echo", "x", .empty⟩]

/-- An addition with every member but the filter expression. -/
def nestedAddition : RuleCommand :=
  .add ⟨"r1", "events.*", nestedFilter, none, nestedTargets, some ⟨1767323045, 500000000⟩, some 30⟩
    false

/-- An update without an expiry. -/
def nestedUpdate : RuleCommand :=
  .update ⟨"r1", "events.*", nestedFilter, none, nestedTargets, none, some 30⟩

/-- A document of the update: its members and those of the objects in it stand in another order, an
absent member is null and unknown ones are there. -/
def nestedUpdateDocument : Json :=
  .object [("ttl_secs", .whole 30), ("route_id", .string "r1"), ("filter_expr", .null),
    ("targets", .array [
      .object [("fields", .object [("method", .string "PUT")]), ("kind", .string "http")],
      .object [("destination", .string "x"), ("kind", .string "echo"), ("note", .null)]]),
    ("filter", .object [("payload.size", .real ⟨0x3ff8000000000000⟩),
      ("payload.kind", .object [("b", .string "é"), ("a", .array [.null, .whole (-3)])])]),
    ("op", .string "update"), ("replace", .null), ("subject", .string "events.*")]

theorem survives_document_nested :
    nestedAddition.ExpiryReadsBack ∧
    decode? nestedAddition.encode = some nestedAddition ∧
    nestedUpdate.ExpiryReadsBack ∧ decode? nestedUpdateDocument = some nestedUpdate ∧
    decode? nestedUpdate.encode = decode? nestedUpdateDocument := by
  have hexpiry : nestedAddition.ExpiryReadsBack := by
    rintro s ⟨⟩ t ⟨⟩
    decide +kernel
  have hexpiry' : nestedUpdate.ExpiryReadsBack := by
    rintro s ⟨⟩ t ⟨⟩
  have hread : decode? nestedUpdateDocument = some nestedUpdate := by rfl
  exact ⟨hexpiry, (survives_document hexpiry).1, hexpiry', hread,
    (survives_document hexpiry').2 _ hread⟩

end RuleCommand

end Switchyard
