import Mathlib.Data.List.Nodup
import Switchyard.Json.Decode

/-!
# What decoders read

A list or map is read item by item, so what is written item by item is read back if each item is. A
record is read by the names of its members: one that is absent has its default, so it does not
matter whether a member with the default value is written.

* `Decoder.list_array`, `Decoder.dict_ofDict`: lists and maps are read back.
* `Record.ofJson?_object`: an object with distinct known names is the record of its members.
* `Record.withDefault_eq_some`, `Record.optional_eq_some`: members that may be left out.
-/

namespace Switchyard

namespace Decoder

variable {α : Type} {item : Decoder α} {encode : α → Json}

theorem mapM_map {β : Type} {f : β → Option α} {g : α → β} {xs : List α}
    (h : ∀ x ∈ xs, f (g x) = some x) :
    (xs.map g).mapM f = some xs := by
  induction xs with
  | nil => rfl
  | cons x xs ih =>
    obtain ⟨hx, hxs⟩ := List.forall_mem_cons.mp h
    rw [List.map_cons, List.mapM_cons, hx, ih hxs]
    rfl

theorem list_array {xs : List α} (h : ∀ x ∈ xs, item (encode x) = some x) :
    list item (.array (xs.map encode)) = some xs :=
  mapM_map h

theorem dict_ofDict {m : Dict α} (h : ∀ x, item (encode x) = some x) :
    dict item (.ofDict (m.map encode)) = some m := by
  have hpairs : (m.pairs.map fun p => (p.1, encode p.2)).mapM
      (fun p => (item p.2).map fun x => (p.1, x)) = some m.pairs :=
    mapM_map fun p _ => by rw [h p.2, Option.map_some]
  have hlist : Dict.ofList m.pairs = m := Dict.eq_of_pairs_eq (Assoc.ofList_eq_self m.ordered)
  unfold dict Json.ofDict Dict.map
  dsimp only
  rw [hpairs, Option.map_some, hlist]

theorem nullable_of_ne_null {j : Json} (h : j ≠ .null) :
    nullable item j = (item j).map some := by
  cases j with
  | null => exact absurd rfl h
  | bool _ | whole _ | real _ | string _ | array _ | object _ => rfl

theorem word_whole (n : UInt64) : word (.whole n.toNat) = some n := by
  have hlt : (n.toNat : Int) < Int.pow 2 64 := Int.ofNat_lt.mpr n.toNat_lt
  rw [word, nat64, if_pos ⟨Int.natCast_nonneg _, hlt⟩, Int.toNat_natCast, Option.map_some,
    UInt64.ofNat_toNat]

end Decoder

namespace Record

variable {r : Record} {name : String} {j : Json} {α : Type} {e : α → Json}

theorem eraseDups_of_nodup {names : List String} (h : names.Nodup) : names.eraseDups = names := by
  induction names with
  | nil => rfl
  | cons name names ih =>
    obtain ⟨hname, hnames⟩ := List.nodup_cons.mp h
    have hfilter : names.filter (fun n => !n == name) = names := by
      refine List.filter_eq_self.mpr fun n hn => ?_
      have hne : n ≠ name := fun he => hname (he ▸ hn)
      simpa using hne
    rw [List.eraseDups_cons, hfilter, ih hnames]

/-- An object is a record of its members if their names are known and each stands once. -/
theorem ofJson?_object {isStrict : Bool} {names : List String} {members : Record}
    (h : (members.map (·.1)).Sublist names) (hd : names.Nodup) :
    ofJson? isStrict names (.object members) = some members := by
  have hknown : members.filter (fun m => names.contains m.1) = members :=
    List.filter_eq_self.mpr fun m hm =>
      List.contains_iff_mem.mpr (h.subset (List.mem_map_of_mem hm))
  simp only [ofJson?, hknown, eraseDups_of_nodup (hd.sublist h), List.length_map, if_true]

@[simp] theorem find?_nil (name : String) : find? [] name = none := rfl

@[simp] theorem find?_append (r q : Record) (name : String) :
    find? (r ++ q) name = (find? r name).or (find? q name) := by
  simp [find?, List.find?_append, Option.map_or]

@[simp] theorem find?_cons (m : String × Json) (r : Record) (name : String) :
    find? (m :: r) name = if m.1 = name then some m.2 else find? r name := by
  by_cases h : m.1 = name <;> simp [find?, h]

/-- A member is read if it is there with the value, or is left out and the value is the default. -/
theorem withDefault_eq_some {isAbsent : Bool} {item : Decoder α} {value x : α}
    (hfind : r.find? name = if isAbsent = false then some j else none)
    (habsent : isAbsent = true → value = x) (hitem : isAbsent = false → item j = some x) :
    r.withDefault name item value = some x := by
  unfold withDefault
  rw [hfind]
  cases isAbsent with
  | false => exact hitem rfl
  | true => exact congrArg some (habsent rfl)

/-- A value is read if it is there, and its absence if it is left out. -/
theorem optional_eq_some {item : Decoder α} {x : Option α} (hfind : r.find? name = x.map e)
    (hitem : ∀ a, x = some a → e a ≠ .null ∧ item (e a) = some a) :
    r.optional name item = some x := by
  unfold optional withDefault
  rw [hfind]
  cases x with
  | none => rfl
  | some a =>
    obtain ⟨hne, ha⟩ := hitem a rfl
    dsimp only [Option.map_some]
    rw [Decoder.nullable_of_ne_null hne, ha]
    rfl

end Record

end Switchyard
