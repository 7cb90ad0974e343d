/-!
# Key-ordered association lists

Objects and maps are lists of pairs in increasing order of their keys, each key once. The order of
the keys is the byte order of their UTF-8 forms.

* `Assoc.find?_insert_self`, `Assoc.find?_insert_of_ne`: a write is seen at its key and nowhere
  else.
* `Assoc.insert_comm`, `Assoc.ofList_eq_of_perm`: the order of writes to different keys does not
  matter.
* `Assoc.IsOrdered`: the order of the keys, which `Assoc.isOrdered_ofList` says of every map and
  `Assoc.ofList_eq_self` finds in no other list.
* `Assoc.ofList_perm`: a map has the pairs that it is made from, if no key has two values.
* `Dict`: a map together with its order.
-/

namespace Switchyard

namespace Assoc

variable {α β : Type} {k : String} {v : α} {m : List (String × α)} {p : String × α}

/-- The value under a key. -/
def find? (k : String) : List (String × α) → Option α
  | [] => none
  | (l, v) :: rest => if k = l then some v else find? k rest

/-- Puts a value under a key, in place of the one that is there. -/
def insert (k : String) (v : α) : List (String × α) → List (String × α)
  | [] => [(k, v)]
  | (l, w) :: rest =>
    if k = l then (k, v) :: rest
    else if k < l then (k, v) :: (l, w) :: rest
    else (l, w) :: insert k v rest

/-- The map that a list of pairs denotes; of two pairs with one key the later counts. -/
def ofList (pairs : List (String × α)) : List (String × α) :=
  pairs.foldl (fun m p => insert p.1 p.2 m) []

/-- Drops a key. -/
def erase (k : String) (m : List (String × α)) : List (String × α) :=
  m.filter fun p => p.1 ≠ k

/-- Whether a key is present. -/
def contains (k : String) (m : List (String × α)) : Bool :=
  (find? k m).isSome

/-- Changes the value under a key that is present and does nothing for one that is not. -/
def modify (k : String) (f : α → α) (m : List (String × α)) : List (String × α) :=
  m.map fun p => if p.1 = k then (p.1, f p.2) else p

theorem find?_insert_self (k : String) (v : α) (m : List (String × α)) :
    find? k (insert k v m) = some v := by
  induction m with
  | nil => simp [insert, find?]
  | cons p rest ih =>
    obtain ⟨l, w⟩ := p
    by_cases h : k = l
    · simp [insert, find?, h]
    · by_cases hlt : k < l <;> simp [insert, find?, h, hlt, ih]

theorem find?_insert_of_ne {k l : String} (h : k ≠ l) (v : α) (m : List (String × α)) :
    find? k (insert l v m) = find? k m := by
  induction m with
  | nil => simp [insert, find?, h]
  | cons p rest ih =>
    obtain ⟨n, w⟩ := p
    by_cases hl : l = n
    · subst hl
      simp [insert, find?, h]
    · by_cases hlt : l < n <;> simp [insert, find?, h, hl, hlt, ih]

theorem insert_comm_of_lt {k l : String} (h : k < l) (v w : α) (m : List (String × α)) :
    insert k v (insert l w m) = insert l w (insert k v m) := by
  have hne : k ≠ l := fun he => String.lt_irrefl l (he ▸ h)
  have hlt : ¬l < k := String.lt_asymm h
  induction m with
  | nil => simp [insert, h, hlt, hne, hne.symm]
  | cons p rest ih =>
    obtain ⟨n, x⟩ := p
    by_cases hk : k = n
    · subst hk
      simp [insert, hlt, hne.symm]
    · by_cases hkn : k < n
      · -- The lower of the two keys goes in front, whatever becomes of the other.
        by_cases hl : l = n
        · subst hl
          simp [insert, h, hlt, hne, hne.symm]
        · by_cases hln : l < n <;> simp [insert, h, hlt, hne, hne.symm, hk, hkn, hl, hln]
      · have hnl : n < l := String.lt_trans (Std.lt_of_le_of_ne hkn (Ne.symm hk)) h
        have hl : l ≠ n := fun he => String.lt_irrefl n (he ▸ hnl)
        simp [insert, hk, hkn, hl, String.lt_asymm hnl, ih]

theorem insert_comm {k l : String} (h : k ≠ l) (v w : α) (m : List (String × α)) :
    insert k v (insert l w m) = insert l w (insert k v m) := by
  by_cases hlt : k < l
  · exact insert_comm_of_lt hlt v w m
  · exact (insert_comm_of_lt (Std.lt_of_le_of_ne hlt h.symm) w v m).symm

/-- A list of pairs in which no key has two values denotes the same map in any order. -/
theorem ofList_eq_of_perm {ps qs : List (String × α)} (h : ps.Perm qs)
    (hd : ∀ p ∈ ps, ∀ q ∈ ps, p.1 = q.1 → p = q) : ofList ps = ofList qs := by
  refine h.foldl_eq' (fun p hp q hq m => ?_) []
  by_cases hk : p.1 = q.1
  · rw [hd p hp q hq hk]
  · exact insert_comm (Ne.symm hk) q.2 p.2 m

/-! ### Order -/

/-- The keys stand in increasing order, so each key stands once. -/
def IsOrdered (m : List (String × α)) : Prop := m.Pairwise fun p q => p.1 < q.1

instance (m : List (String × α)) : Decidable (IsOrdered m) :=
  inferInstanceAs (Decidable (m.Pairwise _))

theorem mem_insert (h : p ∈ insert k v m) : p = (k, v) ∨ p ∈ m := by
  induction m with
  | nil => exact .inl (List.mem_singleton.mp h)
  | cons q rest ih =>
    obtain ⟨l, w⟩ := q
    unfold insert at h
    split at h
    · exact (List.mem_cons.mp h).imp_right (List.mem_cons_of_mem _)
    · split at h
      · exact List.mem_cons.mp h
      · rcases List.mem_cons.mp h with rfl | h
        · exact .inr List.mem_cons_self
        · exact (ih h).imp_right (List.mem_cons_of_mem _)

/-- A map has only pairs of the list that it is made from. -/
theorem mem_ofList {pairs : List (String × α)} (h : p ∈ ofList pairs) : p ∈ pairs := by
  have hfold : ∀ (pairs m : List (String × α)),
      p ∈ pairs.foldl (fun m q => insert q.1 q.2 m) m → p ∈ pairs ∨ p ∈ m := by
    intro pairs
    induction pairs with
    | nil => exact fun m h => .inr h
    | cons q pairs ih =>
      intro m h
      rcases ih _ h with h | h
      · exact .inl (List.mem_cons_of_mem _ h)
      · rcases mem_insert h with rfl | h
        · exact .inl List.mem_cons_self
        · exact .inr h
  exact (hfold pairs [] h).resolve_right List.not_mem_nil

theorem IsOrdered.insert (h : IsOrdered m) (k : String) (v : α) : IsOrdered (insert k v m) := by
  induction m with
  | nil => exact List.pairwise_singleton _ _
  | cons q rest ih =>
    obtain ⟨l, w⟩ := q
    obtain ⟨hl, hrest⟩ := List.pairwise_cons.mp h
    unfold Assoc.insert
    split
    · next hk =>
      subst hk
      exact List.pairwise_cons.mpr ⟨hl, hrest⟩
    · next hk =>
      split
      · next hlt =>
        refine List.pairwise_cons.mpr ⟨fun p hp => ?_, h⟩
        rcases List.mem_cons.mp hp with rfl | hp
        · exact hlt
        · exact String.lt_trans hlt (hl p hp)
      · next hlt =>
        refine List.pairwise_cons.mpr ⟨fun p hp => ?_, ih hrest⟩
        rcases mem_insert hp with rfl | hp
        · exact Std.lt_of_le_of_ne hlt (Ne.symm hk)
        · exact hl p hp

theorem isOrdered_ofList (pairs : List (String × α)) : IsOrdered (ofList pairs) := by
  have hfold : ∀ (pairs m : List (String × α)), IsOrdered m →
      IsOrdered (pairs.foldl (fun m q => insert q.1 q.2 m) m) := by
    intro pairs
    induction pairs with
    | nil => exact fun m h => h
    | cons q pairs ih => exact fun m h => ih _ (h.insert q.1 q.2)
  exact hfold pairs [] .nil

theorem insert_eq_append (h : ∀ p ∈ m, p.1 < k) (v : α) : insert k v m = m ++ [(k, v)] := by
  induction m with
  | nil => rfl
  | cons q rest ih =>
    obtain ⟨hq, hrest⟩ := List.forall_mem_cons.mp h
    have hne : k ≠ q.1 := fun he => String.lt_irrefl k (he ▸ hq)
    rw [insert, if_neg hne, if_neg (String.lt_asymm hq), ih hrest]
    rfl

theorem ofList_eq_self (h : IsOrdered m) : ofList m = m := by
  -- Each pair goes behind those that are there already.
  have hfold : ∀ (pairs m : List (String × α)), IsOrdered (m ++ pairs) →
      pairs.foldl (fun m q => insert q.1 q.2 m) m = m ++ pairs := by
    intro pairs
    induction pairs with
    | nil => exact fun m _ => (List.append_nil m).symm
    | cons q pairs ih =>
      intro m h
      have hlast : ∀ p ∈ m, p.1 < q.1 := fun p hp =>
        (List.pairwise_append.mp h).2.2 p hp q List.mem_cons_self
      rw [List.foldl_cons, insert_eq_append hlast, ih _ (by simpa using h), List.append_assoc]
      rfl
  exact hfold m [] h

theorem insert_perm (h : k ∉ m.map (·.1)) : (insert k v m).Perm ((k, v) :: m) := by
  induction m with
  | nil => exact .refl _
  | cons p rest ih =>
    obtain ⟨l, w⟩ := p
    simp only [List.map_cons, List.mem_cons, not_or] at h
    unfold insert
    rw [if_neg h.1]
    split
    · exact .refl _
    · exact ((ih h.2).cons (l, w)).trans (.swap _ _ _)

theorem ofList_perm {pairs : List (String × α)} (h : (pairs.map (·.1)).Nodup) :
    (ofList pairs).Perm pairs := by
  -- The pairs that are left go in front of the map that there is so far.
  have hfold : ∀ pairs m : List (String × α), ((pairs ++ m).map (·.1)).Nodup →
      (pairs.foldl (fun m p => insert p.1 p.2 m) m).Perm (pairs ++ m) := by
    intro pairs
    induction pairs with
    | nil => exact fun m _ => .refl _
    | cons p pairs ih =>
      intro m h
      have hkey : p.1 ∉ (pairs ++ m).map (·.1) := (List.nodup_cons.mp h).1
      rw [List.map_append] at hkey
      have hinsert : (pairs ++ insert p.1 p.2 m).Perm (p :: (pairs ++ m)) :=
        ((insert_perm fun hm => hkey (List.mem_append_right _ hm)).append_left pairs).trans
          List.perm_middle
      exact (ih _ ((hinsert.map _).nodup_iff.mpr h)).trans hinsert
  have hall := hfold pairs [] (by rwa [List.append_nil])
  rwa [List.append_nil] at hall

theorem IsOrdered.map (h : IsOrdered m) (f : α → β) :
    IsOrdered (m.map fun p => (p.1, f p.2)) :=
  List.pairwise_map.mpr h

theorem map_eq_self {f : α → α} (h : ∀ p ∈ m, f p.2 = p.2) :
    m.map (fun p => (p.1, f p.2)) = m := by
  calc m.map (fun p => (p.1, f p.2)) = m.map id :=
        List.map_congr_left fun p hp => Prod.ext rfl (h p hp)
    _ = m := List.map_id m

end Assoc

/-- A map by key. -/
structure Dict (α : Type) where
  /-- The keys and their values. -/
  pairs : List (String × α)
  ordered : Assoc.IsOrdered pairs
deriving DecidableEq, Repr

namespace Dict

variable {α β : Type}

/-- The map without keys. -/
def empty : Dict α := ⟨[], .nil⟩

instance : Inhabited (Dict α) := ⟨empty⟩

/-- The map that a list of pairs denotes. -/
def ofList (pairs : List (String × α)) : Dict α :=
  ⟨Assoc.ofList pairs, Assoc.isOrdered_ofList pairs⟩

/-- The map with a value under a key, in place of the one that is there. -/
def insert (m : Dict α) (k : String) (v : α) : Dict α :=
  ⟨Assoc.insert k v m.pairs, m.ordered.insert k v⟩

/-- The map with another value under each of its keys. -/
def map (f : α → β) (m : Dict α) : Dict β := ⟨m.pairs.map fun p => (p.1, f p.2), m.ordered.map f⟩

/-- Whether there are no keys. -/
def isEmpty (m : Dict α) : Bool := m.pairs.isEmpty

theorem eq_of_pairs_eq {m n : Dict α} (h : m.pairs = n.pairs) : m = n := by
  cases m
  cases n
  cases h
  rfl

theorem map_injective {f : α → β} (hf : ∀ x y, f x = f y → x = y) {m n : Dict α}
    (h : m.map f = n.map f) : m = n := by
  have hpairs : m.pairs.map (fun p => (p.1, f p.2)) = n.pairs.map fun p => (p.1, f p.2) :=
    congrArg pairs h
  refine eq_of_pairs_eq (List.map_inj_right (fun p q hpq => ?_) |>.mp hpairs)
  obtain ⟨hk, hv⟩ := Prod.mk.inj hpq
  exact Prod.ext hk (hf _ _ hv)

theorem eq_empty_of_isEmpty {m : Dict α} (h : m.isEmpty = true) : m = empty :=
  eq_of_pairs_eq (List.isEmpty_iff.mp h)

end Dict

end Switchyard
