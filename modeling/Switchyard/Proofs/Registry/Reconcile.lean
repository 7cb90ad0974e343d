import Switchyard.Proofs.Registry.RuleList
import Switchyard.Registry.Reconcile

/-!
# What reconciling makes of the rules

Declarations are brought in one by one, and what happens to one is decided by the rule that held its
identifier at the start: declarations have distinct identifiers, so none of them meets another.

* `declarations`: the declarations that count, with their rules.
* `rules_merge`: the rules after all declarations have been brought in.
* `reconcile_spec`: when reconciling publishes the rules that it makes, and which these are.
-/

namespace Switchyard

/-- The counters after a number of definitions have been refused. -/
def Counters.refusing (c : Counters) (n : Nat) : Counters :=
  c.total fun t => { t with compileFailures := t.compileFailures + n }

namespace Registry

variable {fs : Filter.HostFunctions} {now : Instant} {revision : Nat}

/-! ## Declarations -/

/-- The first declaration of each identifier that has not been seen. -/
def firstDeclared : List String → List RuleSpec → List RuleSpec
  | _, [] => []
  | seen, s :: rest =>
    if seen.contains s.routeId then firstDeclared seen rest
    else s :: firstDeclared (s.routeId :: seen) rest

/-- The rules of the definitions that compile, with these definitions. -/
def compiled (fs : Filter.HostFunctions) (specs : List RuleSpec) (now : Instant) :
    List (RuleSpec × Rule) :=
  specs.filterMap fun s => (Rule.compile fs s .file now).toOption.map (s, ·)

/-- The declarations that are brought in, with their rules: the first one of each identifier, if it
compiles. -/
def declarations (fs : Filter.HostFunctions) (specs : List RuleSpec) (now : Instant) :
    List (RuleSpec × Rule) := compiled fs (firstDeclared [] specs) now

theorem mem_compiled {specs : List RuleSpec} {d : RuleSpec × Rule} :
    d ∈ compiled fs specs now ↔ d.1 ∈ specs ∧ Rule.compile fs d.1 .file now = .ok d.2 := by
  unfold compiled
  rw [List.mem_filterMap]
  constructor
  · rintro ⟨s, hs, hd⟩
    obtain ⟨x, hx, rfl⟩ := Option.map_eq_some_iff.mp hd
    exact ⟨hs, toOption_eq_some.mp hx⟩
  · rintro ⟨hs, hx⟩
    exact ⟨d.1, hs, by rw [hx]; rfl⟩

theorem firstDeclared_distinct (seen : List String) (specs : List RuleSpec) :
    ((firstDeclared seen specs).map (·.routeId)).Nodup ∧
      ∀ s ∈ firstDeclared seen specs, s.routeId ∉ seen := by
  induction specs generalizing seen with
  | nil => exact ⟨List.nodup_nil, List.forall_mem_nil _⟩
  | cons s specs ih =>
    unfold firstDeclared
    split
    · exact ih seen
    · next hs =>
      obtain ⟨hd, hn⟩ := ih (s.routeId :: seen)
      refine ⟨?_, List.forall_mem_cons.mpr ⟨by simpa using hs, fun t ht hm => ?_⟩⟩
      · rw [List.map_cons, List.nodup_cons]
        refine ⟨fun hm => ?_, hd⟩
        obtain ⟨t, ht, he⟩ := List.mem_map.mp hm
        exact hn t ht (he ▸ List.mem_cons_self)
      · exact hn t ht (List.mem_cons_of_mem _ hm)

theorem sublist_compiled (fs : Filter.HostFunctions) (specs : List RuleSpec) (now : Instant) :
    ((compiled fs specs now).map (·.1)).Sublist specs := by
  unfold compiled
  induction specs with
  | nil => exact .slnil
  | cons s specs ih =>
    rw [List.filterMap_cons]
    cases Rule.compile fs s .file now with
    | error e => exact ih.cons _
    | ok x => exact ih.cons_cons _

theorem declarations_distinct (fs : Filter.HostFunctions) (specs : List RuleSpec)
    (now : Instant) :
    ((declarations fs specs now).map fun d => d.1.routeId).Nodup := by
  have hs := (sublist_compiled fs (firstDeclared [] specs) now).map (·.routeId)
  rw [List.map_map] at hs
  exact (firstDeclared_distinct [] specs).1.sublist hs

/-- The registry after a number of definitions have been refused. -/
def refusing (r : Registry) (n : Nat) : Registry := { r with counters := r.counters.refusing n }

/-- How many definitions are refused. -/
def refusals (fs : Filter.HostFunctions) (specs : List RuleSpec) (now : Instant) : Nat :=
  specs.countP fun s => (Rule.compile fs s .file now).toOption.isNone

theorem refusals_cons (s : RuleSpec) (specs : List RuleSpec) :
    refusals fs (s :: specs) now =
      (if (Rule.compile fs s .file now).toOption.isNone then 1 else 0) + refusals fs specs now := by
  rw [refusals, List.countP_cons, Nat.add_comm]
  rfl

theorem refusing_refusing (r : Registry) (m n : Nat) :
    (r.refusing m).refusing n = r.refusing (m + n) := by
  simp only [refusing, Counters.refusing, Counters.total, Nat.add_assoc]

/-- Compiling a definition gives its rule or its error, and counts the error. -/
theorem compile_eq (r : Registry) (s : RuleSpec) (source : RuleSource) (now : Instant) :
    r.compile s source now = (Rule.compile r.functions s source now,
      r.refusing (if (Rule.compile r.functions s source now).toOption.isNone then 1 else 0)) := by
  unfold Registry.compile
  cases Rule.compile r.functions s source now with
  | ok x => rfl
  | error e => rfl

/-- Declarations leave everything alone but the number of those refused. -/
theorem declare_registry (now : Instant) (specs : List RuleSpec) (seen : List String)
    (d : Declared) : (declare now seen specs d).registry =
      d.registry.refusing (refusals d.registry.functions (firstDeclared seen specs) now) := by
  induction specs generalizing seen d with
  | nil => rfl
  | cons s specs ih =>
    unfold declare firstDeclared
    split
    · exact ih _ _
    · rw [compile_eq, refusals_cons, ← refusing_refusing]
      cases Rule.compile d.registry.functions s .file now with
      | ok x => exact ih _ _
      | error e => exact ih _ _

theorem declare_accepted (specs : List RuleSpec) (seen : List String) (d : Declared) :
    (declare now seen specs d).accepted =
      d.accepted ++ compiled d.registry.functions (firstDeclared seen specs) now := by
  induction specs generalizing seen d with
  | nil => exact (List.append_nil _).symm
  | cons s specs ih =>
    unfold declare firstDeclared
    split
    · exact ih _ _
    · rw [compile_eq]
      cases hc : Rule.compile d.registry.functions s .file now with
      | ok x => simp [ih, compiled, hc, refusing, Except.toOption]
      | error e => simp [ih, compiled, hc, refusing, Except.toOption]

/-! ## One declaration -/

/-- What becomes of a declaration. -/
inductive Fate where
  | added
  | updated
  | unchanged
  | conflict
deriving DecidableEq, Repr

/-- Whether a declaration changes the rules. -/
def Fate.isChange : Fate → Bool
  | .added | .updated => true
  | .unchanged | .conflict => false

/-- What becomes of a declaration among the given rules. -/
def fate (rules : List Rule) (s : RuleSpec) : Fate :=
  match holder? rules s.routeId with
  | none => .added
  | some x =>
    if x.source = .api then .conflict else if x.sameDefinition s then .unchanged else .updated

theorem fate_eq_added {rules : List Rule} {s : RuleSpec} :
    fate rules s = .added ↔ ∀ x ∈ rules, x.routeId ≠ s.routeId := by
  rw [← holder?_eq_none]
  unfold fate
  cases holder? rules s.routeId with
  | none => exact ⟨fun _ => rfl, fun _ => rfl⟩
  | some x =>
    dsimp only
    constructor
    · intro h
      split at h
      · cases h
      · split at h <;> cases h
    · exact nofun

/-- A definition that is not added meets a rule of its identifier. -/
theorem exists_of_fate_ne_added {rules : List Rule} {s : RuleSpec} (h : fate rules s ≠ .added) :
    ∃ x ∈ rules, x.routeId = s.routeId := by
  rw [Ne, fate_eq_added] at h
  obtain ⟨x, hx⟩ := Classical.not_forall.mp h
  obtain ⟨hx, hid⟩ := Classical.not_imp.mp hx
  exact ⟨x, hx, Classical.not_not.mp hid⟩

theorem fate_of_mem {rules : List Rule} {s : RuleSpec} {x : Rule} (hd : Distinct rules)
    (hx : x ∈ rules) (h : x.routeId = s.routeId) : fate rules s =
      if x.source = .api then .conflict
      else if x.sameDefinition s then .unchanged else .updated := by
  rw [fate, (holder?_eq_some hd).mpr ⟨hx, h⟩]

section MergeOne

variable {m : Merging} {d : RuleSpec × Rule}

theorem rules_mergeOne : (mergeOne revision m d).rules =
    match fate m.rules d.1 with
    | .added => m.rules ++ [d.2.withRevision revision]
    | .updated => replaced m.rules (d.2.withRevision revision)
    | .unchanged | .conflict => m.rules := by
  obtain ⟨s, rule⟩ := d
  unfold mergeOne fate
  dsimp only
  cases holder? m.rules s.routeId with
  | none => rfl
  | some x =>
    by_cases ha : x.source = .api
    · simp [ha]
    · by_cases hs : x.sameDefinition s <;> simp [ha, hs]

theorem hasChanges_mergeOne : (mergeOne revision m d).report.hasChanges =
    (m.report.hasChanges || (fate m.rules d.1).isChange) := by
  obtain ⟨s, rule⟩ := d
  unfold mergeOne fate
  dsimp only
  cases holder? m.rules s.routeId with
  | none => simp [SyncReport.hasChanges, Fate.isChange]
  | some x =>
    by_cases ha : x.source = .api
    · simp [ha, SyncReport.hasChanges, Fate.isChange]
    · by_cases hs : x.sameDefinition s <;>
        simp [ha, hs, SyncReport.hasChanges, Fate.isChange, Bool.or_assoc]

theorem holder?_append_of_ne {rules : List Rule} {x : Rule} {id : String} (h : x.routeId ≠ id) :
    holder? (rules ++ [x]) id = holder? rules id := by
  simp [holder?, List.find?_append, h]

theorem holder?_replaced_of_ne {rules : List Rule} {y : Rule} {id : String} (h : y.routeId ≠ id) :
    holder? (replaced rules y) id = holder? rules id := by
  induction rules with
  | nil => rfl
  | cons x rules ih =>
    unfold replaced holder? at ih ⊢
    rw [List.map_cons, List.find?_cons, List.find?_cons, ih]
    have hy : (y.routeId == id) = false := beq_eq_false_iff_ne.mpr h
    by_cases hx : x.routeId = y.routeId
    · simp [hx, hy]
    · simp [hx]

/-- A declaration does not touch the rule of another identifier. -/
theorem fate_mergeOne {s : RuleSpec} (hd : d.2.routeId = d.1.routeId)
    (h : d.1.routeId ≠ s.routeId) : fate (mergeOne revision m d).rules s = fate m.rules s := by
  have hne : (d.2.withRevision revision).routeId ≠ s.routeId := by
    rw [Rule.routeId_withRevision, hd]
    exact h
  rw [rules_mergeOne]
  cases fate m.rules d.1 with
  | added => rw [fate, holder?_append_of_ne hne]; rfl
  | updated => rw [fate, holder?_replaced_of_ne hne]; rfl
  | unchanged => rfl
  | conflict => rfl

theorem distinct_mergeOne (h : Distinct m.rules) (hd : d.2.routeId = d.1.routeId) :
    Distinct (mergeOne revision m d).rules := by
  rw [rules_mergeOne]
  cases hf : fate m.rules d.1 with
  | added =>
    refine h.append_singleton fun x hx => ?_
    rw [Rule.routeId_withRevision, hd]
    exact fate_eq_added.mp hf x hx
  | updated => exact h.replaced _
  | unchanged => exact h
  | conflict => exact h

end MergeOne

/-! ## All declarations -/

/-- What becomes of a rule in the list when declarations are brought in: that of its identifier
takes its place, unless the control plane has it or it is the same. -/
def refresh (revision : Nat) (ds : List (RuleSpec × Rule)) (x : Rule) : Rule :=
  match ds.find? fun d => d.1.routeId == x.routeId with
  | some d =>
    if x.source = .api ∨ x.sameDefinition d.1 then x else d.2.withRevision revision
  | none => x

/-- The rules after declarations have been brought in: those of the list at their places, and new
ones behind them in the order of their declarations. -/
def merged (revision : Nat) (rules : List Rule) (ds : List (RuleSpec × Rule)) : List Rule :=
  rules.map (refresh revision ds) ++
    (ds.filter fun d => fate rules d.1 = .added).map fun d => d.2.withRevision revision

theorem refresh_of_ne {ds : List (RuleSpec × Rule)} {x : Rule}
    (h : ∀ d ∈ ds, d.1.routeId ≠ x.routeId) : refresh revision ds x = x := by
  have hn : (ds.find? fun d => d.1.routeId == x.routeId) = none := by
    rw [List.find?_eq_none]
    exact fun d hd => mt beq_iff_eq.mp (h d hd)
  rw [refresh, hn]

theorem refresh_cons_of_ne {d : RuleSpec × Rule} {ds : List (RuleSpec × Rule)} {x : Rule}
    (h : d.1.routeId ≠ x.routeId) : refresh revision (d :: ds) x = refresh revision ds x := by
  unfold refresh
  rw [List.find?_cons_of_neg (by simpa using h)]

/-- The rule that a declaration meets is replaced exactly if the declaration counts as an update. -/
theorem refresh_cons_of_mem {rules : List Rule} {d : RuleSpec × Rule} {ds : List (RuleSpec × Rule)}
    {x : Rule} (hd : Distinct rules) (hx : x ∈ rules) (h : x.routeId = d.1.routeId) :
    refresh revision (d :: ds) x =
      if fate rules d.1 = .updated then d.2.withRevision revision else x := by
  unfold refresh
  rw [List.find?_cons_of_pos (by simpa using h.symm), fate_of_mem hd hx h]
  dsimp only
  by_cases ha : x.source = .api
  · simp [ha]
  · by_cases hs : x.sameDefinition d.1 <;> simp [ha, hs]

theorem merged_nil (rules : List Rule) : merged revision rules [] = rules := by
  unfold merged
  rw [List.filter_nil, List.map_nil, List.append_nil]
  exact (List.map_congr_left fun x _ => refresh_of_ne (List.forall_mem_nil _)).trans
    (List.map_id rules)

/-- Bringing in the first of several declarations and then the others brings in all of them. -/
theorem merged_mergeOne {m : Merging} {d : RuleSpec × Rule} {ds : List (RuleSpec × Rule)}
    (hm : Distinct m.rules) (hd : d.2.routeId = d.1.routeId)
    (hds : ∀ e ∈ ds, e.1.routeId ≠ d.1.routeId) :
    merged revision (mergeOne revision m d).rules ds = merged revision m.rules (d :: ds) := by
  have hnew : (ds.filter fun e => fate (mergeOne revision m d).rules e.1 = .added) =
      ds.filter fun e => fate m.rules e.1 = .added :=
    List.filter_congr fun e he => by rw [fate_mergeOne hd (Ne.symm (hds e he))]
  have hself : refresh revision ds (d.2.withRevision revision) = d.2.withRevision revision :=
    refresh_of_ne fun e he => by
      rw [Rule.routeId_withRevision, hd]
      exact hds e he
  -- A rule of another identifier meets the same declarations as before.
  have hother : ∀ x ∈ m.rules, x.routeId ≠ d.1.routeId →
      refresh revision (d :: ds) x = refresh revision ds x :=
    fun x _ hx => refresh_cons_of_ne (Ne.symm hx)
  have hown : ∀ x ∈ m.rules, x.routeId = d.1.routeId → refresh revision ds x = x :=
    fun x _ hx => refresh_of_ne fun e he => hx ▸ hds e he
  have hkept : fate m.rules d.1 ≠ .updated →
      m.rules.map (refresh revision ds) = m.rules.map (refresh revision (d :: ds)) := by
    refine fun hf => List.map_congr_left fun x hx => ?_
    by_cases hid : x.routeId = d.1.routeId
    · rw [refresh_cons_of_mem hm hx hid, if_neg hf, hown x hx hid]
    · exact (hother x hx hid).symm
  unfold merged
  rw [hnew, rules_mergeOne, List.filter_cons]
  cases hf : fate m.rules d.1 with
  | added => simp [hkept, hf, hself]
  | updated =>
    have hmap : (replaced m.rules (d.2.withRevision revision)).map (refresh revision ds) =
        m.rules.map (refresh revision (d :: ds)) := by
      unfold replaced
      rw [List.map_map]
      refine List.map_congr_left fun x hx => ?_
      rw [Function.comp_apply, Rule.routeId_withRevision, hd]
      by_cases hid : x.routeId = d.1.routeId
      · rw [refresh_cons_of_mem hm hx hid, if_pos hf, if_pos (beq_iff_eq.mpr hid), hself]
      · rw [hother x hx hid, if_neg (mt beq_iff_eq.mp hid)]
    simp [hmap]
  | unchanged => simp [hkept, hf]
  | conflict => simp [hkept, hf]

variable {ds : List (RuleSpec × Rule)}

theorem rules_merge (hids : (ds.map fun d => d.1.routeId).Nodup)
    (hds : ∀ d ∈ ds, d.2.routeId = d.1.routeId) {m : Merging} (hm : Distinct m.rules) :
    (ds.foldl (mergeOne revision) m).rules = merged revision m.rules ds := by
  induction ds generalizing m with
  | nil => exact (merged_nil m.rules).symm
  | cons d ds ih =>
    have ⟨hd, hds⟩ := List.forall_mem_cons.mp hds
    rw [List.map_cons, List.nodup_cons] at hids
    have hne : ∀ e ∈ ds, e.1.routeId ≠ d.1.routeId :=
      fun e he h => hids.1 (h ▸ List.mem_map_of_mem (f := fun d => d.1.routeId) he)
    rw [List.foldl_cons, ih hids.2 hds (distinct_mergeOne hm hd), merged_mergeOne hm hd hne]

theorem hasChanges_merge (hids : (ds.map fun d => d.1.routeId).Nodup)
    (hds : ∀ d ∈ ds, d.2.routeId = d.1.routeId) (m : Merging) :
    (ds.foldl (mergeOne revision) m).report.hasChanges = true ↔
      m.report.hasChanges = true ∨ ∃ d ∈ ds, (fate m.rules d.1).isChange = true := by
  induction ds generalizing m with
  | nil => simp
  | cons d ds ih =>
    have ⟨hd, hds⟩ := List.forall_mem_cons.mp hds
    rw [List.map_cons, List.nodup_cons] at hids
    have hne : ∀ e ∈ ds, d.1.routeId ≠ e.1.routeId :=
      fun e he h => hids.1 (h ▸ List.mem_map_of_mem (f := fun d => d.1.routeId) he)
    have hsame : (∃ e ∈ ds, (fate (mergeOne revision m d).rules e.1).isChange = true) ↔
        ∃ e ∈ ds, (fate m.rules e.1).isChange = true :=
      exists_congr fun e => and_congr_right fun he => by rw [fate_mergeOne hd (hne e he)]
    rw [List.foldl_cons, ih hids.2 hds, hasChanges_mergeOne, Bool.or_eq_true, hsame, or_assoc]
    simp only [List.mem_cons, exists_eq_or_imp]

theorem routeId_refresh (hds : ∀ d ∈ ds, d.2.routeId = d.1.routeId) (x : Rule) :
    (refresh revision ds x).routeId = x.routeId := by
  unfold refresh
  split
  · next d hd =>
    have hid : d.1.routeId = x.routeId := by simpa using List.find?_some hd
    split
    · rfl
    · rw [Rule.routeId_withRevision, hds d (List.mem_of_find?_eq_some hd), hid]
  · rfl

/-- The rules at their places keep their identifiers, and the new ones have theirs. -/
theorem map_routeId_merged (hds : ∀ d ∈ ds, d.2.routeId = d.1.routeId) (rules : List Rule) :
    (merged revision rules ds).map Rule.routeId = rules.map Rule.routeId ++
      (ds.filter fun d => fate rules d.1 = .added).map fun d => d.1.routeId := by
  unfold merged
  rw [List.map_append, List.map_map, List.map_map]
  congr 1
  · exact List.map_congr_left fun x _ => routeId_refresh hds x
  · exact List.map_congr_left fun d hd => hds d (List.mem_filter.mp hd).1

theorem mem_refresh (revision : Nat) (ds : List (RuleSpec × Rule)) (x : Rule) :
    refresh revision ds x = x ∨ ∃ d ∈ ds, refresh revision ds x = d.2.withRevision revision := by
  unfold refresh
  split
  · next d hd =>
    split
    · exact .inl rfl
    · exact .inr ⟨d, List.mem_of_find?_eq_some hd, rfl⟩
  · exact .inl rfl

/-- A rule that was not there comes from a declaration. -/
theorem mem_merged {rules : List Rule} {x : Rule} (h : x ∈ merged revision rules ds) :
    x ∈ rules ∨ ∃ d ∈ ds, x = d.2.withRevision revision := by
  rcases List.mem_append.mp h with h | h
  · obtain ⟨y, hy, rfl⟩ := List.mem_map.mp h
    rcases mem_refresh revision ds y with he | he
    · left
      rwa [he]
    · exact .inr he
  · obtain ⟨d, hd, rfl⟩ := List.mem_map.mp h
    exact .inr ⟨d, (List.mem_filter.mp hd).1, rfl⟩

theorem refresh_of_api {x : Rule} (h : x.source = .api) : refresh revision ds x = x := by
  unfold refresh
  split
  · exact if_pos (.inl h)
  · rfl

/-- Without an added or updated declaration nothing changes. -/
theorem merged_eq_self {rules : List Rule} (hd : Distinct rules)
    (h : ∀ d ∈ ds, (fate rules d.1).isChange = false) : merged revision rules ds = rules := by
  have hnone : (ds.filter fun d => fate rules d.1 = .added) = [] := by
    rw [List.filter_eq_nil_iff]
    intro d hm hf
    have := h d hm
    rw [of_decide_eq_true hf] at this
    cases this
  unfold merged
  rw [hnone, List.map_nil, List.append_nil]
  refine (List.map_congr_left fun x hx => ?_).trans (List.map_id rules)
  unfold refresh
  split
  · next d hfind =>
    have hid : d.1.routeId = x.routeId := by simpa using List.find?_some hfind
    have hf := h d (List.mem_of_find?_eq_some hfind)
    rw [fate_of_mem hd hx hid.symm] at hf
    by_cases ha : x.source = .api
    · exact if_pos (.inl ha)
    · by_cases hs : x.sameDefinition d.1
      · exact if_pos (.inr hs)
      · simp [ha, hs, Fate.isChange] at hf
  · rfl

theorem find?_of_mem (hids : (ds.map fun d => d.1.routeId).Nodup) {d : RuleSpec × Rule}
    (hd : d ∈ ds) : (ds.find? fun e => e.1.routeId == d.1.routeId) = some d := by
  induction ds with
  | nil => cases hd
  | cons e ds ih =>
    rw [List.map_cons, List.nodup_cons] at hids
    rcases List.mem_cons.mp hd with rfl | hd
    · simp
    · have hne : e.1.routeId ≠ d.1.routeId :=
        fun h => hids.1 (h ▸ List.mem_map_of_mem (f := fun d => d.1.routeId) hd)
      rw [List.find?_cons_of_neg (by simpa using hne), ih hids.2 hd]

/-- The rule of an added or updated declaration is brought in under the new revision. -/
theorem withRevision_mem_merged (revision : Nat) {rules : List Rule} (hd : Distinct rules)
    (hids : (ds.map fun d => d.1.routeId).Nodup) {d : RuleSpec × Rule} (hm : d ∈ ds)
    (hf : (fate rules d.1).isChange = true) :
    d.2.withRevision revision ∈ merged revision rules ds := by
  cases hfate : fate rules d.1 with
  | added =>
    refine List.mem_append_right _ (List.mem_map.mpr ⟨d, List.mem_filter.mpr ⟨hm, ?_⟩, rfl⟩)
    exact decide_eq_true hfate
  | updated =>
    obtain ⟨x, hx, hid⟩ := exists_of_fate_ne_added fun h => nomatch h.symm.trans hfate
    refine List.mem_append_left _ (List.mem_map.mpr ⟨x, hx, ?_⟩)
    rw [fate_of_mem hd hx hid] at hfate
    rw [refresh, hid, find?_of_mem hids hm]
    by_cases ha : x.source = .api
    · simp [ha] at hfate
    · by_cases hs : x.sameDefinition d.1
      · simp [ha, hs] at hfate
      · simp [ha, hs]
  | unchanged => rw [hfate] at hf; cases hf
  | conflict => rw [hfate] at hf; cases hf

/-- An added or updated declaration brings in a rule of the new revision. -/
theorem exists_mem_merged (revision : Nat) {rules : List Rule} (hd : Distinct rules)
    (hids : (ds.map fun d => d.1.routeId).Nodup)
    (h : ∃ d ∈ ds, (fate rules d.1).isChange = true) :
    ∃ x ∈ merged revision rules ds, x.revision = revision := by
  obtain ⟨d, hm, hf⟩ := h
  exact ⟨_, withRevision_mem_merged revision hd hids hm hf, rfl⟩

/-! ## Reconciling -/

theorem declarations_routeId (fs : Filter.HostFunctions) (specs : List RuleSpec) (now : Instant) :
    ∀ d ∈ declarations fs specs now, d.2.routeId = d.1.routeId :=
  fun _ hd => Rule.routeId_of_compile (mem_compiled.mp hd).2

theorem declarations_source (fs : Filter.HostFunctions) (specs : List RuleSpec) (now : Instant) :
    ∀ d ∈ declarations fs specs now, d.2.source = .file :=
  fun _ hd => Rule.source_of_compile (mem_compiled.mp hd).2

/-- The rules that reconciling does not take out. -/
def survivors (rules : List Rule) (specs : List RuleSpec) : List Rule :=
  rules.filter fun x => !isStale specs x

theorem distinct_survivors {rules : List Rule} (h : Distinct rules) (specs : List RuleSpec) :
    Distinct (survivors rules specs) := h.filter _

/-- The rules after reconciling. -/
def reconciled (r : Registry) (specs : List RuleSpec) (now : Instant) : List Rule :=
  merged (r.revision + 1) (survivors r.rules specs) (declarations r.functions specs now)

/-- Whether reconciling changes a rule. -/
def Reconciles (r : Registry) (specs : List RuleSpec) (now : Instant) : Prop :=
  (∃ x ∈ r.rules, isStale specs x = true) ∨
    ∃ d ∈ declarations r.functions specs now, (fate (survivors r.rules specs) d.1).isChange = true

/-- What declarations are brought into: the rules that are no longer declared are gone, and the
definitions that do not compile have been counted. -/
def opening (r : Registry) (specs : List RuleSpec) (now : Instant) : Merging where
  rules := survivors r.rules specs
  counters := (r.rules.filter (isStale specs)).foldl (fun c x => c.forget x.routeId)
    (r.counters.refusing (refusals r.functions (firstDeclared [] specs) now))
  report := { SyncReport.empty with
    removed := (r.rules.filter (isStale specs)).map (·.routeId)
    rejected := (declare now [] specs ⟨r, [], []⟩).rejected }

/-- What bringing in all declarations comes to. -/
def merging (r : Registry) (specs : List RuleSpec) (now : Instant) : Merging :=
  (declarations r.functions specs now).foldl (mergeOne (r.revision + 1)) (r.opening specs now)

theorem reconcile_eq (r : Registry) (specs : List RuleSpec) (now : Instant) :
    r.reconcile specs now = ((r.merging specs now).report,
      { r with
        index := if (r.merging specs now).report.hasChanges then
          .build (r.merging specs now).rules (r.revision + 1) else r.index
        counters := (r.merging specs now).counters }) := by
  have hreg := declare_registry now specs [] ⟨r, [], []⟩
  have hacc : (declare now [] specs ⟨r, [], []⟩).accepted = declarations r.functions specs now :=
    declare_accepted specs [] ⟨r, [], []⟩
  unfold reconcile
  dsimp only
  rw [hreg, hacc]
  change (if (r.merging specs now).report.hasChanges then _ else _) = _
  split
  · rfl
  · rfl

theorem hasChanges_opening (r : Registry) (specs : List RuleSpec) (now : Instant) :
    (r.opening specs now).report.hasChanges = true ↔ ∃ x ∈ r.rules, isStale specs x = true := by
  simp [opening, SyncReport.hasChanges, SyncReport.empty]

theorem rules_merging {r : Registry} (hd : Distinct r.rules) (specs : List RuleSpec)
    (now : Instant) : (r.merging specs now).rules = r.reconciled specs now :=
  rules_merge (declarations_distinct _ specs now) (declarations_routeId _ specs now)
    (distinct_survivors hd specs)

/-- Reconciling publishes the rules that it makes if they are a change. -/
theorem reconcile_spec {r : Registry} (hd : Distinct r.rules) (specs : List RuleSpec)
    (now : Instant) :
    ((r.reconcile specs now).1.hasChanges = true ↔ r.Reconciles specs now) ∧
      (r.reconcile specs now).2.functions = r.functions ∧
      (r.reconcile specs now).2.index =
        if (r.reconcile specs now).1.hasChanges then
          .build (r.reconciled specs now) (r.revision + 1)
        else r.index := by
  have hids := declarations_distinct r.functions specs now
  have hds := declarations_routeId r.functions specs now
  rw [reconcile_eq, rules_merging hd]
  refine ⟨?_, rfl, rfl⟩
  dsimp only
  rw [merging, hasChanges_merge hids hds, hasChanges_opening]
  exact Iff.rfl

section Reconciled

variable {r : Registry} {specs : List RuleSpec}

theorem distinct_reconciled (hd : Distinct r.rules) : Distinct (r.reconciled specs now) := by
  unfold Distinct reconciled
  rw [map_routeId_merged (declarations_routeId _ specs _), List.nodup_append]
  refine ⟨hd.filter _, ?_, ?_⟩
  · exact (declarations_distinct _ specs _).sublist (List.filter_sublist.map _)
  · intro id hid id' hid' he
    obtain ⟨x, hx, rfl⟩ := List.mem_map.mp hid
    obtain ⟨d, hd, rfl⟩ := List.mem_map.mp hid'
    exact fate_eq_added.mp (of_decide_eq_true (List.mem_filter.mp hd).2) x hx he

/-- A rule that was not there has been compiled from a declaration, and is of the new revision. -/
theorem mem_reconciled {x : Rule} (h : x ∈ r.reconciled specs now) :
    x ∈ r.rules ∨ x.revision = r.revision + 1 ∧ x.source = .file ∧ x.IsCompiled r.functions := by
  rcases mem_merged h with h | ⟨d, hd, rfl⟩
  · exact .inl (List.mem_filter.mp h).1
  · have hc := (mem_compiled.mp hd).2
    exact .inr ⟨rfl, declarations_source _ specs _ d hd, d.1, .file, now, d.2, _, hc, rfl⟩

theorem reconciled_eq_self (hd : Distinct r.rules) (h : ¬r.Reconciles specs now) :
    r.reconciled specs now = r.rules := by
  have ⟨hstale, hfate⟩ := not_or.mp h
  have hs : survivors r.rules specs = r.rules := by
    refine List.filter_eq_self.mpr fun x hx => ?_
    rw [Bool.not_eq_true']
    exact Bool.eq_false_iff.mpr fun hst => hstale ⟨x, hx, hst⟩
  unfold reconciled
  rw [merged_eq_self (distinct_survivors hd specs)
    fun d hd => Bool.eq_false_iff.mpr fun hf => hfate ⟨d, hd, hf⟩, hs]

/-- A change leaves a rule of the new revision behind, or takes a rule out. -/
theorem reconciled_ne (hd : Distinct r.rules) (hrev : ∀ x ∈ r.rules, x.revision ≤ r.revision)
    (h : r.Reconciles specs now) : r.reconciled specs now ≠ r.rules := by
  intro he
  by_cases hf : ∃ d ∈ declarations r.functions specs now,
      (fate (survivors r.rules specs) d.1).isChange = true
  · obtain ⟨x, hx, hn⟩ := exists_mem_merged (r.revision + 1)
      (distinct_survivors hd specs) (declarations_distinct _ specs _) hf
    have hle := hrev x (he ▸ hx)
    omega
  · obtain ⟨x, hx, hs⟩ := h.resolve_right hf
    have hall : ∀ d ∈ declarations r.functions specs now,
        (fate (survivors r.rules specs) d.1).isChange = false :=
      fun d hd => Bool.eq_false_iff.mpr fun h => hf ⟨d, hd, h⟩
    rw [reconciled, merged_eq_self (distinct_survivors hd specs) hall] at he
    rw [survivors, List.filter_eq_self] at he
    have hkeep := he x hx
    rw [hs] at hkeep
    cases hkeep

theorem filter_map_of_fixed {α : Type} {l : List α} {f : α → α} {p : α → Bool}
    (hfix : ∀ x ∈ l, p x = true → f x = x) (hout : ∀ x ∈ l, p x = false → p (f x) = false) :
    (l.map f).filter p = l.filter p := by
  induction l with
  | nil => rfl
  | cons x l ih =>
    have ⟨hx, hl⟩ := List.forall_mem_cons.mp hfix
    have ⟨ho, hol⟩ := List.forall_mem_cons.mp hout
    rw [List.map_cons, List.filter_cons, List.filter_cons, ih hl hol]
    cases hp : p x with
    | true => rw [hx hp, hp]
    | false => rw [ho hp]; rfl

/-- The rules of the control plane stay as they are. -/
theorem filter_api_reconciled : ((r.reconciled specs now).filter fun x => !(x.source == .file)) =
    r.rules.filter fun x => !(x.source == .file) := by
  -- A rule of the control plane is left alone by a refresh, and what a refresh puts in place of a
  -- rule comes from a file. What is appended does as well.
  have hkept : ((survivors r.rules specs).map (refresh (r.revision + 1)
      (declarations r.functions specs now))).filter (fun x => !(x.source == .file)) =
      (survivors r.rules specs).filter fun x => !(x.source == .file) := by
    refine filter_map_of_fixed (fun x _ hx => ?_) fun x _ hx => ?_
    · refine refresh_of_api ?_
      cases hs : x.source with
      | api => rfl
      | file => rw [hs] at hx; cases hx
    · rcases mem_refresh (r.revision + 1) (declarations r.functions specs now) x with
        he | ⟨d, hd, he⟩
      · rwa [he]
      · rw [he, Rule.source_withRevision, declarations_source _ specs _ d hd]
        rfl
  have hnew : ∀ ds : List (RuleSpec × Rule), ds ⊆ declarations r.functions specs now →
      ((ds.map fun d => d.2.withRevision (r.revision + 1)).filter
        fun x => !(x.source == .file)) = [] := by
    intro ds hds
    rw [List.filter_eq_nil_iff]
    intro x hx
    obtain ⟨d, hd, rfl⟩ := List.mem_map.mp hx
    rw [Rule.source_withRevision, declarations_source _ specs _ d (hds hd)]
    decide
  have hstale : (survivors r.rules specs).filter (fun x => !(x.source == .file)) =
      r.rules.filter fun x => !(x.source == .file) := by
    rw [survivors, List.filter_filter]
    refine List.filter_congr fun x _ => ?_
    cases hs : x.source <;> simp [isStale, hs]
  rw [reconciled, merged, List.filter_append, hkept, hstale,
    hnew _ fun _ hd => (List.mem_filter.mp hd).1, List.append_nil]

end Reconciled

end Registry

end Switchyard
