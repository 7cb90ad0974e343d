import Switchyard.Proofs.Registry.History

/-!
# What reconciling reports

Every definition of the list that is brought in is accounted for at its place: it is rejected, or it
is accepted, and then the rule that held its identifier before decides what has become of it.

* `Registry.Disposition`, `Registry.dispositions`: what becomes of the definitions, each at its
  place.
* `Registry.report_mergeOne`, `Registry.report_merge`: what the declarations add to a report.
* `Registry.report_reconcile`: the report is read off the dispositions.
-/

namespace Switchyard

namespace Registry

variable {r : Registry} {now : Instant} {revision : Nat}

/-- What becomes of a definition at its place in the list. -/
inductive Disposition where
  | rejected (why : Rejection)
  | accepted (fate : Fate)
deriving DecidableEq, Repr

/-- Why a definition is rejected. -/
def Disposition.rejection? : Disposition → Option Rejection
  | .rejected why => some why
  | .accepted _ => none

/-- What becomes of a definition behind others: the first of its identifier counts, if it
compiles. -/
def disposition (r : Registry) (now : Instant) (before : List RuleSpec) (s : RuleSpec) :
    Disposition :=
  if (before.map (·.routeId)).contains s.routeId then .rejected .declaredTwice
  else
    match Rule.compile r.functions s .file now with
    | .error e => .rejected (.refused e)
    | .ok _ => .accepted (fate r.rules s)

/-- The identifiers of definitions, with what becomes of each of them. -/
def dispositions (r : Registry) (now : Instant) (before : List RuleSpec) :
    List RuleSpec → List (String × Disposition)
  | [] => []
  | s :: rest =>
    (s.routeId, disposition r now before s) :: dispositions r now (before ++ [s]) rest

/-- The identifiers of the definitions with a fate, in their order. -/
def withFate (ds : List (String × Disposition)) (f : Fate) : List String :=
  (ds.filter fun d => d.2 = .accepted f).map (·.1)

/-- The identifiers of the definitions that are rejected, in their order, and why. -/
def rejections (ds : List (String × Disposition)) : List (String × Rejection) :=
  ds.filterMap fun d => d.2.rejection?.map (d.1, ·)

theorem map_fst_dispositions (r : Registry) (now : Instant) (before specs : List RuleSpec) :
    (dispositions r now before specs).map (·.1) = specs.map (·.routeId) := by
  induction specs generalizing before with
  | nil => rfl
  | cons s specs ih => rw [dispositions, List.map_cons, List.map_cons, ih]

/-- Every definition is rejected or has one fate. -/
theorem length_eq_counts (ds : List (String × Disposition)) :
    ds.length = (withFate ds .added).length + (withFate ds .updated).length +
      (withFate ds .unchanged).length + (rejections ds).length +
      (withFate ds .conflict).length := by
  induction ds with
  | nil => rfl
  | cons d ds ih =>
    obtain ⟨id, d⟩ := d
    unfold withFate rejections at ih ⊢
    cases d with
    | rejected why => simp [Disposition.rejection?] at ih ⊢; omega
    | accepted f => cases f <;> simp [Disposition.rejection?] at ih ⊢ <;> omega

theorem withFate_cons (id : String) (d : Disposition) (ds : List (String × Disposition))
    (f : Fate) : withFate ((id, d) :: ds) f =
      if d = .accepted f then id :: withFate ds f else withFate ds f := by
  unfold withFate
  rw [List.filter_cons]
  by_cases h : d = .accepted f <;> simp [h]

/-! ## Bringing in declarations -/

/-- A report after some more definitions have been accepted. -/
def SyncReport.accepting (report : SyncReport) (ds : List (String × Disposition)) : SyncReport :=
  { report with
    added := report.added ++ withFate ds .added
    updated := report.updated ++ withFate ds .updated
    unchanged := report.unchanged + (withFate ds .unchanged).length
    conflicts := report.conflicts ++ withFate ds .conflict }

/-- What becomes of declarations among rules. -/
def fates (rules : List Rule) (ds : List (RuleSpec × Rule)) : List (String × Disposition) :=
  ds.map fun d => (d.1.routeId, .accepted (fate rules d.1))

theorem accepting_nil (report : SyncReport) : SyncReport.accepting report [] = report := by
  simp [SyncReport.accepting, withFate]

theorem accepting_cons (report : SyncReport) (d : String × Disposition)
    (ds : List (String × Disposition)) :
    SyncReport.accepting report (d :: ds) =
      SyncReport.accepting (SyncReport.accepting report [d]) ds := by
  have happ : ∀ f, withFate (d :: ds) f = withFate [d] f ++ withFate ds f := fun f => by
    unfold withFate
    rw [← List.map_append, ← List.filter_append, List.singleton_append]
  simp [SyncReport.accepting, happ, Nat.add_assoc]

theorem report_mergeOne (m : Merging) (d : RuleSpec × Rule) :
    (mergeOne revision m d).report = SyncReport.accepting m.report (fates m.rules [d]) := by
  obtain ⟨s, rule⟩ := d
  have hone : fates m.rules [(s, rule)] = [(s.routeId, .accepted (fate m.rules s))] := rfl
  rw [hone]
  unfold mergeOne
  dsimp only
  cases h : holder? m.rules s.routeId with
  | none =>
    have hf : fate m.rules s = .added := by rw [fate, h]
    simp [hf, SyncReport.accepting, withFate]
  | some x =>
    by_cases ha : x.source = .api
    · have hf : fate m.rules s = .conflict := by simp [fate, h, ha]
      simp [hf, ha, SyncReport.accepting, withFate]
    · by_cases hs : x.sameDefinition s = true
      · have hf : fate m.rules s = .unchanged := by simp [fate, h, ha, hs]
        simp [hf, ha, hs, SyncReport.accepting, withFate]
      · have hf : fate m.rules s = .updated := by simp [fate, h, ha, hs]
        simp [hf, ha, hs, SyncReport.accepting, withFate]

/-- Declarations do not meet each other, so each of them has the fate that it has at the start. -/
theorem report_merge {ds : List (RuleSpec × Rule)} (hids : (ds.map fun d => d.1.routeId).Nodup)
    (hds : ∀ d ∈ ds, d.2.routeId = d.1.routeId) (m : Merging) :
    (ds.foldl (mergeOne revision) m).report =
      SyncReport.accepting m.report (fates m.rules ds) := by
  induction ds generalizing m with
  | nil => exact (accepting_nil m.report).symm
  | cons d ds ih =>
    have ⟨hd, hds⟩ := List.forall_mem_cons.mp hds
    rw [List.map_cons, List.nodup_cons] at hids
    have hsame : fates (mergeOne revision m d).rules ds = fates m.rules ds := by
      refine List.map_congr_left fun e he => ?_
      have hne : d.1.routeId ≠ e.1.routeId :=
        fun h => hids.1 (h ▸ List.mem_map_of_mem (f := fun d => d.1.routeId) he)
      rw [fate_mergeOne hd hne]
    have hcons : fates m.rules (d :: ds) =
        (d.1.routeId, .accepted (fate m.rules d.1)) :: fates m.rules ds := rfl
    rw [List.foldl_cons, ih hids.2 hds, hsame, report_mergeOne, hcons, accepting_cons]
    rfl

/-! ## Reading a report off the dispositions -/

section Seen

variable {seen : List String} {before : List RuleSpec}

/-- Whether the identifiers that have been seen are those of the definitions before. -/
def Sees (seen : List String) (before : List RuleSpec) : Prop :=
  ∀ id, id ∈ seen ↔ id ∈ before.map (·.routeId)

theorem sees_nil : Sees [] [] := fun _ => Iff.rfl

theorem Sees.contains (h : Sees seen before) (id : String) :
    (before.map (·.routeId)).contains id = seen.contains id := by
  rw [Bool.eq_iff_iff, List.contains_iff_mem, List.contains_iff_mem, h id]

/-- A definition whose identifier has been seen adds nothing. -/
theorem Sees.again (h : Sees seen before) {s : RuleSpec} (hs : seen.contains s.routeId = true) :
    Sees seen (before ++ [s]) := by
  intro id
  rw [List.map_append, List.mem_append, ← h id, List.map_singleton, List.mem_singleton]
  refine ⟨.inl, fun hid => ?_⟩
  rcases hid with hid | rfl
  · exact hid
  · exact List.contains_iff_mem.mp hs

theorem Sees.next (h : Sees seen before) (s : RuleSpec) :
    Sees (s.routeId :: seen) (before ++ [s]) := by
  intro id
  rw [List.map_append, List.mem_append, ← h id, List.map_singleton, List.mem_singleton,
    List.mem_cons, or_comm]

/-- The definitions that are accepted are the declarations. -/
theorem withFate_dispositions (hseen : Sees seen before) (specs : List RuleSpec) (f : Fate) :
    withFate (dispositions r now before specs) f =
      withFate (fates r.rules (compiled r.functions (firstDeclared seen specs) now)) f := by
  induction specs generalizing seen before with
  | nil => rfl
  | cons s specs ih =>
    rw [dispositions, disposition, hseen.contains, firstDeclared, withFate_cons]
    cases hs : seen.contains s.routeId with
    | true => exact ih (hseen.again hs)
    | false =>
      have hrest := ih (hseen.next s)
      cases hc : Rule.compile r.functions s .file now with
      | error e =>
        have hcomp : compiled r.functions (s :: firstDeclared (s.routeId :: seen) specs) now =
            compiled r.functions (firstDeclared (s.routeId :: seen) specs) now := by
          simp [compiled, hc, Except.toOption]
        simp [hcomp, hrest]
      | ok x =>
        have hcomp : compiled r.functions (s :: firstDeclared (s.routeId :: seen) specs) now =
            (s, x) :: compiled r.functions (firstDeclared (s.routeId :: seen) specs) now := by
          simp [compiled, hc, Except.toOption]
        have hcons : ∀ ds, fates r.rules ((s, x) :: ds) =
            (s.routeId, .accepted (fate r.rules s)) :: fates r.rules ds := fun _ => rfl
        simp [hcomp, hcons, withFate_cons, hrest]

theorem declare_rejected (hseen : Sees seen before) (specs : List RuleSpec) (d : Declared)
    (hf : d.registry.functions = r.functions) :
    (declare now seen specs d).rejected =
      d.rejected ++ rejections (dispositions r now before specs) := by
  induction specs generalizing seen before d with
  | nil => exact (List.append_nil _).symm
  | cons s specs ih =>
    rw [dispositions, disposition, hseen.contains, declare]
    cases hs : seen.contains s.routeId with
    | true =>
      simp [ih (hseen.again hs), hf, rejections, Disposition.rejection?]
    | false =>
      rw [compile_eq, hf]
      cases Rule.compile r.functions s .file now with
      | error e => simp [ih (hseen.next s), refusing, hf, rejections, Disposition.rejection?]
      | ok x => simp [ih (hseen.next s), refusing, hf, rejections, Disposition.rejection?]

end Seen

theorem sublist_firstDeclared (seen : List String) (specs : List RuleSpec) :
    (firstDeclared seen specs).Sublist specs := by
  induction specs generalizing seen with
  | nil => exact .slnil
  | cons s specs ih =>
    unfold firstDeclared
    split
    · exact (ih seen).cons s
    · exact (ih _).cons_cons s

/-- The rule of a declared identifier survives. -/
theorem fate_survivors {rules : List Rule} {specs : List RuleSpec} {s : RuleSpec} (h : s ∈ specs) :
    fate (survivors rules specs) s = fate rules s := by
  have hkeep : ∀ x : Rule, x.routeId = s.routeId → isStale specs x = false := by
    intro x hx
    have hm : (specs.map (·.routeId)).contains x.routeId = true :=
      List.contains_iff_mem.mpr (hx ▸ List.mem_map_of_mem h)
    rw [isStale, hm]
    exact Bool.and_false _
  have hfind : holder? (survivors rules specs) s.routeId = holder? rules s.routeId := by
    unfold holder? survivors
    rw [List.find?_filter]
    congr 1
    funext x
    by_cases hx : x.routeId = s.routeId
    · simp [hx, hkeep x hx]
    · simp [hx]
  rw [fate, fate, hfind]

/-- The declarations are brought into a report that names the rules removed and the definitions
rejected. -/
theorem reconcile_report (r : Registry) (specs : List RuleSpec) (now : Instant) :
    (r.reconcile specs now).1 =
      SyncReport.accepting
        { SyncReport.empty with
          removed := (r.rules.filter (isStale specs)).map (·.routeId)
          rejected := rejections (dispositions r now [] specs) }
        (fates (survivors r.rules specs) (declarations r.functions specs now)) := by
  have hids := declarations_distinct r.functions specs now
  have hds := declarations_routeId r.functions specs now
  have hrej : (declare now [] specs ⟨r, [], []⟩).rejected =
      rejections (dispositions r now [] specs) :=
    declare_rejected sees_nil specs ⟨r, [], []⟩ rfl
  rw [reconcile_eq]
  dsimp only
  rw [merging, report_merge hids hds, opening, hrej]

/-- The report on reconciling is read off what becomes of the definitions; removed are the rules of
a file that are no longer declared, in their order. -/
theorem report_reconcile (r : Registry) (specs : List RuleSpec) (now : Instant) :
    (r.reconcile specs now).1 =
      { added := withFate (dispositions r now [] specs) .added
        updated := withFate (dispositions r now [] specs) .updated
        removed := (r.rules.filter (isStale specs)).map (·.routeId)
        unchanged := (withFate (dispositions r now [] specs) .unchanged).length
        rejected := rejections (dispositions r now [] specs)
        conflicts := withFate (dispositions r now [] specs) .conflict } := by
  have hfates : fates (survivors r.rules specs) (declarations r.functions specs now) =
      fates r.rules (declarations r.functions specs now) :=
    List.map_congr_left fun d hd => by
      rw [fate_survivors ((sublist_firstDeclared [] specs).subset (mem_compiled.mp hd).1)]
  have hfate : ∀ f, withFate (fates r.rules (declarations r.functions specs now)) f =
      withFate (dispositions r now [] specs) f :=
    fun f => (withFate_dispositions sees_nil specs f).symm
  rw [reconcile_report, hfates]
  simp [SyncReport.accepting, SyncReport.empty, hfate]

end Registry

end Switchyard
