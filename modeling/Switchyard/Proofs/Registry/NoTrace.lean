import Switchyard.Proofs.Registry.Tracking

/-!
# Calls that change nothing

A call that is refused, or that finds nothing to do, leaves a registry as it was: the rules with
their index and revision, the statistics of every route and all totals but one. It may have counted
definitions that do not compile, and its reply tells how many.

* `Rule.isDefinitionError_of_compile`: a definition is never refused by the compiler for what the
  registry holds.
* `Reply.refusals`: how many definitions a call has counted, as its reply tells.
* `Registry.refusals_reconcile`: when rules are reconciled, these are the first declarations of
  their identifiers that do not compile.
* `Registry.no_trace`: what is left behind by any call that changes nothing.
-/

namespace Switchyard

/-- Whether a declaration is rejected by the compiler. One that repeats an identifier has not been
compiled. -/
def Rejection.isRefusal : Rejection → Bool
  | .declaredTwice => false
  | .refused _ => true

/-- How many definitions a call has counted as refused. -/
def Reply.refusals : Reply → Nat
  | .refused e => if e.isDefinitionError then 1 else 0
  | .synced report => report.rejected.countP fun p => p.2.isRefusal
  | .published _ | .removed _ | .swept _ => 0

theorem Reply.eq_error_of_ofPublished {result : Except RegistryError Published} {e : RegistryError}
    (h : ofPublished result = .refused e) : result = .error e := by
  cases result with
  | error e' => exact congrArg Except.error (Reply.refused.inj h)
  | ok p => cases h

namespace Registry

variable {r : Registry} {now : Instant} {revision : Nat} {specs : List RuleSpec}

theorem refusing_zero (r : Registry) : r.refusing 0 = r := rfl

/-! ## Putting a rule in -/

/-- A rule is not put in because its definition does not compile, which is counted, or for what the
registry holds. -/
theorem publish_refused {s : RuleSpec} {source : RuleSource} {mode : WriteMode} {e : RegistryError}
    (h : (r.publish s source mode now).1 = .error e) :
    (Rule.compile r.functions s source now = .error e ∧ e.isDefinitionError = true ∧
        (r.publish s source mode now).2 = r.refusing 1) ∨
      ((∃ x, Rule.compile r.functions s source now = .ok x) ∧ e.isDefinitionError = false ∧
        (r.publish s source mode now).2 = r) := by
  cases hc : Rule.compile r.functions s source now with
  | error e' =>
    rw [publish_of_error hc] at h ⊢
    obtain rfl := Except.error.inj h
    exact .inl ⟨rfl, Rule.isDefinitionError_of_compile hc, rfl⟩
  | ok x =>
    refine .inr ⟨⟨x, rfl⟩, ?_⟩
    rw [publish_of_ok hc] at h ⊢
    split at h
    · next hadd =>
      obtain rfl := Except.error.inj h
      rw [if_pos hadd]
      exact ⟨rfl, rfl⟩
    · next hadd =>
      rw [if_neg hadd]
      split at h
      · next hupdate =>
        obtain rfl := Except.error.inj h
        rw [if_pos hupdate]
        exact ⟨rfl, rfl⟩
      · cases h

theorem publish_no_trace {s : RuleSpec} {source : RuleSource} {mode : WriteMode} {e : RegistryError}
    (h : (r.publish s source mode now).1 = .error e) :
    (r.publish s source mode now).2 = r.refusing (if e.isDefinitionError then 1 else 0) := by
  rcases publish_refused h with ⟨-, he, hr⟩ | ⟨-, he, hr⟩
  · rw [hr, he]
    rfl
  · rw [hr, he]
    rfl

/-- The definition is at fault exactly if it does not compile. -/
theorem isDefinitionError_iff {s : RuleSpec} {source : RuleSource} {mode : WriteMode}
    {e : RegistryError} (h : (r.publish s source mode now).1 = .error e) :
    e.isDefinitionError = true ↔ Rule.compile r.functions s source now = .error e := by
  refine ⟨fun he => ?_, Rule.isDefinitionError_of_compile⟩
  rcases publish_refused h with ⟨hc, -, -⟩ | ⟨-, hno, -⟩
  · exact hc
  · rw [he] at hno
    cases hno

/-! ## Taking rules out -/

theorem keepOnly_eq_self {keep : Rule → Bool} (h : ∀ x ∈ r.rules, keep x = true) :
    r.keepOnly keep = r := by
  have hgone : (r.rules.filter fun x => !keep x) = [] := by
    rw [List.filter_eq_nil_iff]
    intro x hx
    rw [h x hx]
    decide
  unfold keepOnly
  rw [hgone]
  rfl

theorem remove_no_trace {id : String} (h : (r.remove id).1 = false) : (r.remove id).2 = r := by
  have hnone : holder? r.rules id = none := by simpa [remove] using h
  exact keepOnly_eq_self fun x hx => bne_iff_ne.mpr (holder?_eq_none.mp hnone x hx)

theorem sweep_no_trace (h : (r.sweep now).1 = 0) : (r.sweep now).2 = r := by
  have hnone : (r.rules.filter fun x => x.isExpired now) = [] := List.length_eq_zero_iff.mp h
  refine keepOnly_eq_self fun x hx => ?_
  have hx := List.filter_eq_nil_iff.mp hnone x hx
  simpa using hx

/-- The reply on a removal counts no definition. -/
theorem refusals_of_removes {w : Write} {id : String} (h : w.removes? = some id) (r : Registry)
    (now : Instant) : (r.perform w now).1.refusals = 0 := by
  cases w with
  | add s | addOrReplace s | update s | sweep | reconcile specs => cases h
  | remove id => rfl
  | apply c =>
    cases c with
    | add s replace | update s => cases h
    | remove id =>
      unfold perform apply
      dsimp only
      split
      · rfl
      · rfl

/-! ## Reconciling -/

/-- Declarations that change no rule start no statistics. -/
theorem counters_merge {ds : List (RuleSpec × Rule)} {m : Merging}
    (h : (ds.foldl (mergeOne revision) m).report.hasChanges = false) :
    m.report.hasChanges = false ∧ (ds.foldl (mergeOne revision) m).counters = m.counters := by
  induction ds generalizing m with
  | nil => exact ⟨h, rfl⟩
  | cons d ds ih =>
    obtain ⟨hone, hrest⟩ := ih h
    rw [hasChanges_mergeOne, Bool.or_eq_false_iff] at hone
    obtain ⟨hm, hfate⟩ := hone
    refine ⟨hm, hrest.trans ?_⟩
    rw [counters_mergeOne, hfate]
    rfl

theorem reconcile_no_trace (h : (r.reconcile specs now).1.hasChanges = false) :
    (r.reconcile specs now).2 =
      r.refusing (refusals r.functions (firstDeclared [] specs) now) := by
  rw [reconcile_eq] at h ⊢
  obtain ⟨hopening, hcounters⟩ := counters_merge h
  have hstale : r.rules.filter (isStale specs) = [] := by
    rw [List.filter_eq_nil_iff]
    intro x hx hs
    have hchange := (hasChanges_opening r specs now).mpr ⟨x, hx, hs⟩
    rw [hopening] at hchange
    cases hchange
  have hkept : (r.opening specs now).counters =
      r.counters.refusing (refusals r.functions (firstDeclared [] specs) now) := by
    rw [opening, hstale]
    rfl
  have hmerging : (r.merging specs now).counters = (r.opening specs now).counters := hcounters
  dsimp only at h ⊢
  rw [h, hmerging, hkept]
  rfl

theorem countP_rejections_cons (id : String) (d : Disposition) (ds : List (String × Disposition)) :
    (rejections ((id, d) :: ds)).countP (fun p => p.2.isRefusal) =
      (if d.rejection?.any Rejection.isRefusal then 1 else 0) +
        (rejections ds).countP fun p => p.2.isRefusal := by
  unfold rejections
  rw [List.filterMap_cons]
  cases d with
  | rejected why => cases why <;> simp [Disposition.rejection?, Rejection.isRefusal, Nat.add_comm]
  | accepted f => simp [Disposition.rejection?]

theorem countP_rejections {seen : List String} {before : List RuleSpec} (hseen : Sees seen before)
    (specs : List RuleSpec) :
    (rejections (dispositions r now before specs)).countP (fun p => p.2.isRefusal) =
      refusals r.functions (firstDeclared seen specs) now := by
  induction specs generalizing seen before with
  | nil => rfl
  | cons s specs ih =>
    rw [dispositions, countP_rejections_cons, disposition, hseen.contains, firstDeclared]
    cases hs : seen.contains s.routeId with
    | true =>
      have hrest := ih (hseen.again hs)
      simpa [Disposition.rejection?, Rejection.isRefusal] using hrest
    | false =>
      rw [ih (hseen.next s)]
      cases hc : Rule.compile r.functions s .file now with
      | error e =>
        simp [Disposition.rejection?, Rejection.isRefusal, refusals_cons, hc, Except.toOption]
      | ok x => simp [Disposition.rejection?, refusals_cons, hc, Except.toOption]

/-- A declaration is counted if it is the first of its identifier and does not compile. -/
theorem refusals_reconcile (r : Registry) (specs : List RuleSpec) (now : Instant) :
    (r.perform (.reconcile specs) now).1.refusals =
      refusals r.functions (firstDeclared [] specs) now := by
  change (r.reconcile specs now).1.rejected.countP (fun p => p.2.isRefusal) = _
  rw [report_reconcile]
  exact countP_rejections sees_nil specs

/-! ## Any call -/

theorem perform_no_trace {w : Write} (h : (r.perform w now).1.isChange = false) :
    (r.perform w now).2 = r.refusing (r.perform w now).1.refusals := by
  rcases cases_write w with ⟨mode, s, hw⟩ | ⟨id, hw⟩ | rfl | ⟨specs, rfl⟩
  · rw [perform_of_put hw] at h ⊢
    cases hp : (r.publish s .api mode now).1 with
    | error e => exact publish_no_trace hp
    | ok p =>
      rw [hp] at h
      cases h
  · obtain ⟨hreply, hr⟩ := perform_of_removes hw r now
    rw [refusals_of_removes hw, refusing_zero, hr]
    exact remove_no_trace (hreply.symm.trans h)
  · exact sweep_no_trace (by simpa [perform, Reply.isChange] using h)
  · rw [refusals_reconcile]
    exact reconcile_no_trace h

/-- A call that is refused, a removal or sweep that finds no rule and a reconciliation that changes
none leave the rules, their index and revision and all statistics as they are. Of the totals only
the number of refused definitions may grow: by one for a refused call, exactly if the definition is
at fault, which is exactly if it does not compile; and when rules are reconciled, by the number of
first declarations that do not compile. -/
theorem no_trace {w : Write} (h : (r.perform w now).1.isChange = false) :
    (r.perform w now).2.index = r.index ∧
      (r.perform w now).2.counters.routes = r.counters.routes ∧
      (r.perform w now).2 = { r with counters := r.counters.total fun t =>
        { t with compileFailures := t.compileFailures + (r.perform w now).1.refusals } } ∧
      (∀ e, (r.perform w now).1 = .refused e →
        (r.perform w now).1.refusals = if e.isDefinitionError then 1 else 0) ∧
      (∀ mode s e, w.put? = some (mode, s) → (r.perform w now).1 = .refused e →
        (e.isDefinitionError = true ↔ Rule.compile r.functions s .api now = .error e)) ∧
      ∀ specs, w = .reconcile specs → (r.perform w now).1.refusals =
        (firstDeclared [] specs).countP fun s =>
          (Rule.compile r.functions s .file now).toOption.isNone := by
  have hr := perform_no_trace h
  refine ⟨?_, ?_, hr, ?_, ?_, ?_⟩
  · rw [hr]
    rfl
  · rw [hr]
    rfl
  · intro e he
    rw [he]
    rfl
  · intro mode s e hw he
    rw [perform_of_put hw] at he
    exact isDefinitionError_iff (Reply.eq_error_of_ofPublished he)
  · rintro specs rfl
    exact refusals_reconcile r specs now

/-- The rules of the file once more, one of them without a target and another declared twice. -/
def faultyFile : List RuleSpec :=
  [lastingSpec "b" "orders.>", { lastingSpec "c" "orders.>" with targets := [] },
    lastingSpec "d" "orders.>", lastingSpec "e" "orders.>", lastingSpec "e" "orders.new"]

theorem no_trace_of_faulty_file :
    deployed.Reachable .empty ∧
    (deployed.perform (.reconcile faultyFile) ⟨2, 0⟩).1.isChange = false ∧
    (deployed.perform (.reconcile faultyFile) ⟨2, 0⟩).1.refusals = 1 ∧
    (deployed.perform (.reconcile faultyFile) ⟨2, 0⟩).2 =
      { deployed with counters := deployed.counters.total fun t =>
        { t with compileFailures := t.compileFailures + 1 } } ∧
    (deployed.perform (.add (lastingSpec "a" "orders.new")) ⟨2, 0⟩).1.isChange = false ∧
    (deployed.perform (.add (lastingSpec "a" "orders.new")) ⟨2, 0⟩).2 = deployed := by
  have hr : deployed.Reachable .empty := .step (.step .empty (.perform _ _)) (.perform _ _)
  have hfile : (deployed.perform (.reconcile faultyFile) ⟨2, 0⟩).1.isChange = false := by
    decide +kernel
  have hcount : (deployed.perform (.reconcile faultyFile) ⟨2, 0⟩).1.refusals = 1 := by
    decide +kernel
  have hadd : (deployed.perform (.add (lastingSpec "a" "orders.new")) ⟨2, 0⟩).1.isChange =
      false := by decide +kernel
  have hnone : (deployed.perform (.add (lastingSpec "a" "orders.new")) ⟨2, 0⟩).1.refusals = 0 := by
    decide +kernel
  obtain ⟨-, -, hkept, -⟩ := no_trace hfile
  obtain ⟨-, -, hsame, -⟩ := no_trace hadd
  rw [hcount] at hkept
  rw [hnone] at hsame
  exact ⟨hr, hfile, hcount, hkept, hadd, hsame⟩

end Registry

end Switchyard
