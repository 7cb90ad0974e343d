import Switchyard.Proofs.Registry.NoTrace

/-!
# What commands come to

A command succeeds or is refused for one of a few reasons, and which it is depends on the definition
that it brings in, if it brings in one, and on the rules that the registry has at the time.

* `Registry.Settles`, `Registry.settles_apply`: the cases, with their results.
* `Registry.isOk_apply_iff`: a command succeeds exactly if it makes a new revision.
* `Registry.apply_eq`: the counters have no part in it.
-/

namespace Switchyard

namespace Registry

variable {r : Registry} {c : RuleCommand} {now : Instant}

/-- A definition makes a rule of the control plane. -/
def Compiles (r : Registry) (s : RuleSpec) (now : Instant) : Prop :=
  ∃ x, Rule.compile r.functions s .api now = .ok x

/-- What a command comes to. A definition that does not compile is refused before the registry is
looked at. An identifier is taken if a rule in force has it; a removal takes out any rule. -/
inductive Settles (r : Registry) (now : Instant) :
    RuleCommand → Except RegistryError CommandOutcome → Prop where
  | invalid {c : RuleCommand} {s : RuleSpec} {e : RegistryError} (hs : c.spec? = some s)
      (h : Rule.compile r.functions s .api now = .error e) : Settles r now c (.error e)
  | duplicate {s : RuleSpec} (hs : r.Compiles s now) (h : InForce r.rules s.routeId now) :
      Settles r now (.add s false) (.error (.duplicateRoute s.routeId))
  | added {s : RuleSpec} {replace : Bool} (hs : r.Compiles s now)
      (h : ¬InForce r.rules s.routeId now) :
      Settles r now (.add s replace) (.ok (.added s.routeId (r.revision + 1)))
  | replaced {s : RuleSpec} (hs : r.Compiles s now) (h : InForce r.rules s.routeId now) :
      Settles r now (.add s true) (.ok (.replaced s.routeId (r.revision + 1)))
  | updated {s : RuleSpec} (hs : r.Compiles s now) (h : InForce r.rules s.routeId now) :
      Settles r now (.update s) (.ok (.updated s.routeId (r.revision + 1)))
  | notInForce {s : RuleSpec} (hs : r.Compiles s now) (h : ¬InForce r.rules s.routeId now) :
      Settles r now (.update s) (.error (.routeNotFound s.routeId))
  | removed {id : String} (h : ∃ x ∈ r.rules, x.routeId = id) :
      Settles r now (.remove id) (.ok (.removed id))
  | absent {id : String} (h : ∀ x ∈ r.rules, x.routeId ≠ id) :
      Settles r now (.remove id) (.error (.routeNotFound id))

theorem apply_remove (r : Registry) (id : String) (now : Instant) :
    r.apply (.remove id) now =
      (if (holder? r.rules id).isSome then .ok (.removed id) else .error (.routeNotFound id),
        (r.remove id).2) := by
  cases h : holder? r.rules id with
  | none => simp [apply, remove, h]
  | some x => simp [apply, remove, h]

theorem settles_apply (hd : Distinct r.rules) (c : RuleCommand) (now : Instant) :
    Settles r now c (r.apply c now).1 := by
  cases c with
  | add s replace =>
    unfold apply
    dsimp only
    cases hc : Rule.compile r.functions s .api now with
    | error e =>
      rw [publish_of_error hc]
      exact .invalid rfl hc
    | ok x =>
      rw [publish_of_ok hc]
      -- A definition that compiles is refused only for what holds its identifier at that time.
      cases ht : isTaken r.rules s.routeId now with
      | false =>
        have hfree := (isTaken_eq_false_iff hd).mp ht
        cases replace with
        | false => exact .added ⟨x, hc⟩ hfree
        | true => exact .added ⟨x, hc⟩ hfree
      | true =>
        have hforce := (isTaken_iff hd).mp ht
        cases replace with
        | false => exact .duplicate ⟨x, hc⟩ hforce
        | true => exact .replaced ⟨x, hc⟩ hforce
  | update s =>
    unfold apply update
    dsimp only
    cases hc : Rule.compile r.functions s .api now with
    | error e =>
      rw [publish_of_error hc]
      exact .invalid rfl hc
    | ok x =>
      rw [publish_of_ok hc]
      cases ht : isTaken r.rules s.routeId now with
      | false => exact .notInForce ⟨x, hc⟩ ((isTaken_eq_false_iff hd).mp ht)
      | true => exact .updated ⟨x, hc⟩ ((isTaken_iff hd).mp ht)
  | remove id =>
    rw [apply_remove]
    cases hx : holder? r.rules id with
    | none => exact .absent (holder?_eq_none.mp hx)
    | some x => exact .removed ⟨x, routeId_of_holder? hx⟩

/-! ## Revisions -/

theorem isChange_ofCommand (result : Except RegistryError CommandOutcome) :
    (Reply.ofCommand result).isChange = result.isOk := by
  cases result with
  | error e => rfl
  | ok o => cases o <;> rfl

/-- A command that succeeds makes a new revision, and one that is refused leaves the rules as they
are. -/
theorem revision_apply (hd : Distinct r.rules) (c : RuleCommand) (now : Instant) :
    (r.apply c now).2.revision =
      if (r.apply c now).1.isOk then r.revision + 1 else r.revision := by
  obtain ⟨rules, hp, -⟩ := perform_publishes hd (.apply c) now
  rw [← isChange_ofCommand]
  exact hp.revision_eq

theorem isOk_apply_iff (hd : Distinct r.rules) (c : RuleCommand) (now : Instant) :
    (r.apply c now).1.isOk = true ↔ (r.apply c now).2.revision = r.revision + 1 := by
  rw [revision_apply hd]
  split
  · next h => exact iff_of_true h rfl
  · next h => exact iff_of_false h (Nat.ne_of_lt (Nat.lt_succ_self _))

theorem index_apply_of_error (c : RuleCommand) (now : Instant) {e : RegistryError}
    (h : (r.apply c now).1 = .error e) : (r.apply c now).2.index = r.index := by
  have hno : (r.perform (.apply c) now).1.isChange = false := by
    change (Reply.ofCommand (r.apply c now).1).isChange = false
    rw [h]
    rfl
  change (r.perform (.apply c) now).2.index = r.index
  rw [perform_no_trace hno]
  rfl

/-! ## Counters -/

/-- Registries that differ in their counters only. -/
def SameRules (r r' : Registry) : Prop := r.functions = r'.functions ∧ r.index = r'.index

theorem SameRules.refl (r : Registry) : SameRules r r := ⟨rfl, rfl⟩

theorem SameRules.trans {r₁ r₂ r₃ : Registry} (h : SameRules r₁ r₂) (h' : SameRules r₂ r₃) :
    SameRules r₁ r₃ := ⟨h.1.trans h'.1, h.2.trans h'.2⟩

theorem sameRules_publish {r' : Registry} (h : SameRules r r') (s : RuleSpec) (source : RuleSource)
    (mode : WriteMode) (now : Instant) :
    (r.publish s source mode now).1 = (r'.publish s source mode now).1 ∧
      SameRules (r.publish s source mode now).2 (r'.publish s source mode now).2 := by
  obtain ⟨hf, hi⟩ := h
  have hrules : r.rules = r'.rules := congrArg RuleIndex.rules hi
  have hrev : r.revision = r'.revision := congrArg RuleIndex.revision hi
  cases hc : Rule.compile r'.functions s source now with
  | error e =>
    rw [publish_of_error hc, publish_of_error (hf ▸ hc)]
    exact ⟨rfl, hf, hi⟩
  | ok x =>
    rw [publish_of_ok hc, publish_of_ok (hf ▸ hc), hrules, hrev]
    split
    · exact ⟨rfl, hf, hi⟩
    · split
      · exact ⟨rfl, hf, hi⟩
      · refine ⟨rfl, hf, ?_⟩
        change RuleIndex.build _ (r.revision + 1) = RuleIndex.build _ (r'.revision + 1)
        rw [hrev]

theorem sameRules_keepOnly {r' : Registry} (h : SameRules r r') (keep : Rule → Bool) :
    SameRules (r.keepOnly keep) (r'.keepOnly keep) := by
  have hp := keepOnly_publishes r keep
  have hp' := keepOnly_publishes r' keep
  have hrules : r.rules = r'.rules := congrArg RuleIndex.rules h.2
  have hrev : r.revision = r'.revision := congrArg RuleIndex.revision h.2
  refine ⟨hp.functions.trans (h.1.trans hp'.functions.symm), ?_⟩
  rw [hp.index, hp'.index, hrules, hrev, h.2]

/-- The counters have no part in what a command comes to. -/
theorem sameRules_apply {r' : Registry} (h : SameRules r r') (c : RuleCommand) (now : Instant) :
    (r.apply c now).1 = (r'.apply c now).1 ∧
      SameRules (r.apply c now).2 (r'.apply c now).2 := by
  cases c with
  | add s replace =>
    obtain ⟨hresult, hsame⟩ := sameRules_publish h s .api (if replace then .upsert else .add) now
    unfold apply
    dsimp only
    rw [hresult]
    exact ⟨rfl, hsame⟩
  | update s =>
    obtain ⟨hresult, hsame⟩ := sameRules_publish h s .api .update now
    unfold apply update
    dsimp only
    rw [hresult]
    exact ⟨rfl, hsame⟩
  | remove id =>
    have hrules : r.rules = r'.rules := congrArg RuleIndex.rules h.2
    rw [apply_remove, apply_remove, hrules]
    exact ⟨rfl, sameRules_keepOnly h _⟩

end Registry

end Switchyard
