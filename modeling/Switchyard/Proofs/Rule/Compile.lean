import Switchyard.Dispatch
import Switchyard.Proofs.Result

/-!
# What a compiled rule is

A definition compiles if every part of it does, and then the rule holds what the parts came to.

* `Rule.compile_eq_ok`: when a definition compiles, and to which rule.
* `Rule.error_of_compile`: why it is refused otherwise.
* `Rule.IsCompiled.forwards`: the targets of a rule for an event are those of its definition, in
  their order.
-/

namespace Switchyard

/-! ## Targets -/

/-- The fields of a target for an event, read from their texts. -/
def TargetSpec.resolve (event : Event) (routeId : String) :
    List (String × String) → Except TemplateError (List (String × String))
  | [] => .ok []
  | (name, text) :: rest => do
    let template ← Template.parse text
    let more ← resolve event routeId rest
    .ok ((name, template.render event routeId) :: more)

/-- Where a target of a definition sends an event. -/
def TargetSpec.forward (t : TargetSpec) (routeId : String) (event : Event) :
    Except TemplateError ForwardTarget := do
  let destination ← Template.parse t.destination
  let fields ← resolve event routeId t.fields.pairs
  .ok ⟨routeId, t.kind, destination.render event routeId, fields⟩

/-- Where the targets of a definition send an event, in their order. -/
def TargetSpec.forwards (routeId : String) (event : Event) :
    List TargetSpec → Except TemplateError (List ForwardTarget)
  | [] => .ok []
  | t :: ts => do
    let target ← t.forward routeId event
    let more ← forwards routeId event ts
    .ok (target :: more)

/-- Where a read target sends an event. -/
def TargetTemplate.forward (t : TargetTemplate) (routeId : String) (event : Event) :
    ForwardTarget :=
  { routeId, kind := t.kind, destination := t.destination.render event routeId
    fields := t.fields.map fun (name, template) => (name, template.render event routeId) }

namespace Rule

variable {routeId : String}

theorem resolve_of_fieldTemplates {fields : List (String × String)}
    {templates : List (String × Template)} (h : fieldTemplates fields = .ok templates)
    (event : Event) : TargetSpec.resolve event routeId fields =
      .ok (templates.map fun (name, t) => (name, t.render event routeId)) := by
  induction fields generalizing templates with
  | nil =>
    obtain rfl := Except.ok.inj h
    rfl
  | cons f fields ih =>
    obtain ⟨name, text⟩ := f
    obtain ⟨t, ht, h⟩ := bind_eq_ok.mp h
    obtain ⟨more, hmore, h⟩ := bind_eq_ok.mp h
    obtain rfl := Except.ok.inj h
    exact bind_eq_ok.mpr ⟨t, ht, bind_eq_ok.mpr ⟨_, ih hmore, rfl⟩⟩

theorem targetOf_eq_ok {t : TargetSpec} {target : TargetTemplate} :
    targetOf routeId t = .ok target ↔ (Text.trim t.kind.toList).isEmpty = false ∧
      ∃ fields destination, fieldTemplates t.fields.pairs = .ok fields ∧
        Template.parse t.destination = .ok destination ∧
          ⟨t.kind, destination, fields⟩ = target := by
  unfold targetOf
  cases (Text.trim t.kind.toList).isEmpty with
  | true => simp
  | false =>
    simp only [Bool.false_eq_true, ↓reduceIte, bind_eq_ok, mapError_eq_ok, Except.ok.injEq,
      true_and, exists_and_left]

theorem forward_of_targetOf {t : TargetSpec} {target : TargetTemplate}
    (h : targetOf routeId t = .ok target) (event : Event) :
    t.forward routeId event = .ok (target.forward routeId event) := by
  obtain ⟨-, fields, destination, hf, hd, rfl⟩ := targetOf_eq_ok.mp h
  have hfields := @resolve_of_fieldTemplates routeId _ _ hf event
  exact bind_eq_ok.mpr ⟨destination, hd, bind_eq_ok.mpr ⟨_, hfields, rfl⟩⟩

theorem forwards_of_targetsOf {ts : List TargetSpec} {targets : List TargetTemplate}
    (h : targetsOf routeId ts = .ok targets) (event : Event) :
    TargetSpec.forwards routeId event ts =
      .ok (targets.map fun t => t.forward routeId event) := by
  induction ts generalizing targets with
  | nil =>
    obtain rfl := Except.ok.inj h
    rfl
  | cons t ts ih =>
    obtain ⟨target, ht, h⟩ := bind_eq_ok.mp h
    obtain ⟨more, hmore, h⟩ := bind_eq_ok.mp h
    obtain rfl := Except.ok.inj h
    exact bind_eq_ok.mpr ⟨_, forward_of_targetOf ht event, bind_eq_ok.mpr ⟨_, ih hmore, rfl⟩⟩

/-! ## Rules -/

@[simp] theorem routeId_withRevision (r : Rule) (n : Nat) :
    (r.withRevision n).routeId = r.routeId := rfl

@[simp] theorem source_withRevision (r : Rule) (n : Nat) :
    (r.withRevision n).source = r.source := rfl

@[simp] theorem revision_withRevision (r : Rule) (n : Nat) : (r.withRevision n).revision = n := rfl

variable {fs : Filter.HostFunctions} {s : RuleSpec} {source : RuleSource} {now : Instant}
  {x : Rule}

theorem compile_eq_ok : Rule.compile fs s source now = .ok x ↔
    fault? s = none ∧ ∃ pattern filter targets spec,
      SubjectPattern.parse s.subject = .ok pattern ∧ filterOf fs s = .ok filter ∧
      targetsOf s.routeId s.targets = .ok targets ∧ resolveTtl? s now = some spec ∧
      ⟨spec, pattern, filter, targets, 0, source⟩ = x := by
  unfold Rule.compile
  cases fault? s with
  | some fault => simp
  | none =>
    simp only [bind_eq_ok, mapError_eq_ok, true_and, exists_and_left]
    refine exists_congr fun pattern => and_congr_right fun _ => exists_congr fun filter =>
      and_congr_right fun _ => exists_congr fun targets => and_congr_right fun _ => ?_
    cases resolveTtl? s now <;> simp

/-- Only the end of a definition changes when its life time becomes an expiry. -/
theorem resolveTtl?_eq_some {spec : RuleSpec} (h : resolveTtl? s now = some spec) :
    ∃ expiresAt, { s with expiresAt, ttlSeconds := none } = spec := by
  unfold resolveTtl? at h
  split at h
  · next ht =>
    obtain rfl := Option.some.inj h
    refine ⟨s.expiresAt, ?_⟩
    rw [← ht]
  · obtain ⟨t, -, rfl⟩ := Option.map_eq_some_iff.mp h
    exact ⟨some t, rfl⟩

theorem routeId_of_compile (h : Rule.compile fs s source now = .ok x) : x.routeId = s.routeId := by
  obtain ⟨-, _, _, _, spec, -, -, -, hs, rfl⟩ := compile_eq_ok.mp h
  obtain ⟨_, rfl⟩ := resolveTtl?_eq_some hs
  rfl

theorem source_of_compile (h : Rule.compile fs s source now = .ok x) : x.source = source := by
  obtain ⟨-, _, _, _, spec, -, -, -, -, rfl⟩ := compile_eq_ok.mp h
  rfl

/-! ## Errors -/

/-- What can be wrong with a target. -/
def IsTargetError (routeId : String) (e : RegistryError) : Prop :=
  e = .invalidRule routeId .emptyTargetKind ∨ ∃ fault, e = .invalidTemplate routeId fault

theorem error_of_targetOf {t : TargetSpec} {e : RegistryError}
    (h : targetOf routeId t = .error e) : IsTargetError routeId e := by
  unfold targetOf at h
  split at h
  · exact .inl (Except.error.inj h).symm
  · simp only [bind_eq_error, mapError_eq_error, reduceCtorEq, and_false, exists_false,
      or_false] at h
    rcases h with ⟨fault, -, rfl⟩ | ⟨_, -, fault, -, rfl⟩
    · exact .inr ⟨fault, rfl⟩
    · exact .inr ⟨fault, rfl⟩

theorem error_of_targetsOf {ts : List TargetSpec} {e : RegistryError}
    (h : targetsOf routeId ts = .error e) : IsTargetError routeId e := by
  induction ts with
  | nil => cases h
  | cons t ts ih =>
    simp only [targetsOf, bind_eq_error, reduceCtorEq, and_false, exists_false, or_false] at h
    rcases h with h | ⟨_, -, h⟩
    · exact error_of_targetOf h
    · exact ih h

/-- Why a definition is refused: for the first of its parts that is at fault. -/
theorem error_of_compile {e : RegistryError} (h : Rule.compile fs s source now = .error e) :
    (∃ fault, fault? s = some fault ∧ .invalidRule s.routeId fault = e) ∨
      (∃ fault, SubjectPattern.parse s.subject = .error fault ∧
        .invalidPattern s.routeId fault = e) ∨
      (∃ fault, filterOf fs s = .error fault ∧ .filterRejected s.routeId fault = e) ∨
      IsTargetError s.routeId e ∨ .invalidRule s.routeId .ttlOutOfRange = e := by
  unfold Rule.compile at h
  cases hf : fault? s with
  | some fault =>
    rw [hf] at h
    exact .inl ⟨fault, rfl, Except.error.inj h⟩
  | none =>
    simp only [hf, bind_eq_error, mapError_eq_error] at h
    rcases h with hpattern | ⟨_, -, hfilter | ⟨_, -, htargets | ⟨_, -, h⟩⟩⟩
    · exact .inr (.inl hpattern)
    · exact .inr (.inr (.inl hfilter))
    · exact .inr (.inr (.inr (.inl (error_of_targetsOf htargets))))
    · split at h
      · cases h
      · exact .inr (.inr (.inr (.inr (Except.error.inj h))))

/-- Compiling a definition never finds that it is in conflict with other rules. -/
theorem isDefinitionError_of_compile {e : RegistryError}
    (h : Rule.compile fs s source now = .error e) : e.isDefinitionError = true := by
  rcases error_of_compile h with ⟨_, -, rfl⟩ | ⟨_, -, rfl⟩ | ⟨_, -, rfl⟩ |
    (rfl | ⟨_, rfl⟩) | rfl <;> rfl

/-- A rule that has been compiled from a definition, and published under a revision. -/
def IsCompiled (fs : Filter.HostFunctions) (x : Rule) : Prop :=
  ∃ s source now y revision, Rule.compile fs s source now = .ok y ∧ y.withRevision revision = x

/-- The targets of a compiled rule are those of its definition, in their order. -/
theorem IsCompiled.forwards (h : x.IsCompiled fs) (event : Event) :
    TargetSpec.forwards x.routeId event x.spec.targets = .ok (x.expand event) := by
  obtain ⟨s, source, now, y, revision, hy, rfl⟩ := h
  obtain ⟨-, _, _, targets, spec, -, -, ht, hs, rfl⟩ := compile_eq_ok.mp hy
  obtain ⟨_, rfl⟩ := resolveTtl?_eq_some hs
  exact forwards_of_targetsOf ht event

end Rule

end Switchyard
