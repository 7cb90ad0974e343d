import Switchyard.Config.Validation
import Switchyard.Proofs.Numeral
import Switchyard.Proofs.Registry.SyncReport

/-!
# What validation says of rules

Validation goes through the rules of a configuration and names every setting that is at fault, each
at its place. What it looks at is not refused any more when the rules are brought into a registry.

* `RuleSetting`, `IsAtFault`: the settings that are looked at, and what a fault is.
* `faultyPlaces`: the faulty settings of rules. Validation reports just these
  (`fields_rulesIssues`), and they are in order (`pairwise_faultyPlaces`).
* `isAtFault_of_rejected`: a rule that reconciling refuses for a reason that validation covers has a
  faulty setting.
* `rules_covered`: all of this for whole configurations.
-/

namespace Switchyard.Config

variable {before rules : List RuleSpec} {s : RuleSpec}

/-! ## Settings -/

/-- A setting of a rule that validation looks at. -/
inductive RuleSetting where
  | routeId
  | subject
  | targets
deriving DecidableEq, Repr

namespace RuleSetting

/-- The name of the setting in a path. -/
def name : RuleSetting → String
  | routeId => "route_id"
  | subject => "subject"
  | targets => "targets"

/-- The place of the setting among those of a rule. -/
def rank : RuleSetting → Nat
  | routeId => 0
  | subject => 1
  | targets => 2

/-- The settings in their order. -/
def all : List RuleSetting := [routeId, subject, targets]

/-- The path of a setting of the rule at a place. -/
def path (i : Nat) (t : RuleSetting) : String := s!"rules[{i}].{t.name}"

theorem mem_all (t : RuleSetting) : t ∈ all := by
  cases t <;> decide

theorem name_inj {t u : RuleSetting} (h : t.name = u.name) : t = u := by
  cases t <;> cases u <;> simp_all [name]

theorem toList_path (i : Nat) (t : RuleSetting) : (t.path i).toList =
    "rules[".toList ++ (Nat.toDigits 10 i ++ (']' :: '.' :: t.name.toList)) := by
  simp [path, toString]

/-- A path tells the place and the setting. -/
theorem path_inj {i j : Nat} {t u : RuleSetting} (h : t.path i = u.path j) : i = j ∧ t = u := by
  have hlist := congrArg String.toList h
  rw [toList_path, toList_path] at hlist
  have htail := List.append_cancel_left hlist
  have hdigits : ∀ n : Nat, ∀ d ∈ Nat.toDigits 10 n, d.isDigit = true :=
    fun _ _ hd => Nat.isDigit_of_mem_toDigits (by decide) (by decide) hd
  have hstop : ∀ cs : List Char, Numeral.NoDigit (']' :: cs) := by
    rintro cs c ⟨⟩
    rfl
  have hi := congrArg (List.takeWhile Char.isDigit) htail
  have ht := congrArg (List.dropWhile Char.isDigit) htail
  rw [Numeral.takeWhile_digits (hdigits i) (hstop _),
    Numeral.takeWhile_digits (hdigits j) (hstop _)] at hi
  rw [Numeral.dropWhile_digits (hdigits i) (hstop _),
    Numeral.dropWhile_digits (hdigits j) (hstop _)] at ht
  have hname := (List.cons.inj (List.cons.inj ht).2).2
  refine ⟨?_, name_inj (String.toList_inj.mp hname)⟩
  calc i = Nat.ofDigitChars 10 (Nat.toDigits 10 i) 0 := Nat.ofDigitChars_ten_toDigits.symm
    _ = Nat.ofDigitChars 10 (Nat.toDigits 10 j) 0 := by rw [hi]
    _ = j := Nat.ofDigitChars_ten_toDigits

end RuleSetting

/-- The faults that a setting of a rule can have. The identifier is missing or has been used by a
rule before, the subject is no pattern, or there are no targets. -/
def IsAtFault (before : List RuleSpec) (s : RuleSpec) : RuleSetting → Prop
  | .routeId => s.routeId = "" ∨ ∃ t ∈ before, t.routeId = s.routeId
  | .subject => ∀ p, SubjectPattern.parse s.subject ≠ .ok p
  | .targets => s.targets = []

instance (before : List RuleSpec) (s : RuleSpec) : DecidablePred (IsAtFault before s)
  | .routeId => inferInstanceAs (Decidable (s.routeId = "" ∨ ∃ t ∈ before, t.routeId = s.routeId))
  | .subject =>
    match h : SubjectPattern.parse s.subject with
    | .ok p => isFalse fun hno => hno p h
    | .error _ => isTrue fun _ hp => nomatch h.symm.trans hp
  | .targets => decidable_of_iff (s.targets.isEmpty = true) List.isEmpty_iff

/-- The faulty settings of a rule, in order. -/
def faultySettings (before : List RuleSpec) (s : RuleSpec) : List RuleSetting :=
  RuleSetting.all.filter fun t => IsAtFault before s t

/-- The faulty settings of rules that stand behind others, with their places. -/
def faultyPlaces (before : List RuleSpec) : List RuleSpec → List (Nat × RuleSetting)
  | [] => []
  | s :: rest =>
    (faultySettings before s).map (before.length, ·) ++ faultyPlaces (before ++ [s]) rest

theorem mem_faultySettings {t : RuleSetting} :
    t ∈ faultySettings before s ↔ IsAtFault before s t := by
  simp [faultySettings, RuleSetting.mem_all]

theorem mem_faultyPlaces {i : Nat} {t : RuleSetting} :
    (i, t) ∈ faultyPlaces before rules ↔ ∃ front s back, rules = front ++ s :: back ∧
      (before ++ front).length = i ∧ IsAtFault (before ++ front) s t := by
  induction rules generalizing before with
  | nil => simp [faultyPlaces]
  | cons r rest ih =>
    rw [faultyPlaces, List.mem_append, ih]
    constructor
    · rintro (h | ⟨front, s, back, rfl, hi, ht⟩)
      · obtain ⟨u, hu, heq⟩ := List.mem_map.mp h
        obtain ⟨rfl, rfl⟩ := Prod.mk.inj heq
        exact ⟨[], r, rest, rfl, by simp, by simpa using mem_faultySettings.mp hu⟩
      · exact ⟨r :: front, s, back, rfl, by simpa using hi, by simpa using ht⟩
    · rintro ⟨front, s, back, heq, hi, ht⟩
      cases front with
      | nil =>
        obtain ⟨rfl, rfl⟩ := List.cons.inj heq
        rw [List.append_nil] at hi ht
        exact .inl (List.mem_map.mpr ⟨t, mem_faultySettings.mpr ht, by rw [hi]⟩)
      | cons x front =>
        obtain ⟨rfl, rfl⟩ := List.cons.inj heq
        exact .inr ⟨front, s, back, rfl, by simpa using hi, by simpa using ht⟩

/-- Whether a place is in front of another one: in an earlier rule, or in the same one and in front
of it there. -/
def Precedes (p q : Nat × RuleSetting) : Prop :=
  p.1 < q.1 ∨ p.1 = q.1 ∧ p.2.rank < q.2.rank

theorem pairwise_faultyPlaces (before rules : List RuleSpec) :
    (faultyPlaces before rules).Pairwise Precedes := by
  induction rules generalizing before with
  | nil => exact .nil
  | cons s rest ih =>
    rw [faultyPlaces, List.pairwise_append]
    refine ⟨?_, ih _, fun p hp q hq => ?_⟩
    · have hall : RuleSetting.all.Pairwise fun t u => t.rank < u.rank := by decide
      exact List.pairwise_map.mpr ((hall.filter _).imp fun h => .inr ⟨rfl, h⟩)
    · obtain ⟨t, -, rfl⟩ := List.mem_map.mp hp
      obtain ⟨front, _, _, -, hi, -⟩ := mem_faultyPlaces.mp (show (q.1, q.2) ∈ _ from hq)
      refine .inl ?_
      simp only [List.length_append, List.length_singleton] at hi
      dsimp only
      omega

/-! ## Issues -/

theorem fields_issueIf (condition : Bool) (field : String) (fault : Fault) :
    (issueIf condition field fault).map (·.field) = if condition then [field] else [] := by
  unfold issueIf
  split <;> rfl

/-- The path of a setting, if it is at fault. -/
def faultyPath (before : List RuleSpec) (s : RuleSpec) (t : RuleSetting) : List String :=
  if IsAtFault before s t then [t.path before.length] else []

theorem map_path_faultySettings (before : List RuleSpec) (s : RuleSpec) :
    (faultySettings before s).map (RuleSetting.path before.length) =
      RuleSetting.all.flatMap (faultyPath before s) := by
  unfold faultySettings
  induction RuleSetting.all with
  | nil => rfl
  | cons t ts ih =>
    rw [List.flatMap_cons, ← ih, List.filter_cons, faultyPath]
    by_cases h : IsAtFault before s t <;> simp [h]

/-- The issues of a rule are one for each faulty setting, in their order. -/
theorem fields_ruleIssues (before : List RuleSpec) (s : RuleSpec) :
    (ruleIssues before s).map (·.field) =
      (faultySettings before s).map (RuleSetting.path before.length) := by
  have hid : (issueIf (s.routeId == "") (RuleSetting.routeId.path before.length) .emptyText ++
      issueIf (s.routeId != "" && (before.map (·.routeId)).contains s.routeId)
        (RuleSetting.routeId.path before.length) (.duplicateRoute s.routeId)).map (·.field) =
      faultyPath before s .routeId := by
    rw [List.map_append, fields_issueIf, fields_issueIf]
    by_cases hempty : s.routeId = "" <;> simp [faultyPath, IsAtFault, hempty]
  have htargets : (issueIf s.targets.isEmpty (RuleSetting.targets.path before.length)
      .noTargets).map (·.field) = faultyPath before s .targets := by
    rw [fields_issueIf]
    by_cases hnone : s.targets = [] <;> simp [faultyPath, IsAtFault, hnone]
  rw [map_path_faultySettings, RuleSetting.all, List.flatMap_cons, List.flatMap_cons,
    List.flatMap_singleton, ← hid, ← htargets]
  unfold ruleIssues
  cases hparse : SubjectPattern.parse s.subject with
  | ok p =>
    have hsubject : faultyPath before s .subject = [] := by
      simp [faultyPath, IsAtFault, hparse]
    rw [hsubject]
    simp [RuleSetting.path, RuleSetting.name]
  | error e =>
    have hsubject : faultyPath before s .subject = [RuleSetting.subject.path before.length] := by
      simp [faultyPath, IsAtFault, hparse]
    rw [hsubject]
    simp [RuleSetting.path, RuleSetting.name]

theorem fields_rulesIssues (before rules : List RuleSpec) :
    (rulesIssues before rules).map (·.field) =
      (faultyPlaces before rules).map fun p => p.2.path p.1 := by
  induction rules generalizing before with
  | nil => rfl
  | cons s rest ih =>
    rw [rulesIssues, faultyPlaces, List.map_append, List.map_append, fields_ruleIssues, ih,
      List.map_map]
    rfl

/-- The issues of the other sections. -/
def RouterConfig.otherIssues (c : RouterConfig) : List Issue :=
  c.admin.issues ++ c.observability.issues ++
    issueIf (c.registry.sweepInterval == 0) "registry.sweep_interval_secs" .zero ++
    issueIf (c.evaluation.maxNodeVisits == 0) "evaluation.max_node_visits" .zero

theorem not_isPrefix_issueIf {condition : Bool} {field : String} {fault : Fault}
    (h : ¬"rules[".toList <+: field.toList) :
    ∀ x ∈ issueIf condition field fault, ¬"rules[".toList <+: x.field.toList := by
  unfold issueIf
  split
  · exact List.forall_mem_singleton.mpr h
  · exact List.forall_mem_nil _

/-- No other section has a setting whose path looks like that of a rule. -/
theorem RouterConfig.not_isPrefix_otherIssues (c : RouterConfig) :
    ∀ x ∈ c.otherIssues, ¬"rules[".toList <+: x.field.toList := by
  have hadmin : ∀ x ∈ c.admin.issues, ¬"rules[".toList <+: x.field.toList := by
    unfold AdminSettings.issues
    split
    · exact List.forall_mem_append.mpr
        ⟨not_isPrefix_issueIf (by decide), not_isPrefix_issueIf (by decide)⟩
    · exact List.forall_mem_nil _
  have hobservability : ∀ x ∈ c.observability.issues, ¬"rules[".toList <+: x.field.toList :=
    List.forall_mem_append.mpr
      ⟨not_isPrefix_issueIf (by decide), not_isPrefix_issueIf (by decide)⟩
  simp only [otherIssues, List.forall_mem_append]
  exact ⟨⟨⟨hadmin, hobservability⟩, not_isPrefix_issueIf (by decide)⟩,
    not_isPrefix_issueIf (by decide)⟩

theorem RuleSetting.isPrefix_path (i : Nat) (t : RuleSetting) :
    "rules[".toList <+: (t.path i).toList := by
  rw [toList_path]
  exact List.prefix_append _ _

theorem RouterConfig.fields_issues (c : RouterConfig) : c.issues.map (·.field) =
    c.otherIssues.map (·.field) ++ (faultyPlaces [] c.rules).map fun p => p.2.path p.1 := by
  rw [← fields_rulesIssues, ← List.map_append]
  rfl

theorem RouterConfig.validated_eq_ok {c : RouterConfig} :
    c.validated = .ok c ↔ c.issues = [] := by
  unfold validated
  cases c.issues with
  | nil => exact iff_of_true rfl rfl
  | cons x xs => exact iff_of_false nofun nofun

/-- A setting of a rule is among the issues just if it is at fault. -/
theorem RouterConfig.path_mem_issues {c : RouterConfig} {front back : List RuleSpec}
    (h : c.rules = front ++ s :: back) (t : RuleSetting) :
    t.path front.length ∈ c.issues.map (·.field) ↔ IsAtFault front s t := by
  rw [c.fields_issues, List.mem_append, or_iff_right]
  · constructor
    · intro hmem
      obtain ⟨⟨i, u⟩, hu, heq⟩ := List.mem_map.mp hmem
      obtain ⟨rfl, rfl⟩ := RuleSetting.path_inj heq
      obtain ⟨front', s', back', h', hlength, hfault⟩ := mem_faultyPlaces.mp hu
      obtain ⟨rfl, hrest⟩ := List.append_inj (h'.symm.trans h) (by simpa using hlength)
      obtain ⟨rfl, -⟩ := List.cons.inj hrest
      exact hfault
    · intro hfault
      exact List.mem_map.mpr ⟨(front.length, t), mem_faultyPlaces.mpr
        ⟨front, s, back, h, rfl, hfault⟩, rfl⟩
  · intro hmem
    obtain ⟨x, hx, heq⟩ := List.mem_map.mp hmem
    exact c.not_isPrefix_otherIssues x hx (heq ▸ RuleSetting.isPrefix_path front.length t)

/-! ## Reconciling -/

/-- The reasons for a rejection that validation covers: an identifier that is declared twice or is
missing, a subject that is no pattern, and no targets. -/
def IsCovered : Rejection → Prop
  | .declaredTwice | .refused (.invalidRule _ .emptyRouteId)
  | .refused (.invalidRule _ .noTargets) | .refused (.invalidPattern ..) => True
  | _ => False

theorem routeId_of_fault? (h : Rule.fault? s = some .emptyRouteId) : s.routeId = "" := by
  unfold Rule.fault? at h
  split_ifs at h <;> simp_all

theorem targets_of_fault? (h : Rule.fault? s = some .noTargets) : s.targets = [] := by
  unfold Rule.fault? at h
  split_ifs at h <;> simp_all

/-- A definition that is rejected for a reason that validation covers has a faulty setting. -/
theorem isAtFault_of_rejected {r : Registry} {now : Instant} {why : Rejection}
    (h : Registry.disposition r now before s = .rejected why) (hc : IsCovered why) :
    ∃ t, IsAtFault before s t := by
  unfold Registry.disposition at h
  split at h
  · next hseen =>
    obtain ⟨t, ht, hid⟩ := List.mem_map.mp (List.contains_iff_mem.mp hseen)
    exact ⟨.routeId, .inr ⟨t, ht, hid⟩⟩
  · split at h
    · next e he =>
      obtain rfl := Registry.Disposition.rejected.inj h
      rcases Rule.error_of_compile he with ⟨fault, hfault, rfl⟩ | ⟨fault, hfault, rfl⟩ |
        ⟨_, -, rfl⟩ | (rfl | ⟨_, rfl⟩) | rfl
      · cases fault with
        | emptyRouteId => exact ⟨.routeId, .inl (routeId_of_fault? hfault)⟩
        | noTargets => exact ⟨.targets, targets_of_fault? hfault⟩
        | _ => exact hc.elim
      · exact ⟨.subject, fun p hp => nomatch hfault.symm.trans hp⟩
      · exact hc.elim
      · exact hc.elim
      · exact hc.elim
      · exact hc.elim
    · cases h

theorem exists_disposition_of_rejected {r : Registry} {now : Instant} {p : String × Rejection}
    (h : p ∈ Registry.rejections (Registry.dispositions r now before rules)) :
    ∃ front s back, rules = front ++ s :: back ∧
      Registry.disposition r now (before ++ front) s = .rejected p.2 := by
  induction rules generalizing before with
  | nil => cases h
  | cons s rest ih =>
    rw [Registry.dispositions, Registry.rejections, List.filterMap_cons] at h
    cases hd : Registry.disposition r now before s with
    | accepted fate =>
      rw [hd] at h
      obtain ⟨front, t, back, rfl, ht⟩ := ih h
      exact ⟨s :: front, t, back, rfl, by simpa using ht⟩
    | rejected why =>
      rw [hd] at h
      rcases List.mem_cons.mp h with rfl | h
      · exact ⟨[], s, rest, rfl, by simpa using hd⟩
      · obtain ⟨front, t, back, rfl, ht⟩ := ih h
        exact ⟨s :: front, t, back, rfl, by simpa using ht⟩

/-- For every configuration: the settings of rules that are reported are those at fault, in order,
behind the issues of the other sections, which have other paths. And if the configuration is
accepted, no registry rejects one of its rules for a reason that validation covers. -/
theorem rules_covered (c : RouterConfig) :
    (∃ (others : List String) (places : List (Nat × RuleSetting)),
      c.issues.map (·.field) = others ++ places.map (fun p => p.2.path p.1) ∧
      (∀ x ∈ others, ∀ i (t : RuleSetting), x ≠ t.path i) ∧ places.Pairwise Precedes ∧
      ∀ i t, (i, t) ∈ places ↔
        ∃ front s back, c.rules = front ++ s :: back ∧ front.length = i ∧ IsAtFault front s t) ∧
    (∀ front s back, c.rules = front ++ s :: back → ∀ t : RuleSetting,
      t.path front.length ∈ c.issues.map (·.field) ↔ IsAtFault front s t) ∧
    (c.validated = .ok c → ∀ (r : Registry) (now : Instant),
      ∀ p ∈ (r.reconcile c.rules now).1.rejected, ¬IsCovered p.2) := by
  refine ⟨⟨c.otherIssues.map (·.field), faultyPlaces [] c.rules, c.fields_issues, ?_,
    pairwise_faultyPlaces [] c.rules, fun i t => mem_faultyPlaces⟩,
    fun front s back h t => RouterConfig.path_mem_issues h t, ?_⟩
  · rintro f hf i t rfl
    obtain ⟨x, hx, heq⟩ := List.mem_map.mp hf
    exact c.not_isPrefix_otherIssues x hx (heq ▸ RuleSetting.isPrefix_path i t)
  · intro hvalid r now p hp hc
    rw [Registry.report_reconcile] at hp
    obtain ⟨front, s, back, hrules, hd⟩ := exists_disposition_of_rejected hp
    obtain ⟨t, ht⟩ := isAtFault_of_rejected hd hc
    have hmem := (RouterConfig.path_mem_issues hrules t).mpr ht
    rw [RouterConfig.validated_eq_ok.mp hvalid] at hmem
    cases hmem

/-- A configuration with rules, and no directives for the log. -/
def RouterConfig.declaring (rules : List RuleSpec) : RouterConfig :=
  { RouterConfig.default with observability := ⟨"", false, false, ""⟩, rules }

/-- A rule that forwards to one target. -/
def echoSpec (routeId subject : String) : RuleSpec :=
  ⟨routeId, subject, .empty, none, [⟨"echo", "o", .empty⟩], none, none⟩

/-- Rules that validation accepts, of which the second one has a blank in its identifier. -/
def blankRules : List RuleSpec := [echoSpec "a" "x.y", echoSpec "b c" ">"]

/-- Rules of which the second one has two faults. -/
def twiceFaulty : List RuleSpec := [echoSpec "a" "x.y", echoSpec "a" "x..y"]

theorem rules_covered_blank :
    (RouterConfig.declaring blankRules).validated = .ok (.declaring blankRules) ∧
    ((Registry.empty .empty).reconcile blankRules ⟨0, 0⟩).1.rejected =
      [("b c", .refused (.invalidRule "b c" .badRouteId))] ∧
    ¬IsCovered (.refused (.invalidRule "b c" .badRouteId)) ∧
    RuleSetting.routeId.path 1 ∈ (RouterConfig.declaring twiceFaulty).issues.map (·.field) ∧
    RuleSetting.subject.path 1 ∈ (RouterConfig.declaring twiceFaulty).issues.map (·.field) ∧
    RuleSetting.targets.path 1 ∉ (RouterConfig.declaring twiceFaulty).issues.map (·.field) := by
  have hvalid : (RouterConfig.declaring blankRules).validated = .ok (.declaring blankRules) :=
    RouterConfig.validated_eq_ok.mpr (by decide +kernel)
  have hrejected : ((Registry.empty .empty).reconcile blankRules ⟨0, 0⟩).1.rejected =
      [("b c", .refused (.invalidRule "b c" .badRouteId))] := by decide +kernel
  obtain ⟨-, -, hcovered⟩ := rules_covered (.declaring blankRules)
  obtain ⟨-, hfields, -⟩ := rules_covered (.declaring twiceFaulty)
  have hblank : ∀ p ∈ [("b c", Rejection.refused (.invalidRule "b c" .badRouteId))],
      ¬IsCovered p.2 := hrejected ▸ hcovered hvalid (.empty .empty) ⟨0, 0⟩
  have hfield := hfields [echoSpec "a" "x.y"] (echoSpec "a" "x..y") [] rfl
  have hid : IsAtFault [echoSpec "a" "x.y"] (echoSpec "a" "x..y") .routeId := by decide
  have hsubject : IsAtFault [echoSpec "a" "x.y"] (echoSpec "a" "x..y") .subject := by
    decide +kernel
  have htargets : ¬IsAtFault [echoSpec "a" "x.y"] (echoSpec "a" "x..y") .targets := by decide
  exact ⟨hvalid, hrejected, hblank _ List.mem_cons_self, (hfield .routeId).mpr hid,
    (hfield .subject).mpr hsubject, fun h => htargets ((hfield .targets).mp h)⟩

end Switchyard.Config
