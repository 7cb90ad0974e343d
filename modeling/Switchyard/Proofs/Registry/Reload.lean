import Switchyard.Proofs.Registry.Export
import Switchyard.Proofs.Registry.FileRules

/-!
# A reload takes effect

After reconciling, the rule of every declaration that counts treats events as a rule does that is
compiled from the declaration. A rule that is replaced is such a rule; one that is left as it is has
been compiled from a definition that is the same, and what this says depends on how documents are
compared. Reals are compared by value, where the two zeros are equal, while filters compare them by
their bits.

* `Json.eq_of_same`: documents that are the same are equal, up to the signs of zeros.
* `Rule.compile_congr`: which parts of two definitions make which parts of their rules.
* `Registry.exists_live`: the rule that stands for a declaration.
* `Registry.reload_takes_effect`: how it treats events.
-/

namespace Switchyard

/-! ## Documents that are the same -/

/-- Numbers that are level have the same bits, if they have the same sign. -/
theorem Binary64.eq_of_level {x y : Binary64} (h : x.level y = true)
    (hs : x.isNegative = y.isNegative) : x = y := by
  unfold level compare? at h
  split at h
  · cases h
  · have hkey : x.key = y.key := by simpa using h
    have hmag : x.magnitude = y.magnitude := by
      unfold key at hkey
      rw [hs] at hkey
      split at hkey <;> omega
    have hpow : Nat.pow 2 63 = 9223372036854775808 := rfl
    unfold isNegative at hs
    unfold magnitude at hmag
    rw [decide_eq_decide, hpow] at hs
    rw [hpow] at hmag
    have hx := x.bits.toNat_lt
    have hy := y.bits.toNat_lt
    obtain ⟨xb⟩ := x
    obtain ⟨yb⟩ := y
    exact congrArg Binary64.mk (UInt64.toNat_inj.mp (by dsimp only at *; omega))

namespace Json

mutual

/-- Whether reals at the same places of two documents have the same sign. -/
def sameSigns : Json → Json → Bool
  | .real x, .real y => x.isNegative == y.isNegative
  | .array xs, .array ys => sameSignsItems xs ys
  | .object xs, .object ys => sameSignsMembers xs ys
  | _, _ => true

/-- Whether the items have them, place by place. -/
def sameSignsItems : List Json → List Json → Bool
  | x :: xs, y :: ys => x.sameSigns y && sameSignsItems xs ys
  | _, _ => true

/-- Whether the members have them, place by place. -/
def sameSignsMembers : List (String × Json) → List (String × Json) → Bool
  | (_, x) :: xs, (_, y) :: ys => x.sameSigns y && sameSignsMembers xs ys
  | _, _ => true

end

mutual

theorem eq_of_same (a : Json) {b : Json} (h : a.same b = true) (hs : a.sameSigns b = true) :
    a = b := by
  cases a with
  | null => cases b with
    | null => rfl
    | _ => cases h
  | bool x => cases b with
    | bool y => exact congrArg Json.bool (eq_of_beq h)
    | _ => cases h
  | whole x => cases b with
    | whole y => exact congrArg Json.whole (eq_of_beq h)
    | _ => cases h
  | real x => cases b with
    | real y => exact congrArg Json.real (Binary64.eq_of_level h (eq_of_beq hs))
    | _ => cases h
  | string x => cases b with
    | string y => exact congrArg Json.string (eq_of_beq h)
    | _ => cases h
  | array xs => cases b with
    | array ys => exact congrArg Json.array (eq_of_sameItems xs h hs)
    | _ => cases h
  | object xs => cases b with
    | object ys => exact congrArg Json.object (eq_of_sameMembers xs h hs)
    | _ => cases h
termination_by structural a

theorem eq_of_sameItems (xs : List Json) {ys : List Json} (h : sameItems xs ys = true)
    (hs : sameSignsItems xs ys = true) : xs = ys := by
  match xs, ys with
  | [], [] => rfl
  | [], _ :: _ | _ :: _, [] => cases h
  | x :: xs, y :: ys =>
    obtain ⟨hx, hxs⟩ := (Bool.and_eq_true _ _).mp h
    obtain ⟨hsx, hsxs⟩ := (Bool.and_eq_true _ _).mp hs
    rw [eq_of_same x hx hsx, eq_of_sameItems xs hxs hsxs]

theorem eq_of_sameMembers (xs : List (String × Json)) {ys : List (String × Json)}
    (h : sameMembers xs ys = true) (hs : sameSignsMembers xs ys = true) : xs = ys := by
  match xs, ys with
  | [], [] => rfl
  | [], _ :: _ | _ :: _, [] => cases h
  | (k, x) :: xs, (l, y) :: ys =>
    obtain ⟨hkx, hxs⟩ := (Bool.and_eq_true _ _).mp h
    obtain ⟨hk, hx⟩ := (Bool.and_eq_true _ _).mp hkx
    obtain ⟨hsx, hsxs⟩ := (Bool.and_eq_true _ _).mp hs
    rw [eq_of_beq hk, eq_of_same x hx hsx, eq_of_sameMembers xs hxs hsxs]

end

end Json

/-! ## Definitions that are the same -/

/-- Whether the reals of two definitions at the same places of their filters have the same sign. -/
def RuleSpec.sameSigns (s t : RuleSpec) : Bool :=
  s.filterDocument.sameSigns t.filterDocument

theorem RuleSpec.eq_of_same {s t : RuleSpec} (h : s.same t = true) (hs : s.sameSigns t = true) :
    s.filter = t.filter := by
  simp only [same, Bool.and_eq_true] at h
  obtain ⟨⟨⟨⟨⟨⟨-, -⟩, hfilter⟩, -⟩, -⟩, -⟩, -⟩ := h
  have hpairs : (s.filter.map Document.json).pairs = (t.filter.map Document.json).pairs :=
    Json.object.inj (Json.eq_of_same _ hfilter hs)
  exact Dict.map_injective (fun _ _ => Document.eq_of_json_eq) (Dict.eq_of_pairs_eq hpairs)

namespace Rule

variable {fs : Filter.HostFunctions} {s t : RuleSpec} {source source' : RuleSource}
  {now time : Instant} {x y : Rule}

/-- What a definition that is the same has in common with that of the rule. The values of simple
filters are compared by `Json.same` only. -/
theorem parts_of_sameDefinition (h : x.sameDefinition t = true) :
    t.ttlSeconds = none ∧ x.spec.routeId = t.routeId ∧ x.spec.subject = t.subject ∧
      x.spec.targets = t.targets ∧ x.spec.filterExpr = t.filterExpr ∧
      x.spec.expiresAt = t.expiresAt := by
  simp only [sameDefinition, RuleSpec.same, Bool.and_eq_true, beq_iff_eq,
    Option.isNone_iff_eq_none] at h
  obtain ⟨httl, ⟨⟨⟨⟨⟨hid, hsubject⟩, -⟩, hexpr⟩, htargets⟩, hexpires⟩, -⟩ := h
  exact ⟨httl, hid, hsubject, htargets, hexpr, hexpires⟩

/-- The subject of a definition makes the pattern of its rule, the targets make the targets, the two
filters make the filter and the end, without a life time, makes the expiry. -/
theorem compile_congr (hx : Rule.compile fs s source now = .ok x)
    (hy : Rule.compile fs t source' time = .ok y) (hid : s.routeId = t.routeId) :
    (s.subject = t.subject → x.pattern = y.pattern) ∧
      (s.targets = t.targets → x.targets = y.targets) ∧
      (s.filter = t.filter → s.filterExpr = t.filterExpr → x.filter = y.filter) ∧
      (s.ttlSeconds = none → t.ttlSeconds = none → s.expiresAt = t.expiresAt →
        x.expiresAt = y.expiresAt) := by
  obtain ⟨-, p, f, ts, s', hp, hf, hts, hs, rfl⟩ := compile_eq_ok.mp hx
  obtain ⟨-, q, g, us, t', hq, hg, hus, ht, rfl⟩ := compile_eq_ok.mp hy
  refine ⟨fun h => ?_, fun h => ?_, fun h he => ?_, fun hn hm h => ?_⟩
  · rw [h, hq] at hp
    exact (Except.ok.inj hp).symm
  · rw [hid, h, hus] at hts
    exact (Except.ok.inj hts).symm
  · have hfg : filterOf fs s = filterOf fs t := by rw [filterOf, filterOf, h, he]
    rw [hfg, hg] at hf
    exact (Except.ok.inj hf).symm
  · rw [resolveTtl?, hn] at hs
    rw [resolveTtl?, hm] at ht
    obtain rfl := Option.some.inj hs
    obtain rfl := Option.some.inj ht
    exact h

theorem expand_congr (hid : x.routeId = y.routeId) (ht : x.targets = y.targets) (event : Event) :
    x.expand event = y.expand event := by rw [expand, expand, hid, ht]

end Rule

namespace Registry

variable {fs : Filter.HostFunctions} {r : Registry} {specs : List RuleSpec} {now : Instant}
  {d : RuleSpec × Rule}

/-! ## The rule of a declaration -/

/-- A declaration that meets no rule of the control plane is brought in, or the rule that has its
identifier is left as it is because it is the same. -/
theorem exists_live (hdist : Distinct r.rules) (hd : d ∈ declarations r.functions specs now)
    (hc : d.1.routeId ∉ (r.reconcile specs now).1.conflicts) :
    ∃ x ∈ r.reconciled specs now, x.routeId = d.1.routeId ∧
      (x = d.2.withRevision (r.revision + 1) ∨ x ∈ r.rules ∧ x.sameDefinition d.1 = true) := by
  have hids := declarations_distinct r.functions specs now
  have hsurv := distinct_survivors hdist specs
  by_cases hf : (fate (survivors r.rules specs) d.1).isChange = true
  · refine ⟨_, withRevision_mem_merged _ hsurv hids hd hf, ?_, .inl rfl⟩
    rw [Rule.routeId_withRevision, declarations_routeId _ specs _ d hd]
  · -- A rule has the identifier, since the declaration is not added.
    obtain ⟨x, hx, hid⟩ := exists_of_fate_ne_added fun h => hf (h ▸ rfl)
    rw [report_reconcile] at hc
    have hconflict := mt (mem_withFate hd .conflict).mpr hc
    rw [fate_of_mem hsurv hx hid] at hf hconflict
    have hsame : x.sameDefinition d.1 = true := by
      by_cases ha : x.source = .api
      · exact absurd (if_pos ha) hconflict
      · by_cases hs : x.sameDefinition d.1 = true
        · exact hs
        · simp [ha, hs, Fate.isChange] at hf
    refine ⟨x, List.mem_append_left _ (List.mem_map.mpr ⟨x, hx, ?_⟩), hid,
      .inr ⟨(List.mem_filter.mp hx).1, hsame⟩⟩
    rw [refresh_of_mem hids hd hid.symm, if_pos (.inr hsame)]

theorem find?_reconcile (h : r.Reachable fs) {x : Rule} {id : String} :
    (r.reconcile specs now).2.find? id = some x ↔
      x ∈ r.reconciled specs now ∧ x.routeId = id := by
  have hr : (r.reconcile specs now).2.Reachable fs := h.step (.perform (.reconcile specs) now)
  have hrules := (reconcile_publishes h.coherent.distinct specs now).rules_eq
  have hdist := hr.coherent.distinct
  rw [find?, hr.coherent.indexed, RuleIndex.find?_build hdist, hrules]

/-- After reconciling any reachable registry, every first declaration of an identifier that compiles
and is not reported as a conflict has a live rule. It accepts the same subjects, sends events to the
same targets and, if the declaration has no life time, ends at the same time as a rule that is
compiled from the declaration, whenever that is. Its filter says the same of every event as well,
unless the rule has been left as it is although a zero in its filter has another sign than in the
declaration. -/
theorem reload_takes_effect (h : r.Reachable fs) (hd : d ∈ declarations fs specs now)
    (hc : d.1.routeId ∉ (r.reconcile specs now).1.conflicts) :
    ∃ x, (r.reconcile specs now).2.find? d.1.routeId = some x ∧
      ∀ (source : RuleSource) (time : Instant) (y : Rule),
        Rule.compile fs d.1 source time = .ok y →
        (∀ subject, x.pattern.accepts subject = y.pattern.accepts subject) ∧
        (∀ event, x.expand event = y.expand event) ∧
        (d.1.ttlSeconds = none → x.expiresAt = y.expiresAt) ∧
        ((∀ z ∈ r.rules, z.sameDefinition d.1 = true → z.spec.sameSigns d.1 = true) →
          ∀ event b now, x.filter.evaluate event b now = y.filter.evaluate event b now) := by
  have hcoherent := h.coherent
  rw [← hcoherent.functions] at hd
  obtain ⟨x, hx, hid, hlive⟩ := exists_live hcoherent.distinct hd hc
  refine ⟨x, (find?_reconcile h).mpr ⟨hx, hid⟩, fun source time y hy => ?_⟩
  have hyid : x.routeId = y.routeId := hid.trans (Rule.routeId_of_compile hy).symm
  rcases hlive with rfl | ⟨hx, hsame⟩
  · -- The rule has been compiled from the declaration.
    have hc := (mem_compiled.mp hd).2
    rw [hcoherent.functions] at hc
    obtain ⟨hp, ht, hf, he⟩ := Rule.compile_congr hc hy rfl
    refine ⟨fun subject => ?_, Rule.expand_congr hyid (ht rfl), fun hn => he hn hn rfl,
      fun _ event b now => ?_⟩
    · exact congrArg (SubjectPattern.accepts · subject) (hp rfl)
    · exact congrArg (RuleFilter.evaluate · event b now) (hf rfl rfl)
  · -- The rule is what its own definition compiles to, and that is the same.
    obtain ⟨httl, hsid, hsubject, htargets, hexpr, hexpires⟩ := Rule.parts_of_sameDefinition hsame
    have hxc := hcoherent.compiled x hx
    obtain ⟨hp, ht, hf, he⟩ := Rule.compile_congr (hxc.recompile source time) hy hsid
    refine ⟨fun subject => ?_, Rule.expand_congr hyid (ht htargets),
      fun hn => he hxc.ttlSeconds hn hexpires, fun hsigns event b now => ?_⟩
    · exact congrArg (SubjectPattern.accepts · subject) (hp hsubject)
    · have hspec : x.spec.same d.1 = true := ((Bool.and_eq_true _ _).mp hsame).2
      have hfilter := RuleSpec.eq_of_same hspec (hsigns x hx hsame)
      exact congrArg (RuleFilter.evaluate · event b now) (hf hfilter hexpr)

/-- A definition for the events of one subject whose payload has a certain number. -/
def numberSpec (x : Binary64) : RuleSpec :=
  ⟨"a", "t", .ofList [("payload.x", .ofJson (.real x))], none, [⟨"queue", "out", .empty⟩], none,
    none⟩

/-- A rule for zero. -/
def zeroLoaded : Registry :=
  ((empty .empty).perform (.reconcile [numberSpec .zero]) ⟨0, 0⟩).2

theorem zeroLoaded_reachable : zeroLoaded.Reachable .empty := .step .empty (.perform _ _)

theorem exists_declaration (fs : Filter.HostFunctions) (s : RuleSpec) (now : Instant)
    (h : (Rule.compile fs s .file now).toOption.isSome = true) :
    ∃ y, Rule.compile fs s .file now = .ok y ∧ (s, y) ∈ declarations fs [s] now := by
  obtain ⟨y, hy⟩ := exists_eq_ok h
  exact ⟨y, hy, mem_compiled.mpr ⟨List.mem_cons_self, hy⟩⟩

theorem reload_takes_effect_zero :
    zeroLoaded.Reachable .empty ∧
    (zeroLoaded.reconcile [numberSpec .zero] ⟨1, 0⟩).1 = ⟨[], [], [], 1, [], []⟩ ∧
    ∃ x y, (zeroLoaded.reconcile [numberSpec .zero] ⟨1, 0⟩).2.find? "a" = some x ∧
      Rule.compile .empty (numberSpec .zero) .file ⟨1, 0⟩ = .ok y ∧
      ∀ event b now, x.filter.evaluate event b now = y.filter.evaluate event b now := by
  have hreport : (zeroLoaded.reconcile [numberSpec .zero] ⟨1, 0⟩).1 = ⟨[], [], [], 1, [], []⟩ := by
    decide +kernel
  have hsigns : ∀ z ∈ zeroLoaded.rules, z.spec.sameSigns (numberSpec .zero) = true := by
    decide +kernel
  obtain ⟨y, hy, hd⟩ := exists_declaration .empty (numberSpec .zero) ⟨1, 0⟩ (by decide +kernel)
  obtain ⟨x, hx, heffect⟩ :=
    reload_takes_effect zeroLoaded_reachable hd (by rw [hreport]; exact List.not_mem_nil)
  obtain ⟨-, -, -, hfilter⟩ := heffect .file ⟨1, 0⟩ y hy
  exact ⟨zeroLoaded_reachable, hreport, x, y, hx, hy, hfilter fun z hz _ => hsigns z hz⟩

/-- The zero below. -/
def negativeZero : Binary64 := Binary64.zero.neg

/-- An event with the negative zero. -/
def belowZero : Event := ⟨"e", "t", .empty, .object [("x", .number negativeZero)], true⟩

/-- A rule for zero stays in place of one for the negative zero, and refuses the events that the
other would accept. -/
theorem reload_keeps_other_zero :
    zeroLoaded.Reachable .empty ∧
    (zeroLoaded.reconcile [numberSpec negativeZero] ⟨1, 0⟩).1 = ⟨[], [], [], 1, [], []⟩ ∧
    ∃ x y, (zeroLoaded.reconcile [numberSpec negativeZero] ⟨1, 0⟩).2.find? "a" = some x ∧
      (numberSpec negativeZero, y) ∈ declarations .empty [numberSpec negativeZero] ⟨1, 0⟩ ∧
      Rule.compile .empty (numberSpec negativeZero) .file ⟨1, 0⟩ = .ok y ∧
      (x.filter.evaluate belowZero .unlimited ⟨1, 0⟩).1.toOption = some false ∧
      (y.filter.evaluate belowZero .unlimited ⟨1, 0⟩).1.toOption = some true := by
  obtain ⟨y, hy, hd⟩ :=
    exists_declaration .empty (numberSpec negativeZero) ⟨1, 0⟩ (by decide +kernel)
  have hlive : ((zeroLoaded.reconcile [numberSpec negativeZero] ⟨1, 0⟩).2.find? "a").bind
      (fun x => (x.filter.evaluate belowZero .unlimited ⟨1, 0⟩).1.toOption) = some false := by
    decide +kernel
  have hfresh : (Rule.compile .empty (numberSpec negativeZero) .file ⟨1, 0⟩).toOption.bind
      (fun y => (y.filter.evaluate belowZero .unlimited ⟨1, 0⟩).1.toOption) = some true := by
    decide +kernel
  obtain ⟨x, hx, hfalse⟩ := Option.bind_eq_some_iff.mp hlive
  rw [hy] at hfresh
  exact ⟨zeroLoaded_reachable, by decide +kernel, x, y, hx, hd, hy, hfalse, hfresh⟩

end Registry

end Switchyard
