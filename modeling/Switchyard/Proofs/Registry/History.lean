import Switchyard.Proofs.Registry.Index
import Switchyard.Proofs.Registry.Reconcile

/-!
# Histories of a registry

A registry starts without rules; calls write to it, and decisions count what they do. Every call
either publishes a list of rules under the next revision or leaves the published one alone.

* `Write`, `Registry.perform`: the calls that may change the rules, and their replies.
* `Registry.Reachable`: the registries that calls and decisions lead to.
* `Registry.Publishes`: a call publishes a list of rules if they are a change.
* `Registry.Coherent`: the invariant of reachable registries; `Registry.Reachable.coherent`.
-/

namespace Switchyard

/-- A call that may change the rules. -/
inductive Write where
  | add (s : RuleSpec)
  | addOrReplace (s : RuleSpec)
  | update (s : RuleSpec)
  | remove (routeId : String)
  | apply (c : RuleCommand)
  | sweep
  | reconcile (specs : List RuleSpec)

/-- What a call reports. -/
inductive Reply where
  | refused (e : RegistryError)
  | published (p : Published)
  | removed (found : Bool)
  | swept (count : Nat)
  | synced (report : SyncReport)

namespace Reply

/-- What the outcome of a definition reports. -/
def ofPublished : Except RegistryError Published → Reply
  | .ok p => .published p
  | .error e => .refused e

/-- What the outcome of a command reports; an update takes the place of a rule in force. -/
def ofCommand : Except RegistryError CommandOutcome → Reply
  | .ok (.added _ revision) => .published ⟨revision, false⟩
  | .ok (.replaced _ revision) | .ok (.updated _ revision) => .published ⟨revision, true⟩
  | .ok (.removed _) => .removed true
  | .error e => .refused e

theorem ofCommand_add (id : String) (result : Except RegistryError Published) :
    ofCommand (result.map fun p =>
      if p.replaced then .replaced id p.revision else .added id p.revision) =
        ofPublished result := by
  cases result with
  | error e => rfl
  | ok p =>
    obtain ⟨revision, replaced⟩ := p
    cases replaced <;> rfl

theorem ofCommand_update (id : String) {result : Except RegistryError Published}
    (h : ∀ p, result = .ok p → p.replaced = true) :
    ofCommand (result.map fun p => .updated id p.revision) = ofPublished result := by
  cases result with
  | error e => rfl
  | ok p =>
    obtain ⟨revision, replaced⟩ := p
    obtain rfl : replaced = true := h _ rfl
    rfl

/-- Whether the reply reports that the rules are different now. -/
def isChange : Reply → Bool
  | .refused _ => false
  | .published _ => true
  | .removed found => found
  | .swept count => count != 0
  | .synced report => report.hasChanges

end Reply

namespace Write

/-- The definition that a call brings in, and what it asks for. -/
def put? : Write → Option (WriteMode × RuleSpec)
  | .add s | .apply (.add s false) => some (.add, s)
  | .addOrReplace s | .apply (.add s true) => some (.upsert, s)
  | .update s | .apply (.update s) => some (.update, s)
  | _ => none

/-- The identifier whose rule a call takes out. -/
def removes? : Write → Option String
  | .remove id | .apply (.remove id) => some id
  | _ => none

/-- Whether a rule is one of those that a call is about. -/
def concerns (w : Write) (now : Instant) (x : Rule) : Bool :=
  match w with
  | .add s | .addOrReplace s | .update s => x.routeId == s.routeId
  | .remove id => x.routeId == id
  | .apply c => x.routeId == c.routeId
  | .sweep => x.isExpired now
  | .reconcile _ => x.source == .file

end Write

namespace Registry

/-- Carries out a call. -/
def perform (r : Registry) (w : Write) (now : Instant) : Reply × Registry :=
  match w with
  | .add s => (.ofPublished (r.add s now).1, (r.add s now).2)
  | .addOrReplace s => (.ofPublished (r.addOrReplace s now).1, (r.addOrReplace s now).2)
  | .update s => (.ofPublished (r.update s now).1, (r.update s now).2)
  | .remove id => (.removed (r.remove id).1, (r.remove id).2)
  | .apply c => (.ofCommand (r.apply c now).1, (r.apply c now).2)
  | .sweep => (.swept (r.sweep now).1, (r.sweep now).2)
  | .reconcile specs => (.synced (r.reconcile specs now).1, (r.reconcile specs now).2)

/-- One step of a history: a call, a definition that is only checked, or a decision. -/
inductive Step (r : Registry) : Registry → Prop where
  | perform (w : Write) (now : Instant) : Step r (r.perform w now).2
  | compile (s : RuleSpec) (source : RuleSource) (now : Instant) : Step r (r.compile s source now).2
  | decide (event : Event) (b : Filter.Budget) (now : Instant) (stop : Poll → Bool) :
      Step r (r.after (r.routeCancellable event b now stop).2)

/-- The registries that a history leads to from one without rules. -/
inductive Reachable (fs : Filter.HostFunctions) : Registry → Prop where
  | empty : Reachable fs (.empty fs)
  | step {r r' : Registry} (h : Reachable fs r) (hs : Step r r') : Reachable fs r'

/-- What a call makes of a registry: the given rules, under the next revision if they are a
change. -/
structure Publishes (r : Registry) (rules : List Rule) (isChange : Bool) (r' : Registry) :
    Prop where
  functions : r'.functions = r.functions
  index : r'.index = if isChange then .build rules (r.revision + 1) else r.index
  same : isChange = false → rules = r.rules

/-- The invariant of reachable registries. -/
structure Coherent (fs : Filter.HostFunctions) (r : Registry) : Prop where
  functions : r.functions = fs
  indexed : r.index = .build r.rules r.revision
  distinct : Distinct r.rules
  revisions : ∀ x ∈ r.rules, x.revision ≤ r.revision
  compiled : ∀ x ∈ r.rules, x.IsCompiled fs

variable {fs : Filter.HostFunctions} {r r' : Registry} {now : Instant}

/-! ## Publishing a list of rules -/

namespace Publishes

variable {rules : List Rule} {isChange : Bool}

theorem rules_eq (h : Publishes r rules isChange r') : r'.rules = rules := by
  unfold Registry.rules
  rw [h.index]
  cases isChange with
  | true => exact RuleIndex.rules_build _ _
  | false => exact (h.same rfl).symm

theorem revision_eq (h : Publishes r rules isChange r') :
    r'.revision = if isChange then r.revision + 1 else r.revision := by
  unfold Registry.revision
  rw [h.index]
  cases isChange with
  | true => exact RuleIndex.revision_build _ _
  | false => rfl

theorem unchanged (hf : r'.functions = r.functions) (hi : r'.index = r.index) :
    Publishes r r.rules false r' := ⟨hf, hi, fun _ => rfl⟩

/-- Rules that were there before, or are compiled and of the new revision, keep a registry
coherent. -/
theorem coherent (h : Publishes r rules isChange r') (hc : r.Coherent fs) (hd : Distinct rules)
    (hr : ∀ x ∈ rules, x ∈ r.rules ∨ x.revision = r.revision + 1 ∧ x.IsCompiled fs) :
    r'.Coherent fs := by
  -- Without a change the index stays as it is; with one it is built anew, under the next revision.
  cases isChange with
  | false =>
    have hi : r'.index = r.index := h.index
    have hrules : r'.rules = r.rules := congrArg RuleIndex.rules hi
    have hrev : r'.revision = r.revision := congrArg RuleIndex.revision hi
    refine ⟨h.functions.trans hc.functions, ?_, ?_, ?_, ?_⟩
    · rw [hi, hrules, hrev, hc.indexed]
    · rw [hrules]
      exact hc.distinct
    · rw [hrules, hrev]
      exact hc.revisions
    · rw [hrules]
      exact hc.compiled
  | true =>
    have hrev : r'.revision = r.revision + 1 := h.revision_eq
    refine ⟨h.functions.trans hc.functions, ?_, ?_, fun x hx => ?_, fun x hx => ?_⟩
    · rw [h.rules_eq, hrev]
      exact h.index
    · rw [h.rules_eq]
      exact hd
    · rw [h.rules_eq] at hx
      rw [hrev]
      rcases hr x hx with hx | ⟨hx, -⟩
      · exact Nat.le_succ_of_le (hc.revisions x hx)
      · exact Nat.le_of_eq hx
    · rw [h.rules_eq] at hx
      rcases hr x hx with hx | ⟨-, hx⟩
      · exact hc.compiled x hx
      · exact hx

end Publishes

/-! ## One call -/

/-- A definition that does not compile is counted, and changes nothing else. -/
theorem publish_of_error {s : RuleSpec} {source : RuleSource} {e : RegistryError}
    (h : Rule.compile r.functions s source now = .error e) (mode : WriteMode) :
    r.publish s source mode now = (.error e, r.refusing 1) := by
  unfold publish Registry.compile
  rw [h]
  rfl

/-- A definition that compiles is refused by what it asks for, or put in. -/
theorem publish_of_ok {s : RuleSpec} {source : RuleSource} {x : Rule}
    (h : Rule.compile r.functions s source now = .ok x) (mode : WriteMode) :
    r.publish s source mode now =
      if mode = .add ∧ isTaken r.rules s.routeId now = true then
        (.error (.duplicateRoute s.routeId), r)
      else if mode = .update ∧ isTaken r.rules s.routeId now = false then
        (.error (.routeNotFound s.routeId), r)
      else
        (.ok ⟨r.revision + 1, isTaken r.rules s.routeId now⟩,
          { r.commit (place r.rules (x.withRevision (r.revision + 1)) now) with
            counters := r.counters.track s.routeId }) := by
  unfold publish Registry.compile
  rw [h]
  dsimp only
  cases mode <;> cases isTaken r.rules s.routeId now <;> rfl

theorem keepOnly_publishes (r : Registry) (keep : Rule → Bool) :
    Publishes r (r.rules.filter keep) (r.rules.any fun x => !keep x) (r.keepOnly keep) := by
  unfold keepOnly
  by_cases h : ∃ x ∈ r.rules, keep x = false
  · have hany : (r.rules.any fun x => !keep x) = true := by simpa using h
    have hgone : (r.rules.filter fun x => !keep x).isEmpty = false := by simpa using h
    rw [hany]
    simp only [hgone]
    exact ⟨rfl, rfl, nofun⟩
  · have hkeep : ∀ x ∈ r.rules, keep x = true :=
      fun x hx => eq_true_of_ne_false fun hf => h ⟨x, hx, hf⟩
    have hany : (r.rules.any fun x => !keep x) = false := by simpa using hkeep
    have hgone : (r.rules.filter fun x => !keep x).isEmpty = true := by simpa using hkeep
    rw [hany]
    simp only [hgone]
    exact ⟨rfl, rfl, fun _ => List.filter_eq_self.mpr hkeep⟩

theorem remove_publishes (r : Registry) (id : String) :
    Publishes r (without r.rules id) (r.remove id).1 (r.remove id).2 := by
  have hfound : (r.remove id).1 = r.rules.any fun x => !(x.routeId != id) := by
    rw [Bool.eq_iff_iff]
    simp [remove, holder?]
  rw [hfound]
  exact keepOnly_publishes r _

theorem sweep_publishes (r : Registry) (now : Instant) :
    Publishes r (r.rules.filter fun x => !x.isExpired now) ((r.sweep now).1 != 0)
      (r.sweep now).2 := by
  have hcount : ((r.sweep now).1 != 0) = r.rules.any fun x => !(!x.isExpired now) := by
    rw [Bool.eq_iff_iff]
    simp [sweep]
  rw [hcount]
  exact keepOnly_publishes r _

theorem reconcile_publishes (hd : Distinct r.rules) (specs : List RuleSpec) (now : Instant) :
    Publishes r (r.reconciled specs now) (r.reconcile specs now).1.hasChanges
      (r.reconcile specs now).2 := by
  obtain ⟨hchange, hfunctions, hindex⟩ := reconcile_spec hd specs now
  refine ⟨hfunctions, hindex, fun h => reconciled_eq_self hd fun hr => ?_⟩
  rw [hchange.mpr hr] at h
  cases h

theorem rules_perform_sweep (r : Registry) (now : Instant) :
    (r.perform .sweep now).2.rules = r.rules.filter fun x => !x.isExpired now :=
  (sweep_publishes r now).rules_eq

theorem rules_perform_reconcile (hd : Distinct r.rules) (specs : List RuleSpec) (now : Instant) :
    (r.perform (.reconcile specs) now).2.rules = r.reconciled specs now :=
  (reconcile_publishes hd specs now).rules_eq

/-! ## Any call -/

/-- A call puts a rule in, takes rules out, or brings in the rules of a file. -/
theorem cases_write (w : Write) :
    (∃ mode s, w.put? = some (mode, s)) ∨ (∃ id, w.removes? = some id) ∨ w = .sweep ∨
      ∃ specs, w = .reconcile specs := by
  cases w with
  | add s => exact .inl ⟨_, s, rfl⟩
  | addOrReplace s => exact .inl ⟨_, s, rfl⟩
  | update s => exact .inl ⟨_, s, rfl⟩
  | remove id => exact .inr (.inl ⟨id, rfl⟩)
  | sweep => exact .inr (.inr (.inl rfl))
  | reconcile specs => exact .inr (.inr (.inr ⟨specs, rfl⟩))
  | apply c =>
    cases c with
    | add s replace => cases replace <;> exact .inl ⟨_, s, rfl⟩
    | update s => exact .inl ⟨_, s, rfl⟩
    | remove id => exact .inr (.inl ⟨id, rfl⟩)

/-- An update takes the place of a rule in force. -/
theorem replaced_of_update {s : RuleSpec} {source : RuleSource} {p : Published}
    (h : (r.publish s source .update now).1 = .ok p) : p.replaced = true := by
  cases hc : Rule.compile r.functions s source now with
  | error e =>
    rw [publish_of_error hc] at h
    cases h
  | ok x =>
    rw [publish_of_ok hc, if_neg nofun] at h
    cases ht : isTaken r.rules s.routeId now with
    | false => simp [ht] at h
    | true =>
      rw [if_neg fun hn => Bool.noConfusion (ht.symm.trans hn.2)] at h
      exact Except.ok.inj h ▸ ht

theorem perform_of_put {w : Write} {mode : WriteMode} {s : RuleSpec}
    (h : w.put? = some (mode, s)) (r : Registry) (now : Instant) :
    r.perform w now =
      (.ofPublished (r.publish s .api mode now).1, (r.publish s .api mode now).2) := by
  cases w with
  | add s | addOrReplace s | update s => cases h; rfl
  | remove id | sweep | reconcile specs => cases h
  | apply c =>
    cases c with
    | add s replace =>
      cases replace <;> cases h <;> exact Prod.ext (Reply.ofCommand_add s.routeId _) rfl
    | update s =>
      cases h
      exact Prod.ext (Reply.ofCommand_update s.routeId fun _ => replaced_of_update) rfl
    | remove id => cases h

theorem perform_of_removes {w : Write} {id : String} (h : w.removes? = some id) (r : Registry)
    (now : Instant) :
    (r.perform w now).1.isChange = (r.remove id).1 ∧ (r.perform w now).2 = (r.remove id).2 := by
  cases w with
  | add s | addOrReplace s | update s | sweep | reconcile specs => cases h
  | remove id => cases h; exact ⟨rfl, rfl⟩
  | apply c =>
    cases c with
    | add s replace | update s => cases h
    | remove id =>
      cases h
      unfold perform apply
      dsimp only
      split
      · next hr => rw [hr]; exact ⟨rfl, rfl⟩
      · next hr => rw [hr]; exact ⟨rfl, rfl⟩

/-- The definition of a put comes to nothing, or its rule is published. -/
theorem put_publishes (r : Registry) {w : Write} {mode : WriteMode} {s : RuleSpec}
    (h : w.put? = some (mode, s)) (now : Instant) :
    Publishes r r.rules false (r.perform w now).2 ∧ (r.perform w now).1.isChange = false ∨
      ∃ x, Rule.compile r.functions s .api now = .ok x ∧
        Publishes r (place r.rules (x.withRevision (r.revision + 1)) now) true
          (r.perform w now).2 ∧ (r.perform w now).1.isChange = true := by
  rw [perform_of_put h]
  cases hc : Rule.compile r.functions s .api now with
  | error e =>
    rw [publish_of_error hc]
    exact .inl ⟨.unchanged rfl rfl, rfl⟩
  | ok x =>
    rw [publish_of_ok hc]
    split
    · exact .inl ⟨.unchanged rfl rfl, rfl⟩
    · split
      · exact .inl ⟨.unchanged rfl rfl, rfl⟩
      · exact .inr ⟨x, rfl, ⟨rfl, rfl, nofun⟩, rfl⟩

/-- Every call publishes rules with distinct identifiers, each of them there before or compiled and
of the new revision. -/
theorem perform_publishes (hd : Distinct r.rules) (w : Write) (now : Instant) :
    ∃ rules, Publishes r rules (r.perform w now).1.isChange (r.perform w now).2 ∧
      Distinct rules ∧
      ∀ x ∈ rules, x ∈ r.rules ∨ x.revision = r.revision + 1 ∧ x.IsCompiled r.functions := by
  rcases cases_write w with ⟨mode, s, h⟩ | ⟨id, h⟩ | rfl | ⟨specs, rfl⟩
  · rcases put_publishes r h now with ⟨hp, hreply⟩ | ⟨x, hc, hp, hreply⟩
    · rw [hreply]
      exact ⟨r.rules, hp, hd, fun x hx => .inl hx⟩
    · rw [hreply]
      refine ⟨_, hp, distinct_place hd _ now, fun y hy => (mem_place hy).imp_right ?_⟩
      rintro rfl
      exact ⟨rfl, s, .api, now, x, _, hc, rfl⟩
  · obtain ⟨hreply, hr⟩ := perform_of_removes h r now
    rw [hreply, hr]
    exact ⟨_, remove_publishes r id, hd.filter _, fun x hx => .inl (List.mem_filter.mp hx).1⟩
  · exact ⟨_, sweep_publishes r now, hd.filter _, fun x hx => .inl (List.mem_filter.mp hx).1⟩
  · exact ⟨_, reconcile_publishes hd specs now, distinct_reconciled hd,
      fun x hx => (mem_reconciled hx).imp_right fun ⟨hrev, _, hc⟩ => ⟨hrev, hc⟩⟩

/-! ## Any history -/

theorem coherent_empty (fs : Filter.HostFunctions) : (empty fs).Coherent fs :=
  ⟨rfl, rfl, List.nodup_nil, List.forall_mem_nil _, List.forall_mem_nil _⟩

theorem Coherent.step (hc : r.Coherent fs) (h : Step r r') : r'.Coherent fs := by
  cases h with
  | perform w now =>
    obtain ⟨rules, hp, hd, hr⟩ := perform_publishes hc.distinct w now
    rw [hc.functions] at hr
    exact hp.coherent hc hd hr
  | compile s source now =>
    rw [compile_eq]
    exact ⟨hc.functions, hc.indexed, hc.distinct, hc.revisions, hc.compiled⟩
  | decide event b now stop =>
    exact ⟨hc.functions, hc.indexed, hc.distinct, hc.revisions, hc.compiled⟩

/-- Whatever has happened, the invariant holds. -/
theorem Reachable.coherent (h : r.Reachable fs) : r.Coherent fs := by
  induction h with
  | empty => exact coherent_empty fs
  | step _ hs ih => exact ih.step hs

end Registry

end Switchyard
