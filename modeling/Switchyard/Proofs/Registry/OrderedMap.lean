import Switchyard.Proofs.Registry.History

/-!
# The registry is an ordered map

A reachable registry is a map from identifiers to rules that keeps them in the order in which they
came. What a call makes of it depends only on the rules in force under the identifiers that the call
names, and the revision counts the calls that changed something.

* `Registry.IsKeyed`: every identifier has one place, and the index knows it.
* `Registry.Puts`: what becomes of a definition that compiles.
* `Registry.Obeys`: what any call makes of the rules and the revision.
* `Registry.ordered_map`: reachable registries are keyed and obey.
-/

namespace Switchyard

namespace Registry

/-- Every identifier has one place in the rules, which is where the index finds its rule; it finds
nothing for any other identifier. -/
structure IsKeyed (r : Registry) : Prop where
  distinct : Distinct r.rules
  position : ∀ id p, r.index.position? id = some p ↔ ∃ x, r.rules[p]? = some x ∧ x.routeId = id
  find : ∀ id x, r.find? id = some x ↔ x ∈ r.rules ∧ x.routeId = id

/-- What becomes of a definition whose rule is `x`: an addition fails exactly if a rule in force has
its identifier, and an update if none has. Otherwise the rule in force is replaced where it stands;
if there is none, the rule comes last, and one that has expired is gone. -/
structure Puts (r : Registry) (mode : WriteMode) (x : Rule) (now : Instant) (reply : Reply)
    (r' : Registry) : Prop where
  duplicate : reply = .refused (.duplicateRoute x.routeId) ↔
    mode = .add ∧ InForce r.rules x.routeId now
  notFound : reply = .refused (.routeNotFound x.routeId) ↔
    mode = .update ∧ ¬InForce r.rules x.routeId now
  otherwise : reply = .refused (.duplicateRoute x.routeId) ∨
    reply = .refused (.routeNotFound x.routeId) ∨ ∃ p, reply = .published p
  inPlace : ∀ p, reply = .published p → InForce r.rules x.routeId now →
    p = ⟨r.revision + 1, true⟩ ∧ ∃ before y after, r.rules = before ++ y :: after ∧
      y.routeId = x.routeId ∧ r'.rules = before ++ x.withRevision (r.revision + 1) :: after
  last : ∀ p, reply = .published p → ¬InForce r.rules x.routeId now →
    p = ⟨r.revision + 1, false⟩ ∧
      r'.rules = without r.rules x.routeId ++ [x.withRevision (r.revision + 1)]

/-- What a call makes of a registry. -/
structure Obeys (fs : Filter.HostFunctions) (r : Registry) (w : Write) (now : Instant)
    (reply : Reply) (r' : Registry) : Prop where
  put : ∀ mode s x, w.put? = some (mode, s) → Rule.compile fs s .api now = .ok x →
    x.routeId = s.routeId ∧ Puts r mode x now reply r'
  invalid : ∀ mode s e, w.put? = some (mode, s) → Rule.compile fs s .api now = .error e →
    reply = .refused e
  removed : ∀ id, w.removes? = some id → r'.rules = without r.rules id ∧
    (reply.isChange = true ↔ ∃ x ∈ r.rules, x.routeId = id)
  swept : w = .sweep → r'.rules = (r.rules.filter fun x => !x.isExpired now) ∧
    reply = .swept (r.rules.countP fun x => x.isExpired now)
  reconciled : ∀ specs, w = .reconcile specs → r'.rules = r.reconciled specs now
  /-- All other rules are left as they are, in their order. -/
  frame : (r'.rules.filter fun x => !w.concerns now x) = r.rules.filter fun x => !w.concerns now x
  changed : reply.isChange = true → r'.revision = r.revision + 1 ∧ r'.rules ≠ r.rules
  unchanged : reply.isChange = false → r'.index = r.index
  fresh : ∀ x ∈ r'.rules, x ∈ r.rules ∨ x.revision = r.revision + 1

variable {fs : Filter.HostFunctions} {r : Registry} {now : Instant}

theorem Coherent.isKeyed (h : r.Coherent fs) : r.IsKeyed := by
  have hfind : ∀ id, r.find? id = (RuleIndex.build r.rules r.revision).find? id := fun id => by
    rw [Registry.find?, h.indexed]
  refine ⟨h.distinct, fun id p => ?_, fun id x => ?_⟩
  · rw [h.indexed]
    exact RuleIndex.position?_build h.distinct _
  · rw [hfind]
    exact RuleIndex.find?_build h.distinct _

/-! ## Definitions -/

theorem puts_of_compile (hd : Distinct r.rules) {w : Write} {mode : WriteMode} {s : RuleSpec}
    {x : Rule} (hw : w.put? = some (mode, s))
    (hc : Rule.compile r.functions s .api now = .ok x) :
    Puts r mode x now (r.perform w now).1 (r.perform w now).2 := by
  have hid : s.routeId = x.routeId := (Rule.routeId_of_compile hc).symm
  have htaken : isTaken r.rules x.routeId now = true ↔ InForce r.rules x.routeId now :=
    isTaken_iff hd
  have hfree : isTaken r.rules x.routeId now = false ↔ ¬InForce r.rules x.routeId now :=
    isTaken_eq_false_iff hd
  rw [perform_of_put hw, publish_of_ok hc, hid]
  -- Refused as taken, refused as free, or written: in place if the identifier is in force.
  split
  · next h =>
    obtain ⟨rfl, ht⟩ := h
    exact ⟨iff_of_true rfl ⟨rfl, htaken.mp ht⟩, iff_of_false nofun nofun, .inl rfl, nofun, nofun⟩
  · next hadd =>
    split
    · next h =>
      obtain ⟨rfl, ht⟩ := h
      exact ⟨iff_of_false nofun nofun, iff_of_true rfl ⟨rfl, hfree.mp ht⟩, .inr (.inl rfl), nofun,
        nofun⟩
    · next hupdate =>
      refine ⟨iff_of_false nofun fun h => hadd ⟨h.1, htaken.mpr h.2⟩,
        iff_of_false nofun fun h => hupdate ⟨h.1, hfree.mpr h.2⟩, .inr (.inr ⟨_, rfl⟩), ?_, ?_⟩
      · rintro _ ⟨⟩ hf
        obtain ⟨before, y, after, hr, hy, hp⟩ := place_of_inForce
          (y := x.withRevision (r.revision + 1)) hd hf
        rw [htaken.mpr hf]
        exact ⟨rfl, before, y, after, hr, hy, (RuleIndex.rules_build _ _).trans hp⟩
      · rintro _ ⟨⟩ hf
        rw [hfree.mpr hf]
        exact ⟨rfl, (RuleIndex.rules_build _ _).trans
          (place_of_not_inForce (y := x.withRevision (r.revision + 1)) hd hf)⟩

/-! ## Rules that a call is not about -/

theorem concerns_of_put {w : Write} {mode : WriteMode} {s : RuleSpec}
    (h : w.put? = some (mode, s)) (x : Rule) : w.concerns now x = (x.routeId == s.routeId) := by
  cases w with
  | add s | addOrReplace s | update s => cases h; rfl
  | remove id | sweep | reconcile specs => cases h
  | apply c =>
    cases c with
    | add s replace => cases replace <;> cases h <;> rfl
    | update s => cases h; rfl
    | remove id => cases h

theorem concerns_of_removes {w : Write} {id : String} (h : w.removes? = some id) (x : Rule) :
    w.concerns now x = (x.routeId == id) := by
  cases w with
  | add s | addOrReplace s | update s | sweep | reconcile specs => cases h
  | remove id => cases h; rfl
  | apply c =>
    cases c with
    | add s replace | update s => cases h
    | remove id => cases h; rfl

theorem filter_not_concerns (hd : Distinct r.rules) (w : Write) (now : Instant) :
    ((r.perform w now).2.rules.filter fun x => !w.concerns now x) =
      r.rules.filter fun x => !w.concerns now x := by
  rcases cases_write w with ⟨mode, s, h⟩ | ⟨id, h⟩ | rfl | ⟨specs, rfl⟩
  · rcases put_publishes r h now with ⟨hp, -⟩ | ⟨x, hc, hp, -⟩
    · rw [hp.rules_eq]
    · have hid : (x.withRevision (r.revision + 1)).routeId = s.routeId :=
        (Rule.routeId_withRevision _ _).trans (Rule.routeId_of_compile hc)
      have hw := without_place r.rules (x.withRevision (r.revision + 1)) now
      rw [hid] at hw
      rw [hp.rules_eq]
      simp only [concerns_of_put h]
      exact hw
  · rw [(perform_of_removes h r now).2, (remove_publishes r id).rules_eq, without,
      List.filter_filter]
    refine List.filter_congr fun x _ => ?_
    rw [concerns_of_removes h]
    exact Bool.and_self _
  · rw [rules_perform_sweep, List.filter_filter]
    exact List.filter_congr fun x _ => Bool.and_self _
  · rw [rules_perform_reconcile hd]
    exact filter_api_reconciled

/-! ## Changes -/

theorem filter_ne_self {p : Rule → Bool} {rules : List Rule} {x : Rule} (hx : x ∈ rules)
    (hp : p x = false) : rules.filter p ≠ rules := by
  intro h
  have hkeep := List.filter_eq_self.mp h x hx
  rw [hp] at hkeep
  cases hkeep

/-- A reply that reports a change never does so in vain. -/
theorem rules_ne_of_isChange (hc : r.Coherent fs) {w : Write}
    (h : (r.perform w now).1.isChange = true) : (r.perform w now).2.rules ≠ r.rules := by
  rcases cases_write w with ⟨mode, s, hw⟩ | ⟨id, hw⟩ | rfl | ⟨specs, rfl⟩
  · rcases put_publishes r hw now with ⟨-, hreply⟩ | ⟨x, -, hp, -⟩
    · exact absurd (h.symm.trans hreply) nofun
    · intro he
      have hnew := mem_place_self hc.distinct (x.withRevision (r.revision + 1)) now
      rw [← hp.rules_eq, he] at hnew
      have hle := hc.revisions _ hnew
      rw [Rule.revision_withRevision] at hle
      omega
  · obtain ⟨hreply, hr⟩ := perform_of_removes hw r now
    rw [hr, (remove_publishes r id).rules_eq]
    rw [hreply] at h
    obtain ⟨x, hx⟩ := Option.isSome_iff_exists.mp h
    obtain ⟨hm, rfl⟩ := routeId_of_holder? hx
    exact filter_ne_self hm (bne_self_eq_false _)
  · have hn : (r.rules.filter fun x => x.isExpired now) ≠ [] :=
      fun he => by simp [perform, sweep, Reply.isChange, he] at h
    obtain ⟨x, hx⟩ := List.exists_mem_of_ne_nil _ hn
    obtain ⟨hm, he⟩ := List.mem_filter.mp hx
    rw [rules_perform_sweep]
    exact filter_ne_self hm (by rw [he]; rfl)
  · rw [rules_perform_reconcile hc.distinct]
    exact reconciled_ne hc.distinct hc.revisions ((reconcile_spec hc.distinct specs now).1.mp h)

/-! ## All calls -/

theorem Coherent.obeys (hc : r.Coherent fs) (w : Write) (now : Instant) :
    Obeys fs r w now (r.perform w now).1 (r.perform w now).2 := by
  obtain ⟨rules, hp, -, hr⟩ := perform_publishes hc.distinct w now
  have hf := hc.functions
  refine ⟨?_, ?_, ?_, ?_, ?_, filter_not_concerns hc.distinct w now, ?_, ?_, ?_⟩
  · rintro mode s x hw hx
    rw [← hf] at hx
    exact ⟨Rule.routeId_of_compile hx, puts_of_compile hc.distinct hw hx⟩
  · rintro mode s e hw he
    rw [← hf] at he
    rw [perform_of_put hw, publish_of_error he]
    rfl
  · intro id hw
    obtain ⟨hreply, hrem⟩ := perform_of_removes hw r now
    rw [hrem, hreply]
    refine ⟨(remove_publishes r id).rules_eq, ?_⟩
    simp [remove, holder?]
  · rintro rfl
    refine ⟨rules_perform_sweep r now, ?_⟩
    rw [perform, sweep, List.countP_eq_length_filter]
  · rintro specs rfl
    exact rules_perform_reconcile hc.distinct specs now
  · intro h
    refine ⟨?_, rules_ne_of_isChange hc h⟩
    rw [hp.revision_eq, if_pos h]
  · intro h
    rw [hp.index, if_neg (by rw [h]; decide)]
  · rw [hp.rules_eq]
    exact fun x hx => (hr x hx).imp_right And.left

/-- A reachable registry is a map from identifiers to rules in the order in which they came, and
every call at any time makes of it what it makes of such a map. -/
theorem ordered_map {fs : Filter.HostFunctions} {r : Registry} (h : r.Reachable fs) :
    r.IsKeyed ∧
      ∀ w now, Obeys fs r w now (r.perform w now).1 (r.perform w now).2 :=
  ⟨h.coherent.isKeyed, fun w now => h.coherent.obeys w now⟩

/-- A definition that ends at a second. -/
def briefSpec (id : String) (second : Int) : RuleSpec :=
  ⟨id, "orders.>", .empty, none, [⟨"queue", "out", .empty⟩], some ⟨second, 0⟩, none⟩

/-- Two rules, the first of which has expired when it is added again. -/
def readded : Registry :=
  ((((empty .empty).perform (.add (briefSpec "a" 5)) ⟨0, 0⟩).2.perform
    (.add (briefSpec "b" 90)) ⟨1, 0⟩).2.perform (.add (briefSpec "a" 90)) ⟨9, 0⟩).2

theorem ordered_map_readded :
    readded.Reachable .empty ∧ readded.rules.map Rule.routeId = ["b", "a"] ∧ readded.IsKeyed ∧
      ∀ w now, Obeys .empty readded w now (readded.perform w now).1 (readded.perform w now).2 := by
  have hr : readded.Reachable .empty :=
    .step (.step (.step .empty (.perform _ _)) (.perform _ _)) (.perform _ _)
  exact ⟨hr, by decide +kernel, ordered_map hr⟩

end Registry

end Switchyard
