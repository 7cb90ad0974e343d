import Mathlib.Data.List.Induction
import Switchyard.Proofs.Routing.Cancellation
import Switchyard.Router

/-!
# Every target is delivered once

A router offers the targets of an event in turn, each to the forwarder that was registered last for
its kind. Forwarders may answer as they like, also by what was offered before; their answers decide
in which list of the report a target ends up, and nothing else.

* `Forwarders.find?_registered`: a registration replaces those before it with the same kind.
* `Forwarders.answers`: what the targets of an event are answered, one after the other.
* `Forwarders.deliverAll_eq`: a delivery is its offers and the report on the answers.
* `Router.deliver_each_once`: both for the targets that an event is routed to.
-/

namespace Switchyard

/-! ## Registration -/

/-- The forwarder of a kind that was registered last. -/
def Forwarder.last? (registered : List Forwarder) (kind : String) : Option Forwarder :=
  registered.reverse.find? (·.kind == kind)

theorem Forwarder.kind_of_last? {registered : List Forwarder} {kind : String} {f : Forwarder}
    (h : last? registered kind = some f) : f.kind = kind :=
  beq_iff_eq.mp (List.find?_some h :)

namespace Forwarders

variable {fs : Forwarders}

theorem find?_register (f : Forwarder) (kind : String) :
    (fs.register f).find? kind = if f.kind == kind then some f else fs.find? kind := by
  unfold find? register
  by_cases h : f.kind = kind
  · rw [if_pos (beq_iff_eq.mpr h), ← h, Assoc.find?_insert_self]
  · rw [if_neg (by rwa [beq_iff_eq]), Assoc.find?_insert_of_ne (Ne.symm h)]

/-- The forwarder of a kind is the one that was registered last. -/
theorem find?_registered (registered : List Forwarder) (kind : String) :
    (registered.foldl register empty).find? kind = Forwarder.last? registered kind := by
  unfold Forwarder.last?
  induction registered using List.reverseRecOn with
  | nil => rfl
  | append_singleton before f ih =>
    rw [List.foldl_append, List.foldl_cons, List.foldl_nil, find?_register, ih, List.reverse_append,
      List.reverse_singleton, List.singleton_append, List.find?_cons]
    cases f.kind == kind <;> rfl

end Forwarders

/-! ## Offers and answers -/

namespace Forwarders

/-- What forwarders are offered of a list of targets. -/
def offers (fs : Forwarders) (targets : List ForwardTarget) : List Offer :=
  targets.filterMap fun t => (fs.find? t.kind).map fun f => ⟨f, t⟩

/-- The targets of an event with what they are answered. The answer to a target goes by those before
it that forwarders have been offered. -/
def answers (fs : Forwarders) (event : Event) (targets : List ForwardTarget) :
    List (ForwardTarget × Except ForwardError Unit) :=
  targets.mapIdx fun i t => (t, ((fs.deliver event t).run (fs.offers (targets.take i))).1)

variable {fs : Forwarders} {event : Event}

/-- A delivery calls the forwarder of the kind once, if there is one, and no other. -/
theorem run_deliver (t : ForwardTarget) (before : List Offer) : (fs.deliver event t).run before =
    ((fs.find? t.kind).elim (.error (.unknownKind t.kind)) fun f =>
      f.deliver ⟨event, before.map (·.target)⟩ t,
      before ++ ((fs.find? t.kind).map fun f => ⟨f, t⟩).toList) := by
  unfold deliver
  cases fs.find? t.kind with
  | none => exact Prod.ext rfl (List.append_nil before).symm
  | some f => rfl

theorem offers_concat (targets : List ForwardTarget) (t : ForwardTarget) :
    fs.offers (targets ++ [t]) =
      fs.offers targets ++ ((fs.find? t.kind).map fun f => ⟨f, t⟩).toList := by
  unfold offers
  cases h : fs.find? t.kind <;> simp [List.filterMap_append, h]

theorem map_target_offers (targets : List ForwardTarget) :
    (fs.offers targets).map (·.target) = targets.filter fun t => (fs.find? t.kind).isSome := by
  unfold offers
  induction targets with
  | nil => rfl
  | cons t targets ih =>
    cases h : fs.find? t.kind <;> simp [h, ih]

theorem answers_concat (targets : List ForwardTarget) (t : ForwardTarget) :
    fs.answers event (targets ++ [t]) = fs.answers event targets ++
      [(t, ((fs.deliver event t).run (fs.offers targets)).1)] := by
  unfold answers
  rw [List.mapIdx_concat, List.take_left]
  congr 1
  refine List.ext_getElem (by simp) fun i hi _ => ?_
  rw [List.length_mapIdx] at hi
  rw [List.getElem_mapIdx, List.getElem_mapIdx, List.take_append_of_le_length (Nat.le_of_lt hi)]

theorem map_fst_answers (targets : List ForwardTarget) :
    (fs.answers event targets).map (·.1) = targets :=
  List.ext_getElem (by simp [answers]) fun i _ _ => by simp [answers]

end Forwarders

namespace DeliveryReport

/-- The report on targets of an event that have been answered. -/
def ofAnswers (eventId : String) (answers : List (ForwardTarget × Except ForwardError Unit)) :
    DeliveryReport where
  eventId
  delivered := (answers.filter (·.2.isOk)).map (·.1)
  failed := answers.filterMap fun a => match a.2 with
    | .ok () => none
    | .error e => some ⟨a.1, e⟩

variable {eventId : String} {answers : List (ForwardTarget × Except ForwardError Unit)}

theorem ofAnswers_concat (t : ForwardTarget) (answer : Except ForwardError Unit) :
    ofAnswers eventId (answers ++ [(t, answer)]) = (ofAnswers eventId answers).add t answer := by
  unfold ofAnswers
  rw [List.filter_append, List.filterMap_append, List.map_append]
  cases answer with
  | ok u => simp [add, Except.isOk, Except.toBool]
  | error e => simp [add, Except.isOk, Except.toBool]

/-- Each target is reported in one of the two lists, with its answer. -/
theorem report_of_answers :
    (ofAnswers eventId answers).delivered.map (fun t => (t, .ok ())) = answers.filter (·.2.isOk) ∧
      (ofAnswers eventId answers).failed.map (fun d => (d.target, .error d.error)) =
        answers.filter fun a => !a.2.isOk := by
  unfold ofAnswers
  induction answers with
  | nil => exact ⟨rfl, rfl⟩
  | cons a answers ih =>
    obtain ⟨t, u | e⟩ := a <;> simp_all [Except.isOk, Except.toBool]

/-- The two lists of a report are a partition of the targets, in their order. -/
theorem partition_of_answers (eventId : String)
    (answers : List (ForwardTarget × Except ForwardError Unit)) :
    (ofAnswers eventId answers).delivered.Sublist (answers.map (·.1)) ∧
      ((ofAnswers eventId answers).failed.map (·.target)).Sublist (answers.map (·.1)) ∧
      ((ofAnswers eventId answers).delivered ++
        (ofAnswers eventId answers).failed.map (·.target)).Perm (answers.map (·.1)) := by
  have hdelivered : (ofAnswers eventId answers).delivered =
      (answers.filter (·.2.isOk)).map (·.1) := rfl
  have hfailed : (ofAnswers eventId answers).failed.map (·.target) =
      (answers.filter fun a => !a.2.isOk).map (·.1) := by
    rw [← (@report_of_answers eventId answers).2, List.map_map]
    rfl
  rw [hdelivered, hfailed, ← List.map_append]
  exact ⟨List.filter_sublist.map _, List.filter_sublist.map _,
    (List.filter_append_perm _ answers).map _⟩

end DeliveryReport

/-! ## Deliveries -/

namespace Forwarders

variable {fs : Forwarders} {event : Event}

/-- A delivery is its offers and the report on what was answered. -/
theorem deliverAll_eq (targets : List ForwardTarget) : fs.deliverAll event targets =
    ⟨.ofAnswers event.id (fs.answers event targets), fs.offers targets⟩ := by
  unfold deliverAll
  induction targets using List.reverseRecOn with
  | nil => rfl
  | append_singleton before t ih =>
    rw [List.foldl_append, List.foldl_cons, List.foldl_nil, ih, answers_concat, offers_concat,
      DeliveryReport.ofAnswers_concat, Delivery.next, run_deliver]

/-- A forwarder is offered the targets of its kind. -/
theorem offers_of_kind {registered : List Forwarder} (h : fs = registered.foldl register empty)
    {kind : String} {f : Forwarder} (hf : Forwarder.last? registered kind = some f)
    (targets : List ForwardTarget) :
    (fs.offers targets).filter (·.forwarder.kind == kind) =
      (targets.filter (·.kind == kind)).map fun t => ⟨f, t⟩ := by
  subst h
  induction targets with
  | nil => rfl
  | cons t targets ih =>
    unfold offers at ih ⊢
    rw [List.filterMap_cons, find?_registered]
    by_cases hk : t.kind = kind
    · rw [hk, hf]
      simp [Forwarder.kind_of_last? hf, hk, ih]
    · cases ht : Forwarder.last? registered t.kind with
      | none => simp [hk, ih]
      | some g => simp [Forwarder.kind_of_last? ht, hk, ih]

end Forwarders

namespace Router

/-- The targets that an event is routed to are offered in turn, each once and to the forwarder that
was registered last for its kind, whatever became of those before it; so a forwarder sees the
targets of its kind, in order. Each target is answered by its forwarder, or with an error if there
is none for its kind. Those that were accepted make up one list of the report and all others the
other one, in order and with their errors; nothing is lost and nothing is reported twice. The report
is on the event. -/
theorem deliver_each_once {r : Router} {registered : List Forwarder}
    (h : r.forwarders = registered.foldl .register .empty) (event : Event) (now : Instant) :
    let targets := (r.registry.route event r.budget now).1
    let offers := (r.deliver event now).1.offers
    let report := (r.handle event now).1
    offers = targets.filterMap (fun t => (Forwarder.last? registered t.kind).map (⟨·, t⟩)) ∧
      (∀ (kind : String) (f : Forwarder), Forwarder.last? registered kind = some f →
        offers.filter (·.forwarder.kind == kind) =
          (targets.filter (·.kind == kind)).map fun t => ⟨f, t⟩) ∧
      (∃ answers : List (ForwardTarget × Except ForwardError Unit),
        answers = targets.mapIdx (fun i t =>
          (t, (Forwarder.last? registered t.kind).elim (.error (.unknownKind t.kind)) fun f =>
            f.deliver ⟨event, (targets.take i).filter fun earlier =>
              (Forwarder.last? registered earlier.kind).isSome⟩ t)) ∧
        report.delivered.map (fun t => (t, .ok ())) = answers.filter (·.2.isOk) ∧
        report.failed.map (fun d => (d.target, .error d.error)) =
          answers.filter fun a => !a.2.isOk) ∧
      report.eventId = event.id ∧
      report.delivered.Sublist targets ∧ (report.failed.map (·.target)).Sublist targets ∧
      (report.delivered ++ report.failed.map (·.target)).Perm targets := by
  intro targets offers report
  -- The last registration for a kind is the one that is found, whatever was registered before it.
  have hfind : ∀ kind, r.forwarders.find? kind = Forwarder.last? registered kind := by
    rw [h]
    exact Forwarders.find?_registered registered
  have hdelivery : (r.deliver event now).1 =
      ⟨.ofAnswers event.id (r.forwarders.answers event targets), r.forwarders.offers targets⟩ :=
    Forwarders.deliverAll_eq targets
  have hoffers : offers = r.forwarders.offers targets := congrArg Delivery.offers hdelivery
  have hreport : report = .ofAnswers event.id (r.forwarders.answers event targets) :=
    congrArg Delivery.report hdelivery
  have hpartition := DeliveryReport.partition_of_answers event.id
    (r.forwarders.answers event targets)
  rw [Forwarders.map_fst_answers, ← hreport] at hpartition
  refine ⟨?_, fun kind f hf => ?_, ⟨r.forwarders.answers event targets, ?_, ?_⟩, ?_,
    hpartition⟩
  · simp only [hoffers, Forwarders.offers, hfind]
  · rw [hoffers]
    exact Forwarders.offers_of_kind h hf targets
  · simp only [Forwarders.answers, Forwarders.run_deliver, Forwarders.map_target_offers, hfind]
  · rw [hreport]
    exact DeliveryReport.report_of_answers
  · rw [hreport]
    rfl

/-- A delivery that is done within the limit has the report of one without a limit. -/
theorem handleWithin_eq_ok {r : Router} {event : Event} {now : Instant} {report : DeliveryReport}
    (h : (r.handleWithin event now).1 = .ok report) : (r.handle event now).1 = report := by
  unfold handleWithin at h
  split at h
  · exact Except.ok.inj h
  · next limit _ =>
    obtain ⟨targets, hroute, rfl⟩ := map_eq_ok.mp h
    have hall : (r.registry.route event r.budget now).1 = targets := by
      unfold Registry.routeWithin at hroute
      dsimp only at hroute
      split at hroute
      · cases hroute
      · have hunseen := Registry.unseen_of_ne_cancelled (by rw [hroute]; nofun)
        rw [Registry.route_of_unseen hunseen] at hroute
        exact Except.ok.inj hroute
    rw [← hall]
    rfl

/-- A forwarder that takes one target of an event and turns down the others. -/
def onceOnly (kind : String) : Forwarder :=
  ⟨kind, fun o t => if o.before.any (·.kind == kind) then .error (.rejected t.destination "full")
    else .ok ()⟩

/-- A forwarder that is out of order. -/
def broken (kind : String) : Forwarder := ⟨kind, fun _ _ => .error (.unavailable "down")⟩

/-- A rule for all events with a target of each of the given kinds. -/
def fanOut (id : String) (kinds : List String) : Rule :=
  ⟨⟨id, ">", .empty, none, kinds.map fun k => ⟨k, id, .empty⟩, none, none⟩, ⟨">", [.tail]⟩, .always,
    kinds.map fun k => ⟨k, ⟨id, [.text id]⟩, []⟩, 1, .api⟩

/-- The forwarders of a test: the first one for queues is replaced. -/
def mixedForwarders : List Forwarder := [broken "queue", .echo, broken "mail", onceOnly "queue"]

/-- A router with two rules for all events. -/
def mixedRouter : Router where
  registry := ⟨.empty,
    .build [fanOut "a" ["queue", "pigeon", "mail"], fanOut "b" ["queue", "echo"]] 2, .zero⟩
  budget := .unlimited
  routeLimit := none
  forwarders := mixedForwarders.foldl .register .empty

/-- Of five targets the forwarder for queues takes the first one and turns down the second, one is
for a kind that nobody delivers and one for a forwarder that is out of order. -/
theorem deliver_each_once_mixed :
    (mixedRouter.handle Registry.newOrder ⟨0, 0⟩).1.eventId = Registry.newOrder.id ∧
    (mixedRouter.deliver Registry.newOrder ⟨0, 0⟩).1.offers.map
        (fun o => (o.forwarder.kind, o.target.routeId)) =
      [("queue", "a"), ("mail", "a"), ("queue", "b"), ("echo", "b")] ∧
    (mixedRouter.handle Registry.newOrder ⟨0, 0⟩).1.delivered.map
        (fun t => (t.kind, t.routeId)) = [("queue", "a"), ("echo", "b")] ∧
    (mixedRouter.handle Registry.newOrder ⟨0, 0⟩).1.failed.map (·.error) =
      [.unknownKind "pigeon", .unavailable "down", .rejected "b" "full"] ∧
    ((mixedRouter.handle Registry.newOrder ⟨0, 0⟩).1.delivered ++
        (mixedRouter.handle Registry.newOrder ⟨0, 0⟩).1.failed.map (·.target)).Perm
      (mixedRouter.registry.route Registry.newOrder .unlimited ⟨0, 0⟩).1 := by
  have h : mixedRouter.forwarders = mixedForwarders.foldl .register .empty := rfl
  obtain ⟨-, -, -, hevent, -, -, hpartition⟩ := deliver_each_once h Registry.newOrder ⟨0, 0⟩
  exact ⟨hevent, by decide +kernel, by decide +kernel, by decide +kernel, hpartition⟩

end Router

end Switchyard
