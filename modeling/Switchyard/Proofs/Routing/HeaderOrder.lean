import Mathlib.Data.List.Nodup
import Switchyard.Proofs.Filter.Reads
import Switchyard.Proofs.Registry.History

/-!
# The order of headers

The headers of an event are listed in some order. A name that is not exactly the name of a header
stands for the first one that differs in letter case only, so the order can decide which one that
is, and with it where the event goes.

* `Headers.eq_of_fst_eq`: no name has two headers.
* `Event.Settles`: names that stand for the same in every order (`Event.settles_iff`).
* `Rule.fields`: what a rule reads of an event; nothing else of the event matters for it but the
  subject (`Registry.decide_congr`).
* `Registry.alike_in_every_order`: if rules read headers by settled names only, the order of the
  headers makes no difference to them.
* `Registry.differs_with_order`: two orders of which one leads to a target and the other does not.
-/

namespace Switchyard

open Switchyard.Filter

namespace Headers

variable {hs ks : Headers} {h k : String × String}

theorem eq_of_fst_eq (hh : h ∈ hs) (hk : k ∈ hs) (heq : h.1 = k.1) : h = k :=
  List.inj_on_of_nodup_map hs.distinct hh hk heq

theorem Perm.mem_iff (hp : hs.Perm ks) : h ∈ hs ↔ h ∈ ks := List.Perm.mem_iff hp

/-- Any header can be listed first. -/
theorem exists_perm_cons (h : k ∈ hs) : ∃ ks : Headers, ks.Perm hs ∧ ks.entries.head? = some k := by
  have hp : (k :: hs.entries.erase k).Perm hs.entries := (List.perm_cons_erase h).symm
  exact ⟨⟨k :: hs.entries.erase k, (hp.map _).nodup_iff.mpr hs.distinct⟩, hp, rfl⟩

end Headers

namespace Event

variable {e : Event} {hs : Headers} {name : String}

/-- The event with its headers in another order. -/
def listing (e : Event) (hs : Headers) : Event := { e with headers := hs }

/-- A name is settled if it is the exact name of a header, or if all headers that differ from it in
letter case only have one value. -/
def Settles (e : Event) (name : String) : Prop :=
  (∃ value, (name, value) ∈ e.headers) ∨
    ∀ h ∈ e.headers, ∀ k ∈ e.headers, sameName h.1 name = true → sameName k.1 name = true →
      h.2 = k.2

theorem toList_toLower (s : String) : s.toLower.toList = s.toList.map Char.toLower :=
  String.toList_map

theorem sameName_iff (a b : String) :
    sameName a b = true ↔ a.toList.map Char.toLower = b.toList.map Char.toLower := by
  rw [sameName, beq_iff_eq, ← String.toList_inj, toList_toLower, toList_toLower]

theorem header?_of_mem {value : String} (h : (name, value) ∈ e.headers) :
    e.header? name = some value := by
  have hsome : (e.headers.entries.find? fun h => h.1 == name).isSome = true :=
    List.find?_isSome.mpr ⟨_, h, beq_self_eq_true name⟩
  obtain ⟨k, hk⟩ := Option.isSome_iff_exists.mp hsome
  have hname := List.find?_some hk
  obtain rfl := Headers.eq_of_fst_eq (List.mem_of_find?_eq_some hk) h (eq_of_beq hname)
  rw [header?, hk]

theorem header?_of_not_mem (h : ∀ value, (name, value) ∉ e.headers) :
    e.header? name = (e.headers.entries.find? fun h => sameName h.1 name).map (·.2) := by
  have hnone : (e.headers.entries.find? fun h => h.1 == name) = none := by
    refine List.find?_eq_none.mpr fun k hk hname => h k.2 ?_
    rw [← eq_of_beq hname]
    exact hk
  rw [header?, hnone]

theorem header?_listing (hp : hs.Perm e.headers) (h : e.Settles name) :
    (e.listing hs).header? name = e.header? name := by
  by_cases hexact : ∃ value, (name, value) ∈ e.headers
  · obtain ⟨value, hmem⟩ := hexact
    have hlisted : (name, value) ∈ (e.listing hs).headers := hp.mem_iff.mpr hmem
    rw [header?_of_mem hmem, header?_of_mem hlisted]
  · have hno := not_exists.mp hexact
    have hsame := h.resolve_left hexact
    rw [header?_of_not_mem hno, header?_of_not_mem fun value hmem => hno value (hp.mem_iff.mp hmem)]
    cases hfound : e.headers.entries.find? fun h => sameName h.1 name with
    | none =>
      have hnone : hs.entries.find? (fun h => sameName h.1 name) = none :=
        List.find?_eq_none.mpr fun k hk => List.find?_eq_none.mp hfound k (hp.mem_iff.mp hk)
      rw [listing, hnone]
    | some k =>
      have hk := List.mem_of_find?_eq_some hfound
      have hkname := List.find?_some hfound
      have hsome : (hs.entries.find? fun h => sameName h.1 name).isSome = true :=
        List.find?_isSome.mpr ⟨k, hp.mem_iff.mpr hk, hkname⟩
      obtain ⟨l, hl⟩ := Option.isSome_iff_exists.mp hsome
      have hlname := List.find?_some hl
      have hmem := hp.mem_iff.mp (List.mem_of_find?_eq_some hl)
      rw [listing, hl]
      exact congrArg some (hsame l hmem k hk hlname hkname)

/-- A header that is listed first is what a name that fits it stands for, if it fits none
exactly. -/
theorem header?_listing_head {h : String × String} (hp : hs.Perm e.headers)
    (hfirst : hs.entries.head? = some h) (hno : ∀ value, (name, value) ∉ e.headers)
    (hname : sameName h.1 name = true) : (e.listing hs).header? name = some h.2 := by
  obtain ⟨rest, hrest⟩ := List.head?_eq_some_iff.mp hfirst
  have hfound : (hs.entries.find? fun h => sameName h.1 name) = some h := by
    rw [hrest]
    exact List.find?_cons_of_pos hname
  rw [header?_of_not_mem fun value hmem => hno value (hp.mem_iff.mp hmem), listing, hfound]
  rfl

/-- The settled names are those that stand for the same in every order. -/
theorem settles_iff (e : Event) (name : String) :
    e.Settles name ↔
      ∀ hs, hs.Perm e.headers → (e.listing hs).header? name = e.header? name := by
  refine ⟨fun h hs hp => header?_listing hp h, fun h => ?_⟩
  by_cases hexact : ∃ value, (name, value) ∈ e.headers
  · exact .inl hexact
  · have hno := not_exists.mp hexact
    have hfirst : ∀ k ∈ e.headers, sameName k.1 name = true → e.header? name = some k.2 := by
      intro k hk hname
      obtain ⟨ks, hp, hfirst⟩ := Headers.exists_perm_cons hk
      rw [← h ks hp]
      exact header?_listing_head hp hfirst hno hname
    refine .inr fun k hk l hl hkname hlname => Option.some.inj ?_
    rw [← hfirst k hk hkname, ← hfirst l hl hlname]

end Event

/-! ## What is read -/

/-- The header of a name, as a field. -/
def Filter.Field.header (name : String) : Field := ⟨.headers, [.key name]⟩

theorem Filter.Field.find?_header (e : Event) (name : String) :
    (header name).find? e = (e.header? name).map .string := rfl

/-- All fields but headers of unsettled names are the same in every order. -/
theorem Filter.Field.find?_listing {e : Event} {hs : Headers} {f : Field}
    (hp : hs.Perm e.headers) (h : ∀ name, f = .header name → e.Settles name) :
    f.find? (e.listing hs) = f.find? e := by
  obtain ⟨root, segments⟩ := f
  cases root with
  | payload => rfl
  | subject => cases segments <;> rfl
  | binding slot => cases segments <;> rfl
  | headers =>
    match segments with
    | [] =>
      have hobject : headerObject (e.listing hs) = headerObject e := by
        refine congrArg Value.object (Assoc.ofList_eq_of_perm (hp.map _) ?_)
        intro p hp' q hq hkey
        obtain ⟨k, hk, rfl⟩ := List.mem_map.mp hp'
        obtain ⟨l, hl, rfl⟩ := List.mem_map.mp hq
        rw [Headers.eq_of_fst_eq hk hl hkey]
      exact congrArg some hobject
    | [.key name] =>
      show (header name).find? (e.listing hs) = (header name).find? e
      rw [find?_header, find?_header, Event.header?_listing hp (h name rfl)]
    | [.index i] => rfl
    | .key _ :: _ :: _ => rfl
    | .index _ :: _ :: _ => rfl

variable {e e' : Event} {b : Budget} {now : Instant}

/-- The fields that a template is filled in with. -/
def Template.fields (t : Template) : List Field :=
  t.parts.filterMap fun
    | .field f => some f
    | _ => none

theorem Template.render_congr {t : Template} (h : ∀ f ∈ t.fields, f.find? e = f.find? e')
    (routeId : String) : t.render e routeId = t.render e' routeId := by
  refine congrArg String.join (List.map_congr_left fun part hpart => ?_)
  cases part with
  | text s => rfl
  | routeId => rfl
  | field f =>
    have hf : f ∈ t.fields := List.mem_filterMap.mpr ⟨_, hpart, rfl⟩
    rw [renderPart, renderPart, h f hf]

/-- The fields that a filter may look up. -/
def RuleFilter.fields : RuleFilter → List Field
  | .always => []
  | .simple conditions => conditions.map (·.1)
  | .expression x => x.root.fields

theorem RuleFilter.evaluate_congr {f : RuleFilter} (h : ∀ g ∈ f.fields, g.find? e = g.find? e')
    (b : Budget) (now : Instant) : f.evaluate e b now = f.evaluate e' b now := by
  cases f with
  | always => rfl
  | simple conditions =>
    have hconditions : conditions.all (condition e) = conditions.all (condition e') := by
      rw [Bool.eq_iff_iff, List.all_eq_true, List.all_eq_true]
      refine forall₂_congr fun c hc => ?_
      rw [condition, condition, h c.1 (List.mem_map_of_mem hc)]
    rw [evaluate, evaluate, hconditions]
  | expression x => exact Expression.evaluate_congr h b now

/-- The fields that the targets of a rule are filled in with. -/
def Rule.targetFields (x : Rule) : List Field :=
  x.targets.flatMap fun t => t.destination.fields ++ t.fields.flatMap fun p => p.2.fields

theorem Rule.expand_eq_of_fields {x : Rule} (h : ∀ f ∈ x.targetFields, f.find? e = f.find? e') :
    x.expand e = x.expand e' := by
  refine List.map_congr_left fun t ht => ?_
  have ht' : ∀ f ∈ t.destination.fields ++ t.fields.flatMap (fun p => p.2.fields),
      f.find? e = f.find? e' := fun f hf => h f (List.mem_flatMap.mpr ⟨t, ht, hf⟩)
  obtain ⟨hdestination, hfields⟩ := List.forall_mem_append.mp ht'
  have hmap : t.fields.map (fun p => (p.1, p.2.render e x.routeId)) =
      t.fields.map fun p => (p.1, p.2.render e' x.routeId) := by
    refine List.map_congr_left fun p hp => ?_
    rw [Template.render_congr fun f hf => hfields f (List.mem_flatMap.mpr ⟨p, hp, hf⟩)]
  simp only [Template.render_congr hdestination, hmap]

/-- The fields that a rule may look up. -/
def Rule.fields (x : Rule) : List Field := x.filter.fields ++ x.targetFields

theorem Decision.consider_congr {x : Rule} (h : ∀ f ∈ x.fields, f.find? e = f.find? e')
    (d : Decision) : d.consider e b now x = d.consider e' b now x := by
  obtain ⟨hfilter, htargets⟩ := List.forall_mem_append.mp h
  rw [consider, consider, RuleFilter.evaluate_congr hfilter, Rule.expand_eq_of_fields htargets]

theorem Decision.run_congr {stop : Poll → Bool} {rules : List Rule} (hs : e.subject = e'.subject)
    (h : ∀ x ∈ rules, x.pattern.accepts e.subject = true → ∀ f ∈ x.fields, f.find? e = f.find? e')
    (d : Decision) : run e b now stop rules d = run e' b now stop rules d := by
  induction rules generalizing d with
  | nil => rfl
  | cons x rules ih =>
    obtain ⟨hx, hrules⟩ := List.forall_mem_cons.mp h
    rw [run, run, ← hs]
    simp only [ih hrules]
    cases haccepts : x.pattern.accepts e.subject with
    | false => rfl
    | true => simp only [consider_congr (hx haccepts)]

namespace Registry

/-- A decision depends on the subject and on the fields of the rules whose pattern accepts it. -/
theorem decide_congr {r : Registry} (hs : e.subject = e'.subject)
    (h : ∀ x ∈ (r.index.candidates e.subject).toList, x.pattern.accepts e.subject = true →
      ∀ f ∈ x.fields, f.find? e = f.find? e') (stop : Poll → Bool) :
    r.decide e b now stop = r.decide e' b now stop := by
  rw [decide, decide, ← hs]
  exact Decision.run_congr hs h _

/-- An event with its headers in two orders. A name stands for the
same in all orders just if it is settled. Filters that read headers by settled names only have the
same outcome, and targets are filled in the same; if all rules for the subject are like that, the
whole decision is the same. -/
theorem alike_in_every_order (e : Event) :
    (∀ name, e.Settles name ↔
      ∀ hs, hs.Perm e.headers → (e.listing hs).header? name = e.header? name) ∧
    ∀ hs, hs.Perm e.headers →
      (∀ f : RuleFilter, (∀ name, .header name ∈ f.fields → e.Settles name) →
        ∀ b now, f.evaluate (e.listing hs) b now = f.evaluate e b now) ∧
      (∀ x : Rule, (∀ name, .header name ∈ x.targetFields → e.Settles name) →
        x.expand (e.listing hs) = x.expand e) ∧
      ∀ r : Registry,
        (∀ x ∈ (r.index.candidates e.subject).toList, x.pattern.accepts e.subject = true →
          ∀ name, .header name ∈ x.fields → e.Settles name) →
        ∀ b now, r.route (e.listing hs) b now = r.route e b now ∧
          ∀ stop, r.decide (e.listing hs) b now stop = r.decide e b now stop := by
  refine ⟨Event.settles_iff e, fun hs hp => ?_⟩
  have hfields : ∀ fs : List Field, (∀ name, .header name ∈ fs → e.Settles name) →
      ∀ f ∈ fs, f.find? (e.listing hs) = f.find? e :=
    fun fs h f hf => Field.find?_listing hp fun name hname => h name (hname ▸ hf)
  refine ⟨fun f h b now => RuleFilter.evaluate_congr (hfields _ h) b now,
    fun x h => Rule.expand_eq_of_fields (hfields _ h), fun r h b now => ?_⟩
  have hdecide : ∀ stop, r.decide (e.listing hs) b now stop = r.decide e b now stop :=
    decide_congr rfl fun x hx haccepts => hfields _ (h x hx haccepts)
  refine ⟨?_, hdecide⟩
  rw [route, route, matchEvent, matchEvent, hdecide]

/-- A registry with a rule that reads one header. -/
def identified : Registry :=
  let spec : RuleSpec := ⟨"a", "t", .empty, some "headers.Id == '2'",
    [⟨"echo", "\x7b\x7bheaders.Id\x7d\x7d", .empty⟩], none, none⟩
  ((empty .empty).perform (.add spec) ⟨0, 0⟩).2

theorem identified_reachable : identified.Reachable .empty := .step .empty (.perform _ _)

/-- What the rule forwards to. -/
def identifiedTarget : ForwardTarget := ⟨"a", "echo", "2", []⟩

/-- The rule reads nothing but the header. -/
theorem header_of_identified {x : Rule} (hx : x ∈ (identified.index.candidates "t").toList)
    {f : Field} (hf : f ∈ x.fields) : f = .header "Id" := by
  have hread : (identified.index.candidates "t").toList.map Rule.fields =
      [[.header "Id", .header "Id"]] := by decide +kernel
  have hfields : x.fields ∈ [[Field.header "Id", Field.header "Id"]] :=
    hread ▸ List.mem_map_of_mem hx
  rw [List.mem_singleton.mp hfields] at hf
  simpa using hf

/-- An event with three spellings of one name, of which one is exact. -/
def exactlyNamed : Event :=
  ⟨"e", "t", .ofList [("ID", "1"), ("Id", "2"), ("id", "3")], .null, true⟩

/-- Its headers in another order. -/
def exactlyNamedLast : Headers := .ofList [("id", "3"), ("ID", "1"), ("Id", "2")]

theorem alike_in_every_order_exact :
    identified.Reachable .empty ∧ exactlyNamedLast.Perm exactlyNamed.headers ∧
      exactlyNamed.Settles "Id" ∧
      (identified.route exactlyNamed .unlimited ⟨0, 0⟩).1 = [identifiedTarget] ∧
      (identified.route (exactlyNamed.listing exactlyNamedLast) .unlimited ⟨0, 0⟩).1 =
        [identifiedTarget] := by
  have hp : exactlyNamedLast.Perm exactlyNamed.headers := by decide
  have hsettled : exactlyNamed.Settles "Id" := .inl ⟨"2", by decide⟩
  have hrules : ∀ x ∈ (identified.index.candidates exactlyNamed.subject).toList,
      x.pattern.accepts exactlyNamed.subject = true →
        ∀ name, .header name ∈ x.fields → exactlyNamed.Settles name := by
    intro x hx _ name hname
    cases header_of_identified hx hname
    exact hsettled
  have hroute : (identified.route exactlyNamed .unlimited ⟨0, 0⟩).1 = [identifiedTarget] := by
    decide +kernel
  obtain ⟨-, -, halike⟩ := (alike_in_every_order exactlyNamed).2 exactlyNamedLast hp
  refine ⟨identified_reachable, hp, hsettled, hroute, ?_⟩
  rw [(halike identified hrules .unlimited ⟨0, 0⟩).1, hroute]

/-- An event with two spellings of one name. -/
def spelledTwice : Event := ⟨"e", "t", .ofList [("ID", "1"), ("id", "2")], .null, true⟩

/-- The same event, with its headers in the other order. -/
def spelledBack : Event := spelledTwice.listing (.ofList [("id", "2"), ("ID", "1")])

/-- An event with the exact name only. -/
def named (value : String) : Event := ⟨"e", "t", .ofList [("Id", value)], .null, true⟩

/-- Whatever the rule makes of an event, it makes of one with the exact name only. -/
theorem find?_eq_named {value : String} (he : e.header? "Id" = some value) {x : Rule}
    (hx : x ∈ (identified.index.candidates "t").toList) :
    ∀ f ∈ x.fields, f.find? e = f.find? (named value) := by
  intro f hf
  have hmem : ("Id", value) ∈ (named value).headers := List.mem_cons_self
  have hnamed : (named value).header? "Id" = some value := Event.header?_of_mem hmem
  rw [header_of_identified hx hf, Field.find?_header, Field.find?_header, he, hnamed]

theorem route_eq_named {value : String} (hs : e.subject = "t")
    (he : e.header? "Id" = some value) :
    identified.route e b now = identified.route (named value) b now := by
  have hdecide : identified.decide e b now (fun _ => false) =
      identified.decide (named value) b now fun _ => false :=
    decide_congr hs (fun x hx _ => find?_eq_named he (hs ▸ hx)) _
  rw [route, route, matchEvent, matchEvent, hdecide]

/-- In one order of its headers a name stands for one of two values, the filter does not hold and
the event goes nowhere; in the other order it is the other value, and the event goes to a target. -/
theorem differs_with_order :
    identified.Reachable .empty ∧ spelledBack.headers.Perm spelledTwice.headers ∧
      spelledTwice.header? "Id" = some "1" ∧ spelledBack.header? "Id" = some "2" ∧
      (∃ x ∈ (identified.index.candidates "t").toList,
        (x.filter.evaluate spelledTwice .unlimited ⟨0, 0⟩).1.toOption = some false ∧
        (x.filter.evaluate spelledBack .unlimited ⟨0, 0⟩).1.toOption = some true) ∧
      (identified.route spelledTwice .unlimited ⟨0, 0⟩).1 = [] ∧
      (identified.route spelledBack .unlimited ⟨0, 0⟩).1 = [identifiedTarget] := by
  have hlisted : spelledTwice.headers.entries = [("ID", "1"), ("id", "2")] := rfl
  have hno : ∀ value, ("Id", value) ∉ spelledTwice.headers := fun value h => by
    change ("Id", value) ∈ spelledTwice.headers.entries at h
    simp [hlisted] at h
  have hfirst : spelledTwice.header? "Id" = some "1" :=
    Event.header?_listing_head (h := ("ID", "1")) (.refl _) rfl hno
      ((Event.sameName_iff _ _).mpr (by decide))
  have hback : spelledBack.headers.Perm spelledTwice.headers := .swap _ _ _
  have hsecond : spelledBack.header? "Id" = some "2" :=
    Event.header?_listing_head (h := ("id", "2")) hback rfl hno
      ((Event.sameName_iff _ _).mpr (by decide))
  -- The rule sees the one header that its name stands for, so an event with only that one will do.
  obtain ⟨x, hx, hoff, hon⟩ : ∃ x ∈ (identified.index.candidates "t").toList,
      (x.filter.evaluate (named "1") .unlimited ⟨0, 0⟩).1.toOption = some false ∧
      (x.filter.evaluate (named "2") .unlimited ⟨0, 0⟩).1.toOption = some true := by
    decide +kernel
  refine ⟨identified_reachable, hback, hfirst, hsecond, ⟨x, hx, ?_, ?_⟩, ?_, ?_⟩
  · have hfilter := (List.forall_mem_append.mp (find?_eq_named hfirst hx)).1
    rwa [RuleFilter.evaluate_congr hfilter]
  · have hfilter := (List.forall_mem_append.mp (find?_eq_named hsecond hx)).1
    rwa [RuleFilter.evaluate_congr hfilter]
  · rw [route_eq_named rfl hfirst]
    decide +kernel
  · rw [route_eq_named rfl hsecond]
    decide +kernel

end Registry

end Switchyard
