import Mathlib.Data.List.Perm.Basic
import Switchyard.Proofs.Filter.Comparisons
import Switchyard.Proofs.Filter.Lowering
import Switchyard.Rule.Basic

/-!
# Simple filters as expressions

A simple filter asks for the values of some fields. The expression that compares the same fields
with the same values, all joined by `AND`, takes another way from the text to the verdict but comes
to the same one, and a few visits for each field are enough for it.

* `Budget.Allows`: a budget that is not used up by a number of visits.
* `lower_comparisons`: what comparisons joined by `AND` compile to.
* `evaluate_comparisons`: the verdict of that, and how many visits are enough for it.
* `simple_agrees_with_expression`: the simple filter and the expression have the same verdict.
-/

namespace Switchyard

namespace Filter

open Switchyard.Filter.Parser (joined)

variable {fs : HostFunctions} {p : Path} {e : Expr} {es : List Expr}
  {sides : List (Path × Value)}

/-! ## Compiling -/

/-- A path that starts at an event and not at a bound element. -/
def Path.IsRooted (p : Path) : Prop :=
  p.root = "payload" ∨ p.root = "headers" ∨ p.root = "subject" ∧ p.segments = []

theorem resolve_of_isRooted (h : p.IsRooted) : resolve [] p = .ok (Field.ofPath p) := by
  rcases h with h | h | ⟨h, hs⟩ <;> simp_all [resolve, slot?, Field.ofPath]

/-- A comparison of a field with a value. -/
def comparisonNode (c : Field × Value) : Node := .compare .eq (.field c.1) (.const c.2)

/-- The field of a path, to be compared with a value. -/
def conditionOf (s : Path × Value) : Field × Value := (Field.ofPath s.1, s.2)

theorem lower_of_compares {s : Path × Value} (h : Compares s e) (hs : s.1.IsRooted) :
    e.lower fs [] = .ok (comparisonNode (conditionOf s), some .bool) := by
  obtain ⟨q, pos, pos', rfl, hroot, hsegments⟩ := h
  have hq : q.IsRooted := by rwa [Path.IsRooted, hroot, hsegments]
  have hfield : Field.ofPath q = Field.ofPath s.1 := by simp [Field.ofPath, hroot, hsegments]
  have hordering : ¬CompareOp.eq.isOrdering = true := by decide
  refine lower_compare.mpr ⟨_, _, _, _, lower_path.mpr ⟨_, resolve_of_isRooted hq, rfl⟩,
    lower_literal.mpr rfl, fun h => absurd h hordering, fold_eq_ok.mpr (.inr ⟨rfl, ?_, rfl⟩)⟩
  rw [hfield]
  rfl

theorem lowerOperands_of_compares (fs : HostFunctions) (h : List.Forall₂ Compares sides es)
    (hs : ∀ s ∈ sides, s.1.IsRooted) (kept : List Node) :
    lowerOperands fs true es kept [] =
      .ok (connective true (kept ++ (sides.map conditionOf).map comparisonNode), some .bool) := by
  induction h generalizing kept with
  | nil =>
    rw [List.map_nil, List.map_nil, List.append_nil]
    exact lowerOperands_nil.mpr rfl
  | cons hcompares _ ih =>
    obtain ⟨hhead, htail⟩ := List.forall_mem_cons.mp hs
    refine lowerOperands_cons.mpr ⟨_, _, lower_of_compares hcompares hhead, rfl, ?_⟩
    show lowerOperands fs true _ _ [] = _
    rw [ih htail, List.map_cons, List.map_cons, List.append_assoc]
    rfl

theorem sortedOperands_comparisons (cs : List (Field × Value)) :
    ∃ ds : List (Field × Value), ds.Perm cs ∧
      sortedOperands (cs.map comparisonNode) = ds.map comparisonNode := by
  have hmap := congrFun (congrFun (List.eq_map_comp_perm comparisonNode)
    (sortedOperands (cs.map comparisonNode))) cs
  obtain ⟨ds, hds, hperm⟩ := hmap.mpr (sortedOperands_perm (cs.map comparisonNode))
  exact ⟨ds, hperm, hds⟩

/-- Comparisons joined by `AND` compile to the conjunction of their nodes in some order, or to the
only one there is. -/
theorem lower_comparisons (fs : HostFunctions) (h : List.Forall₂ Compares sides es)
    (hne : sides ≠ []) (hs : ∀ s ∈ sides, s.1.IsRooted) :
    ∃ (root : Node) (cs : List (Field × Value)),
      (joined .and es).lower fs [] = .ok (root, some .bool) ∧ cs.Perm (sides.map conditionOf) ∧
      (cs.map comparisonNode = [root] ∨ root = .and (cs.map comparisonNode)) := by
  cases h with
  | nil => exact absurd rfl hne
  | cons hcompares hmore =>
    cases hmore with
    | nil =>
      exact ⟨_, _, lower_of_compares hcompares (hs _ List.mem_cons_self), .rfl, .inl rfl⟩
    | cons hnext hmore =>
      have hall := lowerOperands_of_compares fs (.cons hcompares (.cons hnext hmore)) hs []
      rw [List.nil_append, connective_of_ne_nil (by simp)] at hall
      obtain ⟨cs, hperm, hcs⟩ := sortedOperands_comparisons (List.map conditionOf (_ :: _ :: _))
      rw [hcs] at hall
      exact ⟨_, cs, hall, hperm, .inr rfl⟩

/-! ## Evaluating -/

/-- A budget without a limit on time and with one of at least `n` on visits, if any. -/
structure Budget.Allows (b : Budget) (n : Nat) : Prop where
  visits : ∀ limit ∈ b.maxVisits, n ≤ limit
  millis : b.maxMillis = none

open Evaluation

variable {b : Budget} {n : Nat} {m : Meter} {event : Event} {now : Instant}

theorem visit_of_allows (h : b.Allows n) (hm : m.visits < n) :
    visit b m = (.ok (), { m with visits := m.visits + 1 }) := by
  have hwithin : b.maxVisits.filter (· < (⟨m.visits + 1, m.millis, m.calls⟩ : Meter).visits) =
      none := by
    cases hb : b.maxVisits with
    | none => rfl
    | some limit =>
      have hle := h.visits limit hb
      have hlt : ¬limit < m.visits + 1 := by omega
      simp [Option.filter, hlt]
  have hover : overrun? b { m with visits := m.visits + 1 } = none := by
    rw [overrun?, hwithin, h.millis]
    rfl
  rw [visit, hover]

theorem lookup?_nil (f : Field) : f.lookup? ⟨some event, now, b⟩ [] = f.find? event := by
  obtain ⟨root, segments⟩ := f
  cases root <;> rfl

/-- A comparison takes three visits, and is true if the field has the value. -/
theorem eval_comparisonNode (h : b.Allows n) (hm : m.visits + 3 ≤ n) (c : Field × Value) :
    (comparisonNode c).eval ⟨some event, now, b⟩ [] m =
      (.ok (.bool (RuleFilter.condition event c)), { m with visits := m.visits + 3 }) := by
  have h1 := visit_of_allows (m := m) h (by omega)
  have h2 := visit_of_allows (m := { m with visits := m.visits + 1 }) h (by simp; omega)
  have h3 := visit_of_allows (m := { m with visits := m.visits + 2 }) h (by simp; omega)
  have hverdict : CompareOp.apply .eq ((c.1.find? event).getD .null) c.2 =
      .ok (RuleFilter.condition event c) := by
    unfold CompareOp.apply RuleFilter.condition
    cases c.1.find? event with
    | none => rfl
    | some actual => cases hl : actual.isNull <;> cases c.2.isNull <;> simp [hl]
  have hleft : (Node.field c.1).eval ⟨some event, now, b⟩ [] { m with visits := m.visits + 1 } =
      (.ok ((c.1.find? event).getD .null), { m with visits := m.visits + 2 }) := by
    rw [Node.eval, bind_of_ok _ h2, lookup?_nil]
    rfl
  have hright : (Node.const c.2).eval ⟨some event, now, b⟩ [] { m with visits := m.visits + 2 } =
      (.ok c.2, { m with visits := m.visits + 3 }) := by
    rw [Node.eval, bind_of_ok _ h3]
    rfl
  rw [comparisonNode, Node.eval, bind_of_ok _ h1, bind_of_ok _ hleft, bind_of_ok _ hright, hverdict]
  rfl

theorem connect_comparisons (h : b.Allows n) (cs : List (Field × Value))
    (hm : m.visits + 3 * cs.length ≤ n) :
    ∃ m', Node.connect ⟨some event, now, b⟩ false (cs.map comparisonNode) none [] m =
      (.ok (.bool (cs.all (RuleFilter.condition event))), m') := by
  induction cs generalizing m with
  | nil => exact ⟨m, rfl⟩
  | cons c cs ih =>
    rw [List.length_cons] at hm
    have hjudge : judge ((comparisonNode c).eval ⟨some event, now, b⟩ []) m =
        (.ok (.ok (RuleFilter.condition event c)), { m with visits := m.visits + 3 }) := by
      rw [judge, eval_comparisonNode h (by omega)]
      rfl
    rw [List.map_cons, Node.connect, bind_of_ok _ hjudge, List.all_cons]
    cases RuleFilter.condition event c with
    | false => exact ⟨_, rfl⟩
    | true => exact ih (by simp; omega)

/-- The conjunction of comparisons is true if all fields have their values; it takes three visits
for each of them and one for itself. -/
theorem evaluate_comparisons {source : String} {root : Node} {cs : List (Field × Value)}
    (hroot : cs.map comparisonNode = [root] ∨ root = .and (cs.map comparisonNode))
    (h : b.Allows (3 * cs.length + 1)) :
    ((⟨source, root⟩ : Expression).evaluate event b now).1 =
      .ok (cs.all (RuleFilter.condition event)) := by
  obtain ⟨m, hm⟩ : ∃ m, root.eval ⟨some event, now, b⟩ [] .zero =
      (.ok (.bool (cs.all (RuleFilter.condition event))), m) := by
    rcases hroot with hroot | rfl
    · obtain ⟨c, rfl, rfl⟩ : ∃ c, cs = [c] ∧ comparisonNode c = root := by
        simpa [List.map_eq_singleton_iff] using hroot
      refine ⟨{ Meter.zero with visits := 3 }, ?_⟩
      rw [eval_comparisonNode h (by simp [Meter.zero])]
      simp [Meter.zero]
    · have hvisit := visit_of_allows (m := .zero) h (by simp [Meter.zero])
      have hconnect : ∃ m', Node.connect ⟨some event, now, b⟩ false (cs.map comparisonNode) none []
          { Meter.zero with visits := 1 } =
            (.ok (.bool (cs.all (RuleFilter.condition event))), m') :=
        connect_comparisons h cs (by simp; omega)
      obtain ⟨m, hm⟩ := hconnect
      refine ⟨m, ?_⟩
      rw [Node.eval, bind_of_ok _ hvisit]
      exact hm
  rw [Expression.evaluate, judge, hm]
  rfl

theorem all_of_perm {cs ds : List (Field × Value)} (h : cs.Perm ds) (f : Field × Value → Bool) :
    cs.all f = ds.all f := by
  rw [Bool.eq_iff_iff, List.all_eq_true, List.all_eq_true]
  simp only [h.mem_iff]

/-- Comparisons joined by `AND` are a filter, and its verdict is whether the fields have their
values. -/
theorem compile_comparisons (fs : HostFunctions) {texts : List (String × String)}
    (h : List.Forall₂ IsComparable texts sides) (hne : texts ≠ [])
    (hs : ∀ s ∈ sides, s.1.IsRooted) :
    ∃ filter,
      compile fs (" AND ".intercalate (texts.map fun t => comparison t.1 t.2)) = .ok filter ∧
      ∀ (event : Event) (b : Budget) (now : Instant), b.Allows (3 * texts.length + 1) →
        (filter.evaluate event b now).1 =
          .ok ((sides.map conditionOf).all (RuleFilter.condition event)) := by
  obtain ⟨es, hparse, hes⟩ := parse_comparisons h hne
  have hlength : texts.length = sides.length := h.length_eq
  have hsides : sides ≠ [] := by
    rintro rfl
    exact hne (List.length_eq_zero_iff.mp hlength)
  obtain ⟨root, cs, hlower, hperm, hroot⟩ := lower_comparisons fs hes hsides hs
  refine ⟨_, compile_eq_ok.mpr ⟨_, root, _, hparse, hlower, rfl, rfl⟩, fun event b now hb => ?_⟩
  have hcs : cs.length = texts.length := by rw [hperm.length_eq, List.length_map, hlength]
  rw [evaluate_comparisons hroot (by rwa [hcs]), all_of_perm hperm]

end Filter

/-! ## Simple filters -/

open Switchyard.Filter

/-- An entry of a simple filter, and the text of its literal in an expression. -/
structure SimpleCondition where
  path : String
  document : Document
  literal : String

namespace SimpleCondition

/-- The entry as a filter has it. -/
def entry (c : SimpleCondition) : String × Document := (c.path, c.document)

/-- The entry as an expression has it. -/
def text (c : SimpleCondition) : String := comparison c.path c.literal

/-- An entry whose path starts at the event, and whose literal has the value of its document. -/
def IsPlain (c : SimpleCondition) : Prop :=
  IsLiteral c.literal (.ofJson c.document.json) ∧ ∃ p, parsePath c.path = .ok p ∧ p.IsRooted

variable {cs : List SimpleCondition}

theorem exists_sides (h : ∀ c ∈ cs, c.IsPlain) :
    ∃ sides : List (Path × Value), (∀ s ∈ sides, s.1.IsRooted) ∧
      List.Forall₂ IsComparable (cs.map fun c => (c.path, c.literal)) sides ∧
      List.Forall₂ (fun c s => parsePath c.path = .ok s.1 ∧ .ofJson c.document.json = s.2) cs
        sides := by
  induction cs with
  | nil => exact ⟨[], by simp, .nil, .nil⟩
  | cons c cs ih =>
    obtain ⟨⟨hliteral, p, hp, hrooted⟩, hmore⟩ := List.forall_mem_cons.mp h
    obtain ⟨sides, hall, hcomparable, hsides⟩ := ih hmore
    exact ⟨(p, .ofJson c.document.json) :: sides, List.forall_mem_cons.mpr ⟨hrooted, hall⟩,
      .cons ⟨hp, hliteral⟩ hcomparable, .cons ⟨hp, rfl⟩ hsides⟩

end SimpleCondition

/-- The conditions of a simple filter are its fields with the values they must have. -/
theorem conditions_eq_ok {entries : List (String × Document)} {cs : List (Field × Value)} :
    Rule.conditions entries = .ok cs ↔
      List.Forall₂ (fun e c => Field.parse e.1 = .ok c.1 ∧ .ofJson e.2.json = c.2) entries cs := by
  induction entries generalizing cs with
  | nil =>
    rw [List.forall₂_nil_left_iff, Rule.conditions, Except.ok.injEq, eq_comm]
  | cons e entries ih =>
    constructor
    · intro h
      obtain ⟨field, hfield, h⟩ := bind_eq_ok.mp h
      obtain ⟨more, hmore, h⟩ := bind_eq_ok.mp h
      obtain rfl := Except.ok.inj h
      exact .cons ⟨hfield, rfl⟩ (ih.mp hmore)
    · intro h
      cases h with
      | @cons _ c _ more hc hmore =>
        obtain ⟨field, v⟩ := c
        obtain ⟨hfield, rfl⟩ := hc
        exact bind_eq_ok.mpr ⟨field, hfield, bind_eq_ok.mpr ⟨more, ih.mpr hmore, rfl⟩⟩

/-- The entries of a simple filter in another order give the same conditions in another order. -/
theorem exists_conditions {cs : List SimpleCondition} {sides : List (Path × Value)}
    {entries : List (String × Document)}
    (h : List.Forall₂ (fun c s => parsePath c.path = .ok s.1 ∧ .ofJson c.document.json = s.2) cs
      sides)
    (hperm : entries.Perm (cs.map (·.entry))) :
    ∃ conditions, Rule.conditions entries = .ok conditions ∧
      conditions.Perm (sides.map conditionOf) := by
  have hfields : List.Forall₂ (fun e c => Field.parse e.1 = .ok c.1 ∧ .ofJson e.2.json = c.2)
      (cs.map (·.entry)) (sides.map conditionOf) := by
    rw [List.forall₂_map_left_iff, List.forall₂_map_right_iff]
    exact h.imp fun c s ⟨hpath, hjson⟩ => ⟨Field.parse_of_parsePath hpath, hjson⟩
  obtain ⟨conditions, hconditions, hperm⟩ := List.perm_comp_forall₂ hperm hfields
  exact ⟨conditions, conditions_eq_ok.mpr hconditions, hperm⟩

/-- A simple filter and the expression that compares the same fields with the same values both have
a verdict on every event, and the same one, under any budget that leaves time alone and allows three
visits for each field and one more. -/
theorem simple_agrees_with_expression (fs : HostFunctions) {cs : List SimpleCondition}
    (hne : cs ≠ []) (hcs : ∀ c ∈ cs, c.IsPlain) {s t : RuleSpec} (hs : s.filterExpr = none)
    (hfilter : s.filter.pairs.Perm (cs.map (·.entry)))
    (ht : t.filterExpr = some (" AND ".intercalate (cs.map (·.text)))) :
    ∃ conditions e, Rule.filterOf fs s = .ok (.simple conditions) ∧
      Rule.filterOf fs t = .ok (.expression e) ∧
      ∀ event b now, b.Allows (3 * cs.length + 1) → ∃ verdict,
        ((RuleFilter.simple conditions).evaluate event b now).1 = .ok verdict ∧
        ((RuleFilter.expression e).evaluate event b now).1 = .ok verdict := by
  obtain ⟨sides, hrooted, hcomparable, hsides⟩ := SimpleCondition.exists_sides hcs
  obtain ⟨conditions, hconditions, hperm⟩ := exists_conditions hsides hfilter
  obtain ⟨e, he, hverdict⟩ := compile_comparisons fs hcomparable (by simpa using hne) hrooted
  rw [List.map_map] at he
  rw [List.length_map] at hverdict
  -- An empty map of conditions would be the filter that accepts all, not one of conditions.
  have hnonempty : s.filter.isEmpty = false := by
    rw [Dict.isEmpty, List.isEmpty_eq_false_iff]
    rintro hnil
    rw [hnil] at hfilter
    exact hne (List.map_eq_nil_iff.mp hfilter.nil_eq.symm)
  refine ⟨conditions, e, ?_, ?_, fun event b now hb => ⟨_, ?_, hverdict event b now hb⟩⟩
  · rw [Rule.filterOf, hs]
    dsimp only
    rw [hnonempty, hconditions]
    rfl
  · rw [Rule.filterOf, ht]
    exact congrArg (Except.map RuleFilter.expression) he
  · exact congrArg Except.ok (all_of_perm hperm _)

/-- Fields of all three roots with values of several types. One path has a blank in front of it. -/
def mixedConditions : List SimpleCondition :=
  [⟨"payload.kind", .ofJson (.string "a"), "'a'"⟩, ⟨"payload.size", .ofJson (.whole (-3)), "-3"⟩,
    ⟨"payload.open", .ofJson (.bool true), "TRUE"⟩, ⟨"subject", .ofJson (.string "t.x"), "\"t.x\""⟩,
    ⟨" headers['x-id']", .ofJson (.string "7"), "'7'"⟩]

theorem isPlain_of_mem_mixedConditions : ∀ c ∈ mixedConditions, c.IsPlain := by
  refine List.forall_mem_cons.mpr ⟨⟨⟨[⟨.string "a", 0, "'a'".toList⟩, ⟨.eof, 3, []⟩], _,
    by decide +kernel, rfl, .plain (.string "a")⟩, ⟨"payload", [.key "kind"], 0⟩,
    by decide +kernel, .inl rfl⟩, ?_⟩
  refine List.forall_mem_cons.mpr ⟨⟨⟨[⟨.minus, 0, ['-']⟩, ⟨.number (.ofInt 3), 1, ['3']⟩,
    ⟨.eof, 2, []⟩], _, by decide +kernel, rfl, .negated (.ofInt 3)⟩,
    ⟨"payload", [.key "size"], 0⟩, by decide +kernel, .inl rfl⟩, ?_⟩
  refine List.forall_mem_cons.mpr ⟨⟨⟨[⟨.bool true, 0, "TRUE".toList⟩, ⟨.eof, 4, []⟩], _,
    by decide +kernel, rfl, .plain (.bool true)⟩, ⟨"payload", [.key "open"], 0⟩,
    by decide +kernel, .inl rfl⟩, ?_⟩
  refine List.forall_mem_cons.mpr ⟨⟨⟨[⟨.string "t.x", 0, "\"t.x\"".toList⟩, ⟨.eof, 5, []⟩], _,
    by decide +kernel, rfl, .plain (.string "t.x")⟩, ⟨"subject", [], 0⟩, by decide +kernel,
    .inr (.inr ⟨rfl, rfl⟩)⟩, ?_⟩
  refine List.forall_mem_singleton.mpr ⟨⟨[⟨.string "7", 0, "'7'".toList⟩, ⟨.eof, 3, []⟩], _,
    by decide +kernel, rfl, .plain (.string "7")⟩, ⟨"headers", [.key "x-id"], 1⟩,
    by decide +kernel, .inr (.inl rfl)⟩

/-- A definition with the conditions as a simple filter. -/
def mixedSpec : RuleSpec where
  routeId := "a"
  subject := ">"
  filter := .ofList (mixedConditions.map (·.entry))
  filterExpr := none
  targets := []
  expiresAt := none
  ttlSeconds := none

/-- A definition with the same conditions as an expression. -/
def mixedExprSpec : RuleSpec :=
  { mixedSpec with
    filter := .empty
    filterExpr := some ("payload.kind == 'a' AND payload.size == -3 AND payload.open == TRUE " ++
      "AND subject == \"t.x\" AND  headers['x-id'] == '7'") }

/-- An event of the given size that fits all the other conditions. -/
def sizedEvent (size : Int) : Event :=
  ⟨"e", "t.x", .ofList [("x-id", "7")],
    .object [("kind", .string "a"), ("open", .bool true), ("size", .number (.ofInt size))], true⟩

theorem simple_agrees_with_expression_mixed :
    ∃ conditions e, Rule.filterOf .empty mixedSpec = .ok (.simple conditions) ∧
      Rule.filterOf .empty mixedExprSpec = .ok (.expression e) ∧
      ((RuleFilter.simple conditions).evaluate (sizedEvent (-3)) (.visits 16) ⟨0, 0⟩).1 = .ok true ∧
      ((RuleFilter.expression e).evaluate (sizedEvent (-3)) (.visits 16) ⟨0, 0⟩).1 = .ok true ∧
      ((RuleFilter.simple conditions).evaluate (sizedEvent 3) (.visits 16) ⟨0, 0⟩).1 = .ok false ∧
      ((RuleFilter.expression e).evaluate (sizedEvent 3) (.visits 16) ⟨0, 0⟩).1 = .ok false := by
  have hallows : (Budget.visits 16).Allows (3 * mixedConditions.length + 1) :=
    ⟨fun limit h => by obtain rfl := Option.some.inj h; decide, rfl⟩
  have hfilter : mixedSpec.filter.pairs.Perm (mixedConditions.map (·.entry)) :=
    Assoc.ofList_perm (by decide)
  have hexpr : mixedExprSpec.filterExpr =
      some (" AND ".intercalate (mixedConditions.map (·.text))) := by
    decide +kernel
  have hnone : mixedSpec.filterExpr = none := rfl
  obtain ⟨conditions, e, hconditions, he, hverdict⟩ := simple_agrees_with_expression .empty
    (List.cons_ne_nil _ _) isPlain_of_mem_mixedConditions hnone hfilter hexpr
  have hsimple : ∀ size verdict, (Rule.filterOf .empty mixedSpec).toOption.map
      (fun f => (f.evaluate (sizedEvent size) (.visits 16) ⟨0, 0⟩).1.toOption) =
        some (some verdict) →
      ((RuleFilter.simple conditions).evaluate (sizedEvent size) (.visits 16) ⟨0, 0⟩).1 =
        .ok verdict := by
    intro size verdict h
    rw [hconditions] at h
    exact toOption_eq_some.mp (Option.some.inj h)
  -- Only the simple filter is evaluated; the theorem carries its verdict over to the expression.
  have hboth : ∀ size verdict,
      ((RuleFilter.simple conditions).evaluate (sizedEvent size) (.visits 16) ⟨0, 0⟩).1 =
        .ok verdict →
      ((RuleFilter.expression e).evaluate (sizedEvent size) (.visits 16) ⟨0, 0⟩).1 =
        .ok verdict := by
    intro size verdict h
    obtain ⟨verdict', hs, hx⟩ := hverdict (sizedEvent size) (.visits 16) ⟨0, 0⟩ hallows
    rwa [← Except.ok.inj (hs.symm.trans h)]
  have htrue := hsimple (-3) true (by decide +kernel)
  have hfalse := hsimple 3 false (by decide +kernel)
  exact ⟨conditions, e, hconditions, he, htrue, hboth _ _ htrue, hfalse, hboth _ _ hfalse⟩

end Switchyard
