import Switchyard.Proofs.Filter.Outcome

/-!
# The laws of De Morgan

A negation can be moved inwards and back without a change to what a filter says, also where operands
are unknown: the two sides even report the same error.

* `Node.SameTruth`: nodes that come to the same truth value or to the same error.
* `verdict_not`, `verdict_and`, `verdict_or`, `verdict_any`, `verdict_all`: the truth value of a
  node from those of its operands.
* `de_morgan`: the laws for the connectives, for a double negation and for the quantifiers.
-/

namespace Switchyard.Filter

open Evaluation

/-- In boolean position the nodes come to the same truth value, or both are unknown with the same
error, whatever the meter shows. -/
def Node.SameTruth (c : Context) (bindings : List Value) (a b : Node) : Prop :=
  ∃ v : Verdict, ∀ m, (judge (a.eval c bindings) m).1 = .ok v ∧
    (judge (b.eval c bindings) m).1 = .ok v

namespace Node

/-! ## Truth values -/

section Verdicts

variable {c : Context} {bindings : List Value}

theorem bind_truth_bool (v : Verdict) : (v.map Value.bool).bind truth = v := by
  cases v with
  | ok b => rfl
  | error e => rfl

theorem verdict_not (n : Node) :
    (Node.not n).verdict c bindings = (n.verdict c bindings).map (!·) := by
  rw [verdict, outcome, bind_truth_bool]
  rfl

theorem verdict_and (ns : List Node) : (Node.and ns).verdict c bindings =
    connectFrom false none (ns.map fun n => n.verdict c bindings) := by
  rw [verdict, outcome, bind_truth_bool, verdicts_eq_map]

theorem verdict_or (ns : List Node) : (Node.or ns).verdict c bindings =
    connectFrom true none (ns.map fun n => n.verdict c bindings) := by
  rw [verdict, outcome, bind_truth_bool, verdicts_eq_map]

variable {collection predicate : Node} {items : List Value}

theorem verdict_any (h : collection.outcome c bindings = .ok (.array items)) (slot : Nat) :
    (Node.quantifier .any collection slot predicate).verdict c bindings =
      connectFrom true none (items.map fun item => predicate.verdict c (bindings ++ [item])) := by
  rw [verdict, outcome, h]
  exact bind_truth_bool _

theorem verdict_all (h : collection.outcome c bindings = .ok (.array items)) (slot : Nat) :
    (Node.quantifier .all collection slot predicate).verdict c bindings =
      connectFrom false none (items.map fun item => predicate.verdict c (bindings ++ [item])) := by
  rw [verdict, outcome, h]
  exact bind_truth_bool _

/-! ## Negations -/

theorem verdict_not_and (ns : List Node) :
    (Node.not (.and ns)).verdict c bindings = (Node.or (ns.map .not)).verdict c bindings := by
  simp only [verdict_not, verdict_and, verdict_or, not_connectFrom, List.map_map,
    Function.comp_def, Bool.not_false]

theorem verdict_not_or (ns : List Node) :
    (Node.not (.or ns)).verdict c bindings = (Node.and (ns.map .not)).verdict c bindings := by
  simp only [verdict_not, verdict_and, verdict_or, not_connectFrom, List.map_map,
    Function.comp_def, Bool.not_true]

theorem verdict_not_not (n : Node) :
    (Node.not (.not n)).verdict c bindings = n.verdict c bindings := by
  rw [verdict_not, verdict_not, map_not_not]

theorem verdict_not_any_not (h : collection.outcome c bindings = .ok (.array items)) (slot : Nat) :
    (Node.not (.quantifier .any collection slot (.not predicate))).verdict c bindings =
      (Node.quantifier .all collection slot predicate).verdict c bindings := by
  simp only [verdict_not, verdict_any h, verdict_all h, not_connectFrom, List.map_map,
    Function.comp_def, map_not_not, Bool.not_true]

theorem verdict_not_all_not (h : collection.outcome c bindings = .ok (.array items)) (slot : Nat) :
    (Node.not (.quantifier .all collection slot (.not predicate))).verdict c bindings =
      (Node.quantifier .any collection slot predicate).verdict c bindings := by
  simp only [verdict_not, verdict_any h, verdict_all h, not_connectFrom, List.map_map,
    Function.comp_def, map_not_not, Bool.not_false]

end Verdicts

/-! ## Evaluation -/

theorem areTame_map_not {ns : List Node} (h : AreTame ns) : AreTame (ns.map .not) := by
  induction ns with
  | nil => exact h
  | cons n ns ih =>
    obtain ⟨hn, hns⟩ := areTame_cons.mp h
    exact areTame_cons.mpr ⟨hn, ih hns⟩

theorem sameTruth_of_verdict {c : Context} (hc : c.budget = .unlimited) {bindings : List Value}
    {a b : Node} (ha : a.IsTame) (hb : b.IsTame)
    (h : a.verdict c bindings = b.verdict c bindings) : SameTruth c bindings a b := by
  have ha := (hc ▸ settles_eval a ha bindings).judge
  have hb := (hc ▸ settles_eval b hb bindings).judge
  exact ⟨a.verdict c bindings, fun m => ⟨ha.exact m, (hb.exact m).trans (congrArg _ h.symm)⟩⟩

end Node

open Node

/-- Without limits, and with host functions that never overrun: `NOT` turns `AND` into an `OR` over
the negated operands and `OR` into an `AND`, two of them are as none, and `all` is `NOT any` over
the negated predicate, as is `any` with `all`, provided that the collection is an array. -/
theorem de_morgan {c : Context} (hc : c.budget = .unlimited) (bindings : List Value) :
    (∀ ps, AreTame ps → SameTruth c bindings (.not (.and ps)) (.or (ps.map .not))) ∧
    (∀ ps, AreTame ps → SameTruth c bindings (.not (.or ps)) (.and (ps.map .not))) ∧
    (∀ p : Node, p.IsTame → SameTruth c bindings (.not (.not p)) p) ∧
    ∀ (collection p : Node) (slot : Nat) (items : List Value) (m : Meter), collection.IsTame →
      p.IsTame → (collection.eval c bindings m).1 = .ok (.array items) →
        SameTruth c bindings (.quantifier .all collection slot p)
            (.not (.quantifier .any collection slot (.not p))) ∧
          SameTruth c bindings (.quantifier .any collection slot p)
            (.not (.quantifier .all collection slot (.not p))) := by
  refine ⟨fun ps h => ?_, fun ps h => ?_, fun p h => ?_,
    fun collection p slot items m hcoll hp hm => ?_⟩
  · exact sameTruth_of_verdict hc h (areTame_map_not h) (verdict_not_and ps)
  · exact sameTruth_of_verdict hc h (areTame_map_not h) (verdict_not_or ps)
  · exact sameTruth_of_verdict hc h h (verdict_not_not p)
  · have hitems : collection.outcome c bindings = .ok (.array items) :=
      ((hc ▸ settles_eval collection hcoll bindings).exact m).symm.trans hm
    have htame : ∀ f ∈ collection.hosts ++ p.hosts, f.NeverOverruns :=
      List.forall_mem_append.mpr ⟨hcoll, hp⟩
    exact ⟨sameTruth_of_verdict hc htame htame (verdict_not_any_not hitems slot).symm,
      sameTruth_of_verdict hc htame htame (verdict_not_all_not hitems slot).symm⟩

/-- An event, and no limits. -/
def unhurried : Context := ⟨some ⟨"e", "orders.eu", .empty, .null, true⟩, ⟨0, 0⟩, .unlimited⟩

/-- `'x' < true`, `blocked()` and `'x'`: the first and the last are unknown, and null is false. -/
def doubtfulOperands : List Node :=
  [.compare .lt (.const (.string "x")) (.const (.bool true)),
    .host (.constantly "blocked" .null) [], .const (.string "x")]

theorem de_morgan_doubtful :
    AreTame doubtfulOperands ∧
      SameTruth unhurried [] (.not (.or doubtfulOperands)) (.and (doubtfulOperands.map .not)) ∧
      (judge ((Node.not (.or doubtfulOperands)).eval unhurried []) .zero).1 =
        .ok (.error (.typeMismatch "<" .string .bool)) ∧
      SameTruth unhurried [] (.not (.and doubtfulOperands)) (.or (doubtfulOperands.map .not)) ∧
      (judge ((Node.not (.and doubtfulOperands)).eval unhurried []) .zero).1 = .ok (.ok true) ∧
      SameTruth unhurried []
        (.quantifier .all (.const (.array [.bool true, .string "x"])) 0 (.field ⟨.binding 0, []⟩))
        (.not (.quantifier .any (.const (.array [.bool true, .string "x"])) 0
          (.not (.field ⟨.binding 0, []⟩)))) := by
  have htame : AreTame doubtfulOperands := by
    intro f hf
    obtain rfl := List.mem_singleton.mp hf
    exact HostFunction.neverOverruns_constantly _ _
  obtain ⟨hand, hor, -, hquantifier⟩ := de_morgan (c := unhurried) rfl []
  exact ⟨htame, hor _ htame, rfl, hand _ htame, rfl,
    (hquantifier (.const _) (.field ⟨.binding 0, []⟩) 0 _ .zero nofun nofun rfl).1⟩

end Switchyard.Filter
