import Switchyard.Proofs.Filter.Steps

/-!
# The budget of visits is a threshold

An evaluation under a limit of `n` visits goes as the one without limits until it makes its visit
number `n + 1`; there it ends, wherever in the tree that is.

* `Evaluation.Capped n x y`: the step `x` is the step `y` under a limit of `n` visits.
* `Evaluation.closed_capped`: such steps make up others. None of these turns the overrun into
  anything else.
* `Node.capped_eval`: the evaluation of any node under any bindings is capped.
* `visits_is_threshold`: a filter has its unlimited result and makes the same calls if the limit is
  at least the number of visits; below it is the overrun.

Nothing is asked of the host functions here. An overrun that one of them reports ends both runs at
the same visit.
-/

namespace Switchyard.Filter

namespace Evaluation

/-- A run that ended in `r` is one that started at the meter `m` and without limits would have ended
in `s`, but for a limit of `n` visits. The meter of `s` has only gone up. If it is within the limit,
both runs are the same; if not, `r` is the overrun after the first of the calls. -/
structure CappedAt {α : Type} (n : Nat) (m : Meter) (r s : Except EvalError α × Meter) : Prop where
  visits : m.visits ≤ s.2.visits
  calls : m.calls <+: s.2.calls
  within : s.2.visits ≤ n → r = s
  beyond : m.visits ≤ n → n < s.2.visits →
    r.1 = .error (.budgetExceeded n) ∧ r.2.calls <+: s.2.calls

/-- The step `x` is the step `y` under a limit of `n` visits. -/
def Capped {α : Type} (n : Nat) (x y : Evaluation α) : Prop := ∀ m, CappedAt n m (x m) (y m)

theorem visit_within {n : Nat} {m : Meter} (h : m.visits < n) :
    visit (.visits n) m = (.ok (), { m with visits := m.visits + 1 }) := by
  have hn : ¬n < m.visits + 1 := Nat.not_lt.mpr h
  have ho : overrun? (.visits n) { m with visits := m.visits + 1 } = none := by
    simp [overrun?, Budget.visits, Option.filter, hn]
  rw [visit, ho]

theorem visit_over {n : Nat} {m : Meter} (h : n ≤ m.visits) :
    visit (.visits n) m = (.error (.budgetExceeded n), { m with visits := m.visits + 1 }) := by
  have hn : n < m.visits + 1 := Nat.lt_succ_of_le h
  have ho : overrun? (.visits n) { m with visits := m.visits + 1 } = some (.budgetExceeded n) := by
    simp [overrun?, Budget.visits, Option.filter, hn]
  rw [visit, ho]

namespace Capped

variable {α β : Type} {n : Nat} {x y : Evaluation α}

/-- A step that makes no visit never reaches the limit. -/
theorem of_no_visit (hv : ∀ m, (x m).2.visits = m.visits) (hc : ∀ m, m.calls <+: (x m).2.calls) :
    Capped n x x := by
  intro m
  refine ⟨Nat.le_of_eq (hv m).symm, hc m, fun _ => rfl, fun hm ho => ?_⟩
  have := hv m
  omega

theorem lift (r : Except EvalError α) :
    Capped n (ExceptT.mk (Pure.pure r)) (ExceptT.mk (Pure.pure r)) :=
  of_no_visit (fun _ => rfl) fun m => List.prefix_refl m.calls

theorem callHost (f : HostFunction) (args : List Value) :
    Capped n (callHost f args) (callHost f args) :=
  of_no_visit (fun _ => rfl) fun m => List.prefix_append m.calls [(f.name, args)]

theorem bind {f g : α → Evaluation β} (hx : Capped n x y)
    (hf : ∀ a, Gives x a ∨ Gives y a → Capped n (f a) (g a)) :
    Capped n (x >>= f) (y >>= g) := by
  intro m
  have hxm := hx m
  -- Once the first step is over the limit, the second one is not begun.
  have hover : m.visits ≤ n → n < (y m).2.visits →
      ((x >>= f) m).1 = .error (.budgetExceeded n) ∧
        ((x >>= f) m).2.calls <+: (y m).2.calls := by
    intro hm ho
    obtain ⟨he, hc⟩ := hxm.beyond hm ho
    rw [bind_of_error f (Prod.ext he rfl)]
    exact ⟨rfl, hc⟩
  rcases hy : y m with ⟨e | a, m'⟩
  · rw [hy] at hxm hover
    rw [bind_of_error g hy]
    exact ⟨hxm.visits, hxm.calls, fun hw => bind_of_error f (hxm.within hw), hover⟩
  · rw [hy] at hxm hover
    rw [bind_of_ok g hy]
    have hg := hf a (.inr ⟨m, by rw [hy]⟩) m'
    refine ⟨Nat.le_trans hxm.visits hg.visits, hxm.calls.trans hg.calls, fun hw => ?_,
      fun hm ho => ?_⟩
    · rw [bind_of_ok f (hxm.within (Nat.le_trans hg.visits hw))]
      exact hg.within hw
    · by_cases hn : m'.visits ≤ n
      · rw [bind_of_ok f (hxm.within hn)]
        exact hg.beyond hn ho
      · obtain ⟨he, hc⟩ := hover hm (Nat.lt_of_not_le hn)
        exact ⟨he, hc.trans hg.calls⟩

/-- A visit is where the limit is looked at. -/
theorem visit : Capped n (visit (.visits n)) (visit .unlimited) := by
  intro m
  refine ⟨Nat.le_succ m.visits, List.prefix_refl m.calls, fun hw => visit_within hw,
    fun _ ho => ?_⟩
  rw [visit_over (Nat.le_of_lt_succ ho)]
  exact ⟨rfl, List.prefix_refl m.calls⟩

theorem judge {x y : Evaluation Value} (hx : Capped n x y) : Capped n (judge x) (judge y) := by
  intro m
  have hxm := hx m
  refine ⟨?_, ?_, fun hw => ?_, fun hm ho => ?_⟩
  · rw [judge_snd]
    exact hxm.visits
  · rw [judge_snd]
    exact hxm.calls
  · rw [judge_snd] at hw
    simp only [Evaluation.judge, hxm.within hw]
  · rw [judge_snd] at ho
    obtain ⟨he, hc⟩ := hxm.beyond hm ho
    rw [judge_snd, judge_snd]
    exact ⟨judge_of_overrun he rfl, hc⟩

end Capped

/-- Steps under a limit of `n` visits are put together as those without limits are. -/
theorem closed_capped (n : Nat) :
    Closed (fun _ => Capped n) (.visits n) .unlimited fun _ => True where
  lift {_ r} _ := .lift r
  visit := .visit
  callHost {f} args _ := .callHost f args
  judge := .judge
  bind hx hf := hx.bind hf

end Evaluation

/-! ## Nodes -/

namespace Node

open Evaluation

/-- Wherever the limit is reached, the evaluation of a node ends there. -/
theorem capped_eval (event : Option Event) (now : Instant) (n : Nat) (node : Node)
    (bindings : List Value) :
    Capped n (node.eval ⟨event, now, .visits n⟩ bindings)
      (node.eval ⟨event, now, .unlimited⟩ bindings) :=
  related_eval (closed_capped n) event now node (fun _ _ => True.intro) bindings

end Node

/-! ## Filters -/

namespace Expression

variable (e : Expression) (event : Event) (now : Instant)

/-- A filter is judged by its value, and nothing is visited or called on the way. -/
theorem evaluate_eq (b : Budget) : e.evaluate event b now =
    ((Evaluation.judge (e.root.eval ⟨some event, now, b⟩ []) .zero).1.bind id,
      (e.value event b now).2) := by
  unfold evaluate value
  rw [← Evaluation.judge_snd]
  rcases Evaluation.judge (e.root.eval ⟨some event, now, b⟩ []) .zero with ⟨e | v, m⟩ <;> rfl

end Expression

/-- The number of visits that a filter makes without limits is an exact threshold, for its truth
value and for its value: under a limit of at least as many visits the result is the same and so are
the calls of host functions; under any lower limit there is no result but the overrun, and the calls
are the first ones. -/
theorem visits_is_threshold (e : Expression) (event : Event) (now : Instant) (n : Nat) :
    (e.value event .unlimited now).2.visits = e.visits event now ∧
    (e.visits event now ≤ n →
      e.evaluate event (.visits n) now = e.evaluate event .unlimited now ∧
      e.value event (.visits n) now = e.value event .unlimited now) ∧
    (n < e.visits event now →
      (e.evaluate event (.visits n) now).1 = .error (.budgetExceeded n) ∧
      (e.evaluate event (.visits n) now).2.calls <+:
        (e.evaluate event .unlimited now).2.calls ∧
      (e.value event (.visits n) now).1 = .error (.budgetExceeded n) ∧
      (e.value event (.visits n) now).2.calls <+: (e.value event .unlimited now).2.calls) := by
  -- Both are needed: a value ends with the evaluation, a verdict with the judgement of it.
  have hv := Node.capped_eval (some event) now n e.root [] .zero
  have hj := (Node.capped_eval (some event) now n e.root []).judge .zero
  have hvisits : (e.value event .unlimited now).2.visits = e.visits event now := by
    rw [Expression.visits, Expression.evaluate_eq]
  have hvisits' : (Evaluation.judge (e.root.eval ⟨some event, now, .unlimited⟩ [])
      .zero).2.visits = e.visits event now := by
    rw [Evaluation.judge_snd]
    exact hvisits
  refine ⟨hvisits, fun hle => ?_, fun hlt => ?_⟩
  · have hsame : e.value event (.visits n) now = e.value event .unlimited now :=
      hv.within (Nat.le_trans (Nat.le_of_eq hvisits) hle)
    have hjudged := hj.within (Nat.le_trans (Nat.le_of_eq hvisits') hle)
    refine ⟨?_, hsame⟩
    rw [Expression.evaluate_eq, Expression.evaluate_eq, hsame, hjudged]
  · obtain ⟨hr, hc⟩ := hv.beyond (Nat.zero_le n) (Nat.lt_of_lt_of_eq hlt hvisits.symm)
    obtain ⟨hr', -⟩ := hj.beyond (Nat.zero_le n) (Nat.lt_of_lt_of_eq hlt hvisits'.symm)
    rw [Expression.evaluate_eq, Expression.evaluate_eq, hr']
    exact ⟨rfl, hc, hr, hc⟩

/-- A host function that says yes to everything. -/
def witnessed : HostFunction := .constantly "witnessed" (.bool true)

/-- `NOT (any(['x', true], v => v AND witnessed(v)) OR false)`. The first item is no truth value,
but the function is called for it all the same. -/
def nestedQuantifier : Expression :=
  ⟨"", .not (.or [
    .quantifier .any (.const (.array [.string "x", .bool true])) 0
      (.and [.field ⟨.binding 0, []⟩, .host witnessed [.field ⟨.binding 0, []⟩]]),
    .const (.bool false)])⟩

/-- The filter takes twelve visits; with nine it ends in the quantifier, after the first call. -/
theorem visits_is_threshold_nested :
    nestedQuantifier.visits ⟨"e", "t", .empty, .null, true⟩ ⟨0, 0⟩ = 12 ∧
    (nestedQuantifier.evaluate ⟨"e", "t", .empty, .null, true⟩ (.visits 12) ⟨0, 0⟩).1.toOption =
      some false ∧
    (nestedQuantifier.evaluate ⟨"e", "t", .empty, .null, true⟩ (.visits 12) ⟨0, 0⟩ =
      nestedQuantifier.evaluate ⟨"e", "t", .empty, .null, true⟩ .unlimited ⟨0, 0⟩) ∧
    (nestedQuantifier.evaluate ⟨"e", "t", .empty, .null, true⟩ (.visits 9) ⟨0, 0⟩).1 =
      .error (.budgetExceeded 9) ∧
    (nestedQuantifier.evaluate ⟨"e", "t", .empty, .null, true⟩ (.visits 9) ⟨0, 0⟩).2.calls.length =
      1 ∧
    (nestedQuantifier.evaluate ⟨"e", "t", .empty, .null, true⟩ (.visits 9) ⟨0, 0⟩).2.calls <+:
      (nestedQuantifier.evaluate ⟨"e", "t", .empty, .null, true⟩ .unlimited ⟨0, 0⟩).2.calls := by
  have hv : nestedQuantifier.visits ⟨"e", "t", .empty, .null, true⟩ ⟨0, 0⟩ = 12 := by decide +kernel
  obtain ⟨-, hwithin, -⟩ :=
    visits_is_threshold nestedQuantifier ⟨"e", "t", .empty, .null, true⟩ ⟨0, 0⟩ 12
  obtain ⟨-, -, hover⟩ :=
    visits_is_threshold nestedQuantifier ⟨"e", "t", .empty, .null, true⟩ ⟨0, 0⟩ 9
  have hle := (hwithin (Nat.le_of_eq hv)).1
  have hlt := hover (by rw [hv]; decide)
  exact ⟨hv, by decide +kernel, hle, hlt.1, by decide +kernel, hlt.2.1⟩

end Switchyard.Filter
