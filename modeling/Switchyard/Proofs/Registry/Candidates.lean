import Switchyard.Proofs.Registry.Index
import Switchyard.Proofs.Result

/-!
# Going through the candidates

The candidates for a subject come one after the other, and all along it is known how many there are
still to come. They are the rules whose patterns start with a wildcard or with the first token of
the subject, in the order of the rules, so that no rule is missed that accepts the subject.

* `SubjectPattern.startsWild`, `SubjectPattern.first?_eq_none_iff`: patterns that start with a
  wildcard.
* `Candidates.Yields`: what has come so far, and what is left.
* `Candidates.InRange`: the invariant of the positions that are left; `Candidates.InRange.size_eq`.
* `RuleIndex.candidates_exact`: what comes, and how much of it is still to come.
-/

namespace Switchyard

/-! ## First tokens -/

namespace SubjectPattern

/-- Whether a pattern starts with a wildcard. -/
def startsWild (p : SubjectPattern) : Bool :=
  match p.tokens with
  | .one :: _ | .tail :: _ => true
  | _ => false

theorem tokensFrom_ne_nil {position : Nat} {texts : List String} {ts : List SubjectToken}
    (ht : texts ≠ []) (h : tokensFrom position texts = .ok ts) : ts ≠ [] := by
  cases texts with
  | nil => exact absurd rfl ht
  | cons text rest =>
    rw [tokensFrom] at h
    obtain ⟨t, -, h⟩ := bind_eq_ok.mp h
    obtain ⟨ts', -, h⟩ := bind_eq_ok.mp h
    rw [← Except.ok.inj h]
    exact List.cons_ne_nil t ts'

theorem tokens_ne_nil {p : SubjectPattern} {text : String} (h : parse text = .ok p) :
    p.tokens ≠ [] := by
  have hraw : subjectTokens text ≠ [] := by simp [subjectTokens]
  unfold parse at h
  split at h
  · cases h
  · split at h
    · next ts hts =>
      cases h
      exact tokensFrom_ne_nil hraw hts
    · cases h

/-- A pattern that has been read starts with a wildcard or with a literal. -/
theorem first?_eq_none_iff {p : SubjectPattern} {text : String} (h : parse text = .ok p) :
    p.first? = none ↔ p.startsWild = true := by
  have hne := tokens_ne_nil h
  unfold first? startsWild
  cases hp : p.tokens with
  | nil => exact absurd hp hne
  | cons t ts => cases t <;> simp

end SubjectPattern

namespace Candidates

variable {c d : Candidates} {x : Rule} {xs : List Rule}

/-! ## One after the other -/

/-- Going through candidates yields rules, and leaves others. -/
inductive Yields : Candidates → List Rule → Candidates → Prop where
  | start {c : Candidates} : Yields c [] c
  | next {c d e : Candidates} {x : Rule} {xs : List Rule} (hn : c.next? = some (x, d))
      (h : Yields d xs e) : Yields c (x :: xs) e

/-- What has come and what is left are the candidates, in order. -/
theorem Yields.toList_eq (h : c.Yields xs d) : c.toList = xs ++ d.toList := by
  induction h with
  | start => rfl
  | next hn _ ih => rw [toList_of_next hn, ih, List.cons_append]

theorem next?_fst (c : Candidates) : c.next?.map (·.1) = c.toList.head? := by
  cases hn : c.next? with
  | none => rw [toList_of_done hn]; rfl
  | some e => rw [toList_of_next hn]; rfl

theorem next?_eq_none_iff : c.next? = none ↔ c.toList = [] := by
  rw [← List.head?_eq_none_iff, ← next?_fst, Option.map_eq_none_iff]

theorem exists_next {rest : List Rule} (h : c.toList = x :: rest) :
    ∃ d, c.next? = some (x, d) ∧ d.toList = rest := by
  cases hn : c.next? with
  | none =>
    rw [toList_of_done hn] at h
    cases h
  | some e =>
    obtain ⟨y, d⟩ := e
    rw [toList_of_next hn] at h
    obtain ⟨rfl, rfl⟩ := List.cons.inj h
    exact ⟨d, rfl, rfl⟩

/-- Going on long enough yields all of them. -/
theorem exists_yields {before after : List Rule} (h : c.toList = before ++ after) :
    ∃ d, c.Yields before d ∧ d.toList = after := by
  induction before generalizing c with
  | nil => exact ⟨c, .start, h⟩
  | cons x before ih =>
    obtain ⟨d, hn, hd⟩ := exists_next h
    obtain ⟨e, he, hafter⟩ := ih hd
    exact ⟨e, .next hn he, hafter⟩

/-! ## How many are left -/

/-- All positions that are left are those of rules. -/
def InRange (c : Candidates) : Prop := ∀ p ∈ c.literal ++ c.wildcard, p < c.rules.length

theorem perm_of_nextPosition? {as bs cs ds : List Nat} {p : Nat}
    (h : nextPosition? as bs = some (p, cs, ds)) : (p :: (cs ++ ds)).Perm (as ++ bs) := by
  unfold nextPosition? at h
  split at h
  · split at h
    · cases h
      exact .refl _
    · cases h
      exact List.perm_middle.symm
  · cases h
    exact .refl _
  · cases h
    exact .refl _
  · cases h

theorem nextPosition?_eq_none {as bs : List Nat} (h : nextPosition? as bs = none) :
    as = [] ∧ bs = [] := by
  unfold nextPosition? at h
  split at h
  · split at h <;> cases h
  · cases h
  · cases h
  · exact ⟨rfl, rfl⟩

theorem InRange.next (h : c.InRange) (hn : c.next? = some (x, d)) : d.InRange := by
  unfold next? at hn
  split at hn
  · cases hn
  · next p literal wildcard hp =>
    obtain ⟨y, -, hy⟩ := Option.map_eq_some_iff.mp hn
    cases hy
    intro q hq
    exact h q ((perm_of_nextPosition? hp).mem_iff.mp (List.mem_cons_of_mem p hq))

/-- No position that is left leads nowhere, so that going on only ends when none is left. -/
theorem InRange.size_of_done (h : c.InRange) (hn : c.next? = none) : c.size = 0 := by
  unfold next? at hn
  split at hn
  · next hp =>
    obtain ⟨hl, hw⟩ := nextPosition?_eq_none hp
    rw [size, hl, hw]
    rfl
  · next p literal wildcard hp =>
    have hlt : p < c.rules.length :=
      h p ((perm_of_nextPosition? hp).mem_iff.mp List.mem_cons_self)
    simp [List.getElem?_eq_getElem hlt] at hn

/-- As many candidates are announced as are still to come. -/
theorem InRange.size_eq (h : c.InRange) : c.size = c.toList.length := by
  fun_induction toList c with
  | case1 c hn => exact h.size_of_done hn
  | case2 c x d hn ih => rw [size_next hn, ih (h.next hn), List.length_cons]

theorem InRange.yields (h : c.InRange) (hy : c.Yields xs d) : d.InRange := by
  induction hy with
  | start => exact h
  | next hn _ ih => exact ih (h.next hn)

theorem lt_of_mem_positionsFrom {p : Nat} {test : Rule → Bool} {rules : List Rule}
    (h : p ∈ positionsFrom 0 test rules) : p < rules.length := by
  obtain ⟨e, he, rfl⟩ := List.mem_map.mp h
  simpa using List.snd_lt_of_mem_zipIdx (List.mem_filter.mp he).1

/-- The positions in an index are those of its rules. -/
theorem inRange_candidates (rules : List Rule) (revision : Nat) (subject : String) :
    ((RuleIndex.build rules revision).candidates subject).InRange := by
  rw [RuleIndex.candidates_build]
  intro p hp
  dsimp only at hp ⊢
  rcases List.mem_append.mp hp with hp | hp
  · exact lt_of_mem_positionsFrom hp
  · exact lt_of_mem_positionsFrom hp

end Candidates

/-- For every list of rules and every subject, the candidates are the rules whose patterns start
with a wildcard or with the first token of the subject, each of them once and in the order of the
list; a rule that accepts the subject is among them. Wherever one is in going through them, what has
come and what is left make up all of them, the next one is the first of those that are left, and as
many are left as are announced. -/
theorem RuleIndex.candidates_exact (rules : List Rule) (revision : Nat) (subject : String) :
    (∃ d, ((build rules revision).candidates subject).Yields
        (rules.filter fun x => x.pattern.first? = none ||
          x.pattern.first? = some (firstToken subject)) d ∧ d.next? = none) ∧
    (∀ x ∈ rules, ∀ text, SubjectPattern.parse text = .ok x.pattern →
      (x.pattern.first? = none ↔ x.pattern.startsWild = true)) ∧
    (∀ x ∈ rules, x.pattern.accepts subject = true →
      x ∈ rules.filter fun x => x.pattern.first? = none ||
        x.pattern.first? = some (firstToken subject)) ∧
    ∀ xs d, ((build rules revision).candidates subject).Yields xs d →
      xs ++ d.toList = (rules.filter fun x => x.pattern.first? = none ||
        x.pattern.first? = some (firstToken subject)) ∧
      d.next?.map (·.1) = d.toList.head? ∧
      d.size = d.toList.length := by
  have hall : ((build rules revision).candidates subject).toList =
      rules.filter fun x => x.pattern.first? = none ||
        x.pattern.first? = some (firstToken subject) := by
    rw [candidates_toList]
    exact List.filter_congr fun x _ => Bool.or_comm _ _
  have hrange := Candidates.inRange_candidates rules revision subject
  refine ⟨?_, fun x _ text h => SubjectPattern.first?_eq_none_iff h, fun x hx h => ?_,
    fun xs d h => ⟨?_, d.next?_fst, (hrange.yields h).size_eq⟩⟩
  · obtain ⟨d, hd, hnil⟩ := Candidates.exists_yields (hall.trans (List.append_nil _).symm)
    exact ⟨d, hd, Candidates.next?_eq_none_iff.mpr hnil⟩
  · rw [List.mem_filter]
    exact ⟨hx, (Bool.or_comm _ _).trans (SubjectPattern.mayAccept_of_accepts h)⟩
  · rw [← hall, h.toList_eq]

/-- A rule without a filter for a pattern. -/
def listening (id : String) (pattern : SubjectPattern) : Rule :=
  ⟨⟨id, pattern.source, .empty, none, [⟨"queue", "out", .empty⟩], none, none⟩, pattern, .always,
    [⟨"queue", ⟨"out", [.text "out"]⟩, []⟩], 1, .api⟩

/-- Rules for one subject, for some and for all, in no order. -/
def listeners : List Rule :=
  [listening "a" ⟨"orders.new", [.literal "orders", .literal "new"]⟩,
    listening "b" ⟨"*.new", [.one, .literal "new"]⟩,
    listening "c" ⟨"users.>", [.literal "users", .tail]⟩,
    listening "d" ⟨"orders.*", [.literal "orders", .one]⟩, listening "e" ⟨">", [.tail]⟩]

theorem RuleIndex.candidates_exact_listeners :
    (SubjectPattern.parse "*.new" = .ok ⟨"*.new", [.one, .literal "new"]⟩ ∧
      SubjectPattern.startsWild ⟨"*.new", [.one, .literal "new"]⟩ = true) ∧
    (∃ x ∈ (listeners.filter fun x => x.pattern.first? = none ||
      x.pattern.first? = some (firstToken "orders.new")), x.routeId = "d") ∧
    ∃ d, ((build listeners 7).candidates "orders.new").Yields (listeners.take 2) d ∧
      listeners.take 2 ++ d.toList = (listeners.filter fun x => x.pattern.first? = none ||
        x.pattern.first? = some (firstToken "orders.new")) ∧
      d.size = d.toList.length ∧ d.toList.map Rule.routeId = ["d", "e"] := by
  have hwild : SubjectPattern.parse "*.new" = .ok ⟨"*.new", [.one, .literal "new"]⟩ := rfl
  obtain ⟨-, hstarts, hmem, hleft⟩ := candidates_exact listeners 7 "orders.new"
  have hall : ((build listeners 7).candidates "orders.new").toList =
      listeners.take 2 ++ listeners.drop 3 := by
    rw [candidates_toList]
    rfl
  obtain ⟨d, hd, hrest⟩ := Candidates.exists_yields hall
  obtain ⟨heq, -, hsize⟩ := hleft _ d hd
  refine ⟨⟨hwild, (hstarts (listeners[1]) (by simp [listeners]) "*.new" hwild).mp rfl⟩,
    ⟨listeners[3], hmem _ (by simp [listeners]) (by decide +kernel), rfl⟩, d, hd, heq, hsize, ?_⟩
  rw [hrest]
  rfl

end Switchyard
