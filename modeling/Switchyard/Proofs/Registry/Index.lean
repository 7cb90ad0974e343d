import Switchyard.Registry.Index

/-!
# What the index finds

An index is built rule by rule. Where the identifiers of the rules are distinct, it has the position
of each of them and of nothing else. The candidates for a subject are the rules that the first token
of the subject does not rule out, in the order of the rules.

* `RuleIndex.position?_build`, `RuleIndex.find?_build`: what is found under an identifier.
* `RuleIndex.candidates_toList`: the candidates for a subject.
-/

namespace Switchyard

namespace RuleIndex

/-- Indexes rules with their positions, one after the other. -/
def addAll (index : RuleIndex) (l : List (Rule × Nat)) : RuleIndex :=
  l.foldl (fun index p => index.addRule p.1 p.2) index

theorem build_eq_addAll (rules : List Rule) (revision : Nat) :
    build rules revision = addAll ⟨rules, revision, [], [], []⟩ rules.zipIdx := rfl

/-! ## One rule more -/

section AddRule

variable (index : RuleIndex) (x : Rule) (p : Nat)

@[simp] theorem rules_addRule : (index.addRule x p).rules = index.rules := by
  unfold addRule
  cases x.pattern.first? <;> rfl

@[simp] theorem revision_addRule : (index.addRule x p).revision = index.revision := by
  unfold addRule
  cases x.pattern.first? <;> rfl

@[simp] theorem positions_addRule :
    (index.addRule x p).positions = Assoc.insert x.routeId p index.positions := by
  unfold addRule
  cases x.pattern.first? <;> rfl

theorem wildcardFirst_addRule : (index.addRule x p).wildcardFirst =
    index.wildcardFirst ++ if x.pattern.first? = none then [p] else [] := by
  unfold addRule
  cases x.pattern.first? <;> simp

/-- The positions under a first token. -/
def underToken (index : RuleIndex) (token : String) : List Nat :=
  (Assoc.find? token index.byFirstToken).getD []

theorem underToken_addRule (token : String) : (index.addRule x p).underToken token =
    index.underToken token ++ if x.pattern.first? = some token then [p] else [] := by
  unfold addRule underToken
  cases hx : x.pattern.first? with
  | none => simp
  | some first =>
    by_cases h : token = first
    · subst h
      simp [pushUnder, Assoc.find?_insert_self]
    · have hne : some first ≠ some token := fun he => h (Option.some.inj he).symm
      simp [pushUnder, Assoc.find?_insert_of_ne h, hne]

end AddRule

/-! ## All rules -/

theorem addAll_cons (index : RuleIndex) (x : Rule) (p : Nat) (l : List (Rule × Nat)) :
    index.addAll ((x, p) :: l) = (index.addRule x p).addAll l := rfl

theorem rules_addAll (index : RuleIndex) (l : List (Rule × Nat)) :
    (index.addAll l).rules = index.rules := by
  induction l generalizing index with
  | nil => rfl
  | cons e l ih => rw [addAll_cons, ih, rules_addRule]

theorem revision_addAll (index : RuleIndex) (l : List (Rule × Nat)) :
    (index.addAll l).revision = index.revision := by
  induction l generalizing index with
  | nil => rfl
  | cons e l ih => rw [addAll_cons, ih, revision_addRule]

@[simp] theorem rules_build (rules : List Rule) (revision : Nat) :
    (build rules revision).rules = rules := rules_addAll _ _

@[simp] theorem revision_build (rules : List Rule) (revision : Nat) :
    (build rules revision).revision = revision := revision_addAll _ _

/-- Rules of other identifiers do not change what is found under one. -/
theorem position?_addAll_of_ne {l : List (Rule × Nat)} {id : String}
    (h : ∀ e ∈ l, e.1.routeId ≠ id) (index : RuleIndex) :
    (index.addAll l).position? id = index.position? id := by
  induction l generalizing index with
  | nil => rfl
  | cons e l ih =>
    have ⟨he, hl⟩ := List.forall_mem_cons.mp h
    rw [addAll_cons, ih hl, position?, positions_addRule, Assoc.find?_insert_of_ne (Ne.symm he)]
    rfl

/-- If the identifiers are distinct, no later rule hides the position of one. -/
theorem position?_addAll_of_mem {l : List (Rule × Nat)}
    (hd : (l.map fun e => e.1.routeId).Nodup) {x : Rule} {p : Nat} (h : (x, p) ∈ l)
    (index : RuleIndex) : (index.addAll l).position? x.routeId = some p := by
  induction l generalizing index with
  | nil => cases h
  | cons e l ih =>
    rw [List.map_cons, List.nodup_cons] at hd
    rcases List.mem_cons.mp h with rfl | h
    · have hne : ∀ e ∈ l, e.1.routeId ≠ x.routeId :=
        fun e he heq => hd.1 (heq ▸ List.mem_map_of_mem he)
      rw [addAll_cons, position?_addAll_of_ne hne, position?, positions_addRule,
        Assoc.find?_insert_self]
    · rw [addAll_cons, ih hd.2 h]

theorem wildcardFirst_addAll (index : RuleIndex) (l : List (Rule × Nat)) :
    (index.addAll l).wildcardFirst =
      index.wildcardFirst ++ (l.filter fun e => e.1.pattern.first? = none).map (·.2) := by
  induction l generalizing index with
  | nil => simp [addAll]
  | cons e l ih =>
    rw [addAll_cons, ih, wildcardFirst_addRule, List.append_assoc]
    by_cases h : e.1.pattern.first? = none <;> simp [h]

theorem underToken_addAll (index : RuleIndex) (l : List (Rule × Nat)) (token : String) :
    (index.addAll l).underToken token =
      index.underToken token ++ (l.filter fun e => e.1.pattern.first? = some token).map (·.2) := by
  induction l generalizing index with
  | nil => simp [addAll]
  | cons e l ih =>
    rw [addAll_cons, ih, underToken_addRule, List.append_assoc]
    by_cases h : e.1.pattern.first? = some token <;> simp [h]

/-! ## Identifiers -/

section Identifiers

variable {rules : List Rule} {id : String}

/-- The position of an identifier is where its rule stands. -/
theorem position?_build (hd : (rules.map Rule.routeId).Nodup) (revision : Nat) {p : Nat} :
    (build rules revision).position? id = some p ↔ ∃ x, rules[p]? = some x ∧ x.routeId = id := by
  have hd' : (rules.zipIdx.map fun e => e.1.routeId).Nodup := by
    have hm : (rules.zipIdx.map fun e => e.1.routeId) = rules.map Rule.routeId := by
      rw [← List.zipIdx_map_fst 0 rules, List.map_map, List.zipIdx_map_fst]
      rfl
    rwa [hm]
  rw [build_eq_addAll]
  constructor
  · intro h
    by_cases hs : ∃ e ∈ rules.zipIdx, e.1.routeId = id
    · obtain ⟨⟨x, q⟩, hx, rfl⟩ := hs
      rw [position?_addAll_of_mem hd' hx] at h
      obtain rfl := Option.some.inj h
      exact ⟨x, List.mem_zipIdx_iff_getElem?.mp hx, rfl⟩
    · rw [position?_addAll_of_ne fun e he hid => hs ⟨e, he, hid⟩] at h
      cases h
  · rintro ⟨x, hx, rfl⟩
    exact position?_addAll_of_mem hd' (List.mem_zipIdx_iff_getElem?.mpr hx) _

theorem find?_build (hd : (rules.map Rule.routeId).Nodup) (revision : Nat) {x : Rule} :
    (build rules revision).find? id = some x ↔ x ∈ rules ∧ x.routeId = id := by
  rw [find?, Option.bind_eq_some_iff, rules_build]
  constructor
  · rintro ⟨p, hp, hx⟩
    obtain ⟨y, hy, rfl⟩ := (position?_build hd revision).mp hp
    rw [hx] at hy
    obtain rfl := Option.some.inj hy
    exact ⟨List.mem_of_getElem? hx, rfl⟩
  · rintro ⟨hx, hid⟩
    obtain ⟨p, hp⟩ := List.getElem?_of_mem hx
    exact ⟨p, (position?_build hd revision).mpr ⟨x, hp, hid⟩, hp⟩

end Identifiers

end RuleIndex

/-! ## Candidates -/

namespace Candidates

theorem toList_of_next {c d : Candidates} {x : Rule} (h : c.next? = some (x, d)) :
    c.toList = x :: d.toList := by
  rw [toList]
  split
  · next hn => cases hn.symm.trans h
  · next y e hn =>
    obtain ⟨rfl, rfl⟩ := Prod.mk.inj (Option.some.inj (hn.symm.trans h))
    rfl

theorem toList_of_done {c : Candidates} (h : c.next? = none) : c.toList = [] := by
  rw [toList]
  split
  · rfl
  · next y e hn => cases h.symm.trans hn

/-- The positions of the rules that pass a test, where the first rule has the position `k`. -/
def positionsFrom (k : Nat) (test : Rule → Bool) (rules : List Rule) : List Nat :=
  ((rules.zipIdx k).filter fun e => test e.1).map (·.2)

theorem positionsFrom_cons (k : Nat) (test : Rule → Bool) (x : Rule) (rules : List Rule) :
    positionsFrom k test (x :: rules) =
      if test x then k :: positionsFrom (k + 1) test rules
      else positionsFrom (k + 1) test rules := by
  unfold positionsFrom
  by_cases h : test x <;> simp [h]

theorem le_of_mem_positionsFrom {k p : Nat} {test : Rule → Bool} {rules : List Rule}
    (h : p ∈ positionsFrom k test rules) : k ≤ p := by
  obtain ⟨e, he, rfl⟩ := List.mem_map.mp h
  exact List.le_snd_of_mem_zipIdx (List.mem_filter.mp he).1

theorem nextPosition_left {k : Nat} {as bs : List Nat} (h : ∀ b ∈ bs, k < b) :
    nextPosition? (k :: as) bs = some (k, as, bs) := by
  cases bs with
  | nil => rfl
  | cons b bs => rw [nextPosition?, if_pos (h b List.mem_cons_self)]

theorem nextPosition_right {k : Nat} {as bs : List Nat} (h : ∀ a ∈ as, k < a) :
    nextPosition? as (k :: bs) = some (k, as, bs) := by
  cases as with
  | nil => rfl
  | cons a as => rw [nextPosition?, if_neg (Nat.lt_asymm (h a List.mem_cons_self))]

/-- Merging the positions of two kinds of rules yields the rules of either kind, in order. -/
theorem toList_positionsFrom (lit wild : Rule → Bool) (hx : ∀ x, lit x = true → wild x = false)
    (before rules : List Rule) :
    (Candidates.mk (before ++ rules) (positionsFrom before.length lit rules)
      (positionsFrom before.length wild rules)).toList = rules.filter fun x => lit x || wild x := by
  induction rules generalizing before with
  | nil => exact toList_of_done rfl
  | cons x rules ih =>
    -- Positions count from the start of the whole list, so the rule goes over to what lies before.
    have hrest := ih (before ++ [x])
    rw [List.append_assoc, List.singleton_append, List.length_append, List.length_singleton]
      at hrest
    have hget : (before ++ x :: rules)[before.length]? = some x := by simp
    rw [positionsFrom_cons, positionsFrom_cons]
    have hlt : ∀ test : Rule → Bool, ∀ p ∈ positionsFrom (before.length + 1) test rules,
        before.length < p := fun test p hp => le_of_mem_positionsFrom hp
    cases hl : lit x with
    | true =>
      rw [if_pos rfl, hx x hl, if_neg Bool.false_ne_true, List.filter_cons_of_pos (by simp [hl]),
        ← hrest]
      refine toList_of_next ?_
      rw [next?, nextPosition_left (hlt wild)]
      dsimp only
      rw [hget, Option.map_some]
    | false =>
      rw [if_neg Bool.false_ne_true]
      cases hw : wild x with
      | true =>
        rw [if_pos rfl, List.filter_cons_of_pos (by simp [hw]), ← hrest]
        refine toList_of_next ?_
        rw [next?, nextPosition_right (hlt lit)]
        dsimp only
        rw [hget, Option.map_some]
      | false =>
        rw [if_neg Bool.false_ne_true, List.filter_cons_of_neg (by simp [hl, hw]), hrest]

end Candidates

/-- The positions that the index has for a subject are those of the rules that start with its first
token, and of those that start with no literal. -/
theorem RuleIndex.candidates_build (rules : List Rule) (revision : Nat) (subject : String) :
    (build rules revision).candidates subject =
      ⟨rules,
        Candidates.positionsFrom 0 (fun x => x.pattern.first? = some (firstToken subject)) rules,
        Candidates.positionsFrom 0 (fun x => x.pattern.first? = none) rules⟩ := by
  have hl : (build rules revision).underToken (firstToken subject) =
      Candidates.positionsFrom 0 (fun x => x.pattern.first? = some (firstToken subject)) rules :=
    underToken_addAll _ _ _
  have hw : (build rules revision).wildcardFirst =
      Candidates.positionsFrom 0 (fun x => x.pattern.first? = none) rules :=
    wildcardFirst_addAll _ _
  rw [underToken] at hl
  rw [candidates, hl, hw, rules_build]

/-- The candidates for a subject are the rules whose patterns start with its first token or with a
wildcard, in their order. -/
theorem RuleIndex.candidates_toList (rules : List Rule) (revision : Nat) (subject : String) :
    ((build rules revision).candidates subject).toList = rules.filter fun x =>
      x.pattern.first? = some (firstToken subject) || x.pattern.first? = none := by
  rw [candidates_build]
  refine Candidates.toList_positionsFrom _ _ (fun x hx => ?_) [] rules
  rw [of_decide_eq_true hx]
  rfl

/-- No pattern that accepts a subject is ruled out by its first token. -/
theorem SubjectPattern.mayAccept_of_accepts {p : SubjectPattern} {subject : String}
    (h : p.accepts subject = true) :
    (p.first? = some (firstToken subject) || p.first? = none) = true := by
  cases hf : p.first? with
  | none => simp
  | some first =>
    have hfirst := first?_of_accepts h hf
    simp [hfirst]

end Switchyard
