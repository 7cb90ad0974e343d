import Switchyard.Rule.Basic

/-!
# The rule list and its index

The rules in their order, with what finds some of them fast: the position of every identifier, and
for every first token the positions of the rules whose patterns start with it. Patterns that start
with a wildcard may accept any subject and are listed apart.

The candidates for a subject come from two lists of positions, both in increasing order. Merging
them yields the rules in their own order.
-/

namespace Switchyard

/-- The rules at one revision, indexed. -/
structure RuleIndex where
  rules : List Rule
  revision : Nat
  positions : List (String × Nat)
  byFirstToken : List (String × List Nat)
  wildcardFirst : List Nat

namespace RuleIndex

/-- The index of no rules. -/
def empty : RuleIndex := ⟨[], 0, [], [], []⟩

instance : Inhabited RuleIndex := ⟨empty⟩

/-- Puts a position at the end of the list under a key. -/
def pushUnder (key : String) (position : Nat) (m : List (String × List Nat)) :
    List (String × List Nat) :=
  Assoc.insert key ((Assoc.find? key m).getD [] ++ [position]) m

/-- Indexes one rule more. -/
def addRule (index : RuleIndex) (rule : Rule) (position : Nat) : RuleIndex :=
  let index := { index with positions := Assoc.insert rule.routeId position index.positions }
  match rule.pattern.first? with
  | some token =>
    { index with byFirstToken := pushUnder token position index.byFirstToken }
  | none => { index with wildcardFirst := index.wildcardFirst ++ [position] }

/-- The index of a list of rules. -/
def build (rules : List Rule) (revision : Nat) : RuleIndex :=
  rules.zipIdx.foldl (fun index p => index.addRule p.1 p.2) ⟨rules, revision, [], [], []⟩

/-- How many rules there are. -/
def size (index : RuleIndex) : Nat := index.rules.length

/-- The position of a rule. -/
def position? (index : RuleIndex) (routeId : String) : Option Nat :=
  Assoc.find? routeId index.positions

/-- The rule with an identifier. -/
def find? (index : RuleIndex) (routeId : String) : Option Rule :=
  (index.position? routeId).bind fun p => index.rules[p]?

end RuleIndex

/-- The candidates that are still to come: positions of rules, in two increasing lists. -/
structure Candidates where
  rules : List Rule
  literal : List Nat
  wildcard : List Nat

namespace Candidates

/-- How many candidates are still to come. -/
def size (c : Candidates) : Nat := c.literal.length + c.wildcard.length

/-- The next position, with the positions behind it. -/
def nextPosition? : List Nat → List Nat → Option (Nat × List Nat × List Nat)
  | a :: as, b :: bs => if a < b then some (a, as, b :: bs) else some (b, a :: as, bs)
  | [], b :: bs => some (b, [], bs)
  | a :: as, [] => some (a, as, [])
  | [], [] => none

theorem length_nextPosition {as bs cs ds : List Nat} {p : Nat}
    (h : nextPosition? as bs = some (p, cs, ds)) :
    as.length + bs.length = cs.length + ds.length + 1 := by
  unfold nextPosition? at h
  split at h
  · split at h
    · cases h
      simp only [List.length_cons]
      omega
    · cases h
      simp only [List.length_cons]
      omega
  · cases h
    simp
  · cases h
    simp
  · cases h

/-- The next candidate, with those behind it. -/
def next? (c : Candidates) : Option (Rule × Candidates) :=
  match nextPosition? c.literal c.wildcard with
  | none => none
  | some (p, literal, wildcard) =>
    (c.rules[p]?).map fun rule => (rule, { c with literal, wildcard })

theorem size_next {c d : Candidates} {rule : Rule} (h : c.next? = some (rule, d)) :
    c.size = d.size + 1 := by
  unfold next? at h
  split at h
  next => simp at h
  next p literal wildcard hp =>
    obtain ⟨r, _, hr⟩ := Option.map_eq_some_iff.mp h
    simp only [Prod.mk.injEq] at hr
    obtain ⟨_, rfl⟩ := hr
    exact length_nextPosition hp

/-- All candidates that are still to come, in order. -/
def toList (c : Candidates) : List Rule :=
  match _h : c.next? with
  | none => []
  | some (rule, rest) => rule :: rest.toList
termination_by c.size
decreasing_by
  have := size_next _h
  omega

end Candidates

/-- The rules that may accept a subject, in their order. -/
def RuleIndex.candidates (index : RuleIndex) (subject : String) : Candidates :=
  ⟨index.rules, (Assoc.find? (firstToken subject) index.byFirstToken).getD [],
    index.wildcardFirst⟩

end Switchyard
