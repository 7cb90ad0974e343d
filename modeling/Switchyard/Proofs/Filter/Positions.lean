import Switchyard.Proofs.Filter.Lowering

/-!
# Where the compiler's errors point

An expression that does not compile is refused at the offset of one of the expressions, paths and
predicates in it.

* `CompileFault.found?`: what a fault quotes of the text.
* `Expr.positions`: the offsets in an expression; its own is the first.
* `Blames`: a result that can be refused at given offsets only, with a rule for each way in which
  results are put together.
* `blames_lower`: what compiling an expression can be refused at.
-/

namespace Switchyard.Filter

/-- What stands at the place of a fault, if the text of the fault says so. -/
def CompileFault.found? : CompileFault → Option Found
  | .unexpected found | .expected _ found => some found
  | _ => none

/-- A message that quotes the text ends with what is quoted. -/
theorem CompileFault.exists_message {fault : CompileFault} {f : Found}
    (h : fault.found? = some f) : ∃ words, fault.message = words ++ f.describe := by
  cases fault with
  | unexpected found =>
    obtain rfl := Option.some.inj h
    exact ⟨_, rfl⟩
  | expected what found =>
    obtain rfl := Option.some.inj h
    exact ⟨_, rfl⟩
  | _ => cases h

/-! ## Offsets -/

mutual

/-- The offsets in an expression. -/
def Expr.positions : Expr → List Nat
  | .literal _ pos => [pos]
  | .path p | .existing p => [p.pos]
  | .neg e pos | .not e pos | .like e _ _ pos | .matching e _ _ pos | .isNull e _ pos =>
    pos :: e.positions
  | .and es => (Expr.and es).pos :: positionsAll es
  | .or es => (Expr.or es).pos :: positionsAll es
  | .compare _ l r pos => pos :: (l.positions ++ r.positions)
  | .between e low high _ pos => pos :: (e.positions ++ low.positions ++ high.positions)
  | .within e set _ pos => pos :: (e.positions ++ positionsAll set)
  | .call _ args pos => pos :: positionsArgs args

/-- The offsets in several expressions. -/
def positionsAll : List Expr → List Nat
  | [] => []
  | e :: es => e.positions ++ positionsAll es

/-- The offsets in an argument; a predicate has one of its own. -/
def Arg.positions : Arg → List Nat
  | .expr e => e.positions
  | .lambda _ body pos => pos :: body.positions

/-- The offsets in several arguments. -/
def positionsArgs : List Arg → List Nat
  | [] => []
  | a :: args => a.positions ++ positionsArgs args

end

theorem Expr.pos_mem_positions (e : Expr) : e.pos ∈ e.positions := by
  cases e <;> exact List.mem_cons_self

theorem positionsAll_subset {es : List Expr} {ps : List Nat} (h : ∀ e ∈ es, e.positions ⊆ ps) :
    positionsAll es ⊆ ps := by
  induction es with
  | nil => exact List.nil_subset ps
  | cons e es ih =>
    obtain ⟨he, hes⟩ := List.forall_mem_cons.mp h
    exact List.append_subset.mpr ⟨he, ih hes⟩

theorem positionsArgs_subset {args : List Arg} {ps : List Nat}
    (h : ∀ a ∈ args, a.positions ⊆ ps) : positionsArgs args ⊆ ps := by
  induction args with
  | nil => exact List.nil_subset ps
  | cons a args ih =>
    obtain ⟨ha, hargs⟩ := List.forall_mem_cons.mp h
    exact List.append_subset.mpr ⟨ha, ih hargs⟩

/-! ## Refusals -/

/-- If the result is an error, it points at one of the offsets and quotes nothing of the text. -/
def Blames {α : Type} (ps : List Nat) (x : Compiled α) : Prop :=
  ∀ e, x = .error e → e.position ∈ ps ∧ e.fault.found? = none

namespace Blames

open Compiled

variable {α β : Type} {ps qs : List Nat} {pos : Nat} {x : Compiled α}

theorem ok (a : α) : Blames ps (.ok a) := fun _ h => nomatch h

theorem fail {fault : CompileFault} (h : pos ∈ ps) (hf : fault.found? = none) :
    Blames ps (fail pos fault : Compiled α) := by
  rintro _ ⟨⟩
  exact ⟨h, hf⟩

theorem require {holds : Bool} {fault : CompileFault} (h : pos ∈ ps)
    (hf : fault.found? = none) : Blames ps (require holds pos fault) := by
  cases holds with
  | true => exact ok ()
  | false => exact fail h hf

theorem bind {f : α → Compiled β} (h : Blames ps x) (hf : ∀ a, Blames ps (f a)) :
    Blames ps (x >>= f) := by
  intro e he
  rcases bind_eq_error.mp he with he | ⟨a, -, he⟩
  · exact h e he
  · exact hf a e he

theorem mono (h : Blames ps x) (hsub : ps ⊆ qs) : Blames qs x :=
  fun e he => ⟨hsub (h e he).1, (h e he).2⟩

/-- Behind another list of offsets. -/
theorem behind (h : Blames ps x) (qs : List Nat) : Blames (qs ++ ps) x :=
  h.mono (List.subset_append_right _ _)

/-- In front of another list of offsets. -/
theorem before (h : Blames ps x) (qs : List Nat) : Blames (ps ++ qs) x :=
  h.mono (List.subset_append_left _ _)

theorem under (h : Blames ps x) (pos : Nat) : Blames (pos :: ps) x :=
  h.mono (List.subset_cons_self _ _)

end Blames

/-! ## The compiler -/

open Blames

section Steps

variable {ps : List Nat} {pos : Nat}

theorem blames_fold (h : pos ∈ ps) (n : Node) : Blames ps (fold n pos) := by
  unfold fold
  split
  · split
    · exact ok _
    · exact fail h rfl
  · exact ok _

theorem blames_resolve {p : Path} (h : p.pos ∈ ps) (scope : List String) :
    Blames ps (resolve scope p) := by
  unfold resolve
  split
  · exact ok _
  · split_ifs
    · exact ok _
    · exact ok _
    · exact ok _
    · exact fail h rfl
    · exact fail h rfl

theorem found?_of_check {f : Builtin} {types : List StaticType} {fault : CompileFault}
    (h : f.check types = .error fault) : fault.found? = none := by
  unfold Builtin.check at h
  split at h
  · cases h
  · rw [← Except.error.inj h]
    rfl

theorem blames_callNode (h : pos ∈ ps) (fs : HostFunctions) (name : String)
    (args : List Typed) : Blames ps (callNode fs name args pos) := by
  unfold callNode
  dsimp only
  split
  · next f _ =>
    refine (require h rfl).bind fun _ => ?_
    cases hc : f.check (args.map (·.2)) with
    | error fault => exact fail h (found?_of_check hc)
    | ok _ => exact (blames_fold h _).bind fun _ => ok _
  · split
    · exact (require h rfl).bind fun _ => ok _
    · exact fail h rfl

end Steps

variable (fs : HostFunctions)

mutual

/-- Compiling an expression is refused at one of its offsets, if it is. -/
theorem blames_lower (e : Expr) (scope : List String) :
    Blames e.positions (e.lower fs scope) := by
  cases e with
  | literal v pos => exact ok _
  | path p => exact (blames_resolve List.mem_cons_self scope).bind fun _ => ok _
  | existing p => exact (blames_resolve List.mem_cons_self scope).bind fun _ => ok _
  | neg e pos =>
    exact ((blames_lower e scope).under pos).bind fun _ =>
      (require List.mem_cons_self rfl).bind fun _ => blames_fold List.mem_cons_self _
  | not e pos =>
    exact ((blames_lower e scope).under pos).bind fun _ =>
      (require (List.mem_cons_of_mem _ e.pos_mem_positions) rfl).bind fun _ =>
        blames_fold List.mem_cons_self _
  -- An operand that is no truth value is refused at its own offset and not at that of the `AND`.
  | and es => exact (blames_operands true es [] scope).under _
  | or es => exact (blames_operands false es [] scope).under _
  | compare op l r pos =>
    have hl := ((blames_lower l scope).before r.positions).under pos
    have hr := ((blames_lower r scope).behind l.positions).under pos
    refine hl.bind fun _ => hr.bind fun _ => ?_
    dsimp only
    split
    · exact (require List.mem_cons_self rfl).bind fun _ => blames_fold List.mem_cons_self _
    · exact blames_fold List.mem_cons_self _
  | like e pattern negated pos =>
    exact ((blames_lower e scope).under pos).bind fun _ =>
      (require List.mem_cons_self rfl).bind fun _ => blames_fold List.mem_cons_self _
  | matching e pattern negated pos =>
    refine ((blames_lower e scope).under pos).bind fun _ =>
      (require List.mem_cons_self rfl).bind fun _ => ?_
    split
    · exact blames_fold List.mem_cons_self _
    · exact fail List.mem_cons_self rfl
  | between e low high negated pos =>
    have he := (((blames_lower e scope).before low.positions).before high.positions).under pos
    have hl := (((blames_lower low scope).behind e.positions).before high.positions).under pos
    have hh := ((blames_lower high scope).behind (e.positions ++ low.positions)).under pos
    exact he.bind fun _ => hl.bind fun _ => hh.bind fun _ =>
      (require List.mem_cons_self rfl).bind fun _ =>
        (require List.mem_cons_self rfl).bind fun _ =>
          (require List.mem_cons_self rfl).bind fun _ => blames_fold List.mem_cons_self _
  | within e set negated pos =>
    have he := ((blames_lower e scope).before (positionsAll set)).under pos
    have hs := ((blames_set set scope).behind e.positions).under pos
    exact he.bind fun _ => hs.bind fun _ => blames_fold List.mem_cons_self _
  | isNull e negated pos =>
    exact ((blames_lower e scope).under pos).bind fun _ => blames_fold List.mem_cons_self _
  | call name args pos =>
    rw [Expr.lower]
    split
    · split
      · next collection param body at_ _ =>
        have hcollection : collection.positions ⊆
            (Expr.call name [.expr collection, .lambda param body at_] pos).positions :=
          fun _ hp => List.mem_cons_of_mem _ (List.mem_append_left _ hp)
        have hbody : body.positions ⊆
            (Expr.call name [.expr collection, .lambda param body at_] pos).positions :=
          fun _ hp => List.mem_cons_of_mem _ (List.mem_append_right _ (List.mem_append_left _
            (List.mem_cons_of_mem _ hp)))
        exact ((blames_lower collection scope).mono hcollection).bind fun _ =>
          (require (hcollection collection.pos_mem_positions) rfl).bind fun _ =>
            ((blames_lower body (scope ++ [param])).mono hbody).bind fun _ =>
              (require (hbody body.pos_mem_positions) rfl).bind fun _ => ok _
      · exact fail List.mem_cons_self rfl
    · exact ((blames_args name args scope).under pos).bind fun _ =>
        blames_callNode List.mem_cons_self fs name _

theorem blames_operands (isAnd : Bool) (es : List Expr) (kept : List Node)
    (scope : List String) : Blames (positionsAll es) (lowerOperands fs isAnd es kept scope) := by
  cases es with
  | nil => exact ok _
  | cons e es =>
    have hpos : e.pos ∈ positionsAll (e :: es) := List.mem_append_left _ e.pos_mem_positions
    refine ((blames_lower e scope).before (positionsAll es)).bind fun _ =>
      (require hpos rfl).bind fun _ => ?_
    split
    · split
      · exact (blames_operands isAnd es kept scope).behind _
      · exact ok _
    · exact (blames_operands isAnd es _ scope).behind _

theorem blames_set (es : List Expr) (scope : List String) :
    Blames (positionsAll es) (lowerSet fs es scope) := by
  cases es with
  | nil => exact ok _
  | cons e es =>
    have hpos : e.pos ∈ positionsAll (e :: es) := List.mem_append_left _ e.pos_mem_positions
    refine ((blames_lower e scope).before (positionsAll es)).bind fun _ => ?_
    dsimp only
    split
    · exact ((blames_set es scope).behind _).bind fun _ => ok _
    · exact fail hpos rfl

theorem blames_args (name : String) (args : List Arg) (scope : List String) :
    Blames (positionsArgs args) (lowerArgs fs name args scope) := by
  match args with
  | [] => exact ok _
  | .expr e :: args =>
    exact ((blames_lower e scope).before (positionsArgs args)).bind fun _ =>
      ((blames_args name args scope).behind _).bind fun _ => ok _
  | .lambda _ _ pos :: _ => exact fail List.mem_cons_self rfl

end

end Switchyard.Filter
