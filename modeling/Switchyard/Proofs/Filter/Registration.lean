import Switchyard.Proofs.Filter.Settings

/-!
# More host functions

A router that comes to know more host functions goes on to read its filters the same way. Functions
are looked up by name only behind the names of the language itself, which a registry refuses.

* `IsOwnName`: the names to which the language gives a meaning. `isReserved_iff` says that a
  registry refuses these and `lower_call_ne_host` that a call of one is never a call of a host
  function.
* `registration_conservative`: registrations under new names change no filter that compiles.
-/

namespace Switchyard.Filter

/-- The language itself gives the name a meaning: as a built-in function, or as a quantifier with
some number of arguments. -/
def IsOwnName (name : String) : Prop :=
  (Builtin.ofName? name).isSome = true ∨ ∃ args, (quantifierOf? name args).isSome = true

/-- The quantifier that can be left out for a number of arguments is a built-in function as well. -/
theorem quantifierOf?_eq_ofName? {name : String} (h : Builtin.ofName? name = none) (args : Nat) :
    quantifierOf? name args = Quantifier.ofName? name := by
  unfold quantifierOf?
  cases hq : Quantifier.ofName? name with
  | none => rfl
  | some q =>
    have hname : q.name = name := by simpa using List.find?_some hq
    subst hname
    cases q with
    | any => rfl
    | all => rfl
    | count => exact absurd h (by decide)

theorem isReserved_iff {name : String} :
    HostFunctions.isReserved name = true ↔ IsOwnName name := by
  unfold HostFunctions.isReserved IsOwnName
  cases h : Builtin.ofName? name with
  | some f => simp
  | none => simp [quantifierOf?_eq_ofName? h]

theorem register_own {f : HostFunction} (h : IsOwnName f.name) (fs : HostFunctions) :
    fs.register f = .error (.reserved f.name) := by
  rw [HostFunctions.register, if_pos (isReserved_iff.mpr h)]

/-- A call of a name of the language does not become a call of a host function, whatever is
registered. -/
theorem lower_call_ne_host {fs : HostFunctions} {scope : List String} {name : String}
    {args : List Arg} {pos : Nat} {res : Typed} (hname : IsOwnName name)
    (h : (Expr.call name args pos).lower fs scope = .ok res) (f : HostFunction) (ns : List Node) :
    res.1 ≠ .host f ns := by
  cases hk : quantifierOf? name args.length with
  | some kind =>
    obtain ⟨_, _, _, _, _, _, _, _, -, -, -, -, -, rfl⟩ := (lower_quantifier hk).mp h
    exact nofun
  | none =>
    obtain ⟨ts, -, hn⟩ := (lower_call hk).mp h
    rcases callNode_eq_ok.mp hn with ⟨g, -, -, -, n, t, hf, rfl⟩ | ⟨hbuiltin, -⟩
    · rcases fold_eq_ok.mp hf with ⟨-, v, -, rfl, -⟩ | ⟨-, rfl, -⟩
      · exact nofun
      · exact nofun
    · -- then the name is that of a quantifier, and would be one here
      rw [quantifierOf?_eq_ofName? hbuiltin] at hk
      rcases hname with hbuiltin' | ⟨n, hquantifier⟩
      · rw [hbuiltin] at hbuiltin'
        cases hbuiltin'
      · rw [quantifierOf?_eq_ofName? hbuiltin, hk] at hquantifier
        cases hquantifier

/-- Registrations change what is found under their own names only. -/
theorem find?_foldlM_register {more : List HostFunction} {fs fs' : HostFunctions} {name : String}
    (h : more.foldlM HostFunctions.register fs = .ok fs') (hname : ∀ f ∈ more, name ≠ f.name) :
    fs'.find? name = fs.find? name := by
  induction more generalizing fs with
  | nil =>
    obtain rfl := Except.ok.inj h
    rfl
  | cons f more ih =>
    obtain ⟨hf, hmore⟩ := List.forall_mem_cons.mp hname
    rw [List.foldlM_cons] at h
    obtain ⟨mid, hmid, hrest⟩ := bind_eq_ok.mp h
    rw [ih hrest hmore, HostFunctions.find?_register_of_ne hmid hf]

theorem patterns_foldlM_register {more : List HostFunction} {fs fs' : HostFunctions}
    (h : more.foldlM HostFunctions.register fs = .ok fs') : fs'.patterns = fs.patterns := by
  induction more generalizing fs with
  | nil =>
    obtain rfl := Except.ok.inj h
    rfl
  | cons f more ih =>
    rw [List.foldlM_cons] at h
    obtain ⟨mid, hmid, hrest⟩ := bind_eq_ok.mp h
    rw [ih hrest, HostFunctions.patterns_register hmid]

/-- A text compiles to the same wherever patterns mean the same and the functions that it calls are
the same. -/
theorem compile_elsewhere {fs fs' : HostFunctions} {source : String}
    (hpatterns : fs'.patterns = fs.patterns)
    (h : ∀ ast, parse source = .ok ast → ∀ name, .function name ∈ ast.mentions →
      ∀ f, fs.find? name = some f → fs'.find? name = some f)
    {x : Expression} (hx : compile fs source = .ok x) : compile fs' source = .ok x := by
  obtain ⟨ast, root, t, hparse, hlower, ht, rfl⟩ := compile_eq_ok.mp hx
  have hagrees : Agrees ⟨fs, []⟩ ⟨fs', []⟩ ast.mentions :=
    ⟨hpatterns.symm, rfl, fun _ _ => rfl, h ast hparse⟩
  exact compile_eq_ok.mpr ⟨ast, root, t, hparse, carries_of_agrees ast hagrees _ hlower, ht, rfl⟩

/-- After any number of registrations under names that had no function, every text that compiled
compiles to the same tree. The names of the language are refused, and a call of one is never a call
of a host function. -/
theorem registration_conservative {fs fs' : HostFunctions} {more : List HostFunction}
    (hnew : ∀ f ∈ more, fs.find? f.name = none)
    (h : more.foldlM HostFunctions.register fs = .ok fs') :
    (∀ source x, compile fs source = .ok x → compile fs' source = .ok x) ∧
      (∀ f : HostFunction, IsOwnName f.name → fs'.register f = .error (.reserved f.name)) ∧
      ∀ name args pos scope res, IsOwnName name →
        (Expr.call name args pos).lower fs' scope = .ok res → ∀ f ns, res.1 ≠ .host f ns := by
  refine ⟨fun source x => compile_elsewhere (patterns_foldlM_register h) fun _ _ name _ f hf => ?_,
    fun f hf => register_own hf fs',
    fun name args pos scope res hname => lower_call_ne_host hname⟩
  rw [find?_foldlM_register h fun g hg hname => ?_, hf]
  rw [hname, hnew g hg] at hf
  cases hf

/-- A filter with a host function, a built-in function and `count` in both its forms. -/
def screened : String :=
  "screened() AND count(payload.items) > count(payload.items, i => length(i) > 2)"

/-- More functions, one of them in two versions. -/
def scoring : List HostFunction :=
  [.constantly "score" (.bool true), .constantly "rank" .null, .constantly "score" (.string "high")]

theorem registration_conservative_screened :
    ∃ fs fs' x, HostFunctions.empty.register (.constantly "screened" (.bool true)) = .ok fs ∧
      scoring.foldlM HostFunctions.register fs = .ok fs' ∧
      compile fs screened = .ok x ∧ compile fs' screened = .ok x ∧
      fs'.register (.constantly "count" .null) = .error (.reserved "count") ∧
      ∀ scope res, (Expr.call "count" [.expr (.path ⟨"payload", [], 0⟩)] 0).lower fs' scope =
        .ok res → ∀ f ns, res.1 ≠ .host f ns := by
  let fs : HostFunctions := ⟨[("screened", .constantly "screened" (.bool true))], .standard⟩
  have hcompiles : ∃ x, compile fs screened = .ok x := exists_eq_ok (by decide +kernel)
  have hregisters : ∃ fs', scoring.foldlM HostFunctions.register fs = .ok fs' :=
    exists_eq_ok (by decide +kernel)
  have hnew : ∀ f ∈ scoring, fs.find? f.name = none := by
    simp [fs, scoring, HostFunction.constantly, HostFunctions.find?, Assoc.find?]
  have hcount : IsOwnName "count" := .inr ⟨2, rfl⟩
  obtain ⟨x, hx⟩ := hcompiles
  obtain ⟨fs', hfs'⟩ := hregisters
  obtain ⟨hsame, hreserved, hown⟩ := registration_conservative hnew hfs'
  exact ⟨fs, fs', x, rfl, hfs', hx, hsame _ _ hx, hreserved _ hcount,
    fun scope res => hown _ _ _ scope res hcount⟩

end Switchyard.Filter
