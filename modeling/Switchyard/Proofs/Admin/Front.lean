import Switchyard.Admin.Api
import Switchyard.Proofs.Admin.Requests
import Switchyard.Proofs.Registry.Commands
import Switchyard.Proofs.Routing.FullScan

/-!
# The control interface is a front of the registry

A request with the key gives a command to the registry, which answers it, or looks at what the
router knows. A request without the key learns nothing and does nothing.

* `respond_of_denied`, `respond_of_command`, `respond_of_read`: what requests are answered and do.
* `status_eq_created` and its companions: which status stands for which result of a command.
* `Faithful`, `faithful_session`: what holds of every request in any sequence of them, and what
  becomes of the registry.
-/

namespace Switchyard.Admin

open Registry (Settles InForce SameRules)

variable {fs : Filter.HostFunctions} {key : String} {r : Router} {req : Request} {now : Instant}
  {c : RuleCommand} {a : Action}

/-- The answer to a command that has come to a result. -/
def Response.ofResult : Except RegistryError CommandOutcome → Response
  | .ok o => .outcome o
  | .error e => .failed e

/-- Whether a status is one of success. -/
def Response.isSuccess (a : Response) : Bool := 200 ≤ a.status && a.status < 300

/-! ## What requests do -/

/-- A request without the key is answered the same whatever the router has, and does nothing. -/
theorem respond_of_denied (h : req.isAuthorized key = false) (r : Router) (now : Instant) :
    respond key r req now = (⟨401, none⟩, r) := by
  rw [respond, action_of_denied h]
  rfl

/-- A command is answered by what it comes to, and does what it does to the registry. -/
theorem respond_of_command (h : req.command? key = some c) (r : Router) (now : Instant) :
    respond key r req now = (.ofResult (r.registry.apply c now).1,
      { r with registry := (r.registry.apply c now).2 }) := by
  have happlied : applied r c now = (.ofResult (r.registry.apply c now).1,
      { r with registry := (r.registry.apply c now).2 }) := by
    unfold applied
    split
    · next ha => rw [ha]; rfl
    · next ha => rw [ha]; rfl
  -- The methods of commands are not `HEAD`, so the answer keeps its document.
  obtain ⟨hkey, hasks | ⟨routeId, hasks, rfl⟩⟩ := Request.command?_eq_some.mp h
  · have hpost : req.method = "POST" := hasks.2.1
    rw [respond, Request.action_eq_ok.mpr ⟨hkey, hasks⟩]
    dsimp only [perform]
    rw [happlied, if_neg (by rw [hpost]; decide)]
  · have haction := Request.action_eq_ok.mpr ⟨hkey, hasks⟩
    obtain ⟨text, hpath, hdelete, hid⟩ := hasks
    rw [respond, haction]
    dsimp only [perform]
    rw [happlied, if_neg (by rw [hdelete]; decide)]

/-- An answer to `HEAD` loses its document only. -/
theorem respond_of_ok (h : req.action key = .ok a) (r : Router) (now : Instant) :
    (respond key r req now).1.status = (perform r a now).1.status ∧
      (respond key r req now).2 = (perform r a now).2 := by
  rw [respond, h]
  dsimp only
  split
  · exact ⟨rfl, rfl⟩
  · exact ⟨rfl, rfl⟩

/-- A request that is not a command and not refused leaves the router as it is, but for the counts
of an event that is tried out. -/
theorem respond_of_read (h : req.action key = .ok a) (hread : a.command? = none) (r : Router)
    (now : Instant) : (respond key r req now).2 = r ∨ ∃ e, a = .tryOut e ∧
      (respond key r req now).2 = r.after (r.registry.matchEvent e r.budget now).2 := by
  rw [(respond_of_ok h r now).2]
  cases a with
  | status | list | stats => exact .inl rfl
  | get id =>
    unfold perform
    dsimp only
    split
    · exact .inl rfl
    · exact .inl rfl
  | tryOut e => exact .inr ⟨e, rfl, rfl⟩
  | command c | delete id => cases hread

/-! ## Statuses -/

section Status

variable {registry : Registry} {result : Except RegistryError CommandOutcome}

theorem errorStatus_of_isDefinitionError {e : RegistryError} (h : e.isDefinitionError = true) :
    errorStatus e = 422 := by
  cases e with
  | duplicateRoute id | routeNotFound id => cases h
  | invalidPattern id e | filterRejected id e | invalidRule id e | invalidTemplate id e => rfl

theorem status_of_invalid {s : RuleSpec} {e : RegistryError}
    (h : Rule.compile registry.functions s .api now = .error e) :
    (Response.ofResult (.error e)).status = 422 :=
  errorStatus_of_isDefinitionError (Rule.isDefinitionError_of_compile h)

theorem not_compiles_of_invalid {s : RuleSpec} {e : RegistryError}
    (h : Rule.compile registry.functions s .api now = .error e) : ¬registry.Compiles s now := by
  rintro ⟨x, hx⟩
  rw [h] at hx
  cases hx

theorem isSuccess_ofResult (h : Settles registry now c result) :
    (Response.ofResult result).isSuccess = result.isOk := by
  cases h with
  | invalid hs h =>
    rw [Response.isSuccess, status_of_invalid h]
    rfl
  | duplicate | added | replaced | updated | notInForce | removed | absent => rfl

/-- A rule has been created if the definition compiles and no rule in force had its identifier. -/
theorem status_eq_created (h : Settles registry now c result) :
    (Response.ofResult result).status = 201 ↔ ∃ s replace, c = .add s replace ∧
      registry.Compiles s now ∧ ¬InForce registry.rules s.routeId now := by
  cases h with
  | invalid hs h =>
    rw [status_of_invalid h]
    refine iff_of_false (by decide) ?_
    rintro ⟨s, replace, rfl, hc, -⟩
    obtain rfl := Option.some.inj hs
    exact not_compiles_of_invalid h hc
  | added hs h => exact iff_of_true rfl ⟨_, _, rfl, hs, h⟩
  | duplicate hs h | replaced hs h =>
    refine iff_of_false nofun ?_
    rintro ⟨_, _, ⟨⟩, -, hno⟩
    exact hno h
  | updated | notInForce | removed | absent => exact iff_of_false nofun nofun

/-- An addition is in conflict with a rule in force. -/
theorem status_eq_conflict (h : Settles registry now c result) :
    (Response.ofResult result).status = 409 ↔ ∃ s, c = .add s false ∧
      registry.Compiles s now ∧ InForce registry.rules s.routeId now := by
  cases h with
  | invalid hs h =>
    rw [status_of_invalid h]
    refine iff_of_false (by decide) ?_
    rintro ⟨s, rfl, hc, -⟩
    obtain rfl := Option.some.inj hs
    exact not_compiles_of_invalid h hc
  | duplicate hs h => exact iff_of_true rfl ⟨_, rfl, hs, h⟩
  | added hs h =>
    refine iff_of_false nofun ?_
    rintro ⟨_, ⟨⟩, -, hforce⟩
    exact h hforce
  | replaced | updated | notInForce | removed | absent => exact iff_of_false nofun nofun

/-- There is no rule in force to be updated, or none to be removed. -/
theorem status_eq_notFound (h : Settles registry now c result) :
    (Response.ofResult result).status = 404 ↔
      (∃ s, c = .update s ∧ registry.Compiles s now ∧ ¬InForce registry.rules s.routeId now) ∨
        ∃ id, c = .remove id ∧ ∀ x ∈ registry.rules, x.routeId ≠ id := by
  cases h with
  | invalid hs h =>
    rw [status_of_invalid h]
    refine iff_of_false (by decide) ?_
    rintro (⟨s, rfl, hc, -⟩ | ⟨id, rfl, -⟩)
    · obtain rfl := Option.some.inj hs
      exact not_compiles_of_invalid h hc
    · cases hs
  | notInForce hs h => exact iff_of_true rfl (.inl ⟨_, rfl, hs, h⟩)
  | absent h => exact iff_of_true rfl (.inr ⟨_, rfl, h⟩)
  | updated hs h =>
    refine iff_of_false nofun ?_
    rintro (⟨_, ⟨⟩, -, hno⟩ | ⟨_, ⟨⟩, -⟩)
    exact hno h
  | removed h =>
    obtain ⟨x, hx, hid⟩ := h
    refine iff_of_false nofun ?_
    rintro (⟨_, ⟨⟩, -⟩ | ⟨_, ⟨⟩, hno⟩)
    exact hno x hx hid
  | duplicate | added | replaced =>
    refine iff_of_false nofun ?_
    rintro (⟨_, ⟨⟩, -⟩ | ⟨_, ⟨⟩, -⟩)

/-- The definition of the command does not compile. -/
theorem status_eq_invalid (h : Settles registry now c result) :
    (Response.ofResult result).status = 422 ↔
      ∃ s, c.spec? = some s ∧ ¬registry.Compiles s now := by
  cases h with
  | invalid hs h => exact iff_of_true (status_of_invalid h) ⟨_, hs, not_compiles_of_invalid h⟩
  | duplicate hs | added hs | replaced hs | updated hs | notInForce hs =>
    refine iff_of_false nofun ?_
    rintro ⟨_, ⟨⟩, hno⟩
    exact hno hs
  | removed | absent => exact iff_of_false nofun nofun

theorem status_ne_denied (h : Settles registry now c result) :
    (Response.ofResult result).status ≠ 401 := by
  cases h with
  | invalid hs h =>
    rw [status_of_invalid h]
    decide
  | duplicate | added | replaced | updated | notInForce | removed | absent => nofun

end Status

theorem isSuccess_refused (why : Refusal) : (Response.refused why).isSuccess = false := by
  cases why <;> rfl

/-- A request with the key is answered by something else than that it lacks the key. -/
theorem status_of_authorized (hd : Registry.Distinct r.registry.rules)
    (hkey : req.isAuthorized key = true) (now : Instant) :
    (respond key r req now).1.status ≠ 401 := by
  cases ha : req.action key with
  | error why =>
    have hwhy : why ≠ .unauthorized :=
      ne_unauthorized_of_authorizedAction ((action_of_authorized hkey).symm.trans ha)
    rw [respond, ha]
    -- Of all refusals only the missing key is answered with 401.
    cases why with
    | unauthorized => exact absurd rfl hwhy
    | unknownPath | wrongMethod | badPathText | unsupportedBody | malformedBody
    | mismatchedBody => nofun
  | ok a =>
    cases hc : a.command? with
    | some c =>
      rw [respond_of_command (command?_of_action ha hc)]
      exact status_ne_denied (Registry.settles_apply hd c now)
    | none =>
      rw [(respond_of_ok ha r now).1]
      cases a with
      | status | list | stats | tryOut e => nofun
      | get id =>
        unfold perform
        dsimp only
        split
        · nofun
        · nofun
      | command c | delete id => cases hc

/-! ## Histories -/

theorem reachable_tryOut (h : r.registry.Reachable fs) (event : Event) (now : Instant) :
    (r.after (r.registry.matchEvent event r.budget now).2).registry.Reachable fs := by
  have hstep := Registry.Step.decide (r := r.registry) event r.budget now fun _ => false
  rw [Registry.routeCancellable_of_never] at hstep
  exact h.step hstep

/-- Requests lead from reachable registries to reachable ones. -/
theorem reachable_respond (h : r.registry.Reachable fs) (key : String) (req : Request)
    (now : Instant) : (respond key r req now).2.registry.Reachable fs := by
  cases ha : req.action key with
  | error why =>
    rw [respond, ha]
    exact h
  | ok a =>
    cases hc : a.command? with
    | some c =>
      rw [respond_of_command (command?_of_action ha hc)]
      exact h.step (.perform (.apply c) now)
    | none =>
      rcases respond_of_read ha hc r now with hr | ⟨e, -, hr⟩
      · rw [hr]
        exact h
      · rw [hr]
        exact reachable_tryOut h e now

theorem reachable_build (config : Config.RouterConfig) (fs : Filter.HostFunctions)
    (forwarders : Forwarders) (now : Instant) :
    (Router.build config fs forwarders now).registry.Reachable fs :=
  .step .empty (.perform (.reconcile config.rules) now)

/-! ## Sequences of requests -/

/-- A request at a time, its answer, and the router before and after it. -/
structure Exchange where
  request : Request
  now : Instant
  before : Router
  response : Response
  after : Router

/-- The exchange in which a router answers a request. -/
def exchange (key : String) (r : Router) (req : Request) (now : Instant) : Exchange :=
  ⟨req, now, r, (respond key r req now).1, (respond key r req now).2⟩

/-- The exchanges in which a router answers requests, one after the other. -/
def session (key : String) : Router → List (Request × Instant) → List Exchange
  | _, [] => []
  | r, (req, now) :: rest => exchange key r req now :: session key (respond key r req now).2 rest

/-- The router after it has answered requests. -/
def served (key : String) (r : Router) (requests : List (Request × Instant)) : Router :=
  requests.foldl (fun r q => (respond key r q.1 q.2).2) r

/-- The commands that requests give, with their times. -/
def commands (key : String) (requests : List (Request × Instant)) : List (RuleCommand × Instant) :=
  requests.filterMap fun q => (q.1.command? key).map (·, q.2)

/-- The registry after commands. -/
def carriedOut (registry : Registry) (cs : List (RuleCommand × Instant)) : Registry :=
  cs.foldl (fun registry c => (registry.apply c.1 c.2).2) registry

/-- What an exchange is in which a command is given. -/
structure Executes (c : RuleCommand) (x : Exchange) : Prop where
  /-- The registry carries out the command, and nothing else is touched. -/
  result : x.response = .ofResult (x.before.registry.apply c x.now).1
  after : x.after = { x.before with registry := (x.before.registry.apply c x.now).2 }
  success : x.response.isSuccess = true ↔
    x.after.registry.revision = x.before.registry.revision + 1
  /-- A command that is refused leaves the rules and the revision as they are. -/
  unchanged : x.response.isSuccess = false → x.after.registry.index = x.before.registry.index
  created : x.response.status = 201 ↔ ∃ s replace, c = .add s replace ∧
    x.before.registry.Compiles s x.now ∧ ¬InForce x.before.registry.rules s.routeId x.now
  conflict : x.response.status = 409 ↔ ∃ s, c = .add s false ∧
    x.before.registry.Compiles s x.now ∧ InForce x.before.registry.rules s.routeId x.now
  notFound : x.response.status = 404 ↔
    (∃ s, c = .update s ∧ x.before.registry.Compiles s x.now ∧
      ¬InForce x.before.registry.rules s.routeId x.now) ∨
    ∃ id, c = .remove id ∧ ∀ y ∈ x.before.registry.rules, y.routeId ≠ id
  invalid : x.response.status = 422 ↔
    ∃ s, c.spec? = some s ∧ ¬x.before.registry.Compiles s x.now

/-- What every exchange is. -/
structure Faithful (key : String) (x : Exchange) : Prop where
  /-- A request without the key does nothing, and the answer is the same from any router. -/
  denied : x.request.authorization ≠ some ("Bearer " ++ key) →
    x.response = ⟨401, none⟩ ∧ x.after = x.before ∧
      ∀ r time, respond key r x.request time = (x.response, r)
  /-- No request with the key is denied, if the key can stand in a header. -/
  granted : x.request.authorization = some ("Bearer " ++ key) →
    isHeaderText ("Bearer " ++ key) = true → x.response.status ≠ 401
  /-- A request that asks for nothing that there is does nothing. -/
  refused : ∀ why, x.request.action key = .error why →
    x.response = .refused why ∧ x.response.isSuccess = false ∧ x.after = x.before
  executes : ∀ c, x.request.command? key = some c → Executes c x
  /-- Reads do nothing, and an event that is tried out is counted. -/
  read : ∀ a, x.request.action key = .ok a → a.command? = none →
    x.after.registry.index = x.before.registry.index ∧
      ((∀ e, a ≠ .tryOut e) → x.after = x.before)

theorem executes_exchange (h : r.registry.Reachable fs) (hc : req.command? key = some c)
    (now : Instant) : Executes c (exchange key r req now) := by
  have hd := h.coherent.distinct
  have hsettles := Registry.settles_apply hd c now
  unfold exchange
  rw [respond_of_command hc]
  constructor
  case result => rfl
  case after => rfl
  case success =>
    dsimp only
    rw [isSuccess_ofResult hsettles]
    exact Registry.isOk_apply_iff hd c now
  case unchanged =>
    intro hno
    dsimp only at hno ⊢
    rw [isSuccess_ofResult hsettles] at hno
    cases he : (r.registry.apply c now).1 with
    | error e => exact Registry.index_apply_of_error c now he
    | ok o =>
      rw [he] at hno
      cases hno
  case created => exact status_eq_created hsettles
  case conflict => exact status_eq_conflict hsettles
  case notFound => exact status_eq_notFound hsettles
  case invalid => exact status_eq_invalid hsettles

theorem faithful_exchange (h : r.registry.Reachable fs) (key : String) (req : Request)
    (now : Instant) : Faithful key (exchange key r req now) := by
  constructor
  case denied =>
    intro hno
    have hkey : req.isAuthorized key = false :=
      Bool.eq_false_iff.mpr fun hkey => hno (Request.isAuthorized_iff.mp hkey).1
    unfold exchange
    rw [respond_of_denied hkey]
    exact ⟨rfl, rfl, respond_of_denied hkey⟩
  case granted =>
    intro hauth hheader
    exact status_of_authorized h.coherent.distinct
      (Request.isAuthorized_iff.mpr ⟨hauth, hheader⟩) now
  case refused =>
    intro why ha
    change req.action key = .error why at ha
    unfold exchange
    rw [respond, ha]
    exact ⟨rfl, isSuccess_refused why, rfl⟩
  case executes => exact fun c hc => executes_exchange h hc now
  case read =>
    intro a ha hread
    rcases respond_of_read ha hread r now with hr | ⟨e, he, hr⟩
    · exact ⟨congrArg (·.registry.index) hr, fun _ => hr⟩
    · exact ⟨congrArg (·.registry.index) hr, fun hno => absurd he (hno e)⟩

/-- Of all requests, those that give commands change the rules, in the way in which the commands do
without the interface. -/
theorem sameRules_respond {registry : Registry} (h : SameRules r.registry registry) (key : String)
    (req : Request) (now : Instant) :
    SameRules (respond key r req now).2.registry
      (match req.command? key with
        | some c => (registry.apply c now).2
        | none => registry) := by
  cases hc : req.command? key with
  | some c =>
    rw [respond_of_command hc]
    exact (Registry.sameRules_apply h c now).2
  | none =>
    have hsame : SameRules (respond key r req now).2.registry r.registry := by
      cases ha : req.action key with
      | error why =>
        rw [respond, ha]
        exact .refl _
      | ok a =>
        have hread : a.command? = none := by rwa [Request.command?, ha] at hc
        rcases respond_of_read ha hread r now with hr | ⟨e, -, hr⟩
        · rw [hr]
          exact .refl _
        · rw [hr]
          exact ⟨rfl, rfl⟩
    exact hsame.trans h

theorem sameRules_served {registry : Registry} (h : SameRules r.registry registry) (key : String)
    (requests : List (Request × Instant)) :
    SameRules (served key r requests).registry (carriedOut registry (commands key requests)) := by
  induction requests generalizing r registry with
  | nil => exact h
  | cons q requests ih =>
    have hstep := sameRules_respond h key q.1 q.2
    unfold commands
    rw [List.filterMap_cons]
    cases hc : q.1.command? key with
    | some c =>
      rw [hc] at hstep
      exact ih hstep
    | none =>
      rw [hc] at hstep
      exact ih hstep

theorem revision_exchange (h : r.registry.Reachable fs) (key : String) (req : Request)
    (now : Instant) : (respond key r req now).2.registry.revision = r.registry.revision +
      if ((req.command? key).isSome && (respond key r req now).1.isSuccess) = true
        then 1 else 0 := by
  have hfaithful := faithful_exchange h key req now
  cases hc : req.command? key with
  | some c =>
    have hexec := hfaithful.executes c hc
    cases hs : (respond key r req now).1.isSuccess with
    | true => exact hexec.success.mp hs
    | false => exact congrArg RuleIndex.revision (hexec.unchanged hs)
  | none =>
    have hsame := sameRules_respond (.refl r.registry) key req now
    rw [hc] at hsame
    exact congrArg RuleIndex.revision hsame.2

/-- Every answer to a command that is one of success stands for one revision. -/
theorem revision_served (h : r.registry.Reachable fs) (key : String)
    (requests : List (Request × Instant)) :
    (served key r requests).registry.revision = r.registry.revision +
      (session key r requests).countP fun x =>
        (x.request.command? key).isSome && x.response.isSuccess := by
  induction requests generalizing r with
  | nil => rfl
  | cons q requests ih =>
    have hrest := ih (reachable_respond h key q.1 q.2)
    have hstep := revision_exchange h key q.1 q.2
    change (served key (respond key r q.1 q.2).2 requests).registry.revision = _
    rw [hrest, hstep, session, List.countP_cons, Nat.add_assoc, Nat.add_comm _ (List.countP _ _)]
    rfl

/-- Whatever requests come, in whatever order and at whatever times, every exchange is faithful; the
rules at the end are those that the commands make when they are given to the registry itself, and
the revision has grown by the number of commands that were answered with success. -/
theorem faithful_session (h : r.registry.Reachable fs) (key : String)
    (requests : List (Request × Instant)) :
    (∀ x ∈ session key r requests, Faithful key x) ∧
      (served key r requests).registry.Reachable fs ∧
      SameRules (served key r requests).registry
        (carriedOut r.registry (commands key requests)) ∧
      (served key r requests).registry.revision = r.registry.revision +
        (session key r requests).countP fun x =>
          (x.request.command? key).isSome && x.response.isSuccess := by
  refine ⟨?_, ?_, sameRules_served (.refl _) key requests, revision_served h key requests⟩
  · induction requests generalizing r with
    | nil => exact List.forall_mem_nil _
    | cons q requests ih =>
      exact List.forall_mem_cons.mpr
        ⟨faithful_exchange h key q.1 q.2, ih (reachable_respond h key q.1 q.2)⟩
  · induction requests generalizing r with
    | nil => exact h
    | cons q requests ih => exact ih (reachable_respond h key q.1 q.2)

/-- A request with a document. -/
def sent (method path : String) (authorization : Option String) (document : Json) : Request :=
  ⟨"e", method, path, authorization, some "application/json", document.render⟩

/-- A router without rules. -/
def idle : Router := .build .default .empty .withEcho ⟨0, 0⟩

/-- A rule is added, added once more, tried out and deleted twice, and two requests are refused. -/
def visit : List (Request × Instant) :=
  let addition := RuleCommand.add (Registry.lastingSpec "a" "orders.>") false
  let update := RuleCommand.update (Registry.lastingSpec "a" "orders..")
  [(sent "DELETE" "/admin/rules/a" (some "Bearer other") .null, ⟨1, 0⟩),
    (sent "POST" "/admin/rules" (some "Bearer k") addition.encode, ⟨2, 0⟩),
    (sent "POST" "/admin/rules" (some "Bearer k") addition.encode, ⟨3, 0⟩),
    (sent "POST" "/admin/rules" (some "Bearer k") update.encode, ⟨4, 0⟩),
    (sent "POST" "/admin/route" (some "Bearer k") (.object [("subject", .string "orders.new")]),
      ⟨5, 0⟩),
    (sent "DELETE" "/admin/rules/a" (some "Bearer k") .null, ⟨6, 0⟩),
    (sent "DELETE" "/admin/rules/a" (some "Bearer k") .null, ⟨7, 0⟩)]

theorem faithful_session_visit :
    idle.registry.Reachable .empty ∧
      ((session "k" idle visit).map fun x => x.response.status) =
        [401, 201, 409, 422, 200, 200, 404] ∧
      (∀ x ∈ session "k" idle visit, Faithful "k" x) ∧
      SameRules (served "k" idle visit).registry
        (carriedOut idle.registry (commands "k" visit)) := by
  have hr : idle.registry.Reachable .empty := reachable_build .default .empty .withEcho ⟨0, 0⟩
  obtain ⟨hfaithful, -, hrules, -⟩ := faithful_session hr "k" visit
  exact ⟨hr, by decide +kernel, hfaithful, hrules⟩

end Switchyard.Admin
