import Switchyard.Admin.Request
import Switchyard.Proofs.Result

/-!
# What requests ask for

A request has the key or is denied. With the key, its path and its method decide what it asks for;
the identifier of a rule comes from the path, and a command or an event from the body.

* `Request.isAuthorized_iff`: which requests have the key.
* `Request.Asks`, `Request.action_eq_ok`: what they ask for.
* `Request.command?_eq_some`: which of them give commands.
* `ne_unauthorized_of_authorizedAction`: those with the key are not denied.
-/

namespace Switchyard.Admin

variable {key : String} {req : Request} {c : RuleCommand} {a : Action}

/-! ## Credentials -/

theorem Request.isAuthorized_iff : req.isAuthorized key = true ↔
    req.authorization = some ("Bearer " ++ key) ∧ isHeaderText ("Bearer " ++ key) = true := by
  unfold isAuthorized
  rw [Option.any_eq_true]
  constructor
  · rintro ⟨text, ht, h⟩
    obtain ⟨hheader, heq⟩ := (Bool.and_eq_true _ _).mp h
    obtain rfl := eq_of_beq heq
    exact ⟨ht, hheader⟩
  · rintro ⟨ht, hheader⟩
    exact ⟨_, ht, (Bool.and_eq_true _ _).mpr ⟨hheader, beq_self_eq_true _⟩⟩

theorem action_of_denied (h : req.isAuthorized key = false) :
    req.action key = .error .unauthorized := by
  rw [Request.action, h]
  rfl

theorem action_of_authorized (h : req.isAuthorized key = true) :
    req.action key = req.authorizedAction := by
  rw [Request.action, h]
  rfl

/-! ## What requests ask for -/

/-- Whether a request with the key asks for an action: what its path leads to and its method decide,
with the identifier in the path or the body. -/
def Request.Asks (req : Request) : Action → Prop
  | .status => Resource.ofPath? req.path = some .status ∧ isReading req.method = true
  | .list => Resource.ofPath? req.path = some .rules ∧ isReading req.method = true
  | .get id => ∃ text, Resource.ofPath? req.path = some (.rule text) ∧
      isReading req.method = true ∧ routeIdOf text = .ok id
  | .stats => Resource.ofPath? req.path = some .stats ∧ isReading req.method = true
  | .command c => Resource.ofPath? req.path = some .rules ∧ req.method = "POST" ∧
      req.readBody readCommand = .ok c
  | .delete id => ∃ text, Resource.ofPath? req.path = some (.rule text) ∧
      req.method = "DELETE" ∧ routeIdOf text = .ok id
  | .tryOut e => Resource.ofPath? req.path = some .route ∧ req.method = "POST" ∧
      ∃ sample, req.readBody readSample = .ok sample ∧ sample.event req.eventId = e

theorem asks_of_authorizedAction (h : req.authorizedAction = .ok a) : req.Asks a := by
  unfold Request.authorizedAction at h
  -- A case for each resource, as in `Request.authorizedAction`, and in it one for each method.
  split at h
  case h_1 => cases h
  case h_2 hpath =>
    split at h
    · next hread => cases h; exact ⟨hpath, hread⟩
    · cases h
  case h_3 hpath =>
    split at h
    · next hread => cases h; exact ⟨hpath, hread⟩
    · split at h
      · next hpost =>
        obtain ⟨c, hc, rfl⟩ := map_eq_ok.mp h
        exact ⟨hpath, hpost, hc⟩
      · cases h
  case h_4 text hpath =>
    split at h
    · next hread =>
      obtain ⟨id, hid, rfl⟩ := map_eq_ok.mp h
      exact ⟨text, hpath, hread, hid⟩
    · split at h
      · next hdelete =>
        obtain ⟨id, hid, rfl⟩ := map_eq_ok.mp h
        exact ⟨text, hpath, hdelete, hid⟩
      · cases h
  case h_5 hpath =>
    split at h
    · next hread => cases h; exact ⟨hpath, hread⟩
    · cases h
  case h_6 hpath =>
    split at h
    · next hpost =>
      obtain ⟨sample, hsample, rfl⟩ := map_eq_ok.mp h
      exact ⟨hpath, hpost, sample, hsample, rfl⟩
    · cases h

theorem authorizedAction_of_asks (h : req.Asks a) : req.authorizedAction = .ok a := by
  unfold Request.authorizedAction
  cases a with
  | status | list | stats =>
    obtain ⟨hpath, hread⟩ := h
    rw [hpath]
    exact if_pos hread
  | get id =>
    obtain ⟨text, hpath, hread, hid⟩ := h
    rw [hpath]
    dsimp only
    rw [if_pos hread, hid]
    rfl
  | command c =>
    obtain ⟨hpath, hpost, hc⟩ := h
    rw [hpath]
    dsimp only
    rw [hpost, hc]
    rfl
  | delete id =>
    obtain ⟨text, hpath, hdelete, hid⟩ := h
    rw [hpath]
    dsimp only
    rw [hdelete, hid]
    rfl
  | tryOut e =>
    obtain ⟨hpath, hpost, sample, hsample, rfl⟩ := h
    rw [hpath]
    dsimp only
    rw [hpost, hsample]
    rfl

theorem Request.action_eq_ok :
    req.action key = .ok a ↔ req.isAuthorized key = true ∧ req.Asks a := by
  unfold action
  split
  · next h => exact ⟨fun ha => ⟨h, asks_of_authorizedAction ha⟩,
      fun ha => authorizedAction_of_asks ha.2⟩
  · next h => exact ⟨nofun, fun ha => absurd ha.1 h⟩

/-- What is asked with the key is never refused for the credentials. -/
theorem ne_unauthorized_of_authorizedAction {why : Refusal}
    (h : req.authorizedAction = .error why) : why ≠ .unauthorized := by
  rintro rfl
  have hbody : ∀ {α : Type} (reader : Json.Typed α),
      req.readBody reader ≠ .error .unauthorized := by
    intro α reader hb
    unfold Request.readBody at hb
    split at hb
    · split at hb <;> cases hb
    · cases hb
  have hid : ∀ text, routeIdOf text ≠ .error .unauthorized := by
    intro text ht
    unfold routeIdOf at ht
    split at ht <;> cases ht
  unfold Request.authorizedAction at h
  split at h
  case h_1 => cases h
  case h_2 => split at h <;> cases h
  case h_3 =>
    split at h
    · cases h
    · split at h
      · exact hbody _ (map_eq_error.mp h)
      · cases h
  case h_4 =>
    split at h
    · exact hid _ (map_eq_error.mp h)
    · split at h
      · exact hid _ (map_eq_error.mp h)
      · cases h
  case h_5 => split at h <;> cases h
  case h_6 =>
    split at h
    · exact hbody _ (map_eq_error.mp h)
    · cases h

/-! ## Commands -/

/-- The command that an action carries out. -/
def Action.command? : Action → Option RuleCommand
  | .command c => some c
  | .delete routeId => some (.remove routeId)
  | .status | .list | .get _ | .stats | .tryOut _ => none

/-- The command that a request gives, if it may. -/
def Request.command? (req : Request) (key : String) : Option RuleCommand :=
  (req.action key).toOption.bind Action.command?

/-- A command is posted to the rules, or it is the removal of the rule that a path names. -/
theorem Request.command?_eq_some : req.command? key = some c ↔ req.isAuthorized key = true ∧
    (req.Asks (.command c) ∨ ∃ id, req.Asks (.delete id) ∧ c = .remove id) := by
  unfold command?
  rw [Option.bind_eq_some_iff]
  constructor
  · rintro ⟨a, ha, hc⟩
    obtain ⟨hkey, hasks⟩ := action_eq_ok.mp (toOption_eq_some.mp ha)
    cases a with
    | command c' =>
      obtain rfl := Option.some.inj hc
      exact ⟨hkey, .inl hasks⟩
    | delete id => exact ⟨hkey, .inr ⟨id, hasks, (Option.some.inj hc).symm⟩⟩
    | status | list | get id | stats | tryOut e => cases hc
  · rintro ⟨hkey, hasks | ⟨id, hasks, rfl⟩⟩
    · exact ⟨_, toOption_eq_some.mpr (action_eq_ok.mpr ⟨hkey, hasks⟩), rfl⟩
    · exact ⟨_, toOption_eq_some.mpr (action_eq_ok.mpr ⟨hkey, hasks⟩), rfl⟩

theorem command?_of_action (ha : req.action key = .ok a) (hc : a.command? = some c) :
    req.command? key = some c := by
  rw [Request.command?, ha]
  exact hc

end Switchyard.Admin
