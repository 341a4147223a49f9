import LoginGate.Proofs.Server.Track

/-!
Contract: a session holds the grant of its last login, whole, or nothing.

Owns:
- the deeds that settle whether a session is logged in, and with what;
- the law that the three keys of a stored session hold what was settled last;
- sessions that are logged in by their history.

Does not own: what the gate does with them (`Server.Gate`).
-/

namespace LoginGate.Server

/-- What a deed settles about the login of its session, if it does. A refused callback settles
nothing, and neither does one that is broken off. -/
def Deed.verdict? : Deed -> Option (Option Session.Grant)
  | .calledBack _ (.accepted _ grant) => some (some grant)
  | .calledBack _ (.failed _) => some none
  | .calledBack _ .refused | .calledBack _ (.broken _) => none
  | .loggedOut => some none
  | .started _ | .written _ _ => none

/-- What an incident settles about the login of its session. A new session is not logged in. -/
abbrev Incident.verdict? : Incident -> Option (Option Session.Grant) :=
  Incident.sets none Deed.verdict?

theorem Deed.holds_perform {keys : Session.Keys} (apart : keys.Apart) {deed : Deed}
    (spares : deed.Spares keys.all) {grant : Option Session.Grant} {session : Session}
    (holds : Session.Holds keys grant session) :
    Session.Holds keys (deed.verdict?.getD grant) (deed.perform keys session) := by
  have pending := apart.pending_not_mem
  cases deed with
  | started begun => exact holds.set pending (some begun.toJson)
  | loggedOut => exact Session.holds_clearIdentity keys session
  | written key value => exact holds.set (spares key rfl) value
  | calledBack state outcome =>
    cases outcome with
    | refused => exact holds.set pending none
    | broken document => exact holds.set pending none
    | failed error => exact Session.holds_clearIdentity keys _
    | accepted begun grant => exact Session.holds_storeIdentity apart _ grant

private theorem tracks_holds {keys : Session.Keys} (apart : keys.Apart) :
    Tracks keys keys.all none Deed.verdict? (Session.Holds keys) where
  created _ empty := Session.holds_none_of_values_nil keys empty
  performed deed spares _ _ holds := deed.holds_perform apart spares holds

/-- The login of a session was last settled by accepting a grant: after it came no failed callback,
no logout, and no new session under the same id. -/
def LoggedIn (incidents : List Incident) (grant : Session.Grant) : Prop :=
  ∃ earlier state pending later,
    incidents = earlier ++ .done (.calledBack state (.accepted pending grant)) :: later ∧
    ∀ incident ∈ later, incident.verdict? = none

theorem Deed.eq_accepted_of_verdict? {deed : Deed} {grant : Session.Grant}
    (settled : deed.verdict? = some (some grant)) :
    ∃ state pending, deed = .calledBack state (.accepted pending grant) := by
  cases deed with
  | started begun => cases settled
  | loggedOut => cases settled
  | written key value => cases settled
  | calledBack state outcome =>
    cases outcome with
    | refused => cases settled
    | broken document => cases settled
    | failed error => cases settled
    | accepted begun given =>
      cases settled
      exact ⟨state, begun, rfl⟩

theorem Incident.eq_accepted_of_verdict? {incident : Incident} {grant : Session.Grant}
    (settled : incident.verdict? = some (some grant)) :
    ∃ state pending, incident = .done (.calledBack state (.accepted pending grant)) := by
  cases incident with
  | created createdAt expiresAt => cases settled
  | dropped => cases settled
  | done deed =>
    obtain ⟨state, pending, rfl⟩ := Deed.eq_accepted_of_verdict? settled
    exact ⟨state, pending, rfl⟩

/-- A session is logged in with a grant exactly when this is the last verdict. -/
theorem loggedIn_iff_latest {incidents : List Incident} {grant : Session.Grant} :
    LoggedIn incidents grant ↔ latest Incident.verdict? none incidents = some grant := by
  have new : (none : Option Session.Grant) ≠ some grant := by simp
  rw [latest_eq_iff new]
  constructor
  · rintro ⟨earlier, state, pending, later, rfl, silent⟩
    exact ⟨earlier, _, later, rfl, rfl, silent⟩
  · rintro ⟨earlier, incident, later, rfl, settled, silent⟩
    obtain ⟨state, pending, rfl⟩ := Incident.eq_accepted_of_verdict? settled
    exact ⟨earlier, state, pending, later, rfl, silent⟩

section Run

variable {server : Server} (apart : server.keys.Apart) (empty : server.store.sessions = [])
  {steps : List Step} (spares : ∀ step ∈ steps, step.Spares server.keys.all)
include apart empty spares

/-- After a run from no sessions, a stored session holds the last verdict about it. -/
theorem holds_run {id : SessionId} {session : Session}
    (found : (server.run steps).store.find? id = some session) :
    Session.Holds server.keys
      (latest Incident.verdict? none ((server.history steps).of id)) session := by
  have nothing : FitsStored (Session.Holds server.keys) none (server.store.find? id) := by
    intro stored foundBefore
    rw [Store.find?_of_sessions_nil empty] at foundBefore
    cases foundBefore
  have distinct := Store.distinct_of_sessions_nil empty
  exact (tracks_holds apart).run distinct nothing spares session found

end Run

end LoginGate.Server
