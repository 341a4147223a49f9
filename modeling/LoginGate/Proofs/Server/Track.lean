import LoginGate.Proofs.Server.Writes

/-!
Contract: what is known of a stored session from its history alone.

Owns: values that deeds set, what it takes for such a value to say something about a session, and
the law that it then says so after every step and every run.

Does not own: the values themselves (`Server.StateToken`, `Server.Verdict`).
-/

namespace LoginGate.Server

/-- A deed of the application on none of some keys, or another deed. -/
def Deed.Spares (reserved : List Text) (deed : Deed) : Prop :=
  ∀ key, deed.written? = some key -> key ∉ reserved

/-- The value that an incident sets, where deeds set values and a new session has an initial one. -/
def Incident.sets {Value : Type} (initial : Value) (sets : Deed -> Option Value) :
    Incident -> Option Value
  | .created _ _ => some initial
  | .dropped => none
  | .done deed => sets deed

/-- A value that deeds set says something about every session, from its creation on, as long as the
application spares some keys. -/
structure Tracks {Value : Type} (keys : Session.Keys) (reserved : List Text) (initial : Value)
    (sets : Deed -> Option Value) (Fits : Value -> Session -> Prop) : Prop where
  created : ∀ session : Session, session.values = [] -> Fits initial session
  performed : ∀ deed : Deed, deed.Spares reserved -> ∀ value session, Fits value session ->
    Fits ((sets deed).getD value) (deed.perform keys session)

def FitsStored {Value : Type} (Fits : Value -> Session -> Prop) (value : Value)
    (stored : Option Session) : Prop :=
  ∀ session, stored = some session -> Fits value session

namespace Tracks

variable {Value : Type} {keys : Session.Keys} {reserved : List Text} {initial : Value}
  {sets : Deed -> Option Value} {Fits : Value -> Session -> Prop}

theorem replay (tracks : Tracks keys reserved initial sets Fits) {id : SessionId}
    {incidents : List Incident} (spares : ∀ incident ∈ incidents, incident.Spares reserved)
    {value : Value} {stored : Option Session} (fits : FitsStored Fits value stored) :
    FitsStored Fits (latest (Incident.sets initial sets) value incidents)
      (Server.replay keys id stored incidents) := by
  refine foldl_latest ?_ fits
  intro incident member value before fitsBefore after performed
  cases incident with
  | created createdAt expiresAt =>
    cases performed
    exact tracks.created _ rfl
  | dropped => cases performed
  | done deed =>
    obtain ⟨session, found, rfl⟩ := Option.map_eq_some_iff.1 performed
    exact tracks.performed deed (spares _ member) value session (fitsBefore session found)

variable {server : Server} (tracks : Tracks server.keys reserved initial sets Fits)
  (distinct : server.store.Distinct) {id : SessionId} {value : Value}
  (fits : FitsStored Fits value (server.store.find? id))
include tracks distinct fits

theorem step {step : Step} (spares : step.Spares reserved) :
    FitsStored Fits (latest (Incident.sets initial sets) value ((server.stepHistory step).of id))
      ((server.step step).store.find? id) := by
  rw [find?_step distinct]
  refine tracks.replay ?_ fits
  intro incident member
  exact spares.incident (History.mem_of.1 member)

theorem run {steps : List Step} (spares : ∀ step ∈ steps, step.Spares reserved) :
    FitsStored Fits (latest (Incident.sets initial sets) value ((server.history steps).of id))
      ((server.run steps).store.find? id) := by
  rw [find?_run distinct]
  refine tracks.replay ?_ fits
  intro incident member
  exact spares_of_mem_history spares (History.mem_of.1 member)

end Tracks

end LoginGate.Server
