import LoginGate.Proofs.Server.Run

/-!
Contract: the keys that the application writes during a run.

Owns: the key of a written incident, and the law that every one of them comes from a step in which
the application writes.

Does not own: which keys an application must leave alone; each theorem says it for itself.
-/

namespace LoginGate.Server

def Deed.written? : Deed -> Option Text
  | .written key _ => some key
  | .started _ | .calledBack _ _ | .loggedOut => none

/-- The key that an incident writes on behalf of the application. -/
def Incident.written? : Incident -> Option Text
  | .done deed => deed.written?
  | .created _ _ | .dropped => none

def Step.written? : Step -> Option Text
  | .write _ key _ => some key
  | .visit _ | .setAdmins _ | .setForbidden _ | .cleanup _ => none

/-- A step in which the application writes none of some keys. -/
def Step.Spares (reserved : List Text) (step : Step) : Prop :=
  ∀ key, step.written? = some key -> key ∉ reserved

def Incident.Spares (reserved : List Text) (incident : Incident) : Prop :=
  ∀ key, incident.written? = some key -> key ∉ reserved

private theorem written?_of_mem_lookUp {server : Server} {now : Instant} {jar : Http.CookieJar}
    {entry : SessionId × Incident} (member : entry ∈ server.lookUp now jar) :
    entry.2.written? = none := by
  unfold lookUp at member
  split at member
  · split at member
    · rw [List.mem_singleton.1 member]
      rfl
    · exact absurd member List.not_mem_nil
  · exact absurd member List.not_mem_nil

private theorem written?_flowDeed (server : Server) (login : Login) (moment : Moment)
    (request : Http.Request) (session : Session) (endpoint : Endpoint) :
    (server.flowDeed login moment request session endpoint).written? = none := by
  cases endpoint <;> rfl

private theorem written?_of_mem_openHistory {server : Server} {moment : Moment}
    {request : Http.Request}
    {entry : SessionId × Incident} (member : entry ∈ server.openHistory moment request) :
    entry.2.written? = none := by
  unfold openHistory at member
  split at member
  · exact absurd member List.not_mem_nil
  · rcases List.mem_cons.1 member with rfl | started
    · rfl
    · split at started
      · rw [List.mem_singleton.1 started]
        rfl
      · exact absurd started List.not_mem_nil

/-- No request writes a key on behalf of the application. -/
theorem written?_of_mem_requestHistory {server : Server} {site : Site} {moment : Moment}
    {request : Http.Request} {entry : SessionId × Incident}
    (member : entry ∈ server.requestHistory site moment request) : entry.2.written? = none := by
  unfold requestHistory at member
  split at member
  · exact absurd member List.not_mem_nil
  split at member
  · exact written?_of_mem_lookUp member
  split at member
  · unfold guardHistory at member
    dsimp only at member
    split at member
    · rcases List.mem_append.1 member with lookedUp | opened
      · exact written?_of_mem_lookUp lookedUp
      · exact written?_of_mem_openHistory opened
    · split at member
      · exact absurd member List.not_mem_nil
      · rw [List.mem_singleton.1 member]
        rfl
  split at member
  · unfold flowHistory at member
    rcases List.mem_append.1 member with lookedUp | done
    · exact written?_of_mem_lookUp lookedUp
    · split at done
      · exact absurd done List.not_mem_nil
      · rw [List.mem_singleton.1 done]
        exact written?_flowDeed _ _ _ _ _ _
  · exact absurd member List.not_mem_nil

theorem History.mem_of {history : History} {id : SessionId} {incident : Incident} :
    incident ∈ history.of id ↔ (id, incident) ∈ history := by
  simp only [History.of, List.mem_map, List.mem_filter, decide_eq_true_eq]
  constructor
  · rintro ⟨⟨_, _⟩, ⟨member, rfl⟩, rfl⟩
    exact member
  · intro member
    exact ⟨(id, incident), ⟨member, rfl⟩, rfl⟩

theorem Step.Spares.incident {reserved : List Text} {step : Step} (spares : step.Spares reserved)
    {server : Server} {entry : SessionId × Incident} (member : entry ∈ server.stepHistory step) :
    entry.2.Spares reserved := by
  intro key written
  cases step with
  | visit visit =>
    rw [written?_of_mem_requestHistory member] at written
    cases written
  | setAdmins entries => exact absurd member List.not_mem_nil
  | setForbidden handler => exact absurd member List.not_mem_nil
  | cleanup now =>
    obtain ⟨session, -, rfl⟩ := List.mem_map.1 member
    cases written
  | write id other value =>
    rw [List.mem_singleton.1 member] at written
    cases written
    exact spares _ rfl

theorem spares_of_mem_history {reserved : List Text} {server : Server} {steps : List Step}
    (spares : ∀ step ∈ steps, step.Spares reserved) {entry : SessionId × Incident}
    (member : entry ∈ server.history steps) : entry.2.Spares reserved := by
  induction steps generalizing server with
  | nil => exact absurd member List.not_mem_nil
  | cons step rest inductionHypothesis =>
    rcases List.mem_append.1 member with now | later
    · exact (spares step List.mem_cons_self).incident now
    · exact inductionHypothesis (fun other inRest => spares other (List.mem_cons_of_mem _ inRest))
        later

end LoginGate.Server
