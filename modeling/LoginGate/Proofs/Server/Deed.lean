import LoginGate.Proofs.Session.Grant
import LoginGate.Server.Login

/-!
Contract: the three steps of the login flow as deeds on one session.

Owns:
- how a callback ends, and what each ending does to the session;
- deeds, which are what the steps of the flow and the application do to a session;
- one law for each step that says which deed it is.

Does not own: which session a request brings (`Server.Incident`).
-/

namespace LoginGate

def Flow.Error.isUpstream : Flow.Error -> Bool
  | .exchangeFailed _ | .userinfoFailed _ _ | .userinfoUnreadable _ => true
  | .notConfigured | .missingSession | .wrongState => false

namespace Server

/-! ## Endings of a callback -/

inductive Outcome where
  /-- The state is not the issued one; the provider is not asked. -/
  | refused
  /-- The provider does not vouch for a user. -/
  | failed (error : Flow.Error)
  /-- The token would outlive the calendar, which breaks off the work. -/
  | broken (document : Document)
  | accepted (pending : Flow.Pending) (grant : Session.Grant)

def Login.outcome (login : Login) (session : Session) (now : Instant)
    (callback : Flow.Callback) : Outcome :=
  match (Flow.Pending.peek session).filter (·.accepts callback.state) with
  | none => .refused
  | some pending =>
    match (inquire login.provider callback.code).2 with
    | .error error => .failed error
    | .ok (token, document) =>
      match keptToken? now token with
      | none => .broken document
      | some token => .accepted pending { document, token }

/-- What the end of a callback leaves of its session. -/
def Outcome.settle (keys : Session.Keys) (session : Session) : Outcome -> Session
  | .refused | .broken _ => (Flow.Pending.take session).2
  | .failed _ => (Flow.Pending.take session).2.clearIdentity keys
  | .accepted _ grant =>
    (Flow.Pending.take session).2.storeIdentity keys grant.identity (some grant.token)

def missingEmail (document : Document) : List Event :=
  if (Identity.email? document).isNone then [.emailMissing document] else []

/-- The whole of what the end of a callback leaves behind, given what the provider was asked. -/
def conclude (server : Server) (request : Http.RequestInfo) (asked : List Event)
    (session : Session) (outcome : Outcome) : Turn :=
  let settled := outcome.settle server.keys session
  match outcome with
  | .refused => server.failLogin (some settled) request [] .wrongState
  | .failed error =>
    server.failLogin (some (Flow.Pending.take session).2) request asked error
  | .broken document =>
    { session := some settled, events := asked ++ missingEmail document
      response := .error .beyondCalendar }
  | .accepted pending grant =>
    { session := some settled
      events := asked ++ missingEmail grant.document ++ [.loggedIn settled request]
      response := .ok (.found (Redirect.sanitize request.host pending.referrer)) }

/-- A callback on a session is the conclusion of its outcome. -/
theorem completeLogin_eq_conclude {server : Server} {login : Login}
    (configured : server.login = some login) (session : Session) (request : Http.RequestInfo)
    (now : Instant) (callback : Flow.Callback) :
    server.completeLogin (some session) request now callback =
      server.conclude request (inquire login.provider callback.code).1 session
        (login.outcome session now callback) := by
  unfold completeLogin Login.outcome
  rw [configured]
  show (match (Flow.Pending.peek session).filter (·.accepts callback.state) with
    | none => _
    | some pending => _) = _
  cases (Flow.Pending.peek session).filter (·.accepts callback.state) with
  | none => rfl
  | some pending =>
    obtain ⟨asked, result⟩ := inquire login.provider callback.code
    cases result with
    | error error => rfl
    | ok found =>
      simp only [acceptLogin]
      cases keptToken? now found.1 <;> rfl

/-! ## What the provider is asked -/

/-- The first question to a provider is about the code, and no other is. -/
theorem codeExchange_mem_inquire (provider : Provider) (asked code : Text) :
    .codeExchange asked ∈ (inquire provider code).1 ↔ asked = code := by
  unfold inquire
  split <;> simp

/-- Whatever goes wrong at the provider is reported as the provider's failure. -/
theorem isUpstream_of_inquire {provider : Provider} {code : Text} {error : Flow.Error}
    (failed : (inquire provider code).2 = .error error) : error.isUpstream = true := by
  unfold inquire at failed
  split at failed
  · cases failed
    rfl
  · simp only at failed
    split at failed
    · cases failed
      rfl
    · rename_i answer _
      unfold readUserinfo at failed
      split at failed
      · cases failed
        rfl
      · cases read : Document.parse answer.body with
        | error error =>
          rw [read] at failed
          cases failed
          rfl
        | ok document =>
          rw [read] at failed
          cases failed

theorem Login.isUpstream_of_outcome {login : Login} {session : Session} {now : Instant}
    {callback : Flow.Callback} {error : Flow.Error}
    (ended : login.outcome session now callback = .failed error) : error.isUpstream = true := by
  unfold Login.outcome at ended
  split at ended
  · cases ended
  · split at ended
    · rename_i cause failed
      exact isUpstream_of_inquire (Outcome.failed.inj ended ▸ failed)
    · split at ended <;> cases ended

/-- A callback settles its session by its outcome. -/
theorem completeLogin_session {server : Server} {login : Login}
    (configured : server.login = some login) (session : Session) (request : Http.RequestInfo)
    (now : Instant) (callback : Flow.Callback) :
    (server.completeLogin (some session) request now callback).session =
      some ((login.outcome session now callback).settle server.keys session) := by
  rw [completeLogin_eq_conclude configured]
  cases ended : login.outcome session now callback with
  | refused => rfl
  | broken document => rfl
  | accepted pending grant => rfl
  | failed error =>
    have upstream := Login.isUpstream_of_outcome ended
    have errorNe : error ≠ .wrongState := by
      rintro rfl
      cases upstream
    simp only [conclude, failLogin, if_neg errorNe]
    rfl

/-- The provider is asked about the code of a callback unless the callback is refused. -/
theorem codeExchange_mem_completeLogin {server : Server} {login : Login}
    (configured : server.login = some login) (session : Session) (request : Http.RequestInfo)
    (now : Instant) (callback : Flow.Callback) (code : Text) :
    .codeExchange code ∈ (server.completeLogin (some session) request now callback).events ↔
      login.outcome session now callback ≠ .refused ∧ code = callback.code := by
  rw [completeLogin_eq_conclude configured]
  cases login.outcome session now callback with
  | refused => simp [conclude, failLogin]
  | failed error => simp [conclude, failLogin, codeExchange_mem_inquire]
  | broken document =>
    simp only [conclude, List.mem_append, codeExchange_mem_inquire, missingEmail]
    split <;> simp
  | accepted pending grant =>
    simp only [conclude, List.mem_append, codeExchange_mem_inquire, missingEmail]
    split <;> simp

/-- Only a callback with the pending state gets past the comparison. -/
theorem Login.accepts_of_outcome_ne_refused {login : Login} {session : Session} {now : Instant}
    {callback : Flow.Callback} (past : login.outcome session now callback ≠ .refused) :
    ∃ pending, Flow.Pending.peek session = some pending ∧ callback.state ≠ [] ∧
      pending.state = callback.state := by
  unfold Login.outcome at past
  cases kept : (Flow.Pending.peek session).filter (·.accepts callback.state) with
  | none =>
    rw [kept] at past
    exact absurd rfl past
  | some pending =>
    obtain ⟨stored, accepts⟩ := Option.filter_eq_some_iff.1 kept
    unfold Flow.Pending.accepts at accepts
    simp only [Bool.and_eq_true, Bool.not_eq_true', List.isEmpty_eq_false_iff,
      beq_iff_eq] at accepts
    exact ⟨pending, stored, accepts.2 ▸ accepts.1, accepts.2⟩

/-- A callback is accepted for the login that the session waits for. -/
theorem Login.peek_of_accepted {login : Login} {session : Session} {now : Instant}
    {callback : Flow.Callback} {pending : Flow.Pending} {grant : Session.Grant}
    (ended : login.outcome session now callback = .accepted pending grant) :
    Flow.Pending.peek session = some pending := by
  unfold Login.outcome at ended
  split at ended
  · cases ended
  · rename_i kept
    split at ended
    · cases ended
    · split at ended
      · cases ended
      · cases ended
        exact (Option.filter_eq_some_iff.1 kept).1

theorem loggedIn_not_mem_inquire (provider : Provider) (code : Text) (session : Session)
    (info : Http.RequestInfo) : .loggedIn session info ∉ (inquire provider code).1 := by
  unfold inquire
  split <;> simp

/-- Only an accepted callback logs anybody in. -/
theorem accepted_of_loggedIn {server : Server} {login : Login} {session after : Session}
    {request info : Http.RequestInfo} {now : Instant} {callback : Flow.Callback}
    (configured : server.login = some login)
    (announced : .loggedIn after info ∈
      (server.completeLogin (some session) request now callback).events) :
    ∃ pending grant, login.outcome session now callback = .accepted pending grant := by
  have unasked := loggedIn_not_mem_inquire login.provider callback.code after info
  rw [completeLogin_eq_conclude configured] at announced
  cases ended : login.outcome session now callback with
  | accepted pending grant => exact ⟨pending, grant, rfl⟩
  | refused =>
    rw [ended] at announced
    simp [conclude, failLogin] at announced
  | failed error =>
    rw [ended] at announced
    simp [conclude, failLogin, unasked] at announced
  | broken document =>
    rw [ended] at announced
    simp only [conclude, missingEmail, List.mem_append, unasked, false_or] at announced
    split at announced <;> simp at announced

/-! ## Deeds -/

inductive Deed where
  /-- A login is started, which issues a state. -/
  | started (pending : Flow.Pending)
  /-- A callback presents a state. -/
  | calledBack (state : Text) (outcome : Outcome)
  | loggedOut
  /-- The application, or a hook of it, sets a key or removes it. -/
  | written (key : Text) (value : Option Json)

def Deed.perform (keys : Session.Keys) (session : Session) : Deed -> Session
  | .started pending => pending.store session
  | .calledBack _ outcome => outcome.settle keys session
  | .loggedOut => session.clearIdentity keys
  | .written key value => session.set key value

theorem beginLogin_session {server : Server} {login : Login}
    (configured : server.login = some login) (session : Session) (request : Http.RequestInfo)
    (stateBytes : Bytes) :
    (server.beginLogin (some session) request stateBytes).session =
      some (Deed.perform server.keys session (.started
        { state := Flow.State.ofBytes stateBytes, referrer := server.returnTarget request })) := by
  unfold beginLogin
  rw [configured]
  rfl

@[simp] theorem id_perform (keys : Session.Keys) (session : Session) (deed : Deed) :
    (deed.perform keys session).id = session.id := by
  cases deed with
  | started pending => exact Session.id_set session _ _
  | loggedOut => exact Session.id_clearIdentity session keys
  | written key value => exact Session.id_set session key value
  | calledBack state outcome =>
    cases outcome <;> simp [Deed.perform, Outcome.settle, Flow.Pending.take, Session.take]

end Server
end LoginGate
