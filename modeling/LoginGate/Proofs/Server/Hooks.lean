import LoginGate.Proofs.Server.Failure
import LoginGate.Proofs.Server.Gate
import LoginGate.Proofs.Server.TokenEnd

/-!
Contract: what the application is told, how often, and at which moment.

Owns:
- the events that are calls of the application;
- the call of each step of the flow, with the session as it is at that moment;
- the same law for every visit of every run, and for the number of calls in it.

Does not own: what a failure leaves behind (`Server.Failure`), and what an accepted login stores
(`Server.RoundTrip`).

A call carries the session as the application finds it then. The laws compare this session with the
one before the step: a login is told when the session holds it, a failure when the identity is gone
unless the state was wrong, and logging out before anything is removed.
-/

namespace LoginGate

namespace Server

/-! ## Calls -/

def Event.isCall : Event -> Bool
  | .loggedIn _ _ | .loginFailed _ | .loggedOut _ _ => true
  | .codeExchange _ | .userinfoRequest _ | .emailMissing _ => false

def Event.endsLogin : Event -> Bool
  | .loggedIn _ _ | .loginFailed _ => true
  | .loggedOut _ _ | .codeExchange _ | .userinfoRequest _ | .emailMissing _ => false

def calls (events : List Event) : List Event := events.filter Event.isCall

private theorem calls_append (first second : List Event) :
    calls (first ++ second) = calls first ++ calls second :=
  List.filter_append first second

/-- Asking the provider calls nobody. -/
theorem calls_inquire (provider : Provider) (code : Text) : calls (inquire provider code).1 = [] := by
  unfold inquire
  split <;> rfl

private theorem calls_missingEmail (document : Document) : calls (missingEmail document) = [] := by
  unfold missingEmail
  split <;> rfl

/-- Starting a login tells nothing. -/
theorem calls_beginLogin (server : Server) (session : Option Session) (request : Http.RequestInfo)
    (stateBytes : Bytes) : calls (server.beginLogin session request stateBytes).events = [] := by
  rw [events_beginLogin]
  rfl

/-- Logging out tells that the session is about to be logged out, if there is one. -/
theorem calls_logout (server : Server) (session : Option Session) (request : Http.RequestInfo) :
    calls (server.logout session request).events =
      session.toList.map fun session => .loggedOut session request := by
  cases session <;> rfl

/-! ## Failures -/

/-- The answer to a failed login: that of the application, if it gives one, or a page. -/
def failureAnswer (server : Server) (failure : LoginFailure) : Http.Response :=
  (server.onFailure failure).getD (Page.failure failure.status failure.error)

/-- What a failure tells about a session and the request of the callback. -/
structure Fits (server : Server) (session : Option Session) (request : Http.RequestInfo)
    (failure : LoginFailure) : Prop where
  status : failure.status = failure.error.status
  /-- The address is the one before the callback. -/
  email : failure.email =
    session.bind fun session => (session.get? server.keys.email).bind Json.text?
  request : failure.request = request
  /-- The session is the one of the callback. -/
  same : failure.session.map (·.id) = session.map (·.id)
  cleared : failure.error ≠ .wrongState ->
    ∀ found, failure.session = some found -> Session.Holds server.keys none found
  kept : failure.error = .wrongState -> ∀ before found, session = some before ->
    failure.session = some found -> ∀ key ∈ server.keys.all, found.get? key = before.get? key

private theorem failLogin_fits (server : Server) (session : Option Session)
    (request : Http.RequestInfo)
    {asked : List Event} (silent : calls asked = []) (error : Flow.Error) :
    ∃ failure, failure.error = error ∧
      calls (server.failLogin session request asked error).events = [.loginFailed failure] ∧
      (server.failLogin session request asked error).session = failure.session ∧
      (server.failLogin session request asked error).response =
        .ok (server.failureAnswer failure) ∧
      server.Fits session request failure := by
  refine ⟨_, rfl, ?_, rfl, rfl, rfl, rfl, rfl, ?_, ?_, ?_⟩
  · unfold failLogin
    rw [calls_append, silent]
    rfl
  · dsimp only
    split
    · rfl
    · rw [Option.map_map]
      rfl
  · intro other found shown
    rw [if_neg other] at shown
    obtain ⟨before, -, rfl⟩ := Option.map_eq_some_iff.1 shown
    exact Session.holds_clearIdentity server.keys before
  · intro wrong before found given shown key member
    rw [if_pos wrong, given] at shown
    cases shown
    rfl

/-- Spending the record of a login changes nothing that a failure tells. -/
theorem Fits.of_take {server : Server} (apart : server.keys.Apart) {session : Session}
    {request : Http.RequestInfo} {failure : LoginFailure}
    (fits : server.Fits (some (Flow.Pending.take session).2) request failure) :
    server.Fits (some session) request failure := by
  have frame : ∀ key ∈ server.keys.all,
      (Flow.Pending.take session).2.get? key = session.get? key := by
    intro key member
    show (session.set Flow.Pending.key none).get? key = _
    rw [Session.get?_set, if_neg]
    rintro rfl
    exact apart.pending_not_mem member
  refine { fits with email := ?_, same := ?_, kept := ?_ }
  · rw [fits.email, Option.bind_some, Option.bind_some, frame _ (by simp [Session.Keys.all])]
  · rw [fits.same]
    exact congrArg some (Session.id_set session _ _)
  · intro wrong before found given shown key member
    cases given
    rw [fits.kept wrong _ found rfl shown key member, frame key member]

/-! ## Callbacks -/

/-- Why a callback fails: there is no login flow or no session, the state is not the one that the
session waits for, or the provider does not vouch for a user. -/
inductive Fails (server : Server) (session : Option Session) (callback : Flow.Callback) :
    (error : Flow.Error) -> Prop where
  | unconfigured (missing : server.login = none) : Fails server session callback .notConfigured
  | sessionless {login : Login} (configured : server.login = some login)
    (missing : session = none) : Fails server session callback .missingSession
  | refused {given : Session} (brought : session = some given)
    (wrong : (Flow.Pending.peek given).filter (·.accepts callback.state) = none) :
    Fails server session callback .wrongState
  | upstream {login : Login} {given : Session} {pending : Flow.Pending} {error : Flow.Error}
    (configured : server.login = some login) (brought : session = some given)
    (waits : (Flow.Pending.peek given).filter (·.accepts callback.state) = some pending)
    (failed : (inquire login.provider callback.code).2 = .error error) :
    Fails server session callback error

/-- A callback that fails is not verified. -/
theorem Fails.not_verifies {server : Server} {session : Option Session} {callback : Flow.Callback}
    {error : Flow.Error} (fails : server.Fails session callback error) (token : ProviderToken)
    (document : Document) : ¬ server.Verifies session callback token document := by
  rintro ⟨login, given, pending, configured, brought, verifies⟩
  cases fails with
  | unconfigured missing => cases configured.symm.trans missing
  | sessionless _ missing => cases brought.symm.trans missing
  | refused broughtToo wrong =>
    cases brought.symm.trans broughtToo
    rw [verifies.waits, Option.filter_some, if_pos verifies.accepts] at wrong
    cases wrong
  | upstream configuredToo _ _ failed =>
    cases configured.symm.trans configuredToo
    rw [inquire_eq_ok_iff.2 verifies.vouches] at failed
    cases failed

/-- A refused callback presents a state that the session does not wait for. -/
theorem Login.filter_eq_none_of_refused {login : Login} {session : Session} {now : Instant}
    {callback : Flow.Callback} (ended : login.outcome session now callback = .refused) :
    (Flow.Pending.peek session).filter (·.accepts callback.state) = none := by
  unfold Login.outcome at ended
  split at ended
  · assumption
  · split at ended
    · cases ended
    · split at ended <;> cases ended

/-- A callback fails at the provider, if it gets past the state, with the error that asking gives. -/
theorem Login.inquire_of_failed {login : Login} {session : Session} {now : Instant}
    {callback : Flow.Callback} {error : Flow.Error}
    (ended : login.outcome session now callback = .failed error) :
    (∃ pending, (Flow.Pending.peek session).filter (·.accepts callback.state) = some pending) ∧
      (inquire login.provider callback.code).2 = .error error := by
  unfold Login.outcome at ended
  split at ended
  · cases ended
  · rename_i pending waits
    split at ended
    · rename_i cause failed
      cases ended
      exact ⟨⟨pending, waits⟩, failed⟩
    · split at ended <;> cases ended

/-- An accepted callback is verified, with the document that is kept. -/
theorem Login.exists_verifies_of_accepted {login : Login} {session : Session} {now : Instant}
    {callback : Flow.Callback} {pending : Flow.Pending} {grant : Session.Grant}
    (ended : login.outcome session now callback = .accepted pending grant) :
    ∃ token, login.Verifies session callback pending token grant.document := by
  have waits : login.outcome session now callback ≠ .refused := by simp [ended]
  have vouched : ∀ error, login.outcome session now callback ≠ .failed error := by simp [ended]
  obtain ⟨found, token, document, verifies⟩ := Login.exists_verifies waits vouched
  have outcome := (verifies.outcome_eq now).symm.trans ended
  cases kept : keptToken? now token with
  | none =>
    rw [kept] at outcome
    cases outcome
  | some stored =>
    rw [kept] at outcome
    cases outcome
    exact ⟨token, verifies⟩

/-- What a callback tells, given what it answers and leaves: one success, when the session already
holds the login, or one failure with its cause, whose answer is the whole answer. -/
inductive Tells (server : Server) (session : Option Session) (request : Http.RequestInfo)
    (callback : Flow.Callback) (response : Except Fault Http.Response) :
    (left : Option Session) -> (calls : List Event) -> Prop where
  | success {token : ProviderToken} {document : Document} {stored : StoredToken} {after : Session}
    (verified : server.Verifies session callback token document)
    (same : session.map (·.id) = some after.id)
    (holds : Session.Holds server.keys (some { document, token := stored }) after) :
    Tells server session request callback response (some after) [.loggedIn after request]
  | failure {failure : LoginFailure}
    (unverified : ∀ token document, ¬ server.Verifies session callback token document)
    (cause : server.Fails session callback failure.error)
    (fits : server.Fits session request failure)
    (answer : response = .ok (server.failureAnswer failure)) :
    Tells server session request callback response failure.session [.loginFailed failure]

/-- The tokens that a provider gives at a moment end within the calendar. -/
def Within (provider : Provider) (now : Instant) : Prop :=
  ∀ code token, provider.exchangeCode code = .ok token -> ¬ token.Outlives now

section Callback

variable {server : Server} {request : Http.RequestInfo} {callback : Flow.Callback}

/-- A failure is told. -/
theorem tells_failLogin {session : Option Session} {asked : List Event} (silent : calls asked = [])
    {error : Flow.Error} (cause : server.Fails session callback error) :
    let turn := server.failLogin session request asked error
    server.Tells session request callback turn.response turn.session (calls turn.events) := by
  intro turn
  obtain ⟨failure, rfl, called, left, answer, fits⟩ :=
    failLogin_fits server session request silent error
  rw [called, left]
  exact .failure cause.not_verifies cause fits answer

variable (apart : server.keys.Apart)
include apart

/-- The same after the record of the login was spent. -/
theorem tells_failLogin_take {session : Session} {asked : List Event} (silent : calls asked = [])
    {error : Flow.Error} (cause : server.Fails (some session) callback error) :
    let turn := server.failLogin (some (Flow.Pending.take session).2) request asked error
    server.Tells (some session) request callback turn.response turn.session
      (calls turn.events) := by
  intro turn
  obtain ⟨failure, rfl, called, left, answer, fits⟩ :=
    failLogin_fits server (some (Flow.Pending.take session).2) request silent error
  rw [called, left]
  exact .failure cause.not_verifies cause (fits.of_take apart) answer

variable {now : Instant}

/-- With a session and a login flow, a callback tells how its outcome ends. -/
theorem tells_completeLogin_some {login : Login} (configured : server.login = some login)
    (within : Within login.provider now) (session : Session) :
    let turn := server.completeLogin (some session) request now callback
    server.Tells (some session) request callback turn.response turn.session
      (calls turn.events) := by
  intro turn
  have concluded : turn = server.conclude request (inquire login.provider callback.code).1 session
      (login.outcome session now callback) :=
    completeLogin_eq_conclude configured session request now callback
  have silent := calls_inquire login.provider callback.code
  cases ended : login.outcome session now callback with
  | refused =>
    rw [concluded, ended]
    exact tells_failLogin_take apart rfl (.refused rfl (Login.filter_eq_none_of_refused ended))
  | failed error =>
    obtain ⟨⟨pending, waits⟩, failed⟩ := Login.inquire_of_failed ended
    rw [concluded, ended]
    exact tells_failLogin_take apart silent (.upstream configured rfl waits failed)
  | broken document =>
    obtain ⟨pending, token, found, verifies, outlives⟩ := Login.exists_broken_iff.1 ⟨_, ended⟩
    exact absurd outlives (within _ _ verifies.vouches.exchanged)
  | accepted pending grant =>
    obtain ⟨token, verifies⟩ := Login.exists_verifies_of_accepted ended
    have called : calls turn.events = [.loggedIn
        (Outcome.settle server.keys session (.accepted pending grant)) request] := by
      rw [concluded, ended]
      simp only [conclude, calls_append, silent, calls_missingEmail]
      rfl
    have left : turn.session =
        some (Outcome.settle server.keys session (.accepted pending grant)) := by
      rw [concluded, ended]
      rfl
    rw [called, left]
    refine .success ⟨login, session, pending, configured, rfl, verifies⟩ ?_
      (Session.holds_storeIdentity apart _ grant)
    exact congrArg some
      (id_perform server.keys session (.calledBack callback.state (.accepted pending grant))).symm

/-- **A callback tells exactly one thing**: its success or its failure. -/
theorem tells_completeLogin (session : Option Session)
    (within : ∀ login, server.login = some login -> Within login.provider now) :
    let turn := server.completeLogin session request now callback
    server.Tells session request callback turn.response turn.session (calls turn.events) := by
  intro turn
  cases configured : server.login with
  | none =>
    have ends : turn = server.failLogin session request [] .notConfigured := by
      unfold turn completeLogin
      rw [configured]
    rw [ends]
    exact tells_failLogin rfl (.unconfigured configured)
  | some login =>
    cases session with
    | none =>
      have ends : turn = server.failLogin none request [] .missingSession := by
        unfold turn completeLogin
        rw [configured]
      rw [ends]
      exact tells_failLogin rfl (.sessionless configured rfl)
    | some session =>
      exact tells_completeLogin_some apart configured (within login configured) session

end Callback

/-- A callback leaves the session that it came with, or none if it came with none. -/
theorem Tells.same_id {server : Server} {session : Option Session} {request : Http.RequestInfo}
    {callback : Flow.Callback} {response : Except Fault Http.Response} {left : Option Session}
    {told : List Event} (tells : server.Tells session request callback response left told) :
    left.map (·.id) = session.map (·.id) := by
  cases tells with
  | success verified same holds => exact same.symm
  | failure unverified cause fits answer => exact fits.same

/-- A callback tells one end of a login. -/
theorem Tells.endsLogin {server : Server} {session : Option Session} {request : Http.RequestInfo}
    {callback : Flow.Callback} {response : Except Fault Http.Response} {left : Option Session}
    {told : List Event} (tells : server.Tells session request callback response left told) :
    told.countP Event.endsLogin = 1 := by
  cases tells <;> rfl

/-! ## Visits -/

def Visit.session (visit : Visit) (server : Server) : Option Session :=
  (server.findSession visit.moment.now (.ofRequest visit.request)).1

def Visit.served (visit : Visit) (server : Server) : Option Endpoint :=
  if isAnswered visit.request.method then server.endpoint? visit.site visit.request else none

/-- What the application is told during a visit. A callback tells its end; what it leaves is what is
stored then, and a failure that the application answers is answered so. Logging out tells the
session that is logged out, as the visit found it. Nothing else tells anything. -/
def Hears (server : Server) (visit : Visit) : Prop :=
  let answer := visit.answer server
  match visit.served server with
  | some .callback =>
    ∃ response left, (server.asking visit.provider).Tells (visit.session server)
      visit.request.info (.ofQuery visit.request.target.query) response left
      (calls answer.events) ∧
      answer.response = response.map (finish visit.request.method) ∧
      ∀ found, left = some found -> answer.store.find? found.id = some found
  | some .logout =>
    calls answer.events =
      (visit.session server).toList.map fun session => .loggedOut session visit.request.info
  | _ => calls answer.events = []

private theorem find?_turn {server : Server} {now : Instant} {jar : Http.CookieJar} {turn : Turn}
    {found : Session} (left : turn.session = some found)
    (same : turn.session.map (·.id) = (server.findSession now jar).1.map (·.id)) :
    (turn.answer (server.findSession now jar).2).store.find? found.id = some found := by
  rw [left, Option.map_some] at same
  obtain ⟨given, brought, id⟩ := Option.map_eq_some_iff.1 same.symm
  have brings := findSession_eq_some_iff.1 brought
  unfold Turn.answer
  rw [left, (findSession_of_brings brings).1]
  show (server.store.update found).find? found.id = some found
  rw [Store.find?_update, if_pos rfl, ← id, brings.find?]
  rfl

/-- Where a visit is not answered by the callback or by logging out, nothing happens that anybody is
told. -/
theorem events_of_quiet {server : Server} {visit : Visit}
    (noCallback : visit.served server ≠ some .callback)
    (noLogout : visit.served server ≠ some .logout) : (visit.answer server).events = [] := by
  show ((server.asking visit.provider).answer visit.site visit.moment visit.request).events = []
  rw [answer_events, endpoint?_asking]
  unfold Visit.served at noCallback noLogout
  cases reached : server.endpoint? visit.site visit.request with
  | none => rfl
  | some endpoint =>
    rw [reached] at noCallback noLogout
    dsimp only
    cases endpoint with
    | home => exact events_guarded _ _ _ _ _
    | administrators => exact events_guarded _ _ _ _ _
    | login =>
      show (if isAnswered visit.request.method then _ else _ : Answer).events = []
      split
      · exact events_beginLogin _ _ _ _
      · rfl
    | callback =>
      show (if isAnswered visit.request.method then _ else _ : Answer).events = []
      split
      · rename_i answered
        exact absurd (if_pos answered) noCallback
      · rfl
    | logout =>
      show (if isAnswered visit.request.method then _ else _ : Answer).events = []
      split
      · rename_i answered
        exact absurd (if_pos answered) noLogout
      · rfl

/-- A visit that an endpoint of the flow answers is its turn on the session of the visit. -/
theorem answer_of_served {server : Server} {visit : Visit} {endpoint : Endpoint}
    (served : visit.served server = some endpoint) (flow : endpoint.isPage = false) :
    visit.answer server =
      let turn := (server.asking visit.provider).flowTurn visit.moment endpoint visit.request
        (visit.session server)
      { turn.answer (server.findSession visit.moment.now (.ofRequest visit.request)).2 with
        response := turn.response.map (finish visit.request.method) } := by
  obtain ⟨answered, reached⟩ := Option.ite_none_right_eq_some.1 served
  show (server.asking visit.provider).answer visit.site visit.moment visit.request = _
  rw [← endpoint?_asking server visit.provider] at reached
  rw [answer_of_reached reached]
  have flowServed : (server.asking visit.provider).serve visit.moment endpoint visit.request =
      (server.asking visit.provider).serveFlow visit.moment endpoint visit.request := by
    cases endpoint with
    | home | administrators => cases flow
    | callback | login | logout => exact if_pos answered
  rw [flowServed, serveFlow_eq]
  rfl

/-- A visit tells what its endpoint tells. -/
theorem hears_visit {server : Server} (apart : server.keys.Apart) {visit : Visit}
    (within : Within visit.provider visit.moment.now) : server.Hears visit := by
  unfold Hears
  dsimp only
  split
  · rename_i served
    let turn := (server.asking visit.provider).completeLogin (visit.session server)
      visit.request.info visit.moment.now (.ofQuery visit.request.target.query)
    have providers : ∀ login, (server.asking visit.provider).login = some login ->
        Within login.provider visit.moment.now := by
      intro login configured
      obtain ⟨before, -, rfl⟩ := Option.map_eq_some_iff.1 configured
      exact within
    have apartAsking : (server.asking visit.provider).keys.Apart := apart
    have tells : (server.asking visit.provider).Tells (visit.session server) visit.request.info
        (.ofQuery visit.request.target.query) turn.response turn.session (calls turn.events) :=
      tells_completeLogin apartAsking (visit.session server) providers
    rw [answer_of_served served rfl]
    exact ⟨turn.response, turn.session, tells, rfl, fun found left =>
      find?_turn left tells.same_id⟩
  · rename_i served
    rw [answer_of_served served rfl]
    exact calls_logout (server.asking visit.provider) (visit.session server) visit.request.info
  · rename_i noCallback noLogout
    rw [events_of_quiet noCallback noLogout]
    rfl

/-! ## Runs -/

def toldBy (server : Server) : Step -> List Event
  | .visit visit => calls (visit.answer server).events
  | .setAdmins _ | .setForbidden _ | .cleanup _ | .write _ _ _ => []

def told (server : Server) : List Step -> List Event
  | [] => []
  | step :: rest => server.toldBy step ++ (server.step step).told rest

private theorem told_append (server : Server) (first second : List Step) :
    server.told (first ++ second) = server.told first ++ (server.run first).told second := by
  induction first generalizing server with
  | nil => rfl
  | cons step rest inductionHypothesis =>
    rw [List.cons_append, told, told, inductionHypothesis, run_cons, List.append_assoc]

def callsBack (server : Server) : Step -> Bool
  | .visit visit => visit.served server = some .callback
  | .setAdmins _ | .setForbidden _ | .cleanup _ | .write _ _ _ => false

/-- What is served where does not change. -/
theorem callsBack_step (server : Server) (step : Step) :
    (server.step step).callsBack = server.callsBack := by
  have served : ∀ visit : Visit, visit.served (server.step step) = visit.served server := by
    intro visit
    unfold Visit.served endpoint? table ownFlowRoutes
    rw [login_step]
  funext other
  unfold callsBack
  cases other with
  | visit visit => simp only [served]
  | setAdmins | setForbidden | cleanup | write => rfl

/-- A step tells the end of a login once if it is a callback, and never otherwise. -/
theorem countP_toldBy {server : Server} (apart : server.keys.Apart) {step : Step}
    (within : ∀ visit, step = .visit visit -> Within visit.provider visit.moment.now) :
    (server.toldBy step).countP Event.endsLogin = (server.callsBack step).toNat := by
  cases step with
  | setAdmins | setForbidden | cleanup | write => rfl
  | visit visit =>
    have hears := hears_visit apart (within visit rfl)
    unfold Hears at hears
    unfold toldBy callsBack
    dsimp only at hears ⊢
    split at hears
    · rename_i served
      obtain ⟨response, left, tells, -, -⟩ := hears
      rw [tells.endsLogin, served]
      rfl
    · rename_i served
      rw [hears, served]
      cases visit.session server <;> rfl
    · rename_i noCallback _
      rw [hears, decide_eq_false noCallback]
      rfl

private theorem countP_told {server : Server} (apart : server.keys.Apart) {steps : List Step}
    (within : ∀ visit, .visit visit ∈ steps -> Within visit.provider visit.moment.now) :
    (server.told steps).countP Event.endsLogin = steps.countP server.callsBack := by
  induction steps generalizing server with
  | nil => rfl
  | cons step rest inductionHypothesis =>
    have apartStep : (server.step step).keys.Apart := by
      rw [keys_step]
      exact apart
    have first := countP_toldBy apart fun visit same =>
      within visit (same ▸ List.mem_cons_self)
    have later := inductionHypothesis apartStep fun visit member =>
      within visit (List.mem_cons_of_mem _ member)
    rw [told, List.countP_append, first, later, callsBack_step, List.countP_cons, Nat.add_comm]
    cases server.callsBack step <;> rfl

/-- What each step of the flow tells, on whatever session. -/
structure StepsTell (server : Server) : Prop where
  callback : ∀ session request now callback,
    (∀ login, server.login = some login -> Within login.provider now) ->
    let turn := server.completeLogin session request now callback
    server.Tells session request callback turn.response turn.session (calls turn.events)
  logout : ∀ session request, calls (server.logout session request).events =
    session.toList.map fun session => .loggedOut session request
  start : ∀ session request stateBytes,
    calls (server.beginLogin session request stateBytes).events = []

/-- **The application is told each end of a login once, and at the right moment.** As long as the
tokens of the provider end within the calendar, each callback is told as one success or one failure:
a success when the session holds the login already, a failure with its status and the address from
before, when the identity is gone unless only the state was wrong; and what the application answers
to a failure is the answer. Logging out is told once for each session that is logged out, as it was
before. Starting a login and the gate tell nothing. So it is for each step of the flow, and for each
visit of every run; and over the run as many ends are told as there were callbacks. -/
theorem application_told_once {server : Server} (apart : server.keys.Apart) {steps : List Step}
    (within : ∀ visit, .visit visit ∈ steps -> Within visit.provider visit.moment.now) :
    server.StepsTell ∧
    (∀ earlier visit later, steps = earlier ++ .visit visit :: later ->
      (server.run earlier).Hears visit ∧
      server.told steps = server.told earlier ++
        (calls (visit.answer (server.run earlier)).events ++
          (server.run (earlier ++ [.visit visit])).told later)) ∧
    (server.told steps).countP Event.endsLogin = steps.countP server.callsBack := by
  refine ⟨⟨?_, calls_logout server, calls_beginLogin server⟩, ?_, countP_told apart within⟩
  · intro session request now callback providers
    exact tells_completeLogin apart session providers
  · rintro earlier visit later rfl
    have apartThen : (server.run earlier).keys.Apart := by
      rw [keys_run]
      exact apart
    have during := within visit (List.mem_append_right _ List.mem_cons_self)
    refine ⟨hears_visit apartThen during, ?_⟩
    rw [told_append, told]
    unfold run
    rw [List.foldl_append]
    rfl

/-! ## A login and a forged callback -/

namespace Sample

/-- The sample's provider gives tokens without an end. -/
theorem within_provider (now : Instant) : Within provider now := by
  rintro code token given ⟨duration, lasts, -⟩
  cases given
  cases lasts

def member : Session :=
  { visitor with values := [("oauth2userinfo".toList, .object [])] }

end Sample

/-- A browser visits the home page, is sent to the provider and comes back. -/
theorem sample_application_told_once :
    let steps := [
      Step.visit (Sample.visit "/" none),
      Step.visit (Sample.visit "/auth/callback" (some "code=x&state=AQID"))]
    (Sample.server.told steps).countP Event.endsLogin = 1 := by
  intro steps
  have within : ∀ visit, .visit visit ∈ steps -> Within visit.provider visit.moment.now := by
    intro visit member
    simp only [steps, List.mem_cons, Step.visit.injEq, List.not_mem_nil, or_false] at member
    rcases member with rfl | rfl <;> exact Sample.within_provider _
  have apart : Sample.server.keys.Apart := Session.Keys.apart_default
  rw [(application_told_once apart within).2.2]
  decide +kernel

/-- A callback with a wrong state is told while the session still holds its identity. -/
theorem wrong_state_told_with_identity :
    let turn := Sample.server.completeLogin (some Sample.member)
      { host := [], referer := none, uri := "/auth/callback".toList } { seconds := 1 }
      { code := "c".toList, state := "forged".toList }
    ∃ failure found, .loginFailed failure ∈ turn.events ∧ failure.error = .wrongState ∧
      failure.session = some found ∧ found.hasIdentity Sample.server.keys = true := by
  intro turn
  exact ⟨_, _, List.mem_singleton.2 rfl, rfl, rfl, rfl⟩

end Server
end LoginGate
