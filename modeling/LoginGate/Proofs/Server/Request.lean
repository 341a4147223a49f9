import LoginGate.Proofs.Server.Incident

/-!
Contract: the incidents of one request.

Owns:
- the endpoint that a request reaches;
- the deed of each endpoint of the flow, and the incidents at the gate;
- the law that these incidents are all that a request changes.

Does not own: what is answered (`Server.Gate`, `Server.Location`).
-/

namespace LoginGate.Server

/-! ## Endpoints -/

def Endpoint.isPage : Endpoint -> Bool
  | .home | .administrators => true
  | .callback | .login | .logout => false

def endpoint? (server : Server) (site : Site) (request : Http.Request) : Option Endpoint :=
  match server.table site with
  | .error _ => none
  | .ok routes => (routes.find? (·.path = request.target.lookupPath)).map (·.endpoint)

/-- A table holds the routes of the flow and, on the whole site, those of the pages. -/
theorem table_eq_ok {server : Server} {site : Site} {routes : List Route}
    (built : server.table site = .ok routes) :
    routes = (match site with | .flow => [] | .whole => pageRoutes) ++ server.ownFlowRoutes := by
  unfold table at built
  cases checked : server.ownFlowRoutes.forM fun route => checkPath route.path with
  | error fault => simp [checked, bind, Except.bind] at built
  | ok _ =>
    cases site with
    | flow => simpa [checked, bind, Except.bind, pure, Except.pure] using built.symm
    | whole =>
      cases free : server.ownFlowRoutes.forM checkFree with
      | error fault => simp [checked, free, bind, Except.bind] at built
      | ok _ => simpa [checked, free, bind, Except.bind, pure, Except.pure] using built.symm

private theorem isPage_of_endpoint? {server : Server} {site : Site} {request : Http.Request}
    {endpoint : Endpoint} (unconfigured : server.login = none)
    (reached : server.endpoint? site request = some endpoint) : endpoint.isPage = true := by
  unfold endpoint? at reached
  split at reached
  · cases reached
  · rename_i routes built
    obtain ⟨route, found, rfl⟩ := Option.map_eq_some_iff.1 reached
    have member := List.mem_of_find?_eq_some found
    rw [table_eq_ok built] at member
    have noFlow : server.ownFlowRoutes = [] := by
      unfold ownFlowRoutes
      rw [unconfigured]
      rfl
    rw [noFlow, List.append_nil] at member
    cases site with
    | flow => exact absurd member List.not_mem_nil
    | whole =>
      simp only [pageRoutes, List.mem_cons, List.not_mem_nil, or_false] at member
      rcases member with rfl | rfl <;> rfl

theorem answer_of_reached {server : Server} {site : Site} {request : Http.Request}
    {endpoint : Endpoint} (reached : server.endpoint? site request = some endpoint)
    (moment : Moment) :
    server.answer site moment request =
      { server.serve moment endpoint request with
        response :=
          (server.serve moment endpoint request).response.map (finish request.method) } := by
  unfold endpoint? at reached
  unfold answer
  cases built : server.table site with
  | error fault =>
    rw [built] at reached
    cases reached
  | ok routes =>
    rw [built] at reached
    obtain ⟨route, found, rfl⟩ := Option.map_eq_some_iff.1 reached
    simp only [found]

/-- A request that reaches nothing changes nothing. -/
theorem answer_of_unreached {server : Server} {site : Site} {request : Http.Request}
    (unreached : server.endpoint? site request = none) (moment : Moment) :
    ∃ response, server.answer site moment request = { store := server.store, response } ∧
      ∀ given, response = .ok given -> given = notFound := by
  unfold endpoint? at unreached
  unfold answer
  cases built : server.table site with
  | error fault =>
    refine ⟨.error fault, rfl, ?_⟩
    intro given same
    cases same
  | ok routes =>
    rw [built] at unreached
    have missing := Option.map_eq_none_iff.1 unreached
    refine ⟨.ok notFound, ?_, ?_⟩
    · simp only [missing, Answer.plain]
    · intro given same
      cases same
      rfl

/-- The sessions after an answer are those that the reached endpoint leaves. -/
theorem answer_store (server : Server) (site : Site) (moment : Moment) (request : Http.Request) :
    (server.answer site moment request).store =
      match server.endpoint? site request with
      | none => server.store
      | some endpoint => (server.serve moment endpoint request).store := by
  cases reached : server.endpoint? site request with
  | none =>
    obtain ⟨response, same, -⟩ := answer_of_unreached reached moment
    rw [same]
  | some endpoint => rw [answer_of_reached reached]

theorem answer_events (server : Server) (site : Site) (moment : Moment) (request : Http.Request) :
    (server.answer site moment request).events =
      match server.endpoint? site request with
      | none => []
      | some endpoint => (server.serve moment endpoint request).events := by
  cases reached : server.endpoint? site request with
  | none =>
    obtain ⟨response, same, -⟩ := answer_of_unreached reached moment
    rw [same]
  | some endpoint => rw [answer_of_reached reached]

/-! ## Deeds of endpoints -/

def startDeed (server : Server) (moment : Moment) (request : Http.Request) : Deed :=
  .started {
    state := Flow.State.ofBytes moment.stateBytes, referrer := server.returnTarget request.info }

/-- What an endpoint of the flow does to the session of a request. -/
def flowDeed (server : Server) (login : Login) (moment : Moment) (request : Http.Request)
    (session : Session) : Endpoint -> Deed
  | .callback =>
    let callback := Flow.Callback.ofQuery request.target.query
    .calledBack callback.state (login.outcome session moment.now callback)
  | .logout => .loggedOut
  | _ => server.startDeed moment request

/-! ## Incidents -/

/-- The incidents at an endpoint of the flow: without a session nothing is done. -/
def flowHistory (server : Server) (login : Login) (moment : Moment) (endpoint : Endpoint)
    (request : Http.Request) : History :=
  let jar := Http.CookieJar.ofRequest request
  server.lookUp moment.now jar ++
    match (server.findSession moment.now jar).1 with
    | none => []
    | some session => [(session.id, .done (server.flowDeed login moment request session endpoint))]

/-- The incidents of a new session at the gate. It is never logged in, so a login is started, unless
the cookie for it cannot be written. -/
def openHistory (server : Server) (moment : Moment) (request : Http.Request) : History :=
  match Session.create? moment.sessionId moment.now server.store.lifetime with
  | none => []
  | some session =>
    (session.id, .created session.createdAt session.expiresAt) ::
      if (server.cookieFor? session).isSome then
        [(session.id, .done (server.startDeed moment request))]
      else []

def guardHistory (server : Server) (moment : Moment) (request : Http.Request) : History :=
  let jar := Http.CookieJar.ofRequest request
  match (server.findSession moment.now jar).1 with
  | none => server.lookUp moment.now jar ++ server.openHistory moment request
  | some session =>
    if session.hasIdentity server.keys then []
    else [(session.id, .done (server.startDeed moment request))]

def requestHistory (server : Server) (site : Site) (moment : Moment) (request : Http.Request) :
    History :=
  match server.endpoint? site request with
  | none => []
  | some endpoint =>
    match server.login with
    | none => server.lookUp moment.now (.ofRequest request)
    | some login =>
      if endpoint.isPage then server.guardHistory moment request
      else if isAnswered request.method then server.flowHistory login moment endpoint request
      else []

/-! ## Nothing else changes -/

section Replay

variable {server : Server} {login : Login} (moment : Moment) (request : Http.Request)

/-- What an endpoint of the flow leaves behind, given the session of the request. -/
def flowTurn (server : Server) (moment : Moment) (endpoint : Endpoint) (request : Http.Request)
    (session : Option Session) : Turn :=
  match endpoint with
  | .callback =>
    server.completeLogin session request.info moment.now (.ofQuery request.target.query)
  | .logout => server.logout session request.info
  | _ => server.beginLogin session request.info moment.stateBytes

theorem serveFlow_eq (server : Server) (endpoint : Endpoint) :
    server.serveFlow moment endpoint request =
      (server.flowTurn moment endpoint request
        (server.findSession moment.now (.ofRequest request)).1).answer
        (server.findSession moment.now (.ofRequest request)).2 := rfl

private theorem flowTurn_session_none (configured : server.login = some login)
    (endpoint : Endpoint) :
    (server.flowTurn moment endpoint request none).session = none := by
  cases endpoint with
  | callback =>
    show (server.completeLogin none request.info moment.now _).session = none
    unfold completeLogin
    rw [configured]
    rfl
  | logout => rfl
  | login | home | administrators =>
    show (server.beginLogin none request.info moment.stateBytes).session = none
    unfold beginLogin
    rw [configured]

private theorem flowTurn_session_some (configured : server.login = some login) (endpoint : Endpoint)
    (session : Session) :
    (server.flowTurn moment endpoint request (some session)).session =
      some ((server.flowDeed login moment request session endpoint).perform server.keys
        session) := by
  cases endpoint with
  | callback => exact completeLogin_session configured session request.info moment.now _
  | logout => rfl
  | login | home | administrators =>
    exact beginLogin_session configured session request.info moment.stateBytes

/-- An endpoint of the flow changes what its incidents say. -/
theorem find?_serveFlow (configured : server.login = some login) (endpoint : Endpoint)
    (id : SessionId) :
    (server.serveFlow moment endpoint request).store.find? id =
      replay server.keys id (server.store.find? id)
        ((server.flowHistory login moment endpoint request).of id) := by
  rw [serveFlow_eq]
  cases found : (server.findSession moment.now (.ofRequest request)).1 with
  | none =>
    simp only [flowHistory, found, Turn.answer, flowTurn_session_none moment request configured,
      Option.map_none, Option.getD_none, List.append_nil]
    exact find?_findSession server moment.now (.ofRequest request) id
  | some session =>
    have brings := findSession_eq_some_iff.1 found
    obtain ⟨lookedUp, quiet⟩ := findSession_of_brings brings
    simp only [flowHistory, Turn.answer, flowTurn_session_some moment request configured,
      Option.map_some, Option.getD_some, lookedUp, quiet, List.nil_append]
    exact find?_update_perform server.keys brings.find? _ id

/-- Creating a session is one incident. -/
theorem find?_open {store after : Store} {now : Instant} {sessionId : SessionId}
    {session : Session} (created : store.create? now sessionId = some (session, after))
    (keys : Session.Keys) (id : SessionId) :
    after.find? id = replay keys id (store.find? id)
      (History.of [(session.id, .created session.createdAt session.expiresAt)] id) := by
  rw [Store.find?_create? created]
  obtain ⟨expiresAt, rfl⟩ := Session.eq_of_create? (Store.eq_of_create? created).1
  rw [History.of_singleton]
  by_cases same : sessionId = id
  · subst same
    rw [if_pos rfl, if_pos rfl]
    rfl
  · rw [if_neg same, if_neg same]
    rfl

theorem hasIdentity_of_create? {id : SessionId} {now : Instant} {lifetime : Span}
    {session : Session} (created : Session.create? id now lifetime = some session)
    (keys : Session.Keys) : session.hasIdentity keys = false := by
  obtain ⟨expiresAt, rfl⟩ := Session.eq_of_create? created
  rfl

/-- Passing the gate with a session starts a login or changes nothing. -/
theorem find?_pass (configured : server.login = some login) (store : Store) (adminOnly : Bool)
    (page : View -> Http.Response) {session : Session}
    (found : store.find? session.id = some session) (id : SessionId) :
    ({ server with store }.pass moment adminOnly request.info session page).store.find? id =
      replay server.keys id (store.find? id)
        (History.of (if session.hasIdentity server.keys then []
          else [(session.id, .done (server.startDeed moment request))]) id) := by
  unfold pass
  show Store.find? (Answer.store (if (!session.hasIdentity server.keys) = true then _
    else _)) id = _
  cases session.hasIdentity server.keys with
  | false =>
    have looked : ({ server with store } : Server).login = some login := configured
    have started := beginLogin_session looked session request.info moment.stateBytes
    simp only [Bool.not_false, if_true, Turn.answer, started, Option.map_some, Option.getD_some,
      Bool.false_eq_true, if_false]
    exact find?_update_perform server.keys found _ id
  | true =>
    simp only [Bool.not_true, Bool.false_eq_true, if_false, if_true]
    split <;> rfl

theorem lifetime_findSession (server : Server) (now : Instant) (jar : Http.CookieJar) :
    (server.findSession now jar).2.lifetime = server.store.lifetime := by
  rw [findSession_eq]
  cases server.namedId? jar with
  | none => rfl
  | some id =>
    show (server.store.get now id).2.lifetime = _
    unfold Store.get
    split
    · rfl
    · split <;> rfl

theorem ensureSession_of_none (jar : Http.CookieJar)
    (missing : (server.findSession moment.now jar).1 = none) :
    server.ensureSession moment jar =
      match (server.findSession moment.now jar).2.create? moment.now moment.sessionId with
      | none => ((server.findSession moment.now jar).2, .error .beyondCalendar)
      | some (session, store) =>
        match server.cookieFor? session with
        | none => (store, .error .cookieTooOld)
        | some cookie => (store, .ok { session, cookie := some cookie }) := by
  unfold ensureSession
  cases lookedUp : server.findSession moment.now jar with
  | mk found store =>
    rw [lookedUp] at missing
    cases missing
    rfl

theorem ensureSession_of_brings (jar : Http.CookieJar) {session : Session}
    (brings : server.Brings moment.now jar session) :
    server.ensureSession moment jar = (server.store, .ok { session }) := by
  unfold ensureSession
  rw [(findSession_of_brings brings).1]

/-- On a server with a login flow, the gate admits a request with a session or breaks it off. -/
theorem guarded_eq (configured : server.login = some login) (adminOnly : Bool)
    (page : View -> Http.Response) :
    server.guarded moment adminOnly request page =
      match server.ensureSession moment (.ofRequest request) with
      | (store, .error fault) => { store, response := .error fault }
      | (store, .ok admission) =>
        ({ server with store }.pass moment adminOnly request.info admission.session page).withCookie
          admission.cookie := by
  obtain ⟨_, settings, store, admins, forbidden, onFailure⟩ := server
  cases configured
  rfl

theorem store_withCookie (cookie : Option Http.Cookie) (answer : Answer) :
    (answer.withCookie cookie).store = answer.store := by
  cases cookie <;> rfl

private theorem find?_guarded_of_brings (configured : server.login = some login) (adminOnly : Bool)
    (page : View -> Http.Response) {session : Session}
    (brings : server.Brings moment.now (.ofRequest request) session) (id : SessionId) :
    (server.guarded moment adminOnly request page).store.find? id =
      replay server.keys id (server.store.find? id)
        ((server.guardHistory moment request).of id) := by
  rw [guarded_eq moment request configured, ensureSession_of_brings moment _ brings]
  unfold guardHistory
  simp only [findSession_eq_some_iff.2 brings]
  exact find?_pass moment request configured server.store adminOnly page brings.find? id

/-- A request without a session gets one, if the session and its cookie can be made. -/
theorem guarded_of_missing (configured : server.login = some login) (adminOnly : Bool)
    (page : View -> Http.Response)
    (missing : (server.findSession moment.now (.ofRequest request)).1 = none) :
    server.guarded moment adminOnly request page =
      let looked := (server.findSession moment.now (.ofRequest request)).2
      match looked.create? moment.now moment.sessionId with
      | none => { store := looked, response := .error .beyondCalendar }
      | some (session, store) =>
        match server.cookieFor? session with
        | none => { store, response := .error .cookieTooOld }
        | some cookie =>
          ({ server with store }.pass moment adminOnly request.info session page).withCookie
            (some cookie) := by
  rw [guarded_eq moment request configured, ensureSession_of_none moment _ missing]
  dsimp only
  cases Store.create? _ _ _ with
  | none => rfl
  | some opened =>
    dsimp only
    cases server.cookieFor? opened.1 <;> rfl

theorem find?_guarded_of_none (configured : server.login = some login) (adminOnly : Bool)
    (page : View -> Http.Response)
    (missing : (server.findSession moment.now (.ofRequest request)).1 = none) (id : SessionId) :
    (server.guarded moment adminOnly request page).store.find? id =
      replay server.keys id (server.store.find? id)
        ((server.guardHistory moment request).of id) := by
  have lookedUp := find?_findSession server moment.now (.ofRequest request) id
  have lifetime := lifetime_findSession server moment.now (.ofRequest request)
  rw [guarded_of_missing moment request configured adminOnly page missing]
  unfold guardHistory openHistory
  simp only [missing]
  -- From here on only the sessions after the look-up count.
  rw [History.of_append, replay_append, ← lookedUp, ← lifetime]
  cases created : (server.findSession moment.now (.ofRequest request)).2.create? moment.now
      moment.sessionId with
  | none =>
    rw [Option.map_eq_none_iff.1 created]
    rfl
  | some opened =>
    obtain ⟨session, store⟩ := opened
    have opens := (Store.eq_of_create? created).1
    have shown := find?_open created server.keys id
    rw [opens]
    cases cookie : server.cookieFor? session with
    | none => simpa [cookie] using shown
    | some given =>
      have found : store.find? session.id = some session := by
        obtain ⟨expiresAt, rfl⟩ := Session.eq_of_create? opens
        rw [Store.find?_create? created, if_pos rfl]
      have passed := find?_pass moment request configured store adminOnly page found id
      rw [hasIdentity_of_create? opens server.keys, shown, ← replay_append,
        ← History.of_append] at passed
      simpa [cookie, store_withCookie] using passed

/-- The gate changes what its incidents say. -/
theorem find?_guarded (configured : server.login = some login) (adminOnly : Bool)
    (page : View -> Http.Response) (id : SessionId) :
    (server.guarded moment adminOnly request page).store.find? id =
      replay server.keys id (server.store.find? id)
        ((server.guardHistory moment request).of id) := by
  cases found : (server.findSession moment.now (.ofRequest request)).1 with
  | none => exact find?_guarded_of_none moment request configured adminOnly page found id
  | some session =>
    exact find?_guarded_of_brings moment request configured adminOnly page
      (findSession_eq_some_iff.1 found) id

private theorem find?_guarded_of_unconfigured (unconfigured : server.login = none)
    (adminOnly : Bool) (page : View -> Http.Response) (id : SessionId) :
    (server.guarded moment adminOnly request page).store.find? id =
      replay server.keys id (server.store.find? id)
        ((server.lookUp moment.now (.ofRequest request)).of id) := by
  rw [← find?_findSession]
  unfold guarded
  rw [unconfigured]
  rfl

/-- The sessions after an answer are those before it with the incidents of the request replayed. -/
theorem find?_answer (server : Server) (site : Site) (id : SessionId) :
    (server.answer site moment request).store.find? id =
      replay server.keys id (server.store.find? id)
        ((server.requestHistory site moment request).of id) := by
  rw [answer_store]
  unfold requestHistory
  cases reached : server.endpoint? site request with
  | none => rfl
  | some endpoint =>
    cases configured : server.login with
    | none =>
      have page := isPage_of_endpoint? configured reached
      cases endpoint with
      | home => exact find?_guarded_of_unconfigured moment request configured false _ id
      | administrators => exact find?_guarded_of_unconfigured moment request configured true _ id
      | callback | login | logout => cases page
    | some login =>
      cases endpoint with
      | home => exact find?_guarded moment request configured false _ id
      | administrators => exact find?_guarded moment request configured true _ id
      | callback | login | logout =>
        simp only [serve, Endpoint.isPage, Bool.false_eq_true, if_false]
        by_cases answered : isAnswered request.method = true
        · rw [if_pos answered, if_pos answered]
          exact find?_serveFlow moment request configured _ id
        · rw [if_neg answered, if_neg answered]
          rfl

end Replay

/-! ## What the provider is asked -/

private theorem events_withCookie (cookie : Option Http.Cookie) (answer : Answer) :
    (answer.withCookie cookie).events = answer.events := by
  cases cookie <;> rfl

theorem events_beginLogin (server : Server) (session : Option Session)
    (request : Http.RequestInfo) (stateBytes : Bytes) :
    (server.beginLogin session request stateBytes).events = [] := by
  unfold beginLogin
  dsimp only
  split <;> rfl

theorem events_guarded (server : Server) (moment : Moment) (adminOnly : Bool)
    (request : Http.Request) (page : View -> Http.Response) :
    (server.guarded moment adminOnly request page).events = [] := by
  cases configured : server.login with
  | none =>
    unfold guarded
    rw [configured]
    rfl
  | some login =>
    rw [guarded_eq moment request configured]
    split
    · rfl
    · rw [events_withCookie]
      unfold pass
      dsimp only
      split
      · exact events_beginLogin _ _ _ _
      · split <;> rfl

/-- The endpoint for callbacks asks the provider about a code exactly when the request brings a
session that does not refuse the callback. -/
theorem codeExchange_mem_serveFlow {server : Server} {login : Login} {moment : Moment}
    {request : Http.Request} {code : Text} (configured : server.login = some login) :
    .codeExchange code ∈ (server.serveFlow moment .callback request).events ↔
      ∃ session, server.Brings moment.now (.ofRequest request) session ∧
        login.outcome session moment.now (.ofQuery request.target.query) ≠ .refused ∧
        code = (Flow.Callback.ofQuery request.target.query).code := by
  rw [serveFlow_eq]
  show .codeExchange code ∈ (server.completeLogin _ request.info moment.now _).events ↔ _
  cases found : (server.findSession moment.now (.ofRequest request)).1 with
  | none =>
    constructor
    · intro asked
      simp [completeLogin, configured, failLogin] at asked
    · rintro ⟨session, brings, -⟩
      rw [findSession_eq_some_iff.2 brings] at found
      cases found
  | some session =>
    have brings := findSession_eq_some_iff.1 found
    rw [codeExchange_mem_completeLogin configured]
    constructor
    · intro asked
      exact ⟨session, brings, asked⟩
    · rintro ⟨other, bringsOther, asked⟩
      rw [brings.unique bringsOther]
      exact asked

/-- The provider is asked about a code exactly when a callback comes with a session and is not
refused there. -/
theorem codeExchange_mem_answer_iff {server : Server} {site : Site} {moment : Moment}
    {request : Http.Request} {code : Text} :
    .codeExchange code ∈ (server.answer site moment request).events ↔
      ∃ login session, server.login = some login ∧
        server.endpoint? site request = some .callback ∧ isAnswered request.method = true ∧
        server.Brings moment.now (.ofRequest request) session ∧
        login.outcome session moment.now (.ofQuery request.target.query) ≠ .refused ∧
        code = (Flow.Callback.ofQuery request.target.query).code := by
  rw [answer_events]
  cases reached : server.endpoint? site request with
  | none => simp
  | some endpoint =>
    cases endpoint with
    | home => simp [serve, events_guarded]
    | administrators => simp [serve, events_guarded]
    | login =>
      simp only [serve, reduceCtorEq, Option.some.injEq, false_and, and_false, exists_false,
        iff_false]
      split
      · simp [serveFlow_eq, Turn.answer, flowTurn, events_beginLogin]
      · exact List.not_mem_nil
    | logout =>
      simp only [serve, reduceCtorEq, Option.some.injEq, false_and, and_false, exists_false,
        iff_false]
      split
      · simp [serveFlow_eq, Turn.answer, flowTurn, logout]
      · exact List.not_mem_nil
    | callback =>
      cases configured : server.login with
      | none => cases isPage_of_endpoint? configured reached
      | some login =>
        simp only [serve, Option.some.injEq, exists_and_left, exists_eq_left', true_and]
        by_cases answered : isAnswered request.method = true
        · rw [if_pos answered, codeExchange_mem_serveFlow configured]
          simp [answered]
        · simp [answered, Answer.plain]

end LoginGate.Server
