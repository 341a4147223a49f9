import LoginGate.Proofs.Server.Verdict

/-!
Contract: the gate lets exactly those requests pass whose session is logged in, over every run.

Owns:
- what the gate answers to a request with a session, and to one without;
- the pages as guarded handlers;
- the law that relates these answers to the history of the session.

Does not own: what a session holds (`Server.Verdict`).
-/

namespace LoginGate.Server

/-! ## Answers at the gate -/

/-- The gate lets a request pass to whatever page there is, with one view. -/
def Admits (server : Server) (moment : Moment) (adminOnly : Bool) (request : Http.Request)
    (view : View) : Prop :=
  ∀ page, (server.guarded moment adminOnly request page).response = .ok (page view)

/-- The answer that sends a browser to the provider with a new state. -/
def loginResponse (provider : Provider) (moment : Moment) : Http.Response :=
  .found (provider.authorizationUrl (Flow.State.ofBytes moment.stateBytes))

section Guarded

variable {server : Server} {login : Login} (configured : server.login = some login)
  {moment : Moment} {adminOnly : Bool} {request : Http.Request}
include configured

theorem response_beginLogin (session : Session) (info : Http.RequestInfo) :
    (server.beginLogin (some session) info moment.stateBytes).response =
      .ok (loginResponse login.provider moment) := by
  unfold beginLogin
  rw [configured]
  rfl

private theorem response_pass (info : Http.RequestInfo) (session : Session)
    (page : View -> Http.Response) :
    (server.pass moment adminOnly info session page).response =
      .ok (if session.hasIdentity server.keys then
          if adminOnly && !(server.view (some session)).isAdmin then server.forbidden info
          else page (server.view (some session))
        else loginResponse login.provider moment) := by
  unfold pass
  dsimp only
  cases session.hasIdentity server.keys with
  | false => exact response_beginLogin configured session info
  | true =>
    simp only [Bool.not_true, Bool.false_eq_true, if_false, if_true]
    split <;> rfl

theorem response_guarded_of_brings {session : Session}
    (brings : server.Brings moment.now (.ofRequest request) session)
    (page : View -> Http.Response) :
    (server.guarded moment adminOnly request page).response =
      .ok (if session.hasIdentity server.keys then
          if adminOnly && !(server.view (some session)).isAdmin then server.forbidden request.info
          else page (server.view (some session))
        else loginResponse login.provider moment) := by
  rw [guarded_eq moment request configured, ensureSession_of_brings moment _ brings]
  exact response_pass configured request.info session page

/-- A request without a session gets a new one and is sent to the provider, unless the session or
its cookie would last too long. -/
theorem response_guarded_of_not_brings
    (stranger : ∀ session, ¬ server.Brings moment.now (.ofRequest request) session)
    (page : View -> Http.Response) :
    (server.guarded moment adminOnly request page).response =
      match Session.create? moment.sessionId moment.now server.store.lifetime with
      | none => .error .beyondCalendar
      | some session =>
        match server.cookieFor? session with
        | none => .error .cookieTooOld
        | some cookie => .ok ((loginResponse login.provider moment).withHeader cookie.header) := by
  have missing := findSession_eq_none_iff.2 stranger
  have looking (store : Store) : ({ server with store } : Server).login = some login := configured
  rw [guarded_of_missing moment request configured adminOnly page missing,
    ← lifetime_findSession server moment.now (.ofRequest request)]
  dsimp only
  cases created : (server.findSession moment.now (.ofRequest request)).2.create? moment.now
      moment.sessionId with
  | none => rw [Option.map_eq_none_iff.1 created]
  | some opened =>
    obtain ⟨session, store⟩ := opened
    have opens := (Store.eq_of_create? created).1
    have fresh := hasIdentity_of_create? opens server.keys
    rw [opens]
    dsimp only
    cases server.cookieFor? session with
    | none => rfl
    | some cookie =>
      simp only [Answer.withCookie]
      rw [response_pass (looking store)]
      show Except.ok (Http.Response.withHeader (if session.hasIdentity server.keys = true then _
        else _) _) = _
      rw [fresh]
      rfl

end Guarded

/-! ## Pages -/

private theorem endpoint?_of_page {server : Server} {request : Http.Request} {routes : List Route}
    (built : server.table .whole = .ok routes) {page : Route} (isPage : page ∈ pageRoutes)
    (reached : request.target.lookupPath = page.path) :
    server.endpoint? .whole request = some page.endpoint := by
  unfold endpoint?
  rw [built]
  dsimp only
  rw [table_eq_ok built, reached]
  simp only [pageRoutes, List.mem_cons, List.not_mem_nil, or_false] at isPage
  rcases isPage with rfl | rfl
  · rfl
  · rfl

private theorem finish_get (response : Http.Response) :
    finish "GET".toList response = response := by
  have answered : isAnswered "GET".toList = true := rfl
  unfold finish
  rw [answered]
  simp

/-- What a `GET` request gets from a site is what its endpoint answers. -/
theorem answer_of_get {server : Server} {site : Site} {moment : Moment} {request : Http.Request}
    (got : request.method = "GET".toList) {endpoint : Endpoint}
    (reached : server.endpoint? site request = some endpoint) :
    server.answer site moment request = server.serve moment endpoint request := by
  have same (result : Except Fault Http.Response) :
      result.map (finish request.method) = result := by
    rw [got]
    cases result with
    | error fault => rfl
    | ok response => exact congrArg Except.ok (finish_get response)
  rw [answer_of_reached reached, same]

def Endpoint.adminOnly : Endpoint -> Bool
  | .administrators => true
  | _ => false

/-- The content of a page, apart from the gate before it. -/
def pageOf (server : Server) : Endpoint -> View -> Http.Response
  | .administrators => Page.administrators server.logoutPath server.admins
  | _ => Page.home server.logoutPath

private theorem answer_page {server : Server} {moment : Moment} {request : Http.Request}
    (got : request.method = "GET".toList) {routes : List Route}
    (built : server.table .whole = .ok routes) {page : Route} (isPage : page ∈ pageRoutes)
    (asked : request.target.lookupPath = page.path) :
    server.answer .whole moment request =
      server.guarded moment page.endpoint.adminOnly request (server.pageOf page.endpoint) := by
  have answered : isAnswered request.method = true := by
    rw [got]
    rfl
  rw [answer_of_get got (endpoint?_of_page built isPage asked)]
  simp only [pageRoutes, List.mem_cons, List.not_mem_nil, or_false] at isPage
  rcases isPage with rfl | rfl
  · simp only [serve, answered, if_true]
    rfl
  · simp only [serve, answered, if_true]
    rfl

/-! ## Who may see what -/

/-- Whether the owner of a grant may see a page: for a page of administrators the address in the
document must be one of theirs, unless there are none. -/
def MaySee (server : Server) (adminOnly : Bool) (grant : Session.Grant) : Prop :=
  adminOnly = true ->
    server.admins.emails = [] ∨
      ∃ email, Identity.email? grant.document = some email ∧ email ∈ server.admins.emails

def grantView (server : Server) (id : SessionId) (grant : Session.Grant) : View where
  session := some id
  email := (Identity.email? grant.document).getD []
  isAdmin := server.admins.isAdmin ((Identity.email? grant.document).getD [])
  document := some grant.document

theorem isAdmin_grantView_iff (server : Server) (id : SessionId) (grant : Session.Grant) :
    (server.grantView id grant).isAdmin = true ↔ server.MaySee true grant := by
  unfold MaySee
  rw [← Admins.isAdmin_getD_iff]
  exact ⟨fun ranked _ => ranked, fun may => may rfl⟩

section Held

variable {server : Server} {login : Login} (configured : server.login = some login)
  {moment : Moment} {adminOnly : Bool} {request : Http.Request} {session : Session}
include configured

private theorem view_of_holds {grant : Session.Grant}
    (holds : Session.Holds server.keys (some grant) session) :
    server.view (some session) = server.grantView session.id grant := by
  have address : emailOf server.keys session = (Identity.email? grant.document).getD [] :=
    congrArg (·.getD []) holds.address
  have ranked (email : Text) : server.isAdmin email = server.admins.isAdmin email := by
    unfold isAdmin
    rw [configured]
    rfl
  simp only [view, grantView, address, ranked, holds.document, Option.map_some]

variable (brings : server.Brings moment.now (.ofRequest request) session)
include brings

private theorem response_of_holds_none (holds : Session.Holds server.keys none session)
    (page : View -> Http.Response) :
    (server.guarded moment adminOnly request page).response =
      .ok (loginResponse login.provider moment) := by
  rw [response_guarded_of_brings configured brings, holds.hasIdentity]
  rfl

private theorem response_of_holds_some {grant : Session.Grant}
    (holds : Session.Holds server.keys (some grant) session) (page : View -> Http.Response) :
    (server.MaySee adminOnly grant ->
      (server.guarded moment adminOnly request page).response =
        .ok (page (server.grantView session.id grant))) ∧
    (¬ server.MaySee adminOnly grant ->
      (server.guarded moment adminOnly request page).response =
        .ok (server.forbidden request.info)) := by
  rw [response_guarded_of_brings configured brings, holds.hasIdentity,
    view_of_holds configured holds]
  have rank := isAdmin_grantView_iff server session.id grant
  cases adminOnly with
  | false =>
    refine ⟨fun _ => rfl, fun hidden => absurd ?_ hidden⟩
    intro never
    cases never
  | true =>
    cases ranked : (server.grantView session.id grant).isAdmin with
    | true => exact ⟨fun _ => rfl, fun hidden => absurd (rank.1 ranked) hidden⟩
    | false =>
      refine ⟨fun may => ?_, fun _ => rfl⟩
      rw [rank.2 may] at ranked
      cases ranked

end Held

/-! ## Every run -/

/-- What the gate answers to a request agrees with the history of the sessions. -/
structure GateFollows (server : Server) (provider : Provider) (history : History)
    (moment : Moment) (adminOnly : Bool) (request : Http.Request) : Prop where
  /-- A page is shown exactly to a session that is logged in and may see it, and shows the document
  of that login. -/
  shows : ∀ view, server.Admits moment adminOnly request view ↔
    ∃ session grant, server.Brings moment.now (.ofRequest request) session ∧
      LoggedIn (history.of session.id) grant ∧ server.MaySee adminOnly grant ∧
      view = server.grantView session.id grant
  /-- A session that is logged in and may not see the page is forbidden to. -/
  forbids : ∀ session grant, server.Brings moment.now (.ofRequest request) session ->
    LoggedIn (history.of session.id) grant -> ¬ server.MaySee adminOnly grant ->
    ∀ page, (server.guarded moment adminOnly request page).response =
      .ok (server.forbidden request.info)
  /-- A session that is not logged in is sent to the provider. -/
  sendsAway : ∀ session, server.Brings moment.now (.ofRequest request) session ->
    (∀ grant, ¬ LoggedIn (history.of session.id) grant) ->
    ∀ page, (server.guarded moment adminOnly request page).response =
      .ok (loginResponse provider moment)
  /-- So is a request without a session, and it gets the cookie of a new one. -/
  welcomes : (∀ session, ¬ server.Brings moment.now (.ofRequest request) session) ->
    ∀ session cookie,
      Session.create? moment.sessionId moment.now server.store.lifetime = some session ->
      server.cookieFor? session = some cookie ->
      ∀ page, (server.guarded moment adminOnly request page).response =
        .ok ((loginResponse provider moment).withHeader cookie.header)
  /-- Work breaks off exactly where a new session or its cookie would last too long. -/
  breaksOff : ∀ page, (∃ fault,
      (server.guarded moment adminOnly request page).response = .error fault) ↔
    (∀ session, ¬ server.Brings moment.now (.ofRequest request) session) ∧
      ∀ session, Session.create? moment.sessionId moment.now server.store.lifetime = some session ->
        server.cookieFor? session = none

/-- A request that is answered without the page is not let pass. -/
theorem not_admits {server : Server} {moment : Moment} {adminOnly : Bool}
    {request : Http.Request} {result : Except Fault Http.Response}
    (constant : ∀ page, (server.guarded moment adminOnly request page).response = result)
    (view : View) : ¬ server.Admits moment adminOnly request view := by
  intro admits
  have first := (constant _).symm.trans (admits fun _ => { status := 200 })
  have second := (constant _).symm.trans (admits fun _ => { status := 404 })
  rw [first] at second
  cases second

/-- A request that a page is shown to is let pass with one view only. -/
theorem admits_iff {server : Server} {moment : Moment} {adminOnly : Bool}
    {request : Http.Request} {shown : View}
    (shows : ∀ page, (server.guarded moment adminOnly request page).response = .ok (page shown))
    (view : View) : server.Admits moment adminOnly request view ↔ view = shown := by
  classical
  constructor
  · intro admits
    -- A page that tells the view from all others.
    let page (given : View) : Http.Response := { status := if given = view then 200 else 404 }
    have same : page view = page shown := Except.ok.inj ((admits page).symm.trans (shows page))
    have status : (200 : Nat) = if shown = view then 200 else 404 := by
      simpa [page] using congrArg Http.Response.status same
    refine Classical.byContradiction fun different => ?_
    rw [if_neg (Ne.symm different)] at status
    cases status
  · rintro rfl
    exact shows

section Follows

variable {server : Server} {login : Login} (configured : server.login = some login)
  {history : History}
  (holds : ∀ session, server.store.find? session.id = some session ->
    Session.Holds server.keys (latest Incident.verdict? none (history.of session.id)) session)
  {moment : Moment} {adminOnly : Bool} {request : Http.Request}
include configured holds

private theorem response_of_loggedIn {session : Session}
    (brings : server.Brings moment.now (.ofRequest request) session) {grant : Session.Grant}
    (logged : LoggedIn (history.of session.id) grant) (page : View -> Http.Response) :
    (server.MaySee adminOnly grant ->
      (server.guarded moment adminOnly request page).response =
        .ok (page (server.grantView session.id grant))) ∧
    (¬ server.MaySee adminOnly grant ->
      (server.guarded moment adminOnly request page).response =
        .ok (server.forbidden request.info)) := by
  have held := holds session brings.find?
  rw [loggedIn_iff_latest.1 logged] at held
  exact response_of_holds_some configured brings held page

private theorem response_of_not_loggedIn {session : Session}
    (brings : server.Brings moment.now (.ofRequest request) session)
    (never : ∀ grant, ¬ LoggedIn (history.of session.id) grant) (page : View -> Http.Response) :
    (server.guarded moment adminOnly request page).response =
      .ok (loginResponse login.provider moment) := by
  have held := holds session brings.find?
  cases settled : latest Incident.verdict? none (history.of session.id) with
  | some grant => exact absurd (loggedIn_iff_latest.2 settled) (never grant)
  | none =>
    rw [settled] at held
    exact response_of_holds_none configured brings held page

private theorem admits_iff_loggedIn (view : View) :
    server.Admits moment adminOnly request view ↔
      ∃ session grant, server.Brings moment.now (.ofRequest request) session ∧
        LoggedIn (history.of session.id) grant ∧ server.MaySee adminOnly grant ∧
        view = server.grantView session.id grant := by
  constructor
  · intro admits
    by_cases stranger : ∀ session, ¬ server.Brings moment.now (.ofRequest request) session
    · exact absurd admits
        (not_admits (response_guarded_of_not_brings configured stranger) view)
    · obtain ⟨session, brings⟩ := Classical.not_forall_not.1 stranger
      by_cases never : ∀ grant, ¬ LoggedIn (history.of session.id) grant
      · exact absurd admits
          (not_admits (response_of_not_loggedIn configured holds brings never) view)
      · obtain ⟨grant, logged⟩ := Classical.not_forall_not.1 never
        by_cases may : server.MaySee adminOnly grant
        · have shows (page : View -> Http.Response) :=
            (response_of_loggedIn configured holds brings logged page).1 may
          exact ⟨session, grant, brings, logged, may, (admits_iff shows view).1 admits⟩
        · have forbids (page : View -> Http.Response) :=
            (response_of_loggedIn configured holds brings logged page).2 may
          exact absurd admits (not_admits forbids view)
  · rintro ⟨session, grant, brings, logged, may, rfl⟩ page
    exact (response_of_loggedIn configured holds brings logged page).1 may

/-- Where every stored session holds the last verdict about it, the gate follows the history. -/
theorem gateFollows :
    server.GateFollows login.provider history moment adminOnly request where
  shows := admits_iff_loggedIn configured holds
  forbids _ _ brings logged hidden page :=
    (response_of_loggedIn configured holds brings logged page).2 hidden
  sendsAway _ brings never := response_of_not_loggedIn configured holds brings never
  welcomes stranger session cookie created given page := by
    rw [response_guarded_of_not_brings configured stranger, created]
    simp only [given]
  breaksOff page := by
    constructor
    · rintro ⟨fault, broken⟩
      have stranger : ∀ session, ¬ server.Brings moment.now (.ofRequest request) session := by
        intro session brings
        rw [response_guarded_of_brings configured brings] at broken
        cases broken
      refine ⟨stranger, ?_⟩
      intro session created
      rw [response_guarded_of_not_brings configured stranger, created] at broken
      cases given : server.cookieFor? session with
      | none => rfl
      | some cookie =>
        simp only [given] at broken
        cases broken
    · rintro ⟨stranger, tooLong⟩
      rw [response_guarded_of_not_brings configured stranger]
      cases created : Session.create? moment.sessionId moment.now server.store.lifetime with
      | none => exact ⟨_, rfl⟩
      | some session =>
        simp only [tooLong session created]
        exact ⟨_, rfl⟩

end Follows

theorem table_asking_run (server : Server) (steps : List Step) (provider : Provider)
    (site : Site) : ((server.run steps).asking provider).table site = server.table site := by
  have same : ((server.run steps).asking provider).ownFlowRoutes = server.ownFlowRoutes := by
    unfold ownFlowRoutes asking
    rw [login_run]
    cases server.login <;> rfl
  unfold table
  rw [same]

/-- **The gate is sound and complete over every run.**

A server with a login flow starts without sessions and does any steps, in which the application
leaves the three keys alone. Then a `GET` request for a page is answered by the handler of the page
behind the gate, and the gate shows the page exactly to a session whose login was last settled by an
accepted callback, with the document of that callback; to the page of administrators the address in
the document must belong to one of them, unless there are none. Everybody else is forbidden to see
the page or is sent to the provider. The one exception is a request without a session on a server
whose sessions, or their cookies, would last too long. -/
theorem gate_follows_history {server : Server} {login : Login}
    (configured : server.login = some login) (apart : server.keys.Apart)
    (empty : server.store.sessions = []) {routes : List Route}
    (built : server.table .whole = .ok routes) {steps : List Step}
    (spares : ∀ step ∈ steps, step.Spares server.keys.all) {visit : Visit}
    (whole : visit.site = .whole) (got : visit.request.method = "GET".toList) :
    let after := (server.run steps).asking visit.provider
    (visit.request.target.lookupPath = "/".toList ->
      visit.answer (server.run steps) =
        after.guarded visit.moment false visit.request (Page.home after.logoutPath)) ∧
    (visit.request.target.lookupPath = "/admin".toList ->
      visit.answer (server.run steps) =
        after.guarded visit.moment true visit.request
          (Page.administrators after.logoutPath after.admins)) ∧
    ∀ adminOnly, after.GateFollows visit.provider (server.history steps) visit.moment adminOnly
      visit.request := by
  intro after
  have builtAfter : after.table .whole = .ok routes :=
    (table_asking_run server steps visit.provider .whole).trans built
  have answers {page : Route} (isPage : page ∈ pageRoutes)
      (asked : visit.request.target.lookupPath = page.path) :
      visit.answer (server.run steps) = after.guarded visit.moment page.endpoint.adminOnly
        visit.request (after.pageOf page.endpoint) := by
    unfold Visit.answer
    rw [whole]
    exact answer_page got builtAfter isPage asked
  have home : (⟨"/".toList, .home⟩ : Route) ∈ pageRoutes := by decide
  have administrators : (⟨"/admin".toList, .administrators⟩ : Route) ∈ pageRoutes := by decide
  refine ⟨answers home, answers administrators, fun adminOnly => ?_⟩
  have configuredAfter : after.login = some { login with provider := visit.provider } := by
    show (server.run steps).login.map _ = _
    rw [login_run, configured]
    rfl
  have keysAfter : after.keys = server.keys := keys_run server steps
  refine gateFollows configuredAfter ?_
  intro session found
  rw [keysAfter]
  exact holds_run apart empty spares found

/-- After a login the home page follows the history. -/
theorem sample_gate_follows_history :
    let steps := [
      Step.visit (Sample.visit "/" none),
      Step.visit (Sample.visit "/auth/callback" (some "code=x&state=AQID"))]
    let visit := Sample.visit "/" none
    let after := (Sample.server.run steps).asking visit.provider
    visit.answer (Sample.server.run steps) =
      after.guarded visit.moment false visit.request (Page.home after.logoutPath) ∧
    after.GateFollows Sample.provider (Sample.server.history steps) visit.moment false
      visit.request := by
  intro steps visit after
  have apart : Sample.server.keys.Apart := Session.Keys.apart_default
  have spares : ∀ step ∈ steps, step.Spares Sample.server.keys.all := by
    intro step member key written
    simp only [steps, List.mem_cons, List.not_mem_nil, or_false] at member
    rcases member with rfl | rfl <;> cases written
  have built : Sample.server.table .whole =
      .ok (pageRoutes ++ Sample.server.ownFlowRoutes) := rfl
  have whole : visit.site = .whole := rfl
  have got : visit.request.method = "GET".toList := rfl
  have follows := gate_follows_history rfl apart rfl built spares whole got
  exact ⟨follows.1 rfl, follows.2.2 false⟩

end LoginGate.Server
