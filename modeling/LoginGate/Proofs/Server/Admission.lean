import LoginGate.Proofs.Http.Cookie
import LoginGate.Proofs.Server.Gate
import LoginGate.Proofs.Server.Isolation
import LoginGate.Proofs.SessionId

/-!
Contract: the cookie that the gate sets finds its session again.

Owns:
- the cookies that a response sets;
- what the gate makes of a request that brings no session, and that it changes no other session;
- the law that the cookie, sent back, finds the session for as long as this lives.

Does not own: encoding of cookies (`Http.Cookie`) and of ids (`SessionId`).
-/

namespace LoginGate

def Http.Header.isSetCookie (header : Http.Header) : Bool := header.name = "set-cookie".toList

def Http.Response.setCookies (response : Http.Response) : List Text :=
  (response.headers.filter Http.Header.isSetCookie).map (·.value)

namespace Server

/-! ## Cookies that the gate sets -/

private theorem setCookies_found (location : Text) :
    (Http.Response.found location).setCookies = [] := by
  unfold Http.Response.found
  split <;> rfl

private theorem setCookies_withHeader (response : Http.Response) (cookie : Http.Cookie) :
    (response.withHeader cookie.header).setCookies =
      response.setCookies ++ [cookie.header.value] := by
  have named : cookie.header.isSetCookie = true := decide_eq_true rfl
  unfold Http.Response.setCookies Http.Response.withHeader
  rw [List.filter_append, List.filter_cons_of_pos named, List.map_append]
  rfl

private theorem eq_of_cookieFor? {server : Server} {session : Session} {cookie : Http.Cookie}
    (made : server.cookieFor? session = some cookie) :
    cookie.name = server.settings.cookieName ∧ cookie.value = session.id.text := by
  unfold cookieFor? at made
  dsimp only at made
  split at made
  · cases made
    exact ⟨rfl, rfl⟩
  · cases made

/-- A request that sends the cookie of a session back names this session. -/
theorem namedId?_of_returns {server : Server} (named : server.settings.cookieName ≠ [])
    {session : Session} (drawn : session.id.bits < SessionId.count) {cookie : Http.Cookie}
    (made : server.cookieFor? session = some cookie) {request : Http.Request}
    (returns : Http.CookieJar.Returns request server.settings.cookieName cookie.header.value) :
    server.namedId? (.ofRequest request) = some session.id := by
  obtain ⟨name, value⟩ := eq_of_cookieFor? made
  rw [← name] at named returns
  unfold namedId?
  rw [← name, Http.CookieJar.get?_of_returns named returns, value, Option.bind_some,
    SessionId.parse_text drawn]
  rfl

/-! ## A request without a session -/

section Stranger

variable {server : Server} {login : Login} (configured : server.login = some login)
  {moment : Moment} {request : Http.Request}
  (stranger : ∀ session, ¬ server.Brings moment.now (.ofRequest request) session)
  (adminOnly : Bool) (page : View -> Http.Response)
include configured stranger

private theorem find?_guarded_of_not_brings (id : SessionId) :
    (server.guarded moment adminOnly request page).store.find? id =
      replay server.keys id
        (if server.namedId? (.ofRequest request) = some id then
          Session.live moment.now (server.store.find? id)
        else server.store.find? id)
        ((server.openHistory moment request).of id) := by
  have missing := findSession_eq_none_iff.2 stranger
  rw [find?_guarded_of_none moment request configured adminOnly page missing]
  unfold guardHistory
  dsimp only
  rw [missing]
  dsimp only
  rw [History.of_append, replay_append, replay_lookUp]

/-- A request without a session is answered if a session and its cookie can be made. -/
theorem response_guarded_eq_ok_iff {response : Http.Response} :
    (server.guarded moment adminOnly request page).response = .ok response ↔
      ∃ session cookie,
        Session.create? moment.sessionId moment.now server.store.lifetime = some session ∧
          server.cookieFor? session = some cookie ∧
          (loginResponse login.provider moment).withHeader cookie.header = response := by
  rw [response_guarded_of_not_brings configured stranger]
  cases Session.create? moment.sessionId moment.now server.store.lifetime with
  | none => simp
  | some session =>
    cases made : server.cookieFor? session with
    | none => simp [made]
    | some cookie => simp [made]

/-- A request without a session changes no other session; it drops the one that it names, which is
over. -/
theorem find?_guarded_of_other {held : Session} (found : server.store.find? held.id = some held)
    (fresh : moment.sessionId ≠ held.id) :
    (server.guarded moment adminOnly request page).store.find? held.id = some held ∨
      server.namedId? (.ofRequest request) = some held.id ∧
        held.isExpired moment.now = true ∧
        (server.guarded moment adminOnly request page).store.find? held.id = none := by
  rw [find?_guarded_of_not_brings configured stranger, openHistory_of_other fresh, found]
  by_cases names : server.namedId? (.ofRequest request) = some held.id
  · right
    have ended : held.isExpired moment.now = true := by
      rw [← Bool.not_eq_false]
      exact fun alive => stranger held ⟨held.id, names, found, alive⟩
    refine ⟨names, ended, ?_⟩
    rw [if_pos names, Session.live_some, if_pos ended]
    rfl
  · rw [if_neg names]
    exact .inl rfl

/-- The new session of a request waits for the login that the request starts. -/
theorem find?_guarded_of_opened {session : Session}
    (created : Session.create? moment.sessionId moment.now server.store.lifetime = some session)
    {cookie : Http.Cookie} (made : server.cookieFor? session = some cookie) :
    (server.guarded moment adminOnly request page).store.find? session.id =
      some ((server.startDeed moment request).perform server.keys session) := by
  rw [find?_guarded_of_not_brings configured stranger]
  unfold openHistory
  rw [created]
  dsimp only
  rw [made]
  obtain ⟨expiresAt, rfl⟩ := Session.eq_of_create? created
  simp [History.of, replay, Incident.perform]

end Stranger

/-! ## A request with its session -/

/-- A request is admitted at the gate with a session that is there already: it is answered, and
neither does the gate set a cookie nor are sessions created or removed. -/
structure Readmits (server : Server) (moment : Moment) (request : Http.Request)
    (session : Session) : Prop where
  finds : (server.findSession moment.now (.ofRequest request)).1 = some session
  answers : ∀ adminOnly page, ∃ response,
    (server.guarded moment adminOnly request page).response = .ok response ∧
      ((∀ view, (page view).setCookies = []) -> (∀ info, (server.forbidden info).setCookies = []) ->
        response.setCookies = [])
  keeps : ∀ adminOnly page,
    (server.guarded moment adminOnly request page).store.sessions.map (·.id) =
      server.store.sessions.map (·.id)

section Brings

variable {server : Server} {login : Login} (configured : server.login = some login)
  {moment : Moment} {request : Http.Request} {session : Session}
  (brings : server.Brings moment.now (.ofRequest request) session)
include configured brings

private theorem ids_guarded_of_brings (adminOnly : Bool) (page : View -> Http.Response) :
    (server.guarded moment adminOnly request page).store.sessions.map (·.id) =
      server.store.sessions.map (·.id) := by
  rw [guarded_eq moment request configured, ensureSession_of_brings moment _ brings]
  dsimp only
  rw [store_withCookie]
  unfold pass
  dsimp only
  split
  · simp only [Turn.answer, beginLogin_session configured, Option.map_some, Option.getD_some]
    exact Store.ids_update _ _
  · split <;> rfl

private theorem readmits_of_brings : server.Readmits moment request session where
  finds := findSession_eq_some_iff.2 brings
  answers adminOnly page := by
    refine ⟨_, response_guarded_of_brings configured brings page, fun pages forbidden => ?_⟩
    split
    · split
      · exact forbidden _
      · exact pages _
    · exact setCookies_found _
  keeps := ids_guarded_of_brings configured brings

end Brings

/-! ## The round trip -/

/-- A session is found again by its cookie: after any steps that leave it alone, a request that
sends the cookie back is admitted with the session as these steps left it, unless it is over. -/
def FindsAgain (server : Server) (now : Instant) (opened : Session) (setCookie : Text) : Prop :=
  ∀ steps moment request, Ordered now steps -> (∀ step ∈ steps, step.Avoids opened.id) ->
    (∀ time ∈ now :: steps.filterMap Step.time?, time ≤ moment.now) ->
    Http.CookieJar.Returns request server.settings.cookieName setCookie ->
    opened.isExpired moment.now = false ->
    (server.run steps).Readmits moment request (server.lastHeld opened.id opened steps)

private theorem findsAgain_of_keeps {server : Server} {login : Login}
    (configured : server.login = some login) (named : server.settings.cookieName ≠ [])
    {now : Instant} {opened : Session} (keeps : server.store.Keeps opened.id now opened)
    (drawn : opened.id.bits < SessionId.count) {cookie : Http.Cookie}
    (made : server.cookieFor? opened = some cookie) :
    server.FindsAgain now opened cookie.header.value := by
  intro steps moment request ordered avoids behind returns alive
  have later := keeps_run keeps avoids ordered behind
  have configuredLater : (server.run steps).login = some login :=
    (login_run server steps).trans configured
  have names : (server.run steps).namedId? (.ofRequest request) = some opened.id := by
    rw [← namedId?_of_returns named drawn made returns]
    unfold namedId?
    rw [settings_run]
  have aliveLater : (server.lastHeld opened.id opened steps).isExpired moment.now = false := by
    rw [Session.isExpired_eq_false_iff, expiresAt_lastHeld keeps avoids ordered]
    exact Session.isExpired_eq_false_iff.1 alive
  exact readmits_of_brings configuredLater (brings_of_keeps later names aliveLater)

/-- **The session cookie finds its session again.**

A request reaches the gate of a server with a login flow whose cookie has a name, and brings no
session: its cookie is missing or malformed, or the session is unknown or over. Then it is answered
exactly if a new session and its cookie can be made, and no other session changes; one that is over
may be dropped. If it is answered, the response sets exactly one cookie, and whoever sends this back,
alone or among others, finds the new session for as long as it lives. -/
theorem cookie_finds_session_again {server : Server} {login : Login}
    (configured : server.login = some login) (distinct : server.store.Distinct)
    (named : server.settings.cookieName ≠ []) {moment : Moment}
    (drawn : moment.sessionId.bits < SessionId.count)
    (fresh : server.store.find? moment.sessionId = none) {request : Http.Request}
    (stranger : ∀ session, ¬ server.Brings moment.now (.ofRequest request) session)
    (adminOnly : Bool) (page : View -> Http.Response) :
    let answer := server.guarded moment adminOnly request page
    ((∃ response, answer.response = .ok response) ↔
      ∃ session cookie,
        Session.create? moment.sessionId moment.now server.store.lifetime = some session ∧
          server.cookieFor? session = some cookie) ∧
    (∀ held, server.store.find? held.id = some held ->
      answer.store.find? held.id = some held ∨
        server.namedId? (.ofRequest request) = some held.id ∧
          held.isExpired moment.now = true ∧ answer.store.find? held.id = none) ∧
    ∀ response, answer.response = .ok response ->
      ∃ setCookie opened, response.setCookies = [setCookie] ∧
        opened.id = moment.sessionId ∧ opened.createdAt = moment.now ∧
        answer.store.find? opened.id = some opened ∧
        ({ server with store := answer.store } : Server).FindsAgain moment.now opened setCookie := by
  intro answer
  have answered (response : Http.Response) : answer.response = .ok response ↔ _ :=
    response_guarded_eq_ok_iff configured stranger adminOnly page
  refine ⟨?_, fun held found => ?_, fun response given => ?_⟩
  · constructor
    · rintro ⟨response, given⟩
      obtain ⟨session, cookie, created, made, -⟩ := (answered _).1 given
      exact ⟨session, cookie, created, made⟩
    · rintro ⟨session, cookie, created, made⟩
      exact ⟨_, (answered _).2 ⟨session, cookie, created, made, rfl⟩⟩
  · refine find?_guarded_of_other configured stranger adminOnly page found fun same => ?_
    rw [same, found] at fresh
    cases fresh
  · obtain ⟨session, cookie, created, made, rfl⟩ := (answered _).1 given
    have stored := find?_guarded_of_opened configured stranger adminOnly page created made
    obtain ⟨expiresAt, rfl⟩ := Session.eq_of_create? created
    let session : Session := { id := moment.sessionId, createdAt := moment.now, expiresAt }
    let opened := (server.startDeed moment request).perform server.keys session
    let after : Server := { server with store := answer.store }
    have afterDistinct : after.store.Distinct :=
      distinct_guarded distinct moment adminOnly request page
    have keeps : after.store.Keeps opened.id moment.now opened :=
      afterDistinct.keeps stored moment.now
    have configuredAfter : after.login = some login := configured
    have madeAfter : after.cookieFor? opened = some cookie := made
    refine ⟨cookie.header.value, opened, ?_, rfl, rfl, stored, ?_⟩
    · rw [setCookies_withHeader]
      exact congrArg (· ++ [cookie.header.value]) (setCookies_found _)
    · exact findsAgain_of_keeps configuredAfter named keeps drawn madeAfter

/-- A visitor of the small server gets a cookie, sends it back a second later and is known. -/
theorem sample_cookie_finds_session_again :
    let moment : Moment := { now := ⟨1, 0⟩, sessionId := ⟨1⟩, stateBytes := [1, 2, 3] }
    let request : Http.Request := { target := { path := "/".toList } }
    let page := Page.home Sample.server.logoutPath
    let answer := Sample.server.guarded moment false request page
    ∃ response setCookie opened, answer.response = .ok response ∧
      response.setCookies = [setCookie] ∧ answer.store.find? ⟨1⟩ = some opened ∧
      ({ Sample.server with store := answer.store } : Server).Readmits
        { moment with now := ⟨2, 0⟩ }
        { request with headers := [
          { name := "cookie".toList, value := Http.Cookie.returned setCookie }] } opened := by
  intro moment request page answer
  have named : Sample.server.settings.cookieName ≠ [] := by decide
  have drawn : moment.sessionId.bits < SessionId.count := by decide
  have stranger : ∀ session, ¬ Sample.server.Brings moment.now (.ofRequest request) session :=
    findSession_eq_none_iff.1 rfl
  obtain ⟨answered, -, welcomed⟩ := cookie_finds_session_again rfl
    (Store.distinct_of_sessions_nil rfl) named drawn rfl stranger false page
  let session : Session := { id := ⟨1⟩, createdAt := ⟨1, 0⟩, expiresAt := ⟨43201, 0⟩ }
  have created : Session.create? ⟨1⟩ ⟨1, 0⟩ Sample.server.store.lifetime = some session := rfl
  obtain ⟨response, given⟩ := answered.2 ⟨session, _, created, rfl⟩
  obtain ⟨setCookie, opened, cookies, sameId, -, stored, again⟩ := welcomed response given
  rw [sameId] at stored
  have ends : (answer.store.find? ⟨1⟩).map (·.expiresAt) = some ⟨43201, 0⟩ := by decide +kernel
  have alive : opened.isExpired ⟨2, 0⟩ = false := by
    rw [stored] at ends
    have same : opened.expiresAt = ⟨43201, 0⟩ := Option.some.inj ends
    rw [Session.isExpired_eq_false_iff, same]
    rfl
  refine ⟨response, setCookie, opened, given, cookies, stored, ?_⟩
  exact again [] _ _ (List.pairwise_singleton _ _) (fun _ member => absurd member List.not_mem_nil)
    (fun time member => List.mem_singleton.1 member ▸ rfl)
    ⟨[], [], rfl, fun _ member => absurd member List.not_mem_nil⟩ alive

/-- With a cookie that would be kept for more seconds than a word counts, a visitor gets neither an
answer nor a cookie, although the session would live. -/
theorem sample_visitor_without_answer :
    let server : Server := { Sample.server with
      settings := { durationMinutes := 160000000000000000 }
      store := { lifetime := Span.ofSeconds 3600 } }
    let moment : Moment := { now := ⟨1, 0⟩, sessionId := ⟨1⟩, stateBytes := [1, 2, 3] }
    let request : Http.Request := { target := { path := "/".toList } }
    (∀ session, ¬ server.Brings moment.now (.ofRequest request) session) ∧
    ∀ page, (server.guarded moment false request page).response = .error .cookieTooOld := by
  intro server moment request
  have stranger : ∀ session, ¬ server.Brings moment.now (.ofRequest request) session :=
    findSession_eq_none_iff.1 rfl
  let session : Session := { id := ⟨1⟩, createdAt := ⟨1, 0⟩, expiresAt := ⟨3601, 0⟩ }
  have created : Session.create? ⟨1⟩ ⟨1, 0⟩ server.store.lifetime = some session := rfl
  have unmade : server.cookieFor? session = none := rfl
  have configured : server.login = Sample.server.login := rfl
  refine ⟨stranger, fun page => ?_⟩
  rw [response_guarded_of_not_brings configured stranger, created]
  dsimp only
  rw [unmade]

end Server
end LoginGate
