import LoginGate.Server.Login
import LoginGate.Server.View
import LoginGate.Word

/-!
Contract: how a request gets its session, and which requests pass the gate.

Owns:
- the session that a cookie names, and the creation of one where there is none;
- the gate in front of pages, which sends requests without an identity into the login flow.

Does not own: which pages stand behind a gate (`Server.Routes`).

The gate is open to everyone on a server without a login flow, and to every identity on a server
without administrators.
-/

namespace LoginGate.Server

/-- What is left of a request: the sessions, the events, and the answer unless it was broken off. -/
structure Answer where
  store : Store
  events : List Event := []
  response : Except Fault Http.Response
deriving Repr

namespace Answer

def plain (store : Store) (response : Http.Response) : Answer :=
  { store, response := .ok response }

def withCookie (cookie : Option Http.Cookie) (answer : Answer) : Answer :=
  match cookie with
  | some cookie => { answer with response := answer.response.map (·.withHeader cookie.header) }
  | none => answer

end Answer

def Turn.answer (store : Store) (turn : Turn) : Answer where
  store := (turn.session.map store.update).getD store
  events := turn.events
  response := turn.response

/-! ## Sessions -/

/-- The session that a jar names, and the sessions without it if it is over. -/
def findSession (server : Server) (now : Instant) (jar : Http.CookieJar) :
    Option Session × Store :=
  match (jar.get? server.settings.cookieName).map SessionId.parse with
  | some (.ok id) => server.store.get now id
  | _ => (none, server.store)

/-- The cookie that names a session; `none` when its life time has too many seconds. -/
def cookieFor? (server : Server) (session : Session) : Option Http.Cookie :=
  let maxAge := server.settings.durationMinutes * 60
  if Word.minSigned64 ≤ maxAge && maxAge ≤ Word.maxSigned64 then
    some {
      name := server.settings.cookieName, value := session.id.text
      secure := server.settings.secureCookies, maxAge }
  else none

/-- A session, and the cookie that must be set for it if it is new. -/
structure Admission where
  session : Session
  cookie : Option Http.Cookie := none
deriving Repr

def ensureSession (server : Server) (moment : Moment) (jar : Http.CookieJar) :
    Store × Except Fault Admission :=
  match server.findSession moment.now jar with
  | (some session, store) => (store, .ok { session })
  | (none, store) =>
    match store.create? moment.now moment.sessionId with
    | none => (store, .error .beyondCalendar)
    | some (session, store) =>
      match server.cookieFor? session with
      | none => (store, .error .cookieTooOld)
      | some cookie => (store, .ok { session, cookie := some cookie })

/-! ## The gate -/

/-- Answers a request with a session at the gate: logged in, with the rank that is asked for, or
not. -/
def pass (server : Server) (moment : Moment) (adminOnly : Bool) (request : Http.RequestInfo)
    (session : Session) (page : View -> Http.Response) : Answer :=
  let view := server.view (some session)
  if !session.hasIdentity server.keys then
    (server.beginLogin (some session) request moment.stateBytes).answer server.store
  else if adminOnly && !view.isAdmin then .plain server.store (server.forbidden request)
  else .plain server.store (page view)

def guarded (server : Server) (moment : Moment) (adminOnly : Bool) (request : Http.Request)
    (page : View -> Http.Response) : Answer :=
  let jar := Http.CookieJar.ofRequest request
  match server.login with
  | none =>
    let (session, store) := server.findSession moment.now jar
    .plain store (page (server.view session))
  | some _ =>
    match server.ensureSession moment jar with
    | (store, .error fault) => { store, response := .error fault }
    | (store, .ok admission) =>
      ({ server with store }.pass moment adminOnly request.info admission.session page).withCookie
        admission.cookie

end LoginGate.Server
