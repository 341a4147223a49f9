import LoginGate.Flow.Callback
import LoginGate.Flow.Pending
import LoginGate.Flow.State
import LoginGate.Redirect.Target
import LoginGate.Server.Basic

/-!
Contract: the three steps of the login flow, each as work on one session.

Owns:
- where the browser goes afterwards;
- starting a login, which issues a state;
- completing it, which spends the state, asks the provider and stores the identity;
- logging out.

Does not own: how a request finds its session (`Server.Access`).

A callback whose state is wrong may be forged. It spends the pending record but does not log anyone
out; every other failure does.
-/

namespace LoginGate.Server

/-- Where a request leads after the flow: its location on the own host, without an endpoint of the
flow at its end. -/
def returnTarget (server : Server) (request : Http.RequestInfo) : Text :=
  let target := Redirect.sanitize request.host request.location
  match server.login with
  | some login => login.paths.stripSuffix target
  | none => target

/-! ## Starting -/

/-- Starts a login. Without a session, or without a login flow, the browser goes straight to where
it would go afterwards. -/
def beginLogin (server : Server) (session : Option Session) (request : Http.RequestInfo)
    (stateBytes : Bytes) : Turn :=
  let referrer := server.returnTarget request
  match server.login, session with
  | some login, some session =>
    let state := Flow.State.ofBytes stateBytes
    { session := some (Flow.Pending.store { state, referrer } session)
      response := .ok (.found (login.provider.authorizationUrl state)) }
  | _, session => { session, response := .ok (.found referrer) }

/-! ## Completing -/

/-- The longest part of a provider's message that is passed on, in characters. -/
def maxDetails : Nat := 512

def readUserinfo (answer : Userinfo) : Except Flow.Error Document :=
  if answer.status ≠ 200 then
    .error (.userinfoFailed answer.status ((Utf8.decodeLossy answer.body).take maxDetails))
  else (Document.parse answer.body).mapError fun error => .userinfoUnreadable error.message

def inquire (provider : Provider) (code : Text) :
    List Event × Except Flow.Error (ProviderToken × Document) :=
  match provider.exchangeCode code with
  | .error error => ([.codeExchange code], .error (.exchangeFailed error.report))
  | .ok token =>
    ([.codeExchange code, .userinfoRequest token.accessToken],
      match provider.fetchUserinfo token.accessToken with
      | .error error => .error (.userinfoFailed 502 error.report)
      | .ok answer => (readUserinfo answer).map fun document => (token, document))

/-- When a token ends. A duration longer than any span has no end; `none` when the end lies beyond
the calendar. -/
def tokenEnd? (now : Instant) (expiresIn : Option Nat) : Option (Option Instant) :=
  match expiresIn.bind Span.ofDuration? with
  | none => some none
  | some span => (now.add? span).map some

def keptToken? (now : Instant) (token : ProviderToken) : Option StoredToken :=
  (tokenEnd? now token.expiresIn).map fun expiresAt =>
    { accessToken := token.accessToken, tokenType := token.tokenType
      refreshToken := token.refreshToken, expiresAt, authenticatedAt := now }

/-- Answers a failed login. The session loses its identity unless only the state was wrong, and the
failure is told after that, with the address from before. -/
def failLogin (server : Server) (session : Option Session) (request : Http.RequestInfo)
    (asked : List Event) (error : Flow.Error) : Turn :=
  let email := session.bind fun session => (session.get? server.keys.email).bind Json.text?
  let session :=
    if error = .wrongState then session else session.map (·.clearIdentity server.keys)
  let failure : LoginFailure := { status := error.status, error, email, request, session }
  { session
    events := asked ++ [.loginFailed failure]
    response := .ok ((server.onFailure failure).getD (Page.failure error.status error)) }

/-- Stores the identity that the provider vouches for and sends the browser back. -/
def acceptLogin (server : Server) (session : Session) (request : Http.RequestInfo)
    (now : Instant) (pending : Flow.Pending) (asked : List Event) (token : ProviderToken)
    (document : Document) : Turn :=
  let email := Identity.email? document
  let asked := asked ++ if email.isNone then [.emailMissing document] else []
  match keptToken? now token with
  | none => { session := some session, events := asked, response := .error .beyondCalendar }
  | some token =>
    let session := session.storeIdentity server.keys { document, email } (some token)
    { session := some session
      events := asked ++ [.loggedIn session request]
      response := .ok (.found (Redirect.sanitize request.host pending.referrer)) }

/-- Completes a login from a callback. The pending record is removed before its state is compared,
so that it can be presented only once. -/
def completeLogin (server : Server) (session : Option Session) (request : Http.RequestInfo)
    (now : Instant) (callback : Flow.Callback) : Turn :=
  match server.login, session with
  | none, session => server.failLogin session request [] .notConfigured
  | some _, none => server.failLogin none request [] .missingSession
  | some login, some session =>
    let (pending, session) := Flow.Pending.take session
    match pending.filter (·.accepts callback.state) with
    | none => server.failLogin (some session) request [] .wrongState
    | some pending =>
      match inquire login.provider callback.code with
      | (asked, .error error) => server.failLogin (some session) request asked error
      | (asked, .ok (token, document)) =>
        server.acceptLogin session request now pending asked token document

/-! ## Logging out -/

def logout (server : Server) (session : Option Session) (request : Http.RequestInfo) : Turn where
  session := session.map (·.clearIdentity server.keys)
  events := session.toList.map fun session => .loggedOut session request
  response := .ok (.found (server.returnTarget request))

end LoginGate.Server
