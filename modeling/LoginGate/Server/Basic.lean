import LoginGate.Admins
import LoginGate.Flow.Error
import LoginGate.Flow.Paths
import LoginGate.Http.Cookie
import LoginGate.Identity
import LoginGate.Page.Error
import LoginGate.Provider.Basic
import LoginGate.Server.Fault
import LoginGate.Session.Settings
import LoginGate.Session.Store

/-!
Contract: a server that lets requests pass after a login.

Owns:
- the server with its settings, sessions and administrators;
- what a request meets besides the server: the time and the random draws;
- the events that a server announces, and what work on a session leaves behind.

Does not own: the work itself (`Server.Login`, `Server.Access`, `Server.Routes`).
-/

namespace LoginGate

structure LoginFailure where
  status : Nat
  error : Flow.Error
  /-- The address that was logged in before the failure. -/
  email : Option Text
  request : Http.RequestInfo
  /-- The session at this moment, as everybody finds it in the store. It is not told itself. -/
  session : Option Session
deriving Repr

namespace Server

inductive Event where
  /-- The provider is asked to exchange a code. -/
  | codeExchange (code : Text)
  /-- The provider is asked about the user of an access token. -/
  | userinfoRequest (accessToken : Text)
  /-- A provider's document has no address. -/
  | emailMissing (document : Document)
  /-- A login succeeded; the session already holds it. -/
  | loggedIn (session : Session) (request : Http.RequestInfo)
  | loginFailed (failure : LoginFailure)
  /-- A session is about to be logged out. -/
  | loggedOut (session : Session) (request : Http.RequestInfo)
deriving Repr

/-- The time of a request, and what chance draws for it in case it is needed. -/
structure Moment where
  now : Instant
  /-- The id of a new session. -/
  sessionId : SessionId
  /-- The bytes of a new state. -/
  stateBytes : Bytes
deriving DecidableEq, Repr

/-- What work on a session leaves behind, also when it is broken off. -/
structure Turn where
  session : Option Session
  events : List Event := []
  response : Except Fault Http.Response
deriving Repr

end Server

structure Server.Login where
  provider : Provider
  paths : Flow.Paths

structure Server where
  /-- Without a login flow every request passes. -/
  login : Option Server.Login
  settings : Session.Settings
  store : Store
  admins : Admins := {}
  /-- The answer to a user who is no administrator. -/
  forbidden : Http.RequestInfo -> Http.Response := fun _ => Page.forbidden
  /-- An answer to a failed login in place of the usual page. -/
  onFailure : LoginFailure -> Option Http.Response := fun _ => none

namespace Server

def keys (server : Server) : Session.Keys := server.settings.keys

/-- Whether an address is an administrator's. Without a login flow every one is. -/
def isAdmin (server : Server) (email : Text) : Bool :=
  server.login.isNone || server.admins.isAdmin email

def setAdmins (server : Server) (entries : List Text) : Server :=
  { server with admins := Admins.ofList entries }

def cleanup (server : Server) (now : Instant) : Nat × Server :=
  let (count, store) := server.store.cleanup now
  (count, { server with store })

end Server
end LoginGate
