import LoginGate.Json.Basic
import LoginGate.SessionId
import LoginGate.Time.Instant

/-!
Contract: a session, which keeps a few values for the requests that present its cookie.

Owns: creation with a fixed life time, expiry, the values and the count of announced changes.
Does not own: how sessions are found (`Session.Store`), or what the values mean (`Session.Identity`,
`Flow.Pending`).
-/

namespace LoginGate

/-- A session. Its values are found by key; their order means nothing. -/
structure Session where
  id : SessionId
  createdAt : Instant
  expiresAt : Instant
  values : Json.Fields := []
  /-- How often a change of the values was announced. The number is unbounded, though it is counted
  in 64 bits: no session sees `2 ^ 64` announcements, and nothing depends on the number but whether
  it has changed. -/
  changes : Nat := 0
deriving Repr

namespace Session

/-- A new session without values; `none` when it would outlive the calendar. -/
def create? (id : SessionId) (now : Instant) (lifetime : Span) : Option Session :=
  (now.add? lifetime).map fun expiresAt => { id, createdAt := now, expiresAt }

def isExpired (session : Session) (now : Instant) : Bool := !now.before session.expiresAt

def get? (session : Session) (key : Text) : Option Json := Json.lookup key session.values

/-- Sets a key, or removes it. -/
def set (session : Session) (key : Text) : Option Json -> Session
  | some value => { session with values := Json.insert key value session.values }
  | none => { session with values := Json.erase key session.values }

def take (session : Session) (key : Text) : Option Json × Session :=
  (session.get? key, session.set key none)

def announce (session : Session) : Session := { session with changes := session.changes + 1 }

end Session
end LoginGate
