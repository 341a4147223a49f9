import LoginGate.Session.Basic

/-!
Contract: the sessions in memory.

Owns: look-up by id, which treats an expired session as absent and drops it; creation; and the
removal of all expired sessions.

Does not own: cookies (`Server.Access`).
-/

namespace LoginGate

/-- The stored sessions, each under its own id, and the life time of new ones. -/
structure Store where
  lifetime : Span
  sessions : List Session := []
deriving Repr

namespace Store

def defaultLifetime : Span := Span.ofSeconds (12 * 60 * 60)

/-- The number of stored sessions, the expired ones among them included. -/
def size (store : Store) : Nat := store.sessions.length

/-- The session stored under an id, expired or not. -/
def find? (store : Store) (id : SessionId) : Option Session :=
  store.sessions.find? (·.id = id)

def erase (store : Store) (id : SessionId) : Store :=
  { store with sessions := store.sessions.filter (·.id ≠ id) }

/-- Looks up a session. One that is over is dropped and not found. -/
def get (store : Store) (now : Instant) (id : SessionId) : Option Session × Store :=
  match store.find? id with
  | none => (none, store)
  | some session =>
    if session.isExpired now then (none, store.erase id) else (some session, store)

/-- Creates a session under a fresh id; `none` when it would outlive the calendar. -/
def create? (store : Store) (now : Instant) (id : SessionId) : Option (Session × Store) :=
  (Session.create? id now store.lifetime).map fun session =>
    (session, { store with sessions := (store.erase id).sessions ++ [session] })

def update (store : Store) (session : Session) : Store :=
  { store with
    sessions := store.sessions.map fun old => if old.id = session.id then session else old }

def cleanup (store : Store) (now : Instant) : Nat × Store :=
  let kept := store.sessions.filter (! ·.isExpired now)
  (store.sessions.length - kept.length, { store with sessions := kept })

end Store
end LoginGate
