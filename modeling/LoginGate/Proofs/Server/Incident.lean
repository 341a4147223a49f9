import LoginGate.Proofs.Server.Deed
import LoginGate.Proofs.Session.Store
import LoginGate.Server.Routes

/-!
Contract: what a request does to the stored sessions, as a list of incidents.

Owns:
- incidents, and the session under an id after a list of them;
- which session a request brings;
- the incidents of a request, and the law that the store after the answer is the store before it
  with these incidents replayed.

Does not own: runs of several requests (`Server.Run`), and what is answered.

Everything that is proved about sessions over time is proved about incidents. A change to the code
of an endpoint concerns the law of its incidents and nothing behind it.
-/

namespace LoginGate.Server

/-! ## Incidents -/

/-- What happens to the session under an id. -/
inductive Incident where
  | created (createdAt expiresAt : Instant)
  /-- The session is over and is removed. -/
  | dropped
  | done (deed : Deed)

def Incident.perform (keys : Session.Keys) (id : SessionId) (session : Option Session) :
    Incident -> Option Session
  | .created createdAt expiresAt => some { id, createdAt, expiresAt }
  | .dropped => none
  | .done deed => session.map (deed.perform keys ·)

/-- Incidents in the order of happening, each with the id of its session. -/
abbrev History := List (SessionId × Incident)

def History.of (history : History) (id : SessionId) : List Incident :=
  (history.filter (·.1 = id)).map (·.2)

def replay (keys : Session.Keys) (id : SessionId) (session : Option Session)
    (incidents : List Incident) : Option Session :=
  incidents.foldl (Incident.perform keys id) session

@[simp] theorem History.of_nil (id : SessionId) : History.of [] id = [] := rfl

theorem History.of_append (first second : History) (id : SessionId) :
    History.of (first ++ second) id = first.of id ++ second.of id := by
  simp [History.of]

theorem History.of_singleton (entry : SessionId × Incident) (id : SessionId) :
    History.of [entry] id = if entry.1 = id then [entry.2] else [] := by
  by_cases same : entry.1 = id <;> simp [History.of, same]

theorem replay_append (keys : Session.Keys) (id : SessionId) (session : Option Session)
    (first second : List Incident) :
    replay keys id session (first ++ second) =
      replay keys id (replay keys id session first) second :=
  List.foldl_append

theorem find?_update_perform {store : Store} {session : Session} (keys : Session.Keys)
    (found : store.find? session.id = some session) (deed : Deed) (id : SessionId) :
    (store.update (deed.perform keys session)).find? id =
      replay keys id (store.find? id) (History.of [(session.id, .done deed)] id) := by
  rw [Store.find?_update, id_perform, History.of_singleton]
  by_cases same : session.id = id
  · subst same
    rw [if_pos rfl, if_pos rfl, found]
    rfl
  · rw [if_neg same, if_neg same]
    rfl

/-! ## The session of a request -/

def namedId? (server : Server) (jar : Http.CookieJar) : Option SessionId :=
  (jar.get? server.settings.cookieName).bind fun text => (SessionId.parse text).toOption

/-- A jar brings a session: its cookie names one that is stored and not over. -/
def Brings (server : Server) (now : Instant) (jar : Http.CookieJar) (session : Session) : Prop :=
  ∃ id, server.namedId? jar = some id ∧ server.store.find? id = some session ∧
    session.isExpired now = false

/-- The incident of a look-up: a session that is over is dropped. -/
def lookUp (server : Server) (now : Instant) (jar : Http.CookieJar) : History :=
  match (server.namedId? jar).bind server.store.find? with
  | some session => if session.isExpired now then [(session.id, .dropped)] else []
  | none => []

theorem findSession_eq (server : Server) (now : Instant) (jar : Http.CookieJar) :
    server.findSession now jar =
      match server.namedId? jar with
      | some id => server.store.get now id
      | none => (none, server.store) := by
  unfold findSession namedId?
  cases jar.get? server.settings.cookieName with
  | none => rfl
  | some text =>
    rw [Option.map_some, Option.bind_some]
    cases SessionId.parse text <;> rfl

/-- A look-up finds exactly the session that the jar brings. -/
theorem findSession_eq_some_iff {server : Server} {now : Instant} {jar : Http.CookieJar}
    {session : Session} :
    (server.findSession now jar).1 = some session ↔ server.Brings now jar session := by
  rw [findSession_eq]
  unfold Brings
  cases server.namedId? jar with
  | none => simp
  | some id =>
    simp only [Option.some.injEq, exists_eq_left']
    unfold Store.get
    cases server.store.find? id with
    | none => simp
    | some found =>
      by_cases expired : found.isExpired now = true
      · simp only [expired, if_true, reduceCtorEq, Option.some.injEq, false_iff, not_and]
        rintro rfl
        simp [expired]
      · simp only [expired, if_false, Option.some.injEq, Bool.false_eq_true]
        constructor
        · rintro rfl
          exact ⟨rfl, by simpa using expired⟩
        · exact And.left

theorem findSession_eq_none_iff {server : Server} {now : Instant} {jar : Http.CookieJar} :
    (server.findSession now jar).1 = none ↔ ∀ session, ¬ server.Brings now jar session := by
  rw [Option.eq_none_iff_forall_ne_some]
  exact forall_congr' fun session => not_congr findSession_eq_some_iff

theorem Brings.find? {server : Server} {now : Instant} {jar : Http.CookieJar} {session : Session}
    (brings : server.Brings now jar session) :
    server.store.find? session.id = some session := by
  obtain ⟨id, -, found, -⟩ := brings
  rw [Store.id_of_find? found]
  exact found

theorem Brings.unique {server : Server} {now : Instant} {jar : Http.CookieJar}
    {session other : Session} (brings : server.Brings now jar session)
    (bringsOther : server.Brings now jar other) : session = other :=
  Option.some.inj ((findSession_eq_some_iff.2 brings).symm.trans
    (findSession_eq_some_iff.2 bringsOther))

theorem findSession_of_brings {server : Server} {now : Instant} {jar : Http.CookieJar}
    {session : Session} (brings : server.Brings now jar session) :
    server.findSession now jar = (some session, server.store) ∧ server.lookUp now jar = [] := by
  obtain ⟨id, named, found, live⟩ := brings
  constructor
  · rw [findSession_eq, named]
    simp [Store.get, found, live]
  · unfold lookUp
    rw [named, Option.bind_some, found]
    simp [live]

theorem find?_findSession (server : Server) (now : Instant) (jar : Http.CookieJar)
    (id : SessionId) :
    (server.findSession now jar).2.find? id =
      replay server.keys id (server.store.find? id) (History.of (server.lookUp now jar) id) := by
  rw [findSession_eq]
  unfold lookUp
  cases server.namedId? jar with
  | none => rfl
  | some named =>
    simp only [Option.bind_some]
    unfold Store.get
    cases found : server.store.find? named with
    | none => rfl
    | some session =>
      have sameId := Store.id_of_find? found
      by_cases expired : session.isExpired now = true
      · simp only [expired, if_true, Store.find?_erase, History.of_singleton, sameId]
        split <;> rfl
      · simp only [expired]
        rfl

end LoginGate.Server
