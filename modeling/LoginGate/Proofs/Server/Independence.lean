import LoginGate.Proofs.Server.Request
import LoginGate.Proofs.Session.Expiry

/-!
Contract: a request meets one session at most, and no other one counts for it.

Owns:
- what is told of an answer, and that it depends on the stored sessions only through the one that the
  request finds;
- the incidents of a request that finds a session, and those of any other session.

Does not own: runs (`Server.Isolation`).
-/

namespace LoginGate.Server

/-- What an answer tells: the events and the response, not the sessions that it leaves behind. -/
def Answer.reply (answer : Answer) : List Event × Except Fault Http.Response :=
  (answer.events, answer.response)

section Reply

variable (server : Server) (store : Store) (moment : Moment)

theorem ensureSession_snd_of_none {server : Server} {jar : Http.CookieJar}
    (missing : (server.findSession moment.now jar).1 = none) :
    (server.ensureSession moment jar).2 =
      match Session.create? moment.sessionId moment.now server.store.lifetime with
      | none => .error .beyondCalendar
      | some session =>
        match server.cookieFor? session with
        | none => .error .cookieTooOld
        | some cookie => .ok { session, cookie := some cookie } := by
  rw [ensureSession_of_none moment jar missing, ← lifetime_findSession server moment.now jar]
  unfold Store.create?
  cases Session.create? moment.sessionId moment.now _ with
  | none => rfl
  | some session =>
    dsimp only [Option.map_some]
    cases server.cookieFor? session <;> rfl

private theorem reply_pass (adminOnly : Bool) (info : Http.RequestInfo) (session : Session)
    (page : View -> Http.Response) :
    ({ server with store }.pass moment adminOnly info session page).reply =
      (server.pass moment adminOnly info session page).reply := by
  unfold pass
  show Answer.reply (if (!session.hasIdentity server.keys) = true then _ else
    if (adminOnly && !(server.view (some session)).isAdmin) = true then _ else _) = _
  dsimp only
  split
  · rfl
  · split <;> rfl

private theorem reply_withCookie {first second : Answer} (same : first.reply = second.reply)
    (cookie : Option Http.Cookie) :
    (first.withCookie cookie).reply = (second.withCookie cookie).reply := by
  obtain ⟨events, response⟩ := Prod.ext_iff.1 same
  change first.events = second.events at events
  change first.response = second.response at response
  cases cookie with
  | none => exact same
  | some cookie =>
    simp only [Answer.reply, Answer.withCookie, events, response]

private theorem reply_guarded_of_unconfigured {server : Server} (unconfigured : server.login = none)
    (adminOnly : Bool) (request : Http.Request) (page : View -> Http.Response) :
    (server.guarded moment adminOnly request page).reply =
      ([], .ok (page (server.view (server.findSession moment.now (.ofRequest request)).1))) := by
  unfold guarded
  rw [unconfigured]
  rfl

private theorem reply_guarded_of_configured {server : Server} {login : Login}
    (configured : server.login = some login) (adminOnly : Bool) (request : Http.Request)
    (page : View -> Http.Response) :
    (server.guarded moment adminOnly request page).reply =
      match (server.ensureSession moment (.ofRequest request)).2 with
      | .error fault => ([], .error fault)
      | .ok admission =>
        ((server.pass moment adminOnly request.info admission.session page).withCookie
          admission.cookie).reply := by
  rw [guarded_eq moment request configured]
  cases server.ensureSession moment (.ofRequest request) with
  | mk store admitted =>
    cases admitted with
    | error fault => rfl
    | ok admission => exact reply_withCookie (reply_pass server store moment _ _ _ _) _

variable {server store} (lifetime : store.lifetime = server.store.lifetime)
  {request : Http.Request}
  (found : ({ server with store }.findSession moment.now (.ofRequest request)).1 =
    (server.findSession moment.now (.ofRequest request)).1)
include lifetime found

private theorem ensureSession_snd :
    ({ server with store }.ensureSession moment (.ofRequest request)).2 =
      (server.ensureSession moment (.ofRequest request)).2 := by
  cases here : (server.findSession moment.now (.ofRequest request)).1 with
  | none =>
    rw [ensureSession_snd_of_none moment (found.trans here), ensureSession_snd_of_none moment here]
    dsimp only
    rw [lifetime]
    rfl
  | some session =>
    rw [ensureSession_of_brings moment _ (findSession_eq_some_iff.1 (found.trans here)),
      ensureSession_of_brings moment _ (findSession_eq_some_iff.1 here)]

private theorem reply_guarded (adminOnly : Bool) (page : View -> Http.Response) :
    ({ server with store }.guarded moment adminOnly request page).reply =
      (server.guarded moment adminOnly request page).reply := by
  obtain unconfigured | ⟨login, configured⟩ := Option.eq_none_or_eq_some server.login
  · rw [reply_guarded_of_unconfigured moment unconfigured]
    have looking : ({ server with store } : Server).login = none := unconfigured
    rw [reply_guarded_of_unconfigured moment looking, found]
    rfl
  · rw [reply_guarded_of_configured moment configured]
    have looking : ({ server with store } : Server).login = some login := configured
    rw [reply_guarded_of_configured moment looking, ensureSession_snd moment lifetime found]
    cases (server.ensureSession moment (.ofRequest request)).2 with
    | error fault => rfl
    | ok admission => exact reply_withCookie (reply_pass server store moment _ _ _ _) _

private theorem reply_serve (endpoint : Endpoint) :
    ({ server with store }.serve moment endpoint request).reply =
      (server.serve moment endpoint request).reply := by
  have flow (endpoint : Endpoint) :
      Answer.reply (if isAnswered request.method then
        { server with store }.serveFlow moment endpoint request else .plain store methodRefused) =
      Answer.reply (if isAnswered request.method then
        server.serveFlow moment endpoint request else .plain server.store methodRefused) := by
    split
    · rw [serveFlow_eq, serveFlow_eq, found]
      rfl
    · rfl
  cases endpoint with
  | home => exact reply_guarded moment lifetime found false _
  | administrators => exact reply_guarded moment lifetime found true _
  | callback | login | logout => exact flow _

/-- An answer tells nothing of the stored sessions but what the one that was found holds. -/
theorem reply_answer (site : Site) :
    ({ server with store }.answer site moment request).reply =
      (server.answer site moment request).reply := by
  unfold answer
  have same : ({ server with store } : Server).table site = server.table site := rfl
  rw [same]
  cases server.table site with
  | error fault => rfl
  | ok routes =>
    dsimp only
    cases routes.find? (·.path = request.target.lookupPath) with
    | none => rfl
    | some route =>
      exact congrArg (fun reply => (reply.1, reply.2.map (finish request.method)))
        (reply_serve moment lifetime found route.endpoint)

end Reply

/-! ## The life time of new sessions -/

theorem Turn.lifetime_answer (store : Store) (turn : Turn) :
    (turn.answer store).store.lifetime = store.lifetime := by
  unfold Turn.answer
  cases turn.session <;> rfl

private theorem lifetime_ensureSession (server : Server) (moment : Moment) (jar : Http.CookieJar) :
    (server.ensureSession moment jar).1.lifetime = server.store.lifetime := by
  have looked := lifetime_findSession server moment.now jar
  cases found : (server.findSession moment.now jar).1 with
  | some session => rw [ensureSession_of_brings moment jar (findSession_eq_some_iff.1 found)]
  | none =>
    rw [ensureSession_of_none moment jar found, ← looked]
    cases created : (server.findSession moment.now jar).2.create? moment.now moment.sessionId with
    | none => rfl
    | some opened =>
      have kept : opened.2.lifetime = (server.findSession moment.now jar).2.lifetime := by
        rw [(Store.eq_of_create? created).2]
      dsimp only
      cases server.cookieFor? opened.1 <;> exact kept

private theorem lifetime_pass (server : Server) (moment : Moment) (adminOnly : Bool)
    (info : Http.RequestInfo) (session : Session) (page : View -> Http.Response) :
    (server.pass moment adminOnly info session page).store.lifetime = server.store.lifetime := by
  unfold pass
  dsimp only
  split
  · exact Turn.lifetime_answer _ _
  · split <;> rfl

private theorem lifetime_guarded (server : Server) (moment : Moment) (adminOnly : Bool)
    (request : Http.Request) (page : View -> Http.Response) :
    (server.guarded moment adminOnly request page).store.lifetime = server.store.lifetime := by
  cases configured : server.login with
  | none =>
    unfold guarded
    rw [configured]
    exact lifetime_findSession server moment.now (.ofRequest request)
  | some login =>
    rw [guarded_eq moment request configured,
      ← lifetime_ensureSession server moment (.ofRequest request)]
    cases server.ensureSession moment (.ofRequest request) with
    | mk store admitted =>
      cases admitted with
      | error fault => rfl
      | ok admission =>
        dsimp only
        rw [store_withCookie, lifetime_pass]

theorem lifetime_answer (server : Server) (site : Site) (moment : Moment)
    (request : Http.Request) :
    (server.answer site moment request).store.lifetime = server.store.lifetime := by
  rw [answer_store]
  cases server.endpoint? site request with
  | none => rfl
  | some endpoint =>
    cases endpoint with
    | home => exact lifetime_guarded server moment false request _
    | administrators => exact lifetime_guarded server moment true request _
    | callback | login | logout =>
      show Store.lifetime (Answer.store (if isAnswered request.method then _ else _)) = _
      split
      · rw [serveFlow_eq, Turn.lifetime_answer, lifetime_findSession]
      · rfl

/-! ## Incidents -/

/-- No deed alters the end of a session's life. -/
theorem expiresAt_perform (keys : Session.Keys) (session : Session) (deed : Deed) :
    (deed.perform keys session).expiresAt = session.expiresAt := by
  cases deed with
  | started pending => exact Session.expiresAt_set session _ _
  | loggedOut => rfl
  | written key value => exact Session.expiresAt_set session key value
  | calledBack state outcome =>
    cases outcome with
    | refused | broken | failed => rfl
    | accepted pending grant =>
      simp only [Deed.perform, Outcome.settle, Session.storeIdentity, Session.announce,
        Session.expiresAt_set]
      rfl

section Incidents

variable {server : Server} {moment : Moment} {request : Http.Request}

/-- A request does the same to the session that it brings, whatever else is stored. -/
theorem requestHistory_of_brings {store : Store} (site : Site) {session : Session}
    (brings : server.Brings moment.now (.ofRequest request) session)
    (alike : ({ server with store } : Server).Brings moment.now (.ofRequest request) session) :
    ({ server with store }.requestHistory site moment request) =
      server.requestHistory site moment request := by
  have found := findSession_of_brings brings
  have foundAlike := findSession_of_brings alike
  unfold requestHistory guardHistory flowHistory
  simp only [found, foundAlike]
  rfl

/-- A request does one thing at most to the session that it brings. -/
theorem requestHistory_eq_of_brings (site : Site) {session : Session}
    (brings : server.Brings moment.now (.ofRequest request) session) :
    server.requestHistory site moment request = [] ∨
      ∃ deed, server.requestHistory site moment request = [(session.id, .done deed)] := by
  obtain ⟨looked, quiet⟩ := findSession_of_brings brings
  unfold requestHistory guardHistory flowHistory
  simp only [looked, quiet, List.nil_append]
  split
  · exact .inl rfl
  · split
    · exact .inl rfl
    · split
      · split
        · exact .inl rfl
        · exact .inr ⟨_, rfl⟩
      · split
        · exact .inr ⟨_, rfl⟩
        · exact .inl rfl

/-- A request leaves the session that it brings stored, for as long as before. -/
theorem find?_answer_of_brings (site : Site) {session : Session}
    (brings : server.Brings moment.now (.ofRequest request) session) :
    ∃ after, (server.answer site moment request).store.find? session.id = some after ∧
      after.expiresAt = session.expiresAt := by
  rw [find?_answer, brings.find?]
  rcases requestHistory_eq_of_brings site brings with nothing | ⟨deed, done⟩
  · rw [nothing]
    exact ⟨session, rfl, rfl⟩
  · rw [done, History.of_singleton, if_pos rfl]
    exact ⟨deed.perform server.keys session, rfl, expiresAt_perform server.keys session deed⟩

/-- A look-up drops the session under an id if the jar names it and it is over. -/
theorem replay_lookUp (server : Server) (now : Instant) (jar : Http.CookieJar) (id : SessionId) :
    replay server.keys id (server.store.find? id) ((server.lookUp now jar).of id) =
      if server.namedId? jar = some id then Session.live now (server.store.find? id)
      else server.store.find? id := by
  rw [← find?_findSession, findSession_eq]
  cases server.namedId? jar with
  | none => rfl
  | some named =>
    simp only [Store.find?_get, Option.some.injEq]

theorem History.of_eq_nil {history : History} {id : SessionId}
    (others : ∀ entry ∈ history, entry.1 ≠ id) : history.of id = [] := by
  unfold History.of
  rw [List.map_eq_nil_iff, List.filter_eq_nil_iff]
  intro entry member
  simpa using others entry member

theorem openHistory_of_other {id : SessionId} (fresh : moment.sessionId ≠ id) :
    (server.openHistory moment request).of id = [] := by
  apply History.of_eq_nil
  unfold openHistory
  cases created : Session.create? moment.sessionId moment.now server.store.lifetime with
  | none => exact fun entry member => absurd member List.not_mem_nil
  | some session =>
    obtain ⟨expiresAt, rfl⟩ := Session.eq_of_create? created
    intro entry member
    rcases List.mem_cons.1 member with rfl | started
    · exact fresh
    · split at started
      · rw [List.mem_singleton] at started
        rw [started]
        exact fresh
      · exact absurd started List.not_mem_nil

/-- The incidents of a request with a fresh id happen to the session that it brings, or are those of
the look-up. -/
theorem requestHistory_of_not_brings {id : SessionId} (site : Site) (fresh : moment.sessionId ≠ id)
    (other : ∀ session, server.Brings moment.now (.ofRequest request) session -> session.id ≠ id) :
    (server.requestHistory site moment request).of id = [] ∨
      (server.requestHistory site moment request).of id =
        (server.lookUp moment.now (.ofRequest request)).of id := by
  have single (session : Session) (deed : Deed)
      (brings : server.Brings moment.now (.ofRequest request) session) :
      History.of [(session.id, .done deed)] id = [] := by
    rw [History.of_singleton, if_neg (other session brings)]
  unfold requestHistory
  cases server.endpoint? site request with
  | none => exact .inl rfl
  | some endpoint =>
    dsimp only
    cases found : (server.findSession moment.now (.ofRequest request)).1 with
    | none =>
      cases server.login with
      | none => exact .inr rfl
      | some login =>
        dsimp only [guardHistory, flowHistory]
        rw [found]
        dsimp only
        split
        · rw [History.of_append, openHistory_of_other fresh, List.append_nil]
          exact .inr rfl
        · split
          · rw [List.append_nil]
            exact .inr rfl
          · exact .inl rfl
    | some session =>
      have brings := findSession_eq_some_iff.1 found
      have quiet := (findSession_of_brings brings).2
      left
      cases server.login with
      | none =>
        dsimp only
        rw [quiet]
        rfl
      | some login =>
        dsimp only [guardHistory, flowHistory]
        rw [found, quiet]
        dsimp only
        split
        · split
          · rfl
          · exact single session _ brings
        · split
          · exact single session _ brings
          · rfl

/-- What a request with a fresh id leaves of a session that it does not bring. -/
theorem find?_answer_of_not_brings {id : SessionId} (site : Site) (fresh : moment.sessionId ≠ id)
    (other : ∀ session, server.Brings moment.now (.ofRequest request) session -> session.id ≠ id) :
    (server.answer site moment request).store.find? id = server.store.find? id ∨
      server.namedId? (.ofRequest request) = some id ∧
        (server.answer site moment request).store.find? id =
          Session.live moment.now (server.store.find? id) := by
  rw [find?_answer]
  rcases requestHistory_of_not_brings site fresh other with nothing | looked
  · rw [nothing]
    exact .inl rfl
  · rw [looked, replay_lookUp]
    split
    · exact .inr ⟨‹_›, rfl⟩
    · exact .inl rfl

end Incidents
end LoginGate.Server
