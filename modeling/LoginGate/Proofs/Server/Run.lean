import LoginGate.Proofs.Latest
import LoginGate.Proofs.Server.Request

/-!
Contract: a server over a run of requests and other steps.

Owns:
- the steps that change a server, and runs of them in any order;
- the history of a run, and the law that the stored sessions are the history replayed;
- what a run changes, and the law that it keeps what every step keeps.

Does not own: what a history says about a login (`Server.StateToken`, `Server.Verdict`).

The answers of the provider, the time and the random draws come with each visit, so a statement
about every run is a statement about all of them.
-/

namespace LoginGate.Server

/-! ## Steps -/

/-- A request with all that it meets. -/
structure Visit where
  site : Site
  moment : Moment
  /-- The answers of the provider during the visit. -/
  provider : Provider
  request : Http.Request

inductive Step where
  | visit (visit : Visit)
  | setAdmins (entries : List Text)
  | setForbidden (handler : Http.RequestInfo -> Http.Response)
  | cleanup (now : Instant)
  /-- The application, or a hook of it, sets a key of a session or removes it. -/
  | write (id : SessionId) (key : Text) (value : Option Json)

/-- A server whose provider gives certain answers. -/
def asking (server : Server) (provider : Provider) : Server :=
  { server with login := server.login.map fun login => { login with provider } }

def Visit.answer (visit : Visit) (server : Server) : Answer :=
  (server.asking visit.provider).answer visit.site visit.moment visit.request

def write (server : Server) (id : SessionId) (key : Text) (value : Option Json) : Server :=
  match server.store.find? id with
  | none => server
  | some session => { server with store := server.store.update (session.set key value) }

def step (server : Server) : Step -> Server
  | .visit visit => { server with store := (visit.answer server).store }
  | .setAdmins entries => server.setAdmins entries
  | .setForbidden handler => { server with forbidden := handler }
  | .cleanup now => (server.cleanup now).2
  | .write id key value => server.write id key value

def run (server : Server) (steps : List Step) : Server := steps.foldl step server

/-! ## Histories -/

def stepHistory (server : Server) : Step -> History
  | .visit visit =>
    (server.asking visit.provider).requestHistory visit.site visit.moment visit.request
  | .setAdmins _ | .setForbidden _ => []
  | .cleanup now =>
    (server.store.sessions.filter (·.isExpired now)).map fun session => (session.id, .dropped)
  | .write id key value => [(id, .done (.written key value))]

def history (server : Server) : List Step -> History
  | [] => []
  | step :: rest => server.stepHistory step ++ (server.step step).history rest

@[simp] theorem run_nil (server : Server) : server.run [] = server := rfl

@[simp] theorem run_cons (server : Server) (step : Step) (rest : List Step) :
    server.run (step :: rest) = (server.step step).run rest := rfl

/-! ## What no step changes -/

/-- A step touches the sessions, the administrators and the answer to a user who is none of them;
the rest of a server stays. -/
theorem step_eq (server : Server) (step : Step) :
    server.step step =
      { server with
        store := (server.step step).store
        admins := (server.step step).admins
        forbidden := (server.step step).forbidden } := by
  cases step with
  | write id key value =>
    simp only [step, write]
    cases server.store.find? id <;> rfl
  | visit | setAdmins | setForbidden | cleanup => rfl

@[simp] theorem settings_step (server : Server) (step : Step) :
    (server.step step).settings = server.settings := by
  rw [step_eq]

@[simp] theorem login_step (server : Server) (step : Step) :
    (server.step step).login = server.login := by
  rw [step_eq]

@[simp] theorem keys_step (server : Server) (step : Step) :
    (server.step step).keys = server.keys :=
  congrArg Session.Settings.keys (settings_step server step)

/-! ## What every step keeps -/

/-- What every step keeps, a run keeps. -/
theorem run_preserves (Holds : Server -> Prop)
    (preserves : ∀ server step, Holds server -> Holds (server.step step)) {server : Server}
    (holds : Holds server) (steps : List Step) : Holds (server.run steps) := by
  induction steps generalizing server with
  | nil => exact holds
  | cons step rest inductionHypothesis => exact inductionHypothesis (preserves server step holds)

/-- So does a part of a server that no step changes stay the same. -/
theorem run_unchanged {α : Type} (part : Server -> α)
    (unchanged : ∀ server step, part (server.step step) = part server) (server : Server)
    (steps : List Step) : part (server.run steps) = part server :=
  run_preserves (part · = part server) (fun after step same => (unchanged after step).trans same)
    rfl steps

theorem settings_run (server : Server) (steps : List Step) :
    (server.run steps).settings = server.settings :=
  run_unchanged settings settings_step server steps

theorem login_run (server : Server) (steps : List Step) :
    (server.run steps).login = server.login :=
  run_unchanged login login_step server steps

theorem keys_run (server : Server) (steps : List Step) :
    (server.run steps).keys = server.keys :=
  run_unchanged keys keys_step server steps

/-! ## Distinct ids -/

theorem Turn.distinct_answer {store : Store} (distinct : store.Distinct) (turn : Turn) :
    (turn.answer store).store.Distinct := by
  unfold Turn.answer
  cases turn.session with
  | none => exact distinct
  | some session => exact distinct.update session

private theorem distinct_findSession {server : Server} (distinct : server.store.Distinct)
    (now : Instant) (jar : Http.CookieJar) : (server.findSession now jar).2.Distinct := by
  rw [findSession_eq]
  cases server.namedId? jar with
  | none => exact distinct
  | some id => exact distinct.get now id

private theorem distinct_ensureSession {server : Server} (distinct : server.store.Distinct)
    (moment : Moment) (jar : Http.CookieJar) :
    (server.ensureSession moment jar).1.Distinct := by
  have lookedUp := distinct_findSession distinct moment.now jar
  unfold ensureSession
  split
  · rename_i found
    rw [found] at lookedUp
    exact lookedUp
  · rename_i store found
    rw [found] at lookedUp
    split
    · exact lookedUp
    · rename_i created
      have opened := Store.Distinct.create? lookedUp created
      split <;> exact opened

private theorem distinct_pass {server : Server} (distinct : server.store.Distinct) (moment : Moment)
    (adminOnly : Bool) (request : Http.RequestInfo) (session : Session)
    (page : View -> Http.Response) :
    (server.pass moment adminOnly request session page).store.Distinct := by
  unfold pass
  dsimp only
  split
  · exact Turn.distinct_answer distinct _
  · split <;> exact distinct

theorem distinct_guarded {server : Server} (distinct : server.store.Distinct) (moment : Moment)
    (adminOnly : Bool) (request : Http.Request) (page : View -> Http.Response) :
    (server.guarded moment adminOnly request page).store.Distinct := by
  have admitted := distinct_ensureSession distinct moment (.ofRequest request)
  cases configured : server.login with
  | none =>
    unfold guarded
    rw [configured]
    exact distinct_findSession distinct moment.now (.ofRequest request)
  | some login =>
    rw [guarded_eq moment request configured]
    split
    · rename_i ended
      rw [ended] at admitted
      exact admitted
    · rename_i store admission ended
      rw [ended] at admitted
      rw [store_withCookie]
      have stored : ({ server with store } : Server).store.Distinct := admitted
      exact distinct_pass stored moment adminOnly _ _ _

theorem distinct_answer {server : Server} (distinct : server.store.Distinct) (site : Site)
    (moment : Moment) (request : Http.Request) :
    (server.answer site moment request).store.Distinct := by
  rw [answer_store]
  cases server.endpoint? site request with
  | none => exact distinct
  | some endpoint =>
    cases endpoint with
    | home => exact distinct_guarded distinct moment false request _
    | administrators => exact distinct_guarded distinct moment true request _
    | callback | login | logout =>
      show Store.Distinct (Answer.store (if isAnswered request.method then _ else _))
      split
      · rw [serveFlow_eq]
        exact Turn.distinct_answer (distinct_findSession distinct moment.now _) _
      · exact distinct

theorem distinct_step {server : Server} (distinct : server.store.Distinct) (step : Step) :
    (server.step step).store.Distinct := by
  cases step with
  | visit visit =>
    have asked : (server.asking visit.provider).store.Distinct := distinct
    exact distinct_answer asked visit.site visit.moment visit.request
  | setAdmins entries => exact distinct
  | setForbidden handler => exact distinct
  | cleanup now => exact distinct.cleanup now
  | write id key value =>
    show (server.write id key value).store.Distinct
    unfold write
    split
    · exact distinct
    · exact distinct.update _

/-! ## Replaying a run -/

/-- Incidents that only drop a session leave none, if there are any. -/
theorem replay_dropped (keys : Session.Keys) (id : SessionId) (session : Option Session)
    {incidents : List Incident} (drops : ∀ incident ∈ incidents, incident = .dropped) :
    replay keys id session incidents = if incidents = [] then session else none := by
  cases incidents with
  | nil => rfl
  | cons first rest =>
    have cleared : ∀ others : List Incident, (∀ incident ∈ others, incident = .dropped) ->
        replay keys id none others = none := by
      intro others dropsOthers
      induction others with
      | nil => rfl
      | cons other others inductionHypothesis =>
        rw [dropsOthers other List.mem_cons_self]
        exact inductionHypothesis fun incident member =>
          dropsOthers incident (List.mem_cons_of_mem _ member)
    rw [if_neg (List.cons_ne_nil first rest), drops first List.mem_cons_self]
    exact cleared rest fun incident member => drops incident (List.mem_cons_of_mem _ member)

theorem find?_cleanup {server : Server} (distinct : server.store.Distinct) (now : Instant)
    (id : SessionId) :
    (server.cleanup now).2.store.find? id =
      replay server.keys id (server.store.find? id)
        ((server.stepHistory (.cleanup now)).of id) := by
  have listed (incident : Incident) :
      incident ∈ (server.stepHistory (.cleanup now)).of id ↔
        incident = .dropped ∧ ∃ session ∈ server.store.sessions, session.isExpired now = true ∧
          session.id = id := by
    simp only [History.of, stepHistory, List.mem_map, List.mem_filter, decide_eq_true_eq]
    constructor
    · rintro ⟨_, ⟨⟨session, ⟨member, expired⟩, rfl⟩, same⟩, rfl⟩
      exact ⟨rfl, session, member, expired, same⟩
    · rintro ⟨rfl, session, member, expired, same⟩
      exact ⟨_, ⟨⟨session, ⟨member, expired⟩, rfl⟩, same⟩, rfl⟩
  rw [replay_dropped _ _ _ fun incident member => ((listed incident).1 member).1]
  show (server.store.cleanup now).2.find? id = _
  rw [distinct.find?_cleanup]
  by_cases none : (server.stepHistory (.cleanup now)).of id = []
  · rw [if_pos none]
    cases found : server.store.find? id with
    | none => rfl
    | some session =>
      have live : ¬ session.isExpired now = true := fun expired => by
        have member := (listed .dropped).2
          ⟨rfl, session, Store.mem_of_find? found, expired, Store.id_of_find? found⟩
        rw [none] at member
        exact List.not_mem_nil member
      simp [live]
  · rw [if_neg none]
    obtain ⟨incident, member⟩ := List.exists_mem_of_ne_nil _ none
    obtain ⟨-, session, stored, expired, rfl⟩ := (listed incident).1 member
    rw [distinct.find?_of_mem stored]
    simp [expired]

/-- The sessions after a step are those before it with its incidents replayed. -/
theorem find?_step {server : Server} (distinct : server.store.Distinct) (step : Step)
    (id : SessionId) :
    (server.step step).store.find? id =
      replay server.keys id (server.store.find? id) ((server.stepHistory step).of id) := by
  cases step with
  | visit visit => exact find?_answer visit.moment visit.request (server.asking visit.provider) _ id
  | setAdmins entries => rfl
  | setForbidden handler => rfl
  | cleanup now => exact find?_cleanup distinct now id
  | write written key value =>
    show (server.write written key value).store.find? id = _
    unfold write
    cases found : server.store.find? written with
    | none =>
      simp only [stepHistory, History.of_singleton]
      by_cases same : written = id
      · subst same
        rw [if_pos rfl, found]
        rfl
      · rw [if_neg same]
        rfl
    | some session =>
      have sameId := Store.id_of_find? found
      subst sameId
      exact find?_update_perform server.keys found (.written key value) id

/-- The sessions after a run are those before it with its history replayed. -/
theorem find?_run {server : Server} (distinct : server.store.Distinct) (steps : List Step)
    (id : SessionId) :
    (server.run steps).store.find? id =
      replay server.keys id (server.store.find? id) ((server.history steps).of id) := by
  induction steps generalizing server with
  | nil => rfl
  | cons step rest inductionHypothesis =>
    rw [run_cons, history, History.of_append, replay_append,
      inductionHypothesis (distinct_step distinct step), keys_step, find?_step distinct]

/-! ## A small server -/

namespace Sample

/-- A provider that vouches for the same user whatever it is asked. -/
def provider : Provider where
  authorizationUrl state := "https://idp.example.com/authorize?state=".toList ++ state
  exchangeCode code := .ok { accessToken := code, tokenType := "bearer".toList }
  fetchUserinfo _ := .ok {
    status := 200, body := Utf8.encode "\x7b\x22email\x22: \x22ann@example.com\x22\x7d".toList }

def server : Server where
  login := some {
    provider
    paths := {
      callback := "/auth/callback".toList
      login := "/auth/login".toList
      logout := "/auth/logout".toList } }
  settings := {}
  store := { lifetime := Store.defaultLifetime }

/-- A visit of a browser with a cookie, a second or so after midnight. The random draws are the
same every time. -/
def visit (path : String) (query : Option String) : Visit where
  site := .whole
  moment := { now := { seconds := 1 }, sessionId := { bits := 1 }, stateBytes := [1, 2, 3] }
  provider
  request := {
    target := { path := path.toList, query := query.map String.toList }
    headers := [{
      name := "cookie".toList, value := "session=00000000000000000000000001".toList }] }

end Sample
end LoginGate.Server
