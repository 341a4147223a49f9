import LoginGate.Proofs.Http.Request
import LoginGate.Proofs.Redirect.LocalPath
import LoginGate.Proofs.Server.Gate

/-!
Contract: no answer leads a browser away, except to the provider.

Owns:
- the locations of a response, and what is allowed among them;
- the steps of the login flow, one by one, which lead to local paths or to the provider;
- the same law for whole answers.

Does not own: what makes a path local (`Redirect.LocalPath`).
-/

namespace LoginGate

def Http.Header.isLocation (header : Http.Header) : Bool := header.name = "location".toList

def Http.Response.locations (response : Http.Response) : List Text :=
  (response.headers.filter Http.Header.isLocation).map (·.value)

/-- A response that sends nobody anywhere. -/
def Http.Response.Stays (response : Http.Response) : Prop := response.locations = []

namespace Http.Response

@[simp] theorem status_found (location : Text) : (found location).status = 302 := by
  unfold found
  split <;> rfl

/-- A redirect has one location, unless this cannot stand in a header. -/
theorem locations_found (location : Text) :
    (found location).locations = if location.any isForbiddenInValue then [] else [location] := by
  have named : Header.isLocation { name := "location".toList, value := location } = true :=
    decide_eq_true rfl
  unfold found
  split
  · rfl
  · rw [locations, List.filter_cons_of_pos named]
    rfl

theorem locations_found_of_fits {location : Text} (fits : FitsHeader location) :
    (found location).locations = [location] := by
  rw [locations_found, if_neg (Bool.eq_false_iff.1 fits.any_eq_false)]

theorem eq_of_mem_locations_found {location other : Text}
    (member : other ∈ (found location).locations) : other = location := by
  rw [locations_found] at member
  split at member
  · cases member
  · exact List.mem_singleton.1 member

private theorem locations_withHeader {response : Response} {header : Header}
    (other : header.isLocation = false) :
    (response.withHeader header).locations = response.locations := by
  unfold locations withHeader
  rw [List.filter_append, List.filter_cons_of_neg (Bool.eq_false_iff.1 other), List.filter_nil,
    List.append_nil]

private theorem stays_html (status : Nat) (body : Text) : (html status body).Stays := rfl

end Http.Response

namespace Server

open Redirect (IsLocalPath)

/-! ## Steps of the flow -/

def LeadsLocal (response : Http.Response) : Prop :=
  ∀ location ∈ response.locations, IsLocalPath location

private theorem leadsLocal_of_stays {response : Http.Response} (stays : response.Stays) :
    LeadsLocal response := by
  intro location member
  rw [stays] at member
  cases member

private theorem leadsLocal_found {location : Text} (isLocal : IsLocalPath location) :
    LeadsLocal (.found location) := by
  intro other member
  rw [Http.Response.eq_of_mem_locations_found member]
  exact isLocal

/-- Where a request leads after the flow is a local path, whatever the flow's own paths are. -/
theorem isLocalPath_returnTarget (server : Server) (request : Http.RequestInfo) :
    IsLocalPath (server.returnTarget request) := by
  have sanitized := Redirect.isLocalPath_sanitize request.host request.location
  unfold returnTarget
  dsimp only
  split
  · exact Redirect.isLocalPath_stripSuffix _ sanitized
  · exact sanitized

private theorem leadsLocal_logout (server : Server) (session : Option Session)
    (request : Http.RequestInfo) {response : Http.Response}
    (answered : (server.logout session request).response = .ok response) :
    LeadsLocal response := by
  cases answered
  exact leadsLocal_found (isLocalPath_returnTarget server request)

/-- A login without a session, or on a server without a login flow, is not sent to the provider. -/
theorem leadsLocal_beginLogin {server : Server} {session : Option Session}
    (alone : server.login = none ∨ session = none) (request : Http.RequestInfo)
    (stateBytes : Bytes) {response : Http.Response}
    (answered : (server.beginLogin session request stateBytes).response = .ok response) :
    LeadsLocal response := by
  unfold beginLogin at answered
  dsimp only at answered
  split at answered
  · rename_i configured
    rcases alone with missing | missing
    · rw [missing] at configured
      cases configured
    · cases missing
  · cases answered
    exact leadsLocal_found (isLocalPath_returnTarget server request)

private theorem isLocalPath_of_beginLogin {server : Server} {login : Login}
    (configured : server.login = some login) (session : Session) (request : Http.RequestInfo)
    (stateBytes : Bytes) :
    ∃ (after : Session) (pending : Flow.Pending),
      (server.beginLogin (some session) request stateBytes).session = some after ∧
      after.get? Flow.Pending.key = some pending.toJson ∧ IsLocalPath pending.referrer := by
  refine ⟨_, { state := Flow.State.ofBytes stateBytes, referrer := server.returnTarget request },
    beginLogin_session configured session request stateBytes, ?_,
    isLocalPath_returnTarget server request⟩
  exact (Session.get?_set session _ _ _).trans (if_pos rfl)

/-- A callback fails before it logs anybody in, or leads to a local path, whatever was
remembered. -/
theorem completeLogin_fails_or_leadsLocal (server : Server) (session : Option Session)
    (request : Http.RequestInfo) (now : Instant) (callback : Flow.Callback)
    {response : Http.Response}
    (answered : (server.completeLogin session request now callback).response = .ok response) :
    (∃ failed asked error,
      server.completeLogin session request now callback =
        server.failLogin failed request asked error ∧
      ∀ after info, .loggedIn after info ∉ asked) ∨
    LeadsLocal response := by
  have unasked : ∀ after info, Event.loggedIn after info ∉ ([] : List Event) :=
    fun _ _ => List.not_mem_nil
  unfold completeLogin
  cases configured : server.login with
  | none => exact Or.inl ⟨session, [], .notConfigured, rfl, unasked⟩
  | some login =>
    cases session with
    | none => exact Or.inl ⟨none, [], .missingSession, rfl, unasked⟩
    | some session =>
      have concluded := completeLogin_eq_conclude configured session request now callback
      unfold completeLogin at concluded answered
      rw [configured] at concluded answered
      rw [concluded] at answered ⊢
      cases ended : login.outcome session now callback with
      | refused => exact Or.inl ⟨_, [], .wrongState, rfl, unasked⟩
      | failed error =>
        exact Or.inl ⟨_, _, error, rfl, loggedIn_not_mem_inquire login.provider callback.code⟩
      | broken document =>
        rw [ended] at answered
        cases answered
      | accepted pending grant =>
        rw [ended] at answered
        cases answered
        exact Or.inr (leadsLocal_found (Redirect.isLocalPath_sanitize _ _))

private theorem leadsLocal_completeLogin {server : Server} {session : Option Session}
    {request : Http.RequestInfo} {now : Instant} {callback : Flow.Callback}
    {after : Session} {info : Http.RequestInfo}
    (announced : .loggedIn after info ∈
      (server.completeLogin session request now callback).events)
    {response : Http.Response}
    (answered : (server.completeLogin session request now callback).response = .ok response) :
    LeadsLocal response := by
  rcases completeLogin_fails_or_leadsLocal server session request now callback answered with
    ⟨failed, asked, error, same, unannounced⟩ | leads
  · rw [same] at announced
    simp only [failLogin, List.mem_append, List.mem_singleton, reduceCtorEq, or_false] at announced
    exact absurd announced (unannounced after info)
  · exact leads

/-! ## Whole answers -/

/-- The handlers of the application send nobody anywhere. -/
structure Quiet (server : Server) : Prop where
  forbidden : ∀ info, (server.forbidden info).Stays
  onFailure : ∀ failure response, server.onFailure failure = some response -> response.Stays

/-- A response leads to local paths, or to the provider with the state of the moment. -/
def Confined (server : Server) (moment : Moment) (response : Http.Response) : Prop :=
  ∀ location ∈ response.locations, IsLocalPath location ∨
    ∃ login, server.login = some login ∧
      location = login.provider.authorizationUrl (Flow.State.ofBytes moment.stateBytes)

section Confined

variable {server : Server} {moment : Moment}

private theorem confined_of_leadsLocal {response : Http.Response} (leads : LeadsLocal response) :
    server.Confined moment response :=
  fun location member => Or.inl (leads location member)

private theorem confined_of_stays {response : Http.Response} (stays : response.Stays) :
    server.Confined moment response :=
  confined_of_leadsLocal (leadsLocal_of_stays stays)

private theorem confined_loginResponse {login : Login} (configured : server.login = some login) :
    server.Confined moment (loginResponse login.provider moment) := by
  intro location member
  exact Or.inr ⟨login, configured, Http.Response.eq_of_mem_locations_found member⟩

theorem Confined.withHeader {response : Http.Response} (confined : server.Confined moment response)
    {header : Http.Header} (other : header.isLocation = false) :
    server.Confined moment (response.withHeader header) := by
  unfold Confined
  rw [Http.Response.locations_withHeader other]
  exact confined

theorem Confined.finish {response : Http.Response} (confined : server.Confined moment response)
    (method : Text) : server.Confined moment (finish method response) := by
  have allowed : server.Confined moment
      (if isAnswered method then response else response.withHeader allowHeader) := by
    split
    · exact confined
    · exact confined.withHeader (by decide)
  unfold Server.finish
  split
  · exact confined
  · dsimp only
    split
    · exact allowed
    · exact allowed

private theorem confined_beginLogin (session : Option Session) (request : Http.RequestInfo)
    {response : Http.Response}
    (answered : (server.beginLogin session request moment.stateBytes).response = .ok response) :
    server.Confined moment response := by
  cases configured : server.login with
  | none =>
    exact confined_of_leadsLocal
      (leadsLocal_beginLogin (Or.inl configured) request moment.stateBytes answered)
  | some login =>
    cases session with
    | none =>
      exact confined_of_leadsLocal
        (leadsLocal_beginLogin (Or.inr rfl) request moment.stateBytes answered)
    | some session =>
      rw [response_beginLogin configured] at answered
      cases answered
      exact confined_loginResponse configured

private theorem stays_failLogin (quiet : server.Quiet) (session : Option Session)
    (request : Http.RequestInfo) (asked : List Event) (error : Flow.Error)
    {response : Http.Response}
    (answered : (server.failLogin session request asked error).response = .ok response) :
    response.Stays := by
  unfold failLogin at answered
  dsimp only at answered
  cases answered
  generalize given : server.onFailure _ = replaced
  cases replaced with
  | none => exact Http.Response.stays_html _ _
  | some response => exact quiet.onFailure _ response given

private theorem confined_completeLogin (quiet : server.Quiet) (session : Option Session)
    (request : Http.RequestInfo) (now : Instant) (callback : Flow.Callback)
    {response : Http.Response}
    (answered : (server.completeLogin session request now callback).response = .ok response) :
    server.Confined moment response := by
  rcases completeLogin_fails_or_leadsLocal server session request now callback answered with
    ⟨failed, asked, error, same, -⟩ | leads
  · rw [same] at answered
    exact confined_of_stays (stays_failLogin quiet _ _ _ _ answered)
  · exact confined_of_leadsLocal leads

private theorem confined_guarded (quiet : server.Quiet) {adminOnly : Bool} {request : Http.Request}
    {page : View -> Http.Response} (stays : ∀ view, (page view).Stays) {response : Http.Response}
    (answered : (server.guarded moment adminOnly request page).response = .ok response) :
    server.Confined moment response := by
  cases configured : server.login with
  | none =>
    unfold guarded at answered
    rw [configured] at answered
    cases answered
    exact confined_of_stays (stays _)
  | some login =>
    by_cases stranger : ∀ session, ¬ server.Brings moment.now (.ofRequest request) session
    · rw [response_guarded_of_not_brings configured stranger] at answered
      split at answered
      · cases answered
      · split at answered
        · cases answered
        · cases answered
          exact (confined_loginResponse configured).withHeader rfl
    · obtain ⟨session, brings⟩ := Classical.not_forall_not.1 stranger
      rw [response_guarded_of_brings configured brings] at answered
      cases answered
      split
      · split
        · exact confined_of_stays (quiet.forbidden _)
        · exact confined_of_stays (stays _)
      · exact confined_loginResponse configured

private theorem stays_home (logout : Option Text) (view : View) :
    (Page.home logout view).Stays := by
  unfold Page.home
  exact Http.Response.stays_html 200 _

private theorem stays_administrators (logout : Option Text) (admins : Admins) (view : View) :
    (Page.administrators logout admins view).Stays := by
  unfold Page.administrators
  exact Http.Response.stays_html 200 _

/-- A page that is only shown for some methods stays if its content does. -/
theorem stays_page {content : View -> Http.Response} (stays : ∀ view, (content view).Stays)
    (answered : Bool) (view : View) :
    Http.Response.Stays (if answered then content view else methodRefused) := by
  split
  · exact stays view
  · rfl

private theorem confined_serveFlow (quiet : server.Quiet) (endpoint : Endpoint)
    (request : Http.Request) {response : Http.Response}
    (answered : (server.serveFlow moment endpoint request).response = .ok response) :
    server.Confined moment response := by
  rw [serveFlow_eq] at answered
  cases endpoint with
  | callback => exact confined_completeLogin quiet _ _ _ _ answered
  | logout =>
    exact confined_of_leadsLocal
      (leadsLocal_logout server (server.findSession moment.now (.ofRequest request)).1
        request.info answered)
  | login | home | administrators => exact confined_beginLogin _ _ answered

private theorem confined_serve (quiet : server.Quiet) (endpoint : Endpoint) (request : Http.Request)
    {response : Http.Response}
    (answered : (server.serve moment endpoint request).response = .ok response) :
    server.Confined moment response := by
  cases endpoint with
  | home => exact confined_guarded quiet (stays_page (stays_home _) _) answered
  | administrators =>
    exact confined_guarded quiet (stays_page (stays_administrators _ _) _) answered
  | callback | login | logout =>
    unfold serve at answered
    dsimp only at answered
    split at answered
    · exact confined_serveFlow quiet _ request answered
    · cases answered
      exact confined_of_stays rfl

/-- No answer leads anywhere but to a local path or to the provider. -/
theorem confined_answer (quiet : server.Quiet) (site : Site) (request : Http.Request)
    {response : Http.Response}
    (answered : (server.answer site moment request).response = .ok response) :
    server.Confined moment response := by
  cases reached : server.endpoint? site request with
  | none =>
    obtain ⟨result, same, missing⟩ := answer_of_unreached reached moment
    rw [same] at answered
    rw [missing response answered]
    exact confined_of_stays rfl
  | some endpoint =>
    rw [answer_of_reached reached] at answered
    cases served : (server.serve moment endpoint request).response with
    | error fault =>
      rw [served] at answered
      cases answered
    | ok plain =>
      rw [served] at answered
      cases answered
      exact (confined_serve quiet endpoint request served).finish request.method

end Confined

/-! ## No open redirect -/

/-- **No location leads to another host, except to the provider.**

Whatever the paths of the flow are, whatever the request says and whatever a session holds: logging
out, starting a login without a session and completing one lead to local paths, and so does what
starting a login remembers. As long as the handlers of the application send nobody anywhere, every
location in any answer is a local path or the provider's authorization URL. -/
theorem locations_are_local (server : Server) :
    (∀ session request response,
      (server.logout session request).response = .ok response -> LeadsLocal response) ∧
    (∀ session request stateBytes response, server.login = none ∨ session = none ->
      (server.beginLogin session request stateBytes).response = .ok response ->
        LeadsLocal response) ∧
    (∀ session request now callback after info response,
      .loggedIn after info ∈ (server.completeLogin session request now callback).events ->
        (server.completeLogin session request now callback).response = .ok response ->
          LeadsLocal response) ∧
    (∀ login session request stateBytes, server.login = some login ->
      ∃ (after : Session) (pending : Flow.Pending),
        (server.beginLogin (some session) request stateBytes).session = some after ∧
        after.get? Flow.Pending.key = some pending.toJson ∧ IsLocalPath pending.referrer) ∧
    ∀ site moment request response, server.Quiet ->
      (server.answer site moment request).response = .ok response ->
        server.Confined moment response := by
  refine ⟨?_, ?_, ?_, ?_, ?_⟩
  · intro session request response answered
    exact leadsLocal_logout server session request answered
  · intro session request stateBytes response alone answered
    exact leadsLocal_beginLogin alone request stateBytes answered
  · intro session request now callback after info response announced answered
    exact leadsLocal_completeLogin announced answered
  · intro login session request stateBytes configured
    exact isLocalPath_of_beginLogin configured session request stateBytes
  · intro site moment request response quiet answered
    exact confined_answer quiet site request answered

/-- A browser that comes from elsewhere to log out, and a login that starts there. -/
theorem sample_locations_are_local :
    let info : Http.RequestInfo := {
      host := "example.com".toList, referer := some "https://evil.example.com//x".toList
      uri := "/auth/login".toList }
    let session : Session := { id := { bits := 1 }, createdAt := { seconds := 0 }
                               expiresAt := { seconds := 1 } }
    LeadsLocal (.found (Sample.server.returnTarget info)) ∧
    (∃ (after : Session) (pending : Flow.Pending),
      (Sample.server.beginLogin (some session) info [1, 2, 3]).session = some after ∧
      after.get? Flow.Pending.key = some pending.toJson ∧ IsLocalPath pending.referrer) ∧
    ∃ response, (Sample.server.answer .whole (Sample.visit "/" none).moment
        (Sample.visit "/" none).request).response = .ok response ∧
      Sample.server.Confined (Sample.visit "/" none).moment response := by
  intro info session
  have quiet : Sample.server.Quiet := {
    forbidden := fun _ => Http.Response.stays_html 403 _
    onFailure := by
      intro failure response given
      cases given }
  obtain ⟨leaves, -, -, remembers, answers⟩ := locations_are_local Sample.server
  have shown : (Sample.server.answer .whole (Sample.visit "/" none).moment
      (Sample.visit "/" none).request).response.toBool = true := by decide +kernel
  refine ⟨leaves none info _ rfl, remembers _ session info [1, 2, 3] rfl, ?_⟩
  cases answered : (Sample.server.answer .whole (Sample.visit "/" none).moment
      (Sample.visit "/" none).request).response with
  | error fault =>
    rw [answered] at shown
    cases shown
  | ok response => exact ⟨response, rfl, answers _ _ _ response quiet answered⟩

end Server
end LoginGate
