import LoginGate.Proofs.Redirect.Destination
import LoginGate.Proofs.Server.Location
import LoginGate.Proofs.Server.StateToken

/-!
Contract: whether the flow sends a browser back to one of its own paths.

Owns:
- where a request at a path of the flow leads afterwards;
- the law that says when this is a path of the flow again, for logging out, for a login without a
  session, and for a login that was completed.

Does not own: what sanitizing and cutting do to a location (`Redirect.Destination`).
-/

namespace LoginGate.Server

open Redirect (PointsAt Consists collapse pathOf)

/-- A request at a path of the flow leads to a path, which every later sanitizing keeps. -/
theorem leads_returnTarget {server : Server} {login : Login} {request : Http.RequestInfo}
    {path : Text} {marked : Bool} (configured : server.login = some login)
    (flow : login.paths.Configured) (points : PointsAt request.host request.location path marked)
    (member : path ∈ login.paths.handled) (rooted : path.head? = some '/') :
    (pathOf (server.returnTarget request) ∈ login.paths.handled ↔
      collapse path ∈ login.paths.handled ∧
        (marked = true ∨ login.paths.callback = ['/'])) ∧
    ∀ host, pathOf (Redirect.sanitize host (server.returnTarget request)) =
      pathOf (server.returnTarget request) := by
  have target : server.returnTarget request =
      login.paths.stripSuffix (Redirect.sanitize request.host request.location) := by
    unfold returnTarget
    rw [configured]
  obtain ⟨final, finalMarked, consists, plain, finalRooted, collapsed, ends⟩ :=
    points.leads flow member rooted
  rw [← target] at consists
  rw [Redirect.pathOf_of_consists consists plain]
  refine ⟨ends, fun host => ?_⟩
  have points : PointsAt host (server.returnTarget request) final finalMarked := .own consists
  have again := points.sanitize plain finalRooted
  rw [collapsed] at again
  exact Redirect.pathOf_of_consists again plain

/-- A callback that logs somebody in leads where the record of its session says. -/
theorem leads_of_loggedIn {server : Server} {login : Login}
    (configured : server.login = some login) {session after : Session} {pending : Flow.Pending}
    (waits : Flow.Pending.peek session = some pending) {back info : Http.RequestInfo}
    {now : Instant} {callback : Flow.Callback}
    (announced : .loggedIn after info ∈
      (server.completeLogin (some session) back now callback).events) :
    (server.completeLogin (some session) back now callback).response =
      .ok (.found (Redirect.sanitize back.host pending.referrer)) := by
  obtain ⟨accepted, grant, ended⟩ := accepted_of_loggedIn configured announced
  have same := (Login.peek_of_accepted ended).symm.trans waits
  cases same
  rw [completeLogin_eq_conclude configured, ended]
  rfl

/-- A completed login leads to the sanitized target of the request that began it. -/
theorem location_completeLogin {server : Server} {login : Login}
    (configured : server.login = some login) {session after : Session}
    {request back info : Http.RequestInfo} {stateBytes : Bytes} {now : Instant}
    {callback : Flow.Callback}
    (announced : .loggedIn after info ∈
      (server.completeLogin (server.beginLogin (some session) request stateBytes).session back now
        callback).events)
    {response : Http.Response}
    (answered : (server.completeLogin (server.beginLogin (some session) request stateBytes).session
      back now callback).response = .ok response)
    {location : Text} (member : location ∈ response.locations) :
    location = Redirect.sanitize back.host (server.returnTarget request) := by
  rw [beginLogin_session configured] at announced answered
  have leads := leads_of_loggedIn configured (Session.awaits_store _ session).peek announced
  cases leads.symm.trans answered
  exact Http.Response.eq_of_mem_locations_found member

/-- **When the flow sends a browser back to one of its own paths.** A request that points at a path
of the flow leads to a path of the flow again exactly if that path is one without the slashes that
are too many at its start and either something stands behind it or the callback is the root.
Logging out and a login without a session answer with this target, and a completed login leads to
the same path. -/
theorem returnTarget_path_mem_handled_iff {server : Server} {login : Login}
    {connect : Config -> Except SetupError Provider} {config : Config}
    (configured : server.login = some login)
    (built : Login.ofConfig connect config = .ok login)
    (rooted : ∀ path ∈ login.paths.handled, path.head? = some '/')
    {request : Http.RequestInfo} {path : Text} {marked : Bool}
    (points : PointsAt request.host request.location path marked)
    (member : path ∈ login.paths.handled) :
    let target := server.returnTarget request
    (pathOf target ∈ login.paths.handled ↔
      collapse path ∈ login.paths.handled ∧
        (marked = true ∨ login.paths.callback = ['/'])) ∧
    (∀ session response, (server.logout session request).response = .ok response ->
      ∀ location ∈ response.locations, location = target) ∧
    (∀ stateBytes response, (server.beginLogin none request stateBytes).response = .ok response ->
      ∀ location ∈ response.locations, location = target) ∧
    ∀ session stateBytes back now callback response after info,
      let turn := server.completeLogin (server.beginLogin (some session) request stateBytes).session
        back now callback
      .loggedIn after info ∈ turn.events -> turn.response = .ok response ->
        ∀ location ∈ response.locations, pathOf location = pathOf target := by
  intro target
  have flow := Flow.Paths.configured_of_ofConfig built rooted
  obtain ⟨ends, stable⟩ := leads_returnTarget configured flow points member (rooted path member)
  refine ⟨ends, ?_, ?_, ?_⟩
  · intro session response answered location listed
    cases answered
    exact Http.Response.eq_of_mem_locations_found listed
  · intro stateBytes response answered location listed
    have direct : (server.beginLogin none request stateBytes).response = .ok (.found target) := by
      unfold beginLogin
      rw [configured]
    rw [direct] at answered
    cases answered
    exact Http.Response.eq_of_mem_locations_found listed
  · intro session stateBytes back now callback response after info turn announced answered
      location listed
    rw [location_completeLogin configured announced answered listed]
    exact stable back.host

/-! ## A path with a query -/

namespace Sample

def config : Config where
  redirectUrl := "https://[::1]/auth/callback".toList
  authUrl := "https://[::1]/authorize".toList
  tokenUrl := "https://[::1]/token".toList
  userinfoUrl := "https://[::1]/userinfo".toList
  clientId := "client".toList
  clientSecret := "secret".toList
  scopeList := "openid".toList
  redirectOrigin := none

/-- A request to log out whose query ends with another path of the flow. -/
def leaving : Http.RequestInfo where
  host := "[::1]".toList
  referer := none
  uri := "/auth/logout?next=/auth/login".toList

end Sample

theorem sample_returnTarget_keeps_logout :
    ∃ login, Login.ofConfig (fun _ => .ok Sample.provider) Sample.config = .ok login ∧
      Sample.server.login = some login ∧
      pathOf (Sample.server.returnTarget Sample.leaving) ∈ login.paths.handled := by
  obtain ⟨login, configured⟩ : ∃ login, Sample.server.login = some login := ⟨_, rfl⟩
  have built : Login.ofConfig (fun _ => .ok Sample.provider) Sample.config = .ok login := by
    cases configured
    rfl
  have handled : login.paths.handled =
      ["/auth/callback".toList, "/auth/login".toList, "/auth/logout".toList] := by
    cases configured
    decide
  have rooted : ∀ path ∈ login.paths.handled, path.head? = some '/' := by
    rw [handled]
    decide
  have points : PointsAt Sample.leaving.host Sample.leaving.location "/auth/logout".toList true :=
    .own ⟨"?next=/auth/login".toList, rfl, by simp [Redirect.isPathEnd], rfl⟩
  have member : "/auth/logout".toList ∈ login.paths.handled := by
    rw [handled]
    decide
  have collapsed : collapse "/auth/logout".toList = "/auth/logout".toList := by decide
  have ends := (returnTarget_path_mem_handled_iff configured built rooted points member).1
  rw [collapsed] at ends
  exact ⟨login, built, configured, ends.2 ⟨member, .inl rfl⟩⟩

/-- Logging out under a path with a query sends the browser to log out again. -/
theorem logout_leads_to_itself :
    let request : Http.RequestInfo :=
      { host := "example.com".toList, referer := none, uri := "/auth/logout?x=1".toList }
    pathOf request.uri = "/auth/logout".toList ∧
    (Sample.server.logout none request).response = .ok (.found request.uri) := by
  intro request
  have target : Sample.server.returnTarget request = request.uri := by decide
  refine ⟨by decide, ?_⟩
  unfold logout
  rw [target]

end LoginGate.Server
