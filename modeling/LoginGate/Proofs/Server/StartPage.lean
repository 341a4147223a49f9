import LoginGate.Proofs.Redirect.StartPage
import LoginGate.Proofs.Server.Destination

/-!
Contract: whether a login leads back to the page that it started from.

Owns:
- what a page on the own host and outside the flow is remembered as;
- the law that a login started there leads there again, and what it loses of its query otherwise.

Does not own: logins started at a path of the flow (`Server.Destination`).
-/

namespace LoginGate.Server

open Redirect (Names collapse kept)

/-- A request comes from a page on its own host, outside the flow. -/
structure ComesFrom (login : Login) (request : Http.RequestInfo) (url : Url) : Prop where
  referer : ∃ referer, request.referer = some referer ∧ Names referer url
  web : url.IsWeb
  ownHost : ∃ host, url.host? = some host ∧ HostName.normalize request.host ≠ [] ∧
    HostName.normalize request.host = HostName.normalize host.text
  elsewhere : ∀ path ∈ login.paths.handled, ¬ path <:+ url.pathText

section ComesFrom

variable {login : Login} {request : Http.RequestInfo} {url : Url}
  (comes : ComesFrom login request url)
include comes

theorem ComesFrom.sanitize : Redirect.sanitize request.host request.location = kept url := by
  obtain ⟨referer, given, names⟩ := comes.referer
  obtain ⟨host, hosted, filled, same⟩ := comes.ownHost
  rw [Redirect.sanitize_of_names (Names.location given names) comes.web hosted,
    if_pos ⟨filled, same⟩]

/-- What is kept of the page can stand in a header and loses no white space. -/
theorem ComesFrom.solid_kept :
    ∀ c ∈ kept url, Text.isWhitespace c = false ∧ Http.Response.isForbiddenInValue c = false := by
  obtain ⟨referer, -, names⟩ := comes.referer
  intro c member
  rcases List.mem_cons.1 member with rfl | inPage
  · decide
  · have inUrl := List.dropWhile_subset _ inPage
    refine ⟨comes.web.solid_pathAndQuery names c inUrl, ?_⟩
    exact Http.isForbiddenInValue_of_not_controls (Url.printable_pathAndQuery names c inUrl)

/-- What the page is remembered as: itself, or what is left of it when its query loses a path of the
flow from its end. -/
theorem ComesFrom.returnTarget_cases {server : Server} (configured : server.login = some login)
    (flow : login.paths.Configured) :
    (server.returnTarget request = kept url ∧
      ∀ path ∈ login.paths.handled, ∀ query, url.query = some query -> ¬ path <:+ query) ∨
    ∃ path ∈ login.paths.handled, ∃ front, url.query = some (front ++ path) ∧
      server.returnTarget request = collapse url.pathText ++ '?' :: front := by
  obtain ⟨referer, -, names⟩ := comes.referer
  obtain ⟨rooted, plain⟩ := comes.web.pathText names
  have target : server.returnTarget request = login.paths.stripSuffix (kept url) := by
    unfold returnTarget
    rw [configured, comes.sanitize]
  rw [target]
  exact Redirect.stripSuffix_kept_cases flow rooted plain comes.elsewhere

end ComesFrom

/-- A login that was begun at a page waits for a callback that leads where the request led. -/
theorem peek_beginLogin {server : Server} {login : Login} (configured : server.login = some login)
    (session : Session) (request : Http.RequestInfo) (stateBytes : Bytes) :
    ∃ after, (server.beginLogin (some session) request stateBytes).session = some after ∧
      Flow.Pending.peek after = some {
        state := Flow.State.ofBytes stateBytes, referrer := server.returnTarget request } :=
  ⟨_, beginLogin_session configured session request stateBytes,
    (Session.awaits_store _ session).peek⟩

/-- **Where a login leads that started at a page on the own host and outside the flow.** It leads to
path and query of this page, after a single slash, exactly if no path of the flow ends the query; if
one does, the query loses it. This is what starting the login remembers on each session, and where
each callback leads that logs somebody in on a session which remembers it. -/
theorem returnTarget_eq_page_iff {server : Server} {login : Login}
    {connect : Config -> Except SetupError Provider} {config : Config}
    (configured : server.login = some login)
    (built : Login.ofConfig connect config = .ok login)
    (rooted : ∀ path ∈ login.paths.handled, path.head? = some '/')
    {request : Http.RequestInfo} {url : Url} (comes : ComesFrom login request url) :
    let target := server.returnTarget request
    (target = kept url ↔
      ∀ path ∈ login.paths.handled, ∀ query, url.query = some query -> ¬ path <:+ query) ∧
    (target ≠ kept url -> ∃ path ∈ login.paths.handled, ∃ front,
      url.query = some (front ++ path) ∧ target = collapse url.pathText ++ '?' :: front) ∧
    (∀ session stateBytes, ∃ after,
      (server.beginLogin (some session) request stateBytes).session = some after ∧
      Flow.Pending.peek after =
        some { state := Flow.State.ofBytes stateBytes, referrer := target }) ∧
    ∀ session pending back now callback after info,
      Flow.Pending.peek session = some pending -> pending.referrer = target ->
      let turn := server.completeLogin (some session) back now callback
      .loggedIn after info ∈ turn.events ->
        ∃ response, turn.response = .ok response ∧ response.status = 302 ∧
          response.locations = [target] := by
  intro target
  have flow := Flow.Paths.configured_of_ofConfig built rooted
  have cases_ := comes.returnTarget_cases configured flow
  have solid : ∀ c ∈ target,
      Text.isWhitespace c = false ∧ Http.Response.isForbiddenInValue c = false := by
    intro c member
    apply comes.solid_kept
    rcases cases_ with ⟨same, -⟩ | ⟨path, -, front, query, shorter⟩
    · exact same ▸ member
    · have inPage : c ∈ collapse url.pathText ++ '?' :: front := shorter ▸ member
      rw [Redirect.kept_eq, query, Url.marked, ← List.cons_append, ← List.append_assoc]
      exact List.mem_append_left path inPage
  refine ⟨⟨?_, ?_⟩, ?_, fun session => peek_beginLogin configured session request, ?_⟩
  · intro whole
    rcases cases_ with ⟨-, none⟩ | ⟨path, member, front, query, shorter⟩
    · exact none
    · have rest : path = [] := by
        have same : collapse url.pathText ++ '?' :: front =
            collapse url.pathText ++ '?' :: (front ++ path) := by
          rw [← shorter, ← Url.marked, ← query, ← Redirect.kept_eq]
          exact whole
        simpa using same
      have starts := rooted path member
      rw [rest] at starts
      cases starts
  · intro none
    rcases cases_ with ⟨same, -⟩ | ⟨path, member, front, query, -⟩
    · exact same
    · exact absurd (List.suffix_append front path) (none path member _ query)
  · intro other
    exact cases_.resolve_left fun same => other same.1
  · intro session pending back now callback after info waits leads turn announced
    have stays : Redirect.sanitize back.host target = target :=
      Redirect.sanitize_eq_self (isLocalPath_returnTarget server request)
        (fun c member => (solid c member).1) back.host
    have fits : Http.FitsHeader target := fun c member => (solid c member).2
    refine ⟨_, leads_of_loggedIn configured waits announced, Http.Response.status_found _, ?_⟩
    rw [leads, stays, Http.Response.locations_found_of_fits fits]

/-! ## Two pages of a search -/

namespace Sample

def fromSearch (query : String) : Http.RequestInfo where
  host := "[::1]:443".toList
  referer := some ("https://[::1]/find?".toList ++ query.toList)
  uri := "/auth/login".toList

def searchPage (query : String) : Url where
  scheme := "https".toList
  authority := some {
    username := [], password := [], host := .ipv6 [0, 0, 0, 0, 0, 0, 0, 1], port := none }
  path := .segments ["find".toList]
  query := some query.toList
  fragment := none

end Sample

/-- The flow of the server, and a request that comes from a search. -/
theorem sample_comesFrom (query : String)
    (names : Names ("https://[::1]/find?".toList ++ query.toList) (Sample.searchPage query)) :
    ∃ login, Login.ofConfig (fun _ => .ok Sample.provider) Sample.config = .ok login ∧
      Sample.server.login = some login ∧
      login.paths.handled =
        ["/auth/callback".toList, "/auth/login".toList, "/auth/logout".toList] ∧
      ComesFrom login (Sample.fromSearch query) (Sample.searchPage query) := by
  obtain ⟨login, configured⟩ : ∃ login, Sample.server.login = some login := ⟨_, rfl⟩
  have built : Login.ofConfig (fun _ => .ok Sample.provider) Sample.config = .ok login := by
    cases configured
    rfl
  have handled : login.paths.handled =
      ["/auth/callback".toList, "/auth/login".toList, "/auth/logout".toList] := by
    cases configured
    decide
  refine ⟨login, built, configured, handled, ⟨_, rfl, names⟩, .inr rfl,
    ⟨.ipv6 [0, 0, 0, 0, 0, 0, 0, 1], rfl, ?_⟩, ?_⟩
  · show HostName.normalize "[::1]:443".toList ≠ [] ∧ HostName.normalize "[::1]:443".toList = _
    decide
  · rw [handled]
    show ∀ path ∈ _, ¬ path <:+ "/find".toList
    decide

theorem sample_login_returns_to_search :
    ∃ login, Login.ofConfig (fun _ => .ok Sample.provider) Sample.config = .ok login ∧
      Sample.server.login = some login ∧
      ComesFrom login (Sample.fromSearch "next=/auth/login/")
        (Sample.searchPage "next=/auth/login/") ∧
      Sample.server.returnTarget (Sample.fromSearch "next=/auth/login/") =
        "/find?next=/auth/login/".toList := by
  obtain ⟨login, built, configured, handled, comes⟩ :=
    sample_comesFrom "next=/auth/login/" (Redirect.names_of_toOption (by decide +kernel))
  have rooted : ∀ path ∈ login.paths.handled, path.head? = some '/' := by
    rw [handled]
    decide
  have page := (returnTarget_eq_page_iff configured built rooted comes).1.2
  refine ⟨login, built, configured, comes, (page ?_).trans (by decide)⟩
  rw [handled]
  rintro path member query given
  cases given
  revert path
  decide

/-- A login from a page that mentions a path of the flow at the end of its query does not lead back
to this page. -/
theorem login_loses_end_of_query :
    ∃ login, Sample.server.login = some login ∧
      ComesFrom login (Sample.fromSearch "next=/auth/login")
        (Sample.searchPage "next=/auth/login") ∧
      kept (Sample.searchPage "next=/auth/login") = "/find?next=/auth/login".toList ∧
      ∀ session stateBytes, ∃ after,
        (Sample.server.beginLogin (some session) (Sample.fromSearch "next=/auth/login")
          stateBytes).session = some after ∧
        (Flow.Pending.peek after).map (·.referrer) = some "/find?next=".toList := by
  obtain ⟨login, -, configured, -, comes⟩ :=
    sample_comesFrom "next=/auth/login" (Redirect.names_of_toOption (by decide +kernel))
  have whole : kept (Sample.searchPage "next=/auth/login") = "/find?next=/auth/login".toList := by
    decide
  have target : Sample.server.returnTarget (Sample.fromSearch "next=/auth/login") =
      "/find?next=".toList := by
    unfold returnTarget
    dsimp only
    rw [configured, comes.sanitize, whole]
    cases configured
    decide
  refine ⟨login, configured, comes, whole, fun session stateBytes => ?_⟩
  obtain ⟨after, left, remembered⟩ :=
    peek_beginLogin configured session (Sample.fromSearch "next=/auth/login") stateBytes
  exact ⟨after, left, by rw [remembered, target]; rfl⟩

end LoginGate.Server
