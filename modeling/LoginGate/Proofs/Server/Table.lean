import LoginGate.Proofs.Server.Destination
import LoginGate.Proofs.Url.Form

/-!
Contract: which configurations give a server that can be served.

Owns:
- the paths that a table accepts, said on the path as a whole;
- the law that login and logout can be served where the callback can, and never meet a page;
- for every server from a configuration, when each of its two tables can be made.

Does not own: what a table answers (`Server.Request`).

A configuration is checked before a server is made of it, but a table only when the server is there.
What the table asks of the callback's path is therefore no part of the check.
-/

namespace LoginGate

/-! ## Segments -/

namespace Text

/-- The first part begins like the whole, unless the whole begins with the separator. -/
theorem head?_of_split {separator c : Char} (different : c ≠ separator) {text part : Text}
    {parts : List Text} (divided : split separator text = part :: parts) :
    part.head? = some c ↔ text.head? = some c := by
  unfold split at divided
  cases text with
  | nil => cases divided; rfl
  | cons d rest =>
    rw [splitAny] at divided
    split at divided
    · rename_i atSeparator
      cases divided
      simp [eq_of_beq atSeparator, different.symm]
    · cases shape : splitAny (· == separator) rest with
      | nil => exact absurd shape (splitAny_ne_nil _ _)
      | cons first others =>
        rw [shape] at divided
        cases divided
        rfl

/-- A later part begins with a character exactly where the separator stands before it. -/
theorem exists_mem_tail_split_iff {separator c : Char} (different : c ≠ separator) (text : Text) :
    (∃ part ∈ (split separator text).tail, part.head? = some c) ↔
      [separator, c] <:+: text := by
  induction text with
  | nil => simp [split, splitAny]
  | cons d rest inductionHypothesis =>
    obtain ⟨first, others, divided⟩ : ∃ first others, split separator rest = first :: others :=
      List.exists_cons_of_ne_nil (splitAny_ne_nil _ _)
    have begins := head?_of_split different divided
    have whole : split separator (d :: rest) =
        if d == separator then [] :: first :: others else (d :: first) :: others := by
      unfold split at divided ⊢
      rw [splitAny, divided]
    have next : [c] <+: rest ↔ rest.head? = some c := by
      cases rest <;> simp [List.cons_prefix_cons, eq_comm]
    rw [List.infix_cons_iff, ← inductionHypothesis, whole, divided, List.cons_prefix_cons, next,
      ← begins]
    by_cases atSeparator : d = separator
    · simp [atSeparator]
    · simp [atSeparator, Ne.symm atSeparator]

end Text

/-! ## Checks in a row -/

/-- Checks in a row succeed when each of them does. -/
theorem forM_eq_ok_iff {ε α : Type} {check : α -> Except ε Unit} {list : List α} :
    list.forM check = .ok () ↔ ∀ item ∈ list, check item = .ok () := by
  induction list with
  | nil => simp [pure, Except.pure]
  | cons item rest inductionHypothesis =>
    rw [List.forall_mem_cons, ← inductionHypothesis]
    show (check item >>= fun _ => rest.forM check) = _ ↔ _
    cases check item with
    | error cause => simp [bind, Except.bind]
    | ok _ => simp [bind, Except.bind]

namespace Server

/-! ## Paths -/

/-- A path that can be served: it starts at the root, and none of its segments begins with a
character that stands for a parameter. -/
def IsServable (path : Text) : Prop :=
  path.head? = some '/' ∧ ¬ "/:".toList <:+: path ∧ ¬ "/*".toList <:+: path

theorem checkSegment_eq_ok_iff {segment : Text} :
    checkSegment segment = .ok () ↔ segment.head? ≠ some ':' ∧ segment.head? ≠ some '*' := by
  unfold checkSegment
  split
  · simp
  · simp
  · rename_i notColon notStar
    refine ⟨fun _ => ⟨?_, ?_⟩, fun _ => rfl⟩
    · intro begins
      obtain ⟨rest, rfl⟩ := List.head?_eq_some_iff.1 begins
      exact notColon rest rfl
    · intro begins
      obtain ⟨rest, rfl⟩ := List.head?_eq_some_iff.1 begins
      exact notStar rest rfl

private theorem checkPath_rooted (rest : Text) :
    checkPath ('/' :: rest) = (Text.split '/' ('/' :: rest)).forM checkSegment := rfl

private theorem split_rooted (rest : Text) :
    Text.split '/' ('/' :: rest) = [] :: Text.split '/' rest := rfl

private theorem checkPath_eq_ok_iff_segments {path : Text} :
    checkPath path = .ok () ↔
      path.head? = some '/' ∧ ∀ segment ∈ Text.split '/' path, checkSegment segment = .ok () := by
  cases path with
  | nil => simp [checkPath]
  | cons c rest =>
    by_cases rooted : c = '/'
    · subst rooted
      rw [checkPath_rooted, forM_eq_ok_iff]
      simp
    · have unrooted : checkPath (c :: rest) = .error .relativePath := by
        unfold checkPath
        split
        · rename_i empty
          cases empty
        · rename_i same
          exact absurd (List.cons.inj same).1 rooted
        · rfl
      simp [unrooted, rooted]

theorem checkPath_eq_ok_iff {path : Text} : checkPath path = .ok () ↔ IsServable path := by
  rw [checkPath_eq_ok_iff_segments, IsServable]
  refine and_congr_right ?_
  intro rooted
  obtain ⟨rest, rfl⟩ := List.head?_eq_some_iff.1 rooted
  have colon : (∃ part ∈ (Text.split '/' ('/' :: rest)).tail, part.head? = some ':') ↔
      "/:".toList <:+: '/' :: rest := Text.exists_mem_tail_split_iff (by decide) _
  have star : (∃ part ∈ (Text.split '/' ('/' :: rest)).tail, part.head? = some '*') ↔
      "/*".toList <:+: '/' :: rest := Text.exists_mem_tail_split_iff (by decide) _
  rw [← colon, ← star, split_rooted]
  simp [checkSegment_eq_ok_iff, forall_and]

/-- What stands beside a path that can be served can be served too, if it is one segment that does
not begin like a parameter. -/
theorem IsServable.sibling {directory name other : Text}
    (servable : IsServable (directory ++ '/' :: name)) (bare : '/' ∉ other)
    (literal : checkSegment other = .ok ()) : IsServable (directory ++ '/' :: other) := by
  rw [← checkPath_eq_ok_iff, checkPath_eq_ok_iff_segments, Text.split_append_separator] at servable ⊢
  obtain ⟨rooted, segments⟩ := servable
  constructor
  · cases directory with
    | nil => rfl
    | cons c rest => exact rooted
  · intro segment member
    rcases List.mem_append.1 member with before | last
    · exact segments segment (List.mem_append_left _ before)
    · rw [Text.split_of_not_mem bare, List.mem_singleton] at last
      rw [last]
      exact literal

/-! ## Routes -/

/-- The flow is served under its handled paths. -/
theorem mem_paths_flowRoutes {paths : Flow.Paths} {path : Text} :
    path ∈ (flowRoutes paths).map (·.path) ↔ path ∈ paths.handled := by
  rw [Flow.Paths.mem_handled_iff]
  unfold flowRoutes
  grind

/-- No two routes of the flow have one path. -/
theorem nodup_paths_flowRoutes (paths : Flow.Paths) : ((flowRoutes paths).map (·.path)).Nodup := by
  unfold flowRoutes
  grind

theorem checkFree_eq_ok_iff {route : Route} :
    checkFree route = .ok () ↔ route.path ∉ pageRoutes.map (·.path) := by
  have taken : pageRoutes.any (·.path = route.path) = true ↔
      route.path ∈ pageRoutes.map (·.path) := by
    simp
  unfold checkFree
  rw [← taken]
  split <;> simp_all

/-- A table is made when each path of the flow can be served and, on the whole site, no page has
it. -/
theorem exists_table_iff {server : Server} {site : Site} :
    (∃ routes, server.table site = .ok routes) ↔
      ∀ route ∈ server.ownFlowRoutes, IsServable route.path ∧
        (site = .whole -> route.path ∉ pageRoutes.map (·.path)) := by
  simp only [← checkPath_eq_ok_iff, ← checkFree_eq_ok_iff, forall_and]
  have paths : (server.ownFlowRoutes.forM fun route => checkPath route.path) = .ok () ↔
      ∀ route ∈ server.ownFlowRoutes, checkPath route.path = .ok () := forM_eq_ok_iff
  have free : server.ownFlowRoutes.forM checkFree = .ok () ↔
      ∀ route ∈ server.ownFlowRoutes, checkFree route = .ok () := forM_eq_ok_iff
  unfold table
  rw [← paths]
  cases server.ownFlowRoutes.forM fun route => checkPath route.path with
  | error fault => simp [bind, Except.bind]
  | ok _ =>
    cases site with
    | flow => simp [bind, Except.bind, pure, Except.pure]
    | whole =>
      simp only [true_implies, ← free]
      cases server.ownFlowRoutes.forM checkFree <;>
        simp [bind, Except.bind, pure, Except.pure]

private theorem nodup_paths_of_table {server : Server} {site : Site} {routes : List Route}
    (made : server.table site = .ok routes) : (routes.map (·.path)).Nodup := by
  have checked := exists_table_iff.1 ⟨routes, made⟩
  have own : (server.ownFlowRoutes.map (·.path)).Nodup := by
    unfold ownFlowRoutes
    cases server.login with
    | none => exact List.nodup_nil
    | some login => exact nodup_paths_flowRoutes login.paths
  rw [table_eq_ok made]
  cases site with
  | flow => exact own
  | whole =>
    rw [List.map_append, List.nodup_append]
    have pages : (pageRoutes.map (·.path)).Nodup := by decide
    refine ⟨pages, own, ?_⟩
    rintro page isPage path isFlow rfl
    obtain ⟨route, member, rfl⟩ := List.mem_map.1 isFlow
    exact (checked route member).2 rfl isPage

/-! ## From a configuration -/

/-- Login and logout can be served wherever the callback can. -/
theorem forall_flowRoutes_isServable_iff {url : Url} :
    (∀ route ∈ flowRoutes (Flow.Paths.ofRedirectUrl url), IsServable route.path) ↔
      IsServable url.pathText := by
  have every : (∀ route ∈ flowRoutes (Flow.Paths.ofRedirectUrl url), IsServable route.path) ↔
      ∀ path ∈ (Flow.Paths.ofRedirectUrl url).handled, IsServable path := by
    simp [← mem_paths_flowRoutes]
  rw [every]
  constructor
  · intro all
    exact all _ (Flow.Paths.mem_handled_iff.2 (.inl rfl))
  · intro servable path member
    obtain ⟨directory, name, -, shape, paths⟩ := Flow.Paths.exists_directory servable.1
    rw [shape] at servable
    rw [paths, Flow.Paths.mem_handled_iff] at member
    rcases member with rfl | rfl | rfl
    · exact servable
    · exact servable.sibling (by decide) rfl
    · exact servable.sibling (by decide) rfl

/-- No page is named like login or logout. -/
theorem forall_flowRoutes_free_iff {url : Url} (rooted : url.pathText.head? = some '/') :
    (∀ route ∈ flowRoutes (Flow.Paths.ofRedirectUrl url),
      route.path ∉ pageRoutes.map (·.path)) ↔ url.pathText ∉ pageRoutes.map (·.path) := by
  have every : (∀ route ∈ flowRoutes (Flow.Paths.ofRedirectUrl url),
        route.path ∉ pageRoutes.map (·.path)) ↔
      ∀ path ∈ (Flow.Paths.ofRedirectUrl url).handled, path ∉ pageRoutes.map (·.path) := by
    simp [← mem_paths_flowRoutes]
  rw [every]
  constructor
  · intro all
    exact all _ (Flow.Paths.mem_handled_iff.2 (.inl rfl))
  · intro free path member
    obtain ⟨directory, name, -, shape, paths⟩ := Flow.Paths.exists_directory rooted
    rw [shape] at free
    rw [paths, Flow.Paths.mem_handled_iff] at member
    have otherEnds : ∀ page ∈ pageRoutes.map (·.path),
        ¬ "/login".toList <:+ page ∧ ¬ "/logout".toList <:+ page := by decide
    rcases member with rfl | rfl | rfl
    · exact free
    · exact fun isPage => (otherEnds _ isPage).1 ⟨directory, rfl⟩
    · exact fun isPage => (otherEnds _ isPage).2 ⟨directory, rfl⟩

private theorem login_of_ofConfig {config : Option Config}
    {connect : Config -> Except SetupError Provider}
    {settings : Session.Settings} {store : Option Store} {server : Server}
    (built : Server.ofConfig config connect settings store = .ok server) :
    config.mapM (Login.ofConfig connect) = .ok server.login := by
  obtain ⟨login, configured, afterLogin⟩ := of_bind_eq_ok built
  cases store with
  | some store =>
    cases afterLogin
    exact of_mapError_eq_ok configured
  | none =>
    obtain ⟨_, -, finished⟩ := of_bind_eq_ok afterLogin
    cases finished
    exact of_mapError_eq_ok configured

/-- **Which servers can be served.** Of every server from a configuration: without one, both tables
are made; with one, the flow can be served exactly if the path of the callback URL starts at the
root and no segment of it begins like a parameter, and the whole site exactly if moreover that path
is no page's. In a table no path occurs twice. -/
theorem exists_table_iff_of_ofConfig {config : Option Config}
    {connect : Config -> Except SetupError Provider} {settings : Session.Settings}
    {store : Option Store} {server : Server}
    (built : Server.ofConfig config connect settings store = .ok server) :
    (config = none -> ∀ site, ∃ routes, server.table site = .ok routes) ∧
    (∀ given, config = some given -> ∃ url, given.effectiveRedirectUrl = .ok url ∧
      ((∃ routes, server.table .flow = .ok routes) ↔ IsServable url.pathText) ∧
      ((∃ routes, server.table .whole = .ok routes) ↔
        IsServable url.pathText ∧ url.pathText ∉ pageRoutes.map (·.path))) ∧
    ∀ site routes, server.table site = .ok routes -> (routes.map (·.path)).Nodup := by
  have configured := login_of_ofConfig built
  refine ⟨?_, ?_, fun site routes => nodup_paths_of_table⟩
  · rintro rfl site
    have absent : server.login = none := (Except.ok.inj configured).symm
    apply exists_table_iff.2
    unfold ownFlowRoutes
    rw [absent]
    simp
  · rintro given rfl
    obtain ⟨login, made, finished⟩ := of_bind_eq_ok configured
    obtain ⟨url, effective, paths⟩ := Flow.Paths.exists_url_of_ofConfig made
    have own : server.ownFlowRoutes = flowRoutes (Flow.Paths.ofRedirectUrl url) := by
      unfold ownFlowRoutes
      rw [← Except.ok.inj finished, ← paths]
      rfl
    refine ⟨url, effective, ?_, ?_⟩
    · rw [exists_table_iff, own, ← forall_flowRoutes_isServable_iff]
      simp
    · rw [exists_table_iff, own]
      simp only [true_implies, forall_and]
      rw [forall_flowRoutes_isServable_iff]
      exact and_congr_right fun servable => forall_flowRoutes_free_iff servable.1

/-! ## Callback URLs that no table accepts -/

namespace Sample

def serverAt (redirectUrl : Text) : Except SetupFailure Server :=
  Server.ofConfig (some { config with redirectUrl }) (fun _ => .ok provider) {} none

end Sample

theorem sample_tables_made :
    ∃ server, Sample.serverAt Sample.config.redirectUrl = .ok server ∧
      (∃ routes, server.table .flow = .ok routes) ∧ ∃ routes, server.table .whole = .ok routes := by
  obtain ⟨server, built⟩ : ∃ server, Sample.serverAt Sample.config.redirectUrl = .ok server :=
    ⟨_, rfl⟩
  obtain ⟨url, effective, flow, whole⟩ := (exists_table_iff_of_ofConfig built).2.1 _ rfl
  have path : url.pathText = "/auth/callback".toList := by
    cases effective
    decide
  have servable : IsServable url.pathText := by
    rw [path, ← checkPath_eq_ok_iff]
    rfl
  have free : url.pathText ∉ pageRoutes.map (·.path) := by
    rw [path]
    decide
  exact ⟨server, built, flow.2 servable, whole.2 ⟨servable, free⟩⟩

/-- A callback URL with a colon at the start of its last segment, or with the path of a page, gives
a server all the same. -/
theorem accepted_without_table :
    (∃ server, Sample.serverAt "https://[::1]/:code".toList = .ok server ∧
      server.table .flow = .error .colonSegment) ∧
    ∃ server, Sample.serverAt "https://[::1]/admin".toList = .ok server ∧
      server.table .whole = .error (.takenPath "/admin".toList) :=
  ⟨⟨_, rfl, rfl⟩, _, rfl, rfl⟩

end Server
end LoginGate
