import LoginGate.Proofs.Server.Table
import LoginGate.Proofs.Text.SortedSet

/-!
Contract: one set of paths is cut off locations and served as routes.

Owns:
- what is left of a location without the path of the flow at its end, whatever the order in which
  the paths are tried;
- what is served under each path of the flow, the callback before the others;
- the law that the routes of the flow have exactly its handled paths, each once.

Does not own: which callback URLs give a table at all (`Server.Table`).

That no path of the flow ends another is the crux. It needs a rooted callback: beside a callback
without a slash, `/logout` and `logout` would both end the same locations.
-/

namespace LoginGate

/-! ## Trying paths in turn -/

/-- Where one item at most gives a result, the order of the items does not matter. -/
theorem findSome?_eq_of_mem_iff {α β : Type} {f : α -> Option β} {list other : List α}
    (same : ∀ item, item ∈ other ↔ item ∈ list)
    (unique : ∀ first ∈ list, ∀ second ∈ list, (f first).isSome = true ->
      (f second).isSome = true -> first = second) :
    other.findSome? f = list.findSome? f := by
  cases found : list.findSome? f with
  | none =>
    rw [List.findSome?_eq_none_iff] at found ⊢
    exact fun item member => found item ((same item).1 member)
  | some result =>
    obtain ⟨item, member, gives⟩ := List.exists_of_findSome?_eq_some found
    cases foundOther : other.findSome? f with
    | none =>
      rw [List.findSome?_eq_none_iff.1 foundOther item ((same item).2 member)] at gives
      cases gives
    | some otherResult =>
      obtain ⟨otherItem, otherMember, otherGives⟩ :=
        List.exists_of_findSome?_eq_some foundOther
      have one := unique item member otherItem ((same otherItem).1 otherMember)
        (by rw [gives]; rfl) (by rw [otherGives]; rfl)
      rw [← otherGives, ← one, gives]

namespace Flow.Paths

/-- What is left of a location when paths are tried in some order and the first one that it ends with
is cut off. -/
def stripAlong (order : List Text) (location : Text) : Text :=
  match order.findSome? fun path => Text.beforeSuffix? path location with
  | none => location
  | some [] => ['/']
  | some head => head

/-- What is left of a location without the path of the flow at its end. -/
inductive Cut (paths : Paths) (location : Text) : Text -> Prop where
  | kept (free : ∀ path ∈ paths.handled, ¬ path <:+ location) : Cut paths location location
  | whole (member : location ∈ paths.handled) : Cut paths location ['/']
  | front {path head : Text} (member : path ∈ paths.handled) (shape : location = head ++ path)
      (more : head ≠ []) : Cut paths location head

def endpoint? (paths : Paths) (path : Text) : Option Server.Endpoint :=
  if path = paths.callback then some .callback
  else if path = paths.login then some .login
  else if path = paths.logout then some .logout
  else none

theorem isSome_beforeSuffix?_iff {path location : Text} :
    (Text.beforeSuffix? path location).isSome = true ↔ path <:+ location := by
  rw [Option.isSome_iff_exists]
  constructor
  · rintro ⟨head, cut⟩
    exact ⟨head, (Text.beforeSuffix?_eq_some_iff.1 cut).symm⟩
  · rintro ⟨head, whole⟩
    exact ⟨head, Text.beforeSuffix?_eq_some_iff.2 whole.symm⟩

/-- The order in which the paths are tried does not matter. -/
theorem Siblings.stripAlong_eq {paths : Paths} (siblings : paths.Siblings) {order : List Text}
    (same : ∀ path, path ∈ order ↔ path ∈ paths.handled) (location : Text) :
    stripAlong order location = paths.stripSuffix location := by
  have found : order.findSome? (fun path => Text.beforeSuffix? path location) =
      paths.handled.findSome? fun path => Text.beforeSuffix? path location := by
    apply findSome?_eq_of_mem_iff same
    intro first firstMember second secondMember firstCut secondCut
    exact siblings.eq_of_suffix_of_suffix firstMember secondMember
      (isSome_beforeSuffix?_iff.1 firstCut) (isSome_beforeSuffix?_iff.1 secondCut)
  show stripAlong order location = stripAlong paths.handled location
  unfold stripAlong
  rw [found]

private theorem cut_stripSuffix (paths : Paths) (location : Text) :
    paths.Cut location (paths.stripSuffix location) := by
  rcases paths.stripSuffix_cases location with ⟨same, free⟩ | ⟨path, member, head, shape, cut⟩
  · rw [same]
    exact .kept free
  · rw [cut]
    split
    · rename_i nothing
      rw [nothing, List.nil_append] at shape
      exact .whole (shape ▸ member)
    · rename_i more
      exact .front member shape more

/-- The paths of a flow are told apart, from each other and at the end of a location. -/
structure ToldApart (paths : Paths) : Prop where
  distinct : paths.login ≠ paths.logout
  increasing : paths.handled.SortedLT
  members : ∀ path, path ∈ paths.handled ↔
    path = paths.callback ∨ path = paths.login ∨ path = paths.logout
  /-- At most one of them is the end of a location. -/
  oneEnd : ∀ location, ∀ path ∈ paths.handled, ∀ other ∈ paths.handled,
    path <:+ location -> other <:+ location -> path = other
  /-- They may be tried in any order. -/
  anyOrder : ∀ location order, (∀ path, path ∈ order ↔ path ∈ paths.handled) ->
    stripAlong order location = paths.stripSuffix location
  cut : ∀ location, paths.Cut location (paths.stripSuffix location)

/-- Login and logout stand under different paths. -/
theorem login_ne_logout (url : Url) : (ofRedirectUrl url).login ≠ (ofRedirectUrl url).logout := by
  intro same
  have names := List.append_cancel_left same
  exact absurd names (by decide)

private theorem toldApart_ofRedirectUrl {url : Url} (rooted : url.pathText.head? = some '/') :
    (ofRedirectUrl url).ToldApart where
  distinct := login_ne_logout url
  increasing := Text.sortedLT_sortedSet _
  members _ := mem_handled_iff
  oneEnd _ _ member _ otherMember :=
    (siblings_ofRedirectUrl rooted).eq_of_suffix_of_suffix member otherMember
  anyOrder location _ same := (siblings_ofRedirectUrl rooted).stripAlong_eq same location
  cut := cut_stripSuffix _

end Flow.Paths

namespace Server

/-! ## Routes -/

private theorem find?_flowRoutes (paths : Flow.Paths) (path : Text) :
    ((flowRoutes paths).find? (·.path = path)).map (·.endpoint) = paths.endpoint? path := by
  unfold flowRoutes Flow.Paths.endpoint?
  grind

private theorem endpoint?_of_mem_flowRoutes {paths : Flow.Paths} {route : Route}
    (member : route ∈ flowRoutes paths) : paths.endpoint? route.path = some route.endpoint := by
  unfold flowRoutes at member
  unfold Flow.Paths.endpoint?
  grind

/-- The routes of the flow have its handled paths, each once. -/
theorem perm_paths_flowRoutes (paths : Flow.Paths) :
    ((flowRoutes paths).map (·.path)).Perm paths.handled := by
  apply (List.perm_ext_iff_of_nodup (nodup_paths_flowRoutes paths) _).2
  · intro path
    exact mem_paths_flowRoutes
  · exact (Text.sortedLT_sortedSet _).nodup

private theorem table_flow_eq_ok {server : Server} {login : Login}
    (configured : server.login = some login)
    {routes : List Route} (made : server.table .flow = .ok routes) :
    routes = flowRoutes login.paths := by
  rw [table_eq_ok made, ownFlowRoutes, configured]
  rfl

/-- The table of a flow serves each of its paths. -/
theorem endpoint?_flow {server : Server} {login : Login} (configured : server.login = some login)
    {routes : List Route} (made : server.table .flow = .ok routes) (request : Http.Request) :
    server.endpoint? .flow request = login.paths.endpoint? request.target.lookupPath := by
  rw [endpoint?, made, table_flow_eq_ok configured made]
  exact find?_flowRoutes login.paths request.target.lookupPath

/-- The table of a flow is made exactly if the path of the callback URL can be served. -/
theorem exists_table_flow_iff {server : Server} {login : Login}
    (configured : server.login = some login) {url : Url}
    (derived : login.paths = Flow.Paths.ofRedirectUrl url) :
    (∃ routes, server.table .flow = .ok routes) ↔ IsServable url.pathText := by
  have own : server.ownFlowRoutes = flowRoutes (Flow.Paths.ofRedirectUrl url) := by
    rw [ownFlowRoutes, configured, ← derived]
    rfl
  rw [exists_table_iff, own, ← forall_flowRoutes_isServable_iff]
  simp

/-- **One table of paths.** For every callback URL with a rooted path, the paths of the flow are told
apart. The routes of the flow have exactly its handled paths, each once, and under a path that is the
callback's too the callback is served. On a server with these paths, they are the routes that a
request can reach, if no segment of the callback's path begins like a parameter; if one does, the
server has no table. -/
theorem flow_paths_told_apart {url : Url} (rooted : url.pathText.head? = some '/') :
    (Flow.Paths.ofRedirectUrl url).ToldApart ∧
    ((flowRoutes (.ofRedirectUrl url)).map (·.path)).Perm (Flow.Paths.ofRedirectUrl url).handled ∧
    ((flowRoutes (.ofRedirectUrl url)).map (·.path)).Nodup ∧
    (∀ route ∈ flowRoutes (.ofRedirectUrl url),
      (Flow.Paths.ofRedirectUrl url).endpoint? route.path = some route.endpoint) ∧
    ∀ (server : Server) (login : Login), server.login = some login ->
      login.paths = .ofRedirectUrl url ->
      (IsServable url.pathText -> server.table .flow = .ok (flowRoutes login.paths) ∧
        ∀ request, server.endpoint? .flow request =
          login.paths.endpoint? request.target.lookupPath) ∧
      (¬ IsServable url.pathText -> ∃ fault, server.table .flow = .error fault) := by
  refine ⟨Flow.Paths.toldApart_ofRedirectUrl rooted, perm_paths_flowRoutes _,
    nodup_paths_flowRoutes _, ?_, ?_⟩
  · intro route member
    exact endpoint?_of_mem_flowRoutes member
  · intro server login configured derived
    have made := exists_table_flow_iff configured derived
    constructor
    · intro servable
      obtain ⟨routes, table⟩ := made.2 servable
      have own := table_flow_eq_ok configured table
      rw [table, own]
      exact ⟨rfl, endpoint?_flow configured table⟩
    · intro unservable
      cases table : server.table .flow with
      | ok routes => exact absurd (made.1 ⟨routes, table⟩) unservable
      | error fault => exact ⟨fault, rfl⟩

/-- Where the callback is named like the login, the two have one route. -/
theorem sample_flow_paths_told_apart :
    ∃ url : Url, url.pathText.head? = some '/' ∧
      (Flow.Paths.ofRedirectUrl url).handled = ["/auth/login".toList, "/auth/logout".toList] ∧
      (Flow.Paths.ofRedirectUrl url).ToldApart ∧
      ((flowRoutes (.ofRedirectUrl url)).map (·.path)).Perm
        (Flow.Paths.ofRedirectUrl url).handled ∧
      (flowRoutes (.ofRedirectUrl url)).map (·.endpoint) = [.callback, .logout] := by
  let url : Url := {
    scheme := "https".toList
    authority := some { username := [], password := [], host := .name "site".toList, port := none }
    path := .segments ["auth".toList, "login".toList]
    query := none
    fragment := none }
  have rooted : url.pathText.head? = some '/' := by decide
  have table := flow_paths_told_apart rooted
  exact ⟨url, rooted, by decide, table.1, table.2.1, by decide⟩

/-- A callback whose last segment begins like a parameter leaves login and logout without a route. -/
theorem siblings_of_parameter_unserved :
    ∃ server login, Sample.serverAt "https://[::1]/:code".toList = .ok server ∧
      server.login = some login ∧ login.paths.callback.head? = some '/' ∧
      "/logout".toList ∈ login.paths.handled ∧ server.table .flow = .error .colonSegment :=
  ⟨_, _, rfl, rfl, rfl, by decide, rfl⟩

end Server
end LoginGate
