import LoginGate.Page.Gated
import LoginGate.Server.Access

/-!
Contract: which request a server answers how.

Owns:
- the paths of the flow and of the two pages behind the gate, and which sets of paths cannot be
  served;
- the answer to a request, with the rules for methods.

Does not own: what the endpoints do (`Server.Login`, `Server.Access`, `Page.Gated`).
-/

namespace LoginGate.Server

inductive Endpoint where
  | home
  | administrators
  | callback
  | login
  | logout
deriving DecidableEq, Repr

structure Route where
  path : Text
  endpoint : Endpoint
deriving DecidableEq, Repr

/-- Which part of a server is asked: the endpoints of the flow, or these and the pages. -/
inductive Site where
  | flow
  | whole
deriving DecidableEq, Repr

/-! ## Tables -/

/-- The routes of a flow. The callback comes first where paths coincide. -/
def flowRoutes (paths : Flow.Paths) : List Route :=
  { path := paths.callback, endpoint := .callback } ::
    (if paths.login ≠ paths.callback then [{ path := paths.login, endpoint := .login }] else []) ++
    (if paths.logout ≠ paths.callback ∧ paths.logout ≠ paths.login then
      [{ path := paths.logout, endpoint := .logout }] else [])

def pageRoutes : List Route :=
  [{ path := "/".toList, endpoint := .home },
    { path := "/admin".toList, endpoint := .administrators }]

/-- A segment that cannot be told from a parameter. -/
def checkSegment (segment : Text) : Except Fault Unit :=
  match segment with
  | ':' :: _ => .error .colonSegment
  | '*' :: _ => .error .starSegment
  | _ => .ok ()

def checkPath (path : Text) : Except Fault Unit :=
  match path with
  | [] => .error .emptyPath
  | '/' :: _ => (Text.split '/' path).forM checkSegment
  | _ => .error .relativePath

/-- Accepts a route whose path no page has. -/
def checkFree (route : Route) : Except Fault Unit :=
  if pageRoutes.any (·.path = route.path) then .error (.takenPath route.path) else .ok ()

def ownFlowRoutes (server : Server) : List Route :=
  (server.login.map fun login => flowRoutes login.paths).getD []

/-- The table of a site, or why there is none. -/
def table (server : Server) (site : Site) : Except Fault (List Route) := do
  server.ownFlowRoutes.forM fun route => checkPath route.path
  match site with
  | .flow => return server.ownFlowRoutes
  | .whole =>
    server.ownFlowRoutes.forM checkFree
    return pageRoutes ++ server.ownFlowRoutes

/-! ## Answers -/

def isAnswered (method : Text) : Bool := method = "GET".toList || method = "HEAD".toList

def methodRefused : Http.Response := { status := 405 }

def notFound : Http.Response := { status := 404 }

def allowHeader : Http.Header := { name := "allow".toList, value := "GET,HEAD".toList }

/-- The form in which a response leaves an endpoint. To another method it says which ones are
answered, whatever it is; to `HEAD` it has no body, nor has a success to `CONNECT`. -/
def finish (method : Text) (response : Http.Response) : Http.Response :=
  if method = "CONNECT".toList && 200 ≤ response.status && response.status < 300 then
    { response with body := [] }
  else
    let response := if isAnswered method then response else response.withHeader allowHeader
    if method = "HEAD".toList then { response with body := [] } else response

def logoutPath (server : Server) : Option Text := server.login.map (·.paths.logout)

/-- Does the work of an endpoint of the flow on the session that the request names. -/
def serveFlow (server : Server) (moment : Moment) (endpoint : Endpoint) (request : Http.Request) :
    Answer :=
  let (session, store) := server.findSession moment.now (.ofRequest request)
  let turn :=
    match endpoint with
    | .callback =>
      server.completeLogin session request.info moment.now (.ofQuery request.target.query)
    | .logout => server.logout session request.info
    | _ => server.beginLogin session request.info moment.stateBytes
  turn.answer store

/-- Answers a request at an endpoint. The gate looks at a request before its method is considered;
the endpoints of the flow do nothing for other methods. -/
def serve (server : Server) (moment : Moment) (endpoint : Endpoint) (request : Http.Request) :
    Answer :=
  let page (content : View -> Http.Response) (view : View) : Http.Response :=
    if isAnswered request.method then content view else methodRefused
  match endpoint with
  | .home => server.guarded moment false request (page (Page.home server.logoutPath))
  | .administrators =>
    server.guarded moment true request
      (page (Page.administrators server.logoutPath server.admins))
  | endpoint =>
    if isAnswered request.method then server.serveFlow moment endpoint request
    else .plain server.store methodRefused

def answer (server : Server) (site : Site) (moment : Moment) (request : Http.Request) : Answer :=
  match server.table site with
  | .error fault => { store := server.store, response := .error fault }
  | .ok routes =>
    match routes.find? (·.path = request.target.lookupPath) with
    | none => .plain server.store notFound
    | some route =>
      let answer := server.serve moment route.endpoint request
      { answer with response := answer.response.map (finish request.method) }

end LoginGate.Server
