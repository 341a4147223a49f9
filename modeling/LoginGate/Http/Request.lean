import LoginGate.Http.Response
import LoginGate.Http.Target

/-!
Contract: HTTP requests.

Owns: the method, the headers and their look-up, and what makes a request impossible to send.
Does not own: the target (`Http.Target`), and cookies (`Http.Cookie`).
-/

namespace LoginGate.Http

inductive RequestError where
  | method
  | target (cause : TargetError)
  | headerName
  | headerValue
deriving DecidableEq, Repr

def RequestError.message : RequestError -> Text
  | .method => "invalid HTTP method".toList
  | .target cause => cause.message
  | .headerName => "invalid HTTP header name".toList
  | .headerValue => "failed to parse header value".toList

/-- A request without a body. -/
structure Request where
  method : Text := "GET".toList
  target : Target
  headers : List Header := []
deriving DecidableEq, Repr

namespace Request

def isTokenChar (c : Char) : Bool :=
  Text.isAlphanumeric c || "!#$%&'*+-.^_\x60|~".toList.contains c

def isToken (text : Text) : Bool := !text.isEmpty && text.all isTokenChar

def readMethod (text : Text) : Except RequestError Text :=
  if isToken text then .ok text else .error .method

/-- Reads a header. Names are kept in lower case. -/
def readHeader (name value : Text) : Except RequestError Header :=
  if !isToken name then .error .headerName
  else if value.any Response.isForbiddenInValue then .error .headerValue
  else .ok { name := Text.toAsciiLower name, value }

def read (method target : Text) (headers : List (Text × Text)) : Except RequestError Request := do
  let method <- readMethod method
  let target <- (Target.parse target).mapError .target
  let headers <- headers.mapM fun (name, value) => readHeader name value
  return { method, target, headers }

def values (request : Request) (name : String) : List Text :=
  (request.headers.filter (·.name = name.toList)).map (·.value)

/-- A value in visible ASCII characters, blanks and tabs. Other bytes have no agreed meaning. -/
def asciiValue? (value : Text) : Option Text :=
  if value.all fun c => c == '\t' || (0x20 ≤ c.toNat && c.toNat < 0x7F) then some value else none

def header? (request : Request) (name : String) : Option Text :=
  (request.values name).head?.bind asciiValue?

end Request

/-- What the login flow needs to know of a request. -/
structure RequestInfo where
  host : Text
  referer : Option Text
  /-- Path and query. -/
  uri : Text
deriving DecidableEq, Repr

/-- Host, referer and target of a request. Without a readable `Host` the authority of the target
takes its place. -/
def Request.info (request : Request) : RequestInfo where
  host := ((request.header? "host").orElse fun _ => request.target.authority).getD []
  referer := request.header? "referer"
  uri := request.target.written

/-- Where the browser comes from: the referer unless it is blank, else the request itself. -/
def RequestInfo.location (info : RequestInfo) : Text :=
  match info.referer.map Text.trimBlank with
  | some (c :: rest) => c :: rest
  | _ => info.uri

end LoginGate.Http
