import LoginGate.Http.Request
import LoginGate.Url.Percent

/-!
Contract: cookies, as a request brings them and as a response sets them.

Owns:
- the jar of a request, in which the last of several cookies with one name counts;
- the percent-encoding of names and values;
- the attributes of a cookie that names a session.

Does not own: the meaning of a value (`Server.Access`).
-/

namespace LoginGate.Http

/-- The cookies of a request by name and value, both decoded, in the order of their arrival. -/
structure CookieJar where
  cookies : List (Text × Text) := []
deriving DecidableEq, Repr

namespace CookieJar

def decode? (text : Text) : Option Text := Utf8.decode? (Percent.decode (Utf8.encode text))

/-- Reads `name=value` with blanks around either. A cookie without a name is none. -/
def readPair? (text : Text) : Option (Text × Text) := do
  let (name, value) <- Text.cut '=' text
  if (Text.trimBlank name).isEmpty then none
  return (<- decode? (Text.trimBlank name), <- decode? (Text.trimBlank value))

def readValue (value : Text) : List (Text × Text) := (Text.split ';' value).filterMap readPair?

def ofRequest (request : Request) : CookieJar :=
  { cookies := ((request.values "cookie").filterMap Request.asciiValue?).flatMap readValue }

def get? (jar : CookieJar) (name : Text) : Option Text :=
  (jar.cookies.filter (·.1 = name)).getLast?.map (·.2)

end CookieJar

/-- A cookie that a response sets. It is sent for every path, is kept from scripts, and comes along
from other sites only when a link is followed. -/
structure Cookie where
  name : Text
  value : Text
  /-- Whether it is only sent over an encrypted connection. -/
  secure : Bool
  /-- For how many seconds it is kept. -/
  maxAge : Int
deriving DecidableEq, Repr

namespace Cookie

/-- What is encoded in a name or value: all that separates cookies, attributes and lists, and the
percent sign. -/
def isEncoded (c : Char) : Bool := Percent.userInfo c || "%(),".toList.contains c

def pairText (cookie : Cookie) : Text :=
  Percent.encode isEncoded cookie.name ++ '=' :: Percent.encode isEncoded cookie.value

def attributes (cookie : Cookie) : List Text :=
  ["HttpOnly".toList, "SameSite=Lax".toList] ++ (if cookie.secure then ["Secure".toList] else []) ++
    ["Path=/".toList, "Max-Age=".toList ++ Text.ofInt cookie.maxAge]

def header (cookie : Cookie) : Header where
  name := "set-cookie".toList
  value := Text.join "; ".toList (cookie.pairText :: cookie.attributes)

end Cookie
end LoginGate.Http
