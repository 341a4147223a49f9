import LoginGate.Http.Status
import LoginGate.Text.Classes

/-!
Contract: HTTP responses.

Owns: the record of a response, the kinds of body that this library sends, and redirects.
Does not own: the pages (`Page`), cookies (`Http.Cookie`), or the connection.
-/

namespace LoginGate.Http

/-- A header by its name in lower case. -/
structure Header where
  name : Text
  value : Text
deriving DecidableEq, Repr

/-- A response. Its length is left to the connection. -/
structure Response where
  status : Nat
  headers : List Header := []
  body : Text := []
deriving DecidableEq, Repr

namespace Response

def plain (status : Nat) (body : Text) : Response :=
  { status, body
    headers := [{ name := "content-type".toList, value := "text/plain; charset=utf-8".toList }] }

def html (status : Nat) (body : Text) : Response :=
  { status, body
    headers := [{ name := "content-type".toList, value := "text/html; charset=utf-8".toList }] }

/-- A character that a header value must not hold: a control other than the tab. -/
def isForbiddenInValue (c : Char) : Bool := (c.toNat < 0x20 && c != '\t') || c.toNat == 0x7F

/-- A redirect. A location that cannot stand in a header is left out, and the body reports it. -/
def found (location : Text) : Response :=
  if location.any isForbiddenInValue then
    plain 302 "failed to parse header value".toList
  else { status := 302, headers := [{ name := "location".toList, value := location }] }

def withHeader (response : Response) (header : Header) : Response :=
  { response with headers := response.headers ++ [header] }

end Response
end LoginGate.Http
