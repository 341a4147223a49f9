import LoginGate.Http.Request
import LoginGate.Url.Basic

/-!
Contract: one question to a server on the network and what comes back.

Owns: the request with the headers that matter here, and the reply, which may break off or never
come.

Does not own: how bytes travel; a network is any function from requests to replies.
-/

namespace LoginGate.Provider

structure Outgoing where
  method : Text
  url : Url
  /-- An authorization that comes before the other one, from user name and password in the URL. -/
  urlAuthorization : Option Text := none
  authorization : Text
  accept : Text
  contentType : Option Text := none
  body : Text := []
deriving DecidableEq, Repr

/-- A reply from its first line on. -/
structure Reply where
  status : Nat
  headers : List Http.Header := []
  /-- The body in the pieces in which it arrives. -/
  chunks : List Bytes := []
  /-- Whether the body arrives to its end. -/
  complete : Bool := true
deriving DecidableEq, Repr

/-- A network: the reply to a request, if one comes. -/
abbrev Network := Outgoing -> Option Reply

namespace Reply

def isBodiless (status : Nat) : Bool := status == 101 || status == 204 || status == 304

/-- A reply with the body that its status allows. A status below 200, switching protocols apart,
announces another reply that then does not come; a number that is no status is no reply at all. -/
def received? (reply : Reply) : Option Reply :=
  if !Http.isStatus reply.status then none
  else if isBodiless reply.status then some { reply with chunks := [], complete := true }
  else if reply.status < 200 then none
  else some reply

def body? (reply : Reply) : Option Bytes :=
  if reply.complete then some reply.chunks.flatten else none

def header? (reply : Reply) (name : String) : Option Text :=
  (reply.headers.find? (·.name = name.toList)).map (·.value)

end Reply
end LoginGate.Provider
