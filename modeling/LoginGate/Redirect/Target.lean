import LoginGate.Redirect.HostName
import LoginGate.Url.Parser

/-!
Contract: where a browser may be sent after a login.

Owns: the function that turns any text, such as a `Referer` header, into a path on the host that was
asked, so that no text can lead to another origin.

Does not own: which endpoints of the login flow are left out of such a path (`Flow.Paths`).
-/

namespace LoginGate.Redirect

/-- Path and query of a URL on the host of a request. A request without a host matches no URL. -/
def sameHostPath? (requestHost : Text) (url : Url) : Option Text :=
  let expected := HostName.normalize requestHost
  if expected.isEmpty then none
  else
    match url.host? with
    | none => none
    | some host =>
      if HostName.normalize host.text = expected then some url.pathAndQuery else none

/-- What is kept of a location before its slashes are put in order: the path of a URL on the same
host, a text that is no URL as it is, and nothing else. -/
def candidate (requestHost location : Text) : Text :=
  let trimmed := Text.trimBlank (location.filter (! Text.isTabOrNewline ·))
  if trimmed.isEmpty then []
  else
    match Url.parse trimmed with
    | .ok url => (sameHostPath? requestHost url).getD []
    | .error .relativeWithoutBase => trimmed
    | .error _ => []

/-- Slash or backslash; browsers read both as the start of a path. -/
def isSlash (c : Char) : Bool := c == '/' || c == '\\'

/-- A path on the host of the request, with exactly one slash at its start. -/
def sanitize (requestHost location : Text) : Text :=
  '/' :: (Text.trimBlank (candidate requestHost location)).dropWhile isSlash

end LoginGate.Redirect
