import LoginGate.Admins
import LoginGate.Url.Basic

/-!
Contract: the paths of the login flow.

Owns: callback, login and logout path, and the removal of such a path from the end of a location.
Does not own: what is served there (`Server.Routes`).
-/

namespace LoginGate.Flow

/-- The paths that the flow serves. Login and logout stand beside the callback. -/
structure Paths where
  callback : Text
  login : Text
  logout : Text
deriving DecidableEq, Repr

namespace Paths

def ofRedirectUrl (url : Url) : Paths :=
  let callback := url.pathText
  let directory := ((Text.cutLast '/' callback).map (·.1)).getD []
  { callback, login := directory ++ "/login".toList, logout := directory ++ "/logout".toList }

def handled (paths : Paths) : List Text :=
  Text.sortedSet [paths.callback, paths.login, paths.logout]

/-- Drops the first handled path that a location ends with, so that a login which starts at an
endpoint of the flow does not come back to it. A location that is nothing else becomes the root. -/
def stripSuffix (paths : Paths) (location : Text) : Text :=
  match paths.handled.findSome? fun path => Text.beforeSuffix? path location with
  | none => location
  | some [] => ['/']
  | some head => head

end Paths
end LoginGate.Flow
