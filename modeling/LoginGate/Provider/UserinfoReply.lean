import LoginGate.Provider.Basic
import LoginGate.Provider.Wire

/-!
Contract: what a userinfo endpoint replies, as far as it is kept.

Owns: the limit on the kept body, the reader of its pieces, and why there is no answer about a user.
Does not own: the meaning of the body (`Identity`).
-/

namespace LoginGate.Provider

def userinfoLimit : Nat := 32 * 1024

inductive UserinfoFailure where
  /-- The request cannot be built; the URL is named if it can be read. -/
  | unusable (url : Option Url)
  | noReply (url : Url)
  /-- The body broke off. -/
  | interrupted
deriving DecidableEq, Repr

def forUrl (url : Url) : Text := " for url (".toList ++ url.text ++ [')']

def UserinfoFailure.message : UserinfoFailure -> Text
  | .unusable url => "builder error".toList ++ (url.map forUrl).getD []
  | .noReply url => "error sending request".toList ++ forUrl url
  | .interrupted => "error decoding response body".toList

/-- Collects the pieces of a body up to a limit. Nothing behind the limit is read, so a body that
breaks off there is as good as a whole one. -/
def collect (limit : Nat) (complete : Bool) (kept : Bytes) :
    List Bytes -> Except UserinfoFailure Bytes
  | [] => if complete then .ok kept else .error .interrupted
  | chunk :: chunks =>
    let kept := kept ++ chunk.take (limit - kept.length)
    if limit ≤ kept.length then .ok kept else collect limit complete kept chunks

def Reply.userinfo (reply : Reply) : Except UserinfoFailure Userinfo :=
  (collect userinfoLimit reply.complete [] reply.chunks).map fun body =>
    { status := reply.status, body }

end LoginGate.Provider
