import LoginGate.Flow.Error
import LoginGate.Http.Response
import LoginGate.Page.Markup

/-!
Contract: the pages that refuse something.

Owns: the page for a login that failed and the page for a user who is no administrator.
Does not own: when they are shown (`Server.Login`, `Server.Access`).
-/

namespace LoginGate.Page

def failurePieces (status : Nat) (error : Flow.Error) : List Piece :=
  element "html" (element "body"
    (element "h2"
      [.fixed (Text.padZeros 3 (Text.ofNat status) ++ ' ' :: Http.reason status)] ++
    element "p" [.value error.message]))

def failure (status : Nat) (error : Flow.Error) : Http.Response :=
  .html status (render (failurePieces status error))

def forbiddenPieces : List Piece :=
  element "html" (element "body" (element "h1" [.fixed "403 Forbidden".toList]))

def forbidden : Http.Response := .html 403 (render forbiddenPieces)

end LoginGate.Page
