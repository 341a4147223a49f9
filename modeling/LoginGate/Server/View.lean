import LoginGate.Server.Basic

/-!
Contract: what a page may know of the session that asks for it.

Owns: the view with address, document and rank. Without a session all of it is empty.
Does not own: which session a request has (`Server.Access`), and the pages (`Page.Gated`).
-/

namespace LoginGate.Server

/-- A session as a page sees it. -/
structure View where
  session : Option SessionId := none
  /-- The address that is logged in, or nothing. -/
  email : Text := []
  /-- Whether the session may do what an administrator may. -/
  isAdmin : Bool := false
  /-- The provider's document about the user. -/
  document : Option Document := none
deriving Repr

def emailOf (keys : Session.Keys) (session : Session) : Text :=
  ((session.get? keys.email).bind Json.text?).getD []

def view (server : Server) : Option Session -> View
  | none => {}
  | some session => {
      session := some session.id
      email := emailOf server.keys session
      isAdmin := server.isAdmin (emailOf server.keys session)
      document := (session.get? server.keys.identity).bind Document.ofJson? }

end LoginGate.Server
