import LoginGate.Identity
import LoginGate.Json.Record
import LoginGate.Session.Basic
import LoginGate.Session.Token

/-!
Contract: the identity that a login leaves in its session.

Owns: the names of the three keys that hold it, and how it is written, read and removed.
Does not own: how a login gets there (`Server.Login`).

Any three names are accepted, also equal ones; then the last write under a name stays.
-/

namespace LoginGate.Session

structure Keys where
  identity : Text := "oauth2userinfo".toList
  email : Text := "email".toList
  token : Text := "oauth2token".toList
deriving DecidableEq, Repr

structure Keys.Draft where
  identity : Option Text := none
  email : Option Text := none
  token : Option Text := none

/-- The record of the keys; each has a default. -/
def Keys.layout : Json.Layout Keys.Draft Keys where
  name := "SessionKeys".toList
  slots := [
    .of "identity" false Json.readText (·.identity) ({ · with identity := some · }),
    .of "email" false Json.readText (·.email) ({ · with email := some · }),
    .of "token" false Json.readText (·.token) ({ · with token := some · })]
  empty := {}
  finish := fun draft =>
    let defaults : Keys := {}
    .ok {
      identity := draft.identity.getD defaults.identity
      email := draft.email.getD defaults.email
      token := draft.token.getD defaults.token }

def Keys.parse (bytes : Bytes) : Except Json.ReadError Keys :=
  Json.readWholeText Keys.layout.read bytes

structure Identity where
  document : Document
  email : Option Text
deriving Repr

/-- The identity of a session whose identity key holds an object. -/
def identity? (session : Session) (keys : Keys) : Option Identity :=
  ((session.get? keys.identity).bind Document.ofJson?).map fun document =>
    { document, email := (session.get? keys.email).bind Json.text? }

/-- Whether the identity key is set, to whatever value. -/
def hasIdentity (session : Session) (keys : Keys) : Bool := (session.get? keys.identity).isSome

/-- Writes identity and token and announces the change. What is missing is removed. -/
def storeIdentity (session : Session) (keys : Keys) (identity : Identity)
    (token : Option StoredToken) : Session :=
  (((session.set keys.identity (some identity.document.toJson)).set keys.email
    (identity.email.map Json.string)).set keys.token (token.map (·.toJson))).announce

def clearIdentity (session : Session) (keys : Keys) : Session :=
  (((session.set keys.identity none).set keys.email none).set keys.token none).announce

end LoginGate.Session
