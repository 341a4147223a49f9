import LoginGate.Json.Record
import LoginGate.Time.Rfc3339

/-!
Contract: the token that a login leaves in its session.

Owns: the record, its JSON form and its reader.
Does not own: how the token is obtained (`Provider`).
-/

namespace LoginGate

/-- A provider's token, with the time at which it was obtained and the time at which it ends. -/
structure StoredToken where
  accessToken : Text
  tokenType : Text
  refreshToken : Option Text
  expiresAt : Option Instant
  authenticatedAt : Instant
deriving DecidableEq, Repr

namespace StoredToken

def optional {α : Type} (toJson : α -> Json) (value : Option α) : Json :=
  (value.map toJson).getD .null

def toJson (token : StoredToken) : Json :=
  .object [
    ("access_token".toList, .string token.accessToken),
    ("token_type".toList, .string token.tokenType),
    ("refresh_token".toList, optional .string token.refreshToken),
    ("expires_at".toList, optional (fun time => .string (Rfc3339.text time)) token.expiresAt),
    ("authenticated_at".toList, .string (Rfc3339.text token.authenticatedAt))]

structure Draft where
  accessToken : Option Text := none
  tokenType : Option Text := none
  refreshToken : Option (Option Text) := none
  expiresAt : Option (Option Instant) := none
  authenticatedAt : Option Instant := none

def readInstant : Json.Cursor -> Except Json.ReadError (Instant × Json.Cursor) :=
  Json.readFormatted (fun text => (Rfc3339.parse text).mapError (·.message))
    "an RFC 3339 formatted date and time string".toList

/-- A finished draft, or its first missing field. -/
def Draft.finish (draft : Draft) : Except Json.Cause StoredToken := do
  return {
    accessToken := <- Json.require "access_token".toList draft.accessToken
    tokenType := <- Json.require "token_type".toList draft.tokenType
    refreshToken := draft.refreshToken.join
    expiresAt := draft.expiresAt.join
    authenticatedAt := <- Json.require "authenticated_at".toList draft.authenticatedAt }

def layout : Json.Layout Draft StoredToken where
  name := "StoredToken".toList
  slots := [
    .of "access_token" true Json.readText (·.accessToken) ({ · with accessToken := some · }),
    .of "token_type" true Json.readText (·.tokenType) ({ · with tokenType := some · }),
    .of "refresh_token" true (Json.readOptional Json.readText) (·.refreshToken)
      ({ · with refreshToken := some · }),
    .of "expires_at" true (Json.readOptional readInstant) (·.expiresAt)
      ({ · with expiresAt := some · }),
    .of "authenticated_at" true readInstant (·.authenticatedAt)
      ({ · with authenticatedAt := some · })]
  empty := {}
  finish := Draft.finish

def parse (bytes : Bytes) : Except Json.ReadError StoredToken :=
  Json.readWholeText layout.read bytes

end StoredToken
end LoginGate
