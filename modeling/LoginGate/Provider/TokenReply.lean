import LoginGate.Json.Record
import LoginGate.Provider.Basic
import LoginGate.Provider.Wire
import LoginGate.Unicode.Lowercase

/-!
Contract: what a token endpoint replies.

Owns: the records of a token and of a refusal, and why a reply gives no token.
Does not own: the request (`Provider.Remote`).
-/

namespace LoginGate.Provider

/-! ## Refusals -/

structure Refusal where
  error : Text
  description : Option Text
  uri : Option Text
deriving DecidableEq, Repr

def Refusal.message (refusal : Refusal) : Text :=
  refusal.error ++
    (match refusal.description with
      | some description => ": ".toList ++ description
      | none => []) ++
    (match refusal.uri with
      | some uri => " (see ".toList ++ uri ++ [')']
      | none => [])

structure Refusal.Draft where
  error : Option Text := none
  description : Option (Option Text) := none
  uri : Option (Option Text) := none

def Refusal.layout : Json.Layout Refusal.Draft Refusal where
  name := "StandardErrorResponse".toList
  slots := [
    .of "error" true Json.readText (·.error) ({ · with error := some · }),
    .of "error_description" false (Json.readOptional Json.readText) (·.description)
      ({ · with description := some · }),
    .of "error_uri" false (Json.readOptional Json.readText) (·.uri)
      ({ · with uri := some · })]
  empty := {}
  finish := fun draft => do
    return {
      error := <- Json.require "error".toList draft.error
      description := draft.description.join
      uri := draft.uri.join }

/-! ## Tokens -/

structure TokenDraft where
  accessToken : Option Text := none
  tokenType : Option Text := none
  expiresIn : Option (Option Nat) := none
  refreshToken : Option (Option Text) := none
  scope : Option (Option Text) := none

/-- The record of a token. Its type is compared in lower case; the granted scopes are checked and
not kept. -/
def tokenLayout : Json.Layout TokenDraft ProviderToken where
  name := "StandardTokenResponse".toList
  isOpen := true
  slots := [
    .of "access_token" true Json.readText (·.accessToken) ({ · with accessToken := some · }),
    .of "token_type" true Json.readText (·.tokenType) ({ · with tokenType := some · }),
    .of "expires_in" true (Json.readOptional Json.readUnsigned) (·.expiresIn)
      ({ · with expiresIn := some · }),
    .of "refresh_token" true (Json.readOptional Json.readText) (·.refreshToken)
      ({ · with refreshToken := some · }),
    .of "scope" false (Json.readOptional Json.readText) (·.scope) ({ · with scope := some · })]
  empty := {}
  finish := fun draft => do
    return {
      accessToken := <- Json.require "access_token".toList draft.accessToken
      tokenType := Unicode.toLower (<- Json.require "token_type".toList draft.tokenType)
      refreshToken := draft.refreshToken.join
      expiresIn := draft.expiresIn.join.map (· * 1000000000) }

/-! ## Replies -/

inductive ExchangeFailure where
  /-- The endpoint is no target of a request. -/
  | unusableTarget (cause : Http.TargetError)
  | noReply
  | unreadable
  | refused (refusal : Refusal)
  | emptyRefusal
  | wrongContentType (value : Text)
  | emptyBody
deriving DecidableEq, Repr

/-- The bytes of a header value between quotes; bytes that are not visible are written in
hexadecimal. -/
def quotedHeader (value : Text) : Text :=
  let quotedByte (byte : UInt8) : Text :=
    let c := Char.ofNat byte.toNat
    if c = '"' then "\\\"".toList
    else if c = '\t' ∨ (0x20 ≤ c.toNat ∧ c.toNat < 0x7F) then [c]
    else "\\x".toList ++ Text.hexOfNat byte.toNat
  '"' :: (Utf8.encode value).flatMap quotedByte ++ ['"']

def jsonType : Text := "application/json".toList

def ExchangeFailure.message : ExchangeFailure -> Text
  | .unusableTarget cause => "Other error: failed to prepare request: ".toList ++ cause.message
  | .noReply => "Request failed".toList
  | .unreadable => "Failed to parse server response".toList
  | .refused refusal => "Server returned error response: ".toList ++ refusal.message
  | .emptyRefusal => "Other error: server returned empty error response".toList
  | .wrongContentType value =>
    "Other error: unexpected response Content-Type: ".toList ++ quotedHeader value ++
      ", should be ".toList ++ Json.backquoted jsonType
  | .emptyBody => "Other error: server returned empty response body".toList

/-- Whether a content type begins as that of JSON does, in any letter case. -/
def isJsonType (value : Text) : Bool :=
  match Http.Request.asciiValue? value with
  | some value => (Text.afterPrefix? jsonType (Text.toAsciiLower value)).isSome
  | none => false

/-- Reads a record from the start of a body; what follows it does not matter. -/
def readBody {Draft α : Type} (layout : Json.Layout Draft α) (body : Bytes) :
    Except ExchangeFailure α :=
  match layout.read (.start body) with
  | .ok (value, _) => .ok value
  | .error _ => .error .unreadable

/-- The token in a reply. Any status but 200 is a refusal; a missing content type is taken for
JSON. -/
def Reply.token (reply : Reply) : Except ExchangeFailure ProviderToken :=
  match reply.body? with
  | none => .error .noReply
  | some body =>
    if reply.status ≠ 200 then
      if body.isEmpty then .error .emptyRefusal
      else do throw (.refused (<- readBody Refusal.layout body))
    else
      match (reply.header? "content-type").filter (! isJsonType ·) with
      | some value => .error (.wrongContentType value)
      | none => if body.isEmpty then .error .emptyBody else readBody tokenLayout body

end LoginGate.Provider
