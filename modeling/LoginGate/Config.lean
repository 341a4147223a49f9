import LoginGate.Json.Record
import LoginGate.Url.Origin

/-!
Contract: what must be known to use an identity provider.

Owns:
- the configuration record, its reader, its JSON form and its builder;
- its validation and the first problem that validation finds;
- the callback URL after the origin override.

Does not own: the paths derived from the callback URL (`Flow.Paths`), or where a configuration comes
from (`Settings`).
-/

namespace LoginGate

/-- The endpoints of a provider and the credentials for it, as configured. -/
structure Config where
  redirectUrl : Text
  authUrl : Text
  tokenUrl : Text
  userinfoUrl : Text
  clientId : Text
  clientSecret : Text
  /-- The scopes between commas. -/
  scopeList : Text
  /-- A URL whose origin replaces that of the callback URL. -/
  redirectOrigin : Option Text
deriving DecidableEq, Repr

inductive ConfigError where
  | missingField (field : Text)
  | invalidUrl (field reason : Text)
  | missingScopes
deriving DecidableEq, Repr

def ConfigError.message : ConfigError -> Text
  | .missingField field => "missing ".toList ++ field
  | .invalidUrl field reason => "invalid ".toList ++ field ++ ": ".toList ++ reason
  | .missingScopes => "missing scopes".toList

namespace Config

def defaultScopeList : Text := "openid,email,profile".toList

def scopes (config : Config) : List Text := Text.entries config.scopeList

/-! ## Validation -/

/-- Refuses a blank field. -/
def requireText (field value : Text) : Except ConfigError Unit :=
  if Text.isBlank value then .error (.missingField field) else .ok ()

def requireUrl (field value : Text) : Except ConfigError Url := do
  requireText field value
  match Url.parse (Text.trimBlank value) with
  | .ok url => return url
  | .error error => throw (.invalidUrl field error.message)

/-- Accepts a configuration, or gives its first problem in the order of the fields. -/
def validate (config : Config) : Except ConfigError Unit := do
  let _ <- requireUrl "redirect_url".toList config.redirectUrl
  let _ <- requireUrl "auth_url".toList config.authUrl
  let _ <- requireUrl "token_url".toList config.tokenUrl
  let _ <- requireUrl "userinfo_url".toList config.userinfoUrl
  requireText "client_id".toList config.clientId
  requireText "client_secret".toList config.clientSecret
  if config.scopes.isEmpty then throw .missingScopes

/-- The callback URL with the origin override. An override that is no URL is ignored. -/
def effectiveRedirectUrl (config : Config) : Except ConfigError Url := do
  let url <- requireUrl "redirect_url".toList config.redirectUrl
  match config.redirectOrigin.map fun origin => Url.parse (Text.trimBlank origin) with
  | some (.ok origin) => return url.withOriginOf origin
  | _ => return url

/-! ## JSON -/

structure Draft where
  redirectUrl : Option Text := none
  authUrl : Option Text := none
  tokenUrl : Option Text := none
  userinfoUrl : Option Text := none
  clientId : Option Text := none
  clientSecret : Option Text := none
  scopeList : Option Text := none
  redirectOrigin : Option (Option Text) := none

/-- A draft with its defaults, or its first missing field. -/
def Draft.finish (draft : Draft) : Except Json.Cause Config := do
  return {
    redirectUrl := <- Json.require "redirect_url".toList draft.redirectUrl
    authUrl := <- Json.require "auth_url".toList draft.authUrl
    tokenUrl := <- Json.require "token_url".toList draft.tokenUrl
    userinfoUrl := <- Json.require "userinfo_url".toList draft.userinfoUrl
    clientId := <- Json.require "client_id".toList draft.clientId
    clientSecret := <- Json.require "client_secret".toList draft.clientSecret
    scopeList := draft.scopeList.getD defaultScopeList
    redirectOrigin := draft.redirectOrigin.join }

def layout : Json.Layout Draft Config where
  name := "OAuth2Config".toList
  slots := [
    .of "redirect_url" true Json.readText (·.redirectUrl) ({ · with redirectUrl := some · }),
    .of "auth_url" true Json.readText (·.authUrl) ({ · with authUrl := some · }),
    .of "token_url" true Json.readText (·.tokenUrl) ({ · with tokenUrl := some · }),
    .of "userinfo_url" true Json.readText (·.userinfoUrl) ({ · with userinfoUrl := some · }),
    .of "client_id" true Json.readText (·.clientId) ({ · with clientId := some · }),
    .of "client_secret" true Json.readText (·.clientSecret) ({ · with clientSecret := some · }),
    .of "scopes" false Json.readText (·.scopeList) ({ · with scopeList := some · }),
    .of "redirect_origin" false (Json.readOptional Json.readText) (·.redirectOrigin)
      ({ · with redirectOrigin := some · })]
  empty := {}
  finish := Draft.finish

def parse (bytes : Bytes) : Except Json.ReadError Config :=
  Json.readWholeText layout.read bytes

def toJson (config : Config) : Json :=
  .object [
    ("redirect_url".toList, .string config.redirectUrl),
    ("auth_url".toList, .string config.authUrl),
    ("token_url".toList, .string config.tokenUrl),
    ("userinfo_url".toList, .string config.userinfoUrl),
    ("client_id".toList, .string config.clientId),
    ("client_secret".toList, .string config.clientSecret),
    ("scopes".toList, .string config.scopeList),
    ("redirect_origin".toList, (config.redirectOrigin.map Json.string).getD .null)]

/-! ## Builder -/

/-- A configuration under construction, its scopes still apart. -/
structure Builder where
  redirectUrl : Text := []
  authUrl : Text := []
  tokenUrl : Text := []
  userinfoUrl : Text := []
  clientId : Text
  clientSecret : Text
  scopes : List Text := ["openid".toList, "email".toList, "profile".toList]
  redirectOrigin : Option Text := none
deriving DecidableEq, Repr

def Builder.addScope (builder : Builder) (scope : Text) : Builder :=
  if builder.scopes.contains scope then builder
  else { builder with scopes := builder.scopes ++ [scope] }

def Builder.build (builder : Builder) : Except ConfigError Config := do
  let config : Config := {
    redirectUrl := builder.redirectUrl, authUrl := builder.authUrl
    tokenUrl := builder.tokenUrl, userinfoUrl := builder.userinfoUrl
    clientId := builder.clientId, clientSecret := builder.clientSecret
    scopeList := Text.join [','] builder.scopes, redirectOrigin := builder.redirectOrigin }
  config.validate
  return config

end Config
end LoginGate
