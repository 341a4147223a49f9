import LoginGate.Config
import LoginGate.Environment.Reader
import LoginGate.Session.Settings

/-!
Contract: the settings of a server, from the variables of its environment.

Owns: the names and defaults of all settings.
Does not own: how variables become a tree (`Environment.Tree`), and the validation of a provider's
configuration (`Config`).
-/

namespace LoginGate

structure Settings where
  listenAddress : Text := "127.0.0.1:3000".toList
  session : Session.Settings := {}
  /-- The provider; without one nobody has to log in. -/
  provider : Option Config := none
  /-- The administrators between commas. -/
  adminList : Text := []
  httpTimeoutSeconds : Nat := 30
deriving DecidableEq, Repr

namespace Settings

open Environment

def readConfig : Reader Config := fun setting => do
  let given <- fields "OAuth2Config" 8 setting
  let redirectUrl <- given.read? "redirect_url" 0 readText
  let authUrl <- given.read? "auth_url" 1 readText
  let tokenUrl <- given.read? "token_url" 2 readText
  let userinfoUrl <- given.read? "userinfo_url" 3 readText
  let clientId <- given.read? "client_id" 4 readText
  let clientSecret <- given.read? "client_secret" 5 readText
  let scopeList <- given.read? "scopes" 6 readText
  let redirectOrigin <- given.read? "redirect_origin" 7 (readOptional readText)
  return {
    redirectUrl := <- given.require "redirect_url" 0 redirectUrl
    authUrl := <- given.require "auth_url" 1 authUrl
    tokenUrl := <- given.require "token_url" 2 tokenUrl
    userinfoUrl := <- given.require "userinfo_url" 3 userinfoUrl
    clientId := <- given.require "client_id" 4 clientId
    clientSecret := <- given.require "client_secret" 5 clientSecret
    scopeList := scopeList.getD Config.defaultScopeList
    redirectOrigin := redirectOrigin.join }

def readKeys : Reader Session.Keys := fun setting => do
  let given <- fields "SessionKeys" 3 setting
  let defaults : Session.Keys := {}
  return {
    identity := (<- given.read? "identity" 0 readText).getD defaults.identity
    email := (<- given.read? "email" 1 readText).getD defaults.email
    token := (<- given.read? "token" 2 readText).getD defaults.token }

def readSession : Reader Session.Settings := fun setting => do
  let given <- fields "SessionConfig" 5 setting
  let draft : Session.Settings.Draft := {
    cookieName := <- given.read? "cookie_name" 0 readText
    durationMinutes := <- given.read? "duration_minutes" 1 readSigned
    secureCookies := <- given.read? "secure_cookies" 2 readBool
    cleanupIntervalSeconds := <- given.read? "cleanup_interval_seconds" 3 readUnsigned
    keys := <- given.read? "keys" 4 readKeys }
  return draft.finish

def read : Reader Settings := fun setting => do
  let given <- fields "ServerConfig" 5 setting
  let defaults : Settings := {}
  return {
    listenAddress := (<- given.read? "listen_addr" 0 readText).getD defaults.listenAddress
    session := (<- given.read? "session" 1 readSession).getD defaults.session
    provider := (<- given.read? "oauth2" 2 (readOptional readConfig)).join
    adminList := (<- given.read? "admins" 3 readText).getD defaults.adminList
    httpTimeoutSeconds :=
      (<- given.read? "http_timeout_seconds" 4 readUnsigned).getD defaults.httpTimeoutSeconds }

def ofVariables (entries : List (Text × Text)) : Except Error Settings :=
  read (Environment.ofVariables entries)

/-- The administrators, as they are written. -/
def admins (settings : Settings) : List Text := Text.entries settings.adminList

end Settings
end LoginGate
