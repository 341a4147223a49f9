import LoginGate.Config
import LoginGate.Flow.Error
import LoginGate.Provider.TokenReply
import LoginGate.Provider.UserinfoReply
import LoginGate.Text.Base64
import LoginGate.Url.Form

/-!
Contract: an identity provider that is reached over a network.

Owns:
- the endpoints and credentials of a configuration;
- the authorization URL and the two requests;
- the provider that sends them.

Does not own: the replies (`Provider.TokenReply`, `Provider.UserinfoReply`).
-/

namespace LoginGate.Provider

structure Remote where
  authUrl : Url
  tokenUrl : Url
  /-- The endpoint as configured; it is only read when it is used. -/
  userinfoUrl : Text
  /-- The callback URL as it is told to the provider. -/
  redirectUrl : Text
  clientId : Text
  clientSecret : Text
  scopes : List Text
deriving DecidableEq, Repr

namespace Remote

def endpoint (value : Text) : Except SetupError Url :=
  (Url.parse value).mapError fun error => .invalidConfig error.message

/-- The provider of a configuration, which need not have been validated. -/
def ofConfig (config : Config) : Except SetupError Remote := do
  let redirectUrl <-
    config.effectiveRedirectUrl.mapError fun error => SetupError.invalidConfig error.message
  let authUrl <- endpoint config.authUrl
  let tokenUrl <- endpoint config.tokenUrl
  -- The callback URL is given to the client as text and checked once more.
  let _ <- endpoint redirectUrl.text
  return {
    authUrl, tokenUrl, userinfoUrl := config.userinfoUrl, redirectUrl := redirectUrl.text
    clientId := config.clientId, clientSecret := config.clientSecret, scopes := config.scopes }

/-! ## Authorization -/

def authorizationPairs (remote : Remote) (state : Text) : Form.Pairs :=
  let scope := Text.join [' '] remote.scopes
  [("response_type".toList, "code".toList), ("client_id".toList, remote.clientId),
    ("state".toList, state), ("redirect_uri".toList, remote.redirectUrl)] ++
  (if scope.isEmpty then [] else [("scope".toList, scope)]) ++
  [("access_type".toList, "offline".toList)]

def authorizationUrl (remote : Remote) (state : Text) : Text :=
  (remote.authUrl.withPairs (remote.authorizationPairs state)).text

/-! ## Tokens -/

def basic (username password : Text) : Text :=
  let joined := username ++ ':' :: password
  "Basic ".toList ++ Base64.padded (Base64.digits Base64.standard (Utf8.encode joined))

/-- Client id and secret as a header value; both are form-encoded before they are joined. -/
def basicCredentials (remote : Remote) : Text :=
  basic (Form.encodeText remote.clientId) (Form.encodeText remote.clientSecret)

def tokenPairs (remote : Remote) (code : Text) : Form.Pairs :=
  [("grant_type".toList, "authorization_code".toList), ("code".toList, code),
    ("redirect_uri".toList, remote.redirectUrl)]

def tokenRequest (remote : Remote) (code : Text) : Except ExchangeFailure Outgoing :=
  match Http.Target.parse remote.tokenUrl.text with
  | .error cause => .error (.unusableTarget cause)
  | .ok _ =>
    .ok {
      method := "POST".toList, url := remote.tokenUrl
      authorization := remote.basicCredentials, accept := jsonType
      contentType := some "application/x-www-form-urlencoded".toList
      body := Form.encode (remote.tokenPairs code) }

/-- Whether requests can be sent to a URL: over HTTP, with or without encryption. -/
def isSendable (url : Url) : Bool :=
  (url.scheme = "http".toList || url.scheme = "https".toList) &&
    (Http.Target.parse url.text).isOk

/-- Sends a request. Without a usable URL there is no reply. -/
def send (network : Network) (request : Outgoing) : Option Reply :=
  if isSendable request.url then (network request).bind Reply.received? else none

def exchangeCode (remote : Remote) (network : Network) (code : Text) :
    Except ExchangeFailure ProviderToken := do
  match send network (<- remote.tokenRequest code) with
  | some reply => reply.token
  | none => throw .noReply

/-! ## Userinfo -/

/-- User name and password of a URL, percent-decoded. A password that is no text counts as missing;
a user name that is none makes both unreadable. -/
def credentials? (url : Url) : Option (Text × Option Text) := do
  let authority <- url.authority
  if authority.username.isEmpty && authority.password.isEmpty then none
  else
    let username <- Utf8.decode? (Percent.decode (Utf8.encode authority.username))
    let password :=
      if authority.password.isEmpty then none
      else Utf8.decode? (Percent.decode (Utf8.encode authority.password))
    if username.isEmpty && password.isNone then none else some (username, password)

/-- A URL from which user name and password were taken, if they can be read. -/
def withoutCredentials (url : Url) : Url :=
  if (credentials? url).isSome then
    { url with
      authority := url.authority.map fun authority =>
        { authority with username := [], password := [] } }
  else url

/-- User name and password of a URL as a header value, as they are. -/
def urlAuthorization? (url : Url) : Option Text :=
  (credentials? url).map fun (username, password) => basic username (password.getD [])

def userinfoRequest (remote : Remote) (accessToken : Text) :
    Except UserinfoFailure Outgoing :=
  match Url.parse remote.userinfoUrl with
  | .error _ => .error (.unusable none)
  | .ok url =>
    if url.host?.isNone then .error (.unusable (some url))
    else if accessToken.any Http.Response.isForbiddenInValue then .error (.unusable none)
    else
      let stripped := withoutCredentials url
      if isSendable stripped then
        .ok {
          method := "GET".toList, url := stripped
          urlAuthorization := urlAuthorization? url
          authorization := "Bearer ".toList ++ accessToken, accept := "*/*".toList }
      else .error (.unusable (some stripped))

def fetchUserinfo (remote : Remote) (network : Network) (accessToken : Text) :
    Except UserinfoFailure Userinfo := do
  let request <- remote.userinfoRequest accessToken
  match send network request with
  | some reply => reply.userinfo
  | none => throw (.noReply request.url)

def provider (remote : Remote) (network : Network) : Provider where
  authorizationUrl := remote.authorizationUrl
  exchangeCode code :=
    (remote.exchangeCode network code).mapError fun failure => .tokenExchange failure.message
  fetchUserinfo accessToken :=
    (remote.fetchUserinfo network accessToken).mapError fun failure => .userinfo failure.message

end Remote
end LoginGate.Provider
