import LoginGate.Proofs.Config.Redirect
import LoginGate.Proofs.Url.Margins
import LoginGate.Proofs.Url.Web
import LoginGate.Provider.Remote

/-!
Contract: where the provider of a validated configuration is reached.

Owns:
- where a login is started and finished, and where userinfo is asked for;
- the host of a special URL, which is never missing;
- the effective callback URL, which is sound, and so its text can be read again;
- the law that says for which endpoints a provider reaches the URL that validation accepted.

Does not own: what is sent there (`Provider.Remote`) and what comes back.

Validation trims an endpoint of all white space; the provider reads it as it stands, and the URL
parser drops ASCII white space only. Userinfo moreover has to be asked for over HTTP.
-/

namespace LoginGate

/-! ## Hosts -/

namespace Url

/-- Every special URL but a file has a host. -/
theorem host?_ne_none_of_parse {text : Text} {url : Url} (parsed : parse text = .ok url)
    (special : isSpecialScheme url.scheme = true) (notFile : isFileScheme url.scheme = false) :
    url.host? ≠ none := by
  have sound := sound_of_parse parsed
  obtain ⟨authority, present⟩ := Option.ne_none_iff_exists'.1 (sound.hosted special)
  rw [← Option.isSome_iff_ne_none]
  exact host?_ne_none_iff.2
    ⟨authority, present, (sound.authority authority present).1.hosted special notFile⟩

end Url

/-! ## The callback URL -/

theorem Config.sound_of_effectiveRedirectUrl {config : Config} {url : Url}
    (effective : config.effectiveRedirectUrl = .ok url) : url.Sound := by
  obtain ⟨redirect, parsed, rfl⟩ := effectiveRedirectUrl_eq_ok_iff.1 effective
  have sound := Url.sound_of_parse parsed
  cases overridden : config.override? with
  | none => exact sound
  | some origin =>
    obtain ⟨text, -, read⟩ := override?_eq_some_iff.1 overridden
    exact sound.withOriginOf (Url.sound_of_parse read)

namespace Provider.Remote

/-! ## Where a provider is reached -/

/-- A request goes out to the network, whose reply is the answer. -/
def GoesOut (request : Outgoing) : Prop :=
  ∀ network, send network request = (network request).bind Reply.received?

theorem goesOut_iff {request : Outgoing} : GoesOut request ↔ isSendable request.url = true := by
  constructor
  · intro goesOut
    cases sendable : isSendable request.url with
    | true => rfl
    | false =>
      -- A network that answers everything would be heard.
      have heard := goesOut fun _ => some { status := 200 }
      have unsent : send (fun _ => some { status := 200 }) request = none := by
        unfold send
        rw [sendable]
        rfl
      rw [unsent] at heard
      cases heard
  · intro sendable network
    exact if_pos sendable

/-- A code is redeemed at a URL: the request is a POST to it, and it goes out to the network. -/
def RedeemsAt (remote : Remote) (code : Text) (url : Url) : Prop :=
  ∃ request, remote.tokenRequest code = .ok request ∧
    request.method = "POST".toList ∧ request.url = url ∧ GoesOut request

/-- Userinfo is asked for at a URL: the request is a GET to it, and it goes out to the network. -/
def AsksAt (remote : Remote) (accessToken : Text) (url : Url) : Prop :=
  ∃ request, remote.userinfoRequest accessToken = .ok request ∧
    request.method = "GET".toList ∧ request.url = url ∧ GoesOut request

/-- Browsers are sent to one URL, with the pairs of a login added, and codes to another, if requests
can be sent there at all. -/
structure LogsInAt (remote : Remote) (authUrl tokenUrl : Url) : Prop where
  authorize : ∀ state, remote.authorizationUrl state =
    (authUrl.withPairs (remote.authorizationPairs state)).text
  exchange : ∀ code request, remote.tokenRequest code = .ok request -> request.url = tokenUrl
  redeem : ∀ code, remote.RedeemsAt code tokenUrl ↔ isSendable tokenUrl = true

theorem tokenUrl_of_tokenRequest {remote : Remote} {code : Text} {request : Outgoing}
    (made : remote.tokenRequest code = .ok request) : request.url = remote.tokenUrl := by
  unfold tokenRequest at made
  split at made
  · cases made
  · cases made
    rfl

theorem redeemsAt_own_iff {remote : Remote} {code : Text} :
    remote.RedeemsAt code remote.tokenUrl ↔ isSendable remote.tokenUrl = true := by
  constructor
  · rintro ⟨request, -, -, place, goesOut⟩
    rw [← place]
    exact goesOut_iff.1 goesOut
  · intro sendable
    unfold RedeemsAt tokenRequest
    split
    · rename_i cause unusable
      unfold isSendable at sendable
      rw [unusable, Bool.and_eq_true] at sendable
      cases sendable.2
    · exact ⟨_, rfl, rfl, rfl, goesOut_iff.2 sendable⟩

private theorem logsInAt_own (remote : Remote) :
    remote.LogsInAt remote.authUrl remote.tokenUrl where
  authorize _ := rfl
  exchange _ _ := tokenUrl_of_tokenRequest
  redeem _ := redeemsAt_own_iff

@[simp] theorem scheme_withoutCredentials (url : Url) :
    (withoutCredentials url).scheme = url.scheme := by
  unfold withoutCredentials
  split <;> rfl

/-- The credentials go along once: none can be read from the URL that is asked. -/
theorem credentials?_withoutCredentials (url : Url) :
    credentials? (withoutCredentials url) = none := by
  unfold withoutCredentials
  split
  · unfold credentials?
    cases url.authority <;> rfl
  · rename_i unread
    exact Option.not_isSome_iff_eq_none.1 unread

/-- Taking the credentials from a URL changes neither its host nor what follows it. -/
theorem agrees_withoutCredentials (url : Url) : (withoutCredentials url).Agrees url := by
  unfold withoutCredentials
  split
  · exact ⟨Option.map_map _ _ _, rfl, rfl, rfl⟩
  · exact ⟨rfl, rfl, rfl, rfl⟩

private theorem agrees_of_withoutCredentials_eq {left right : Url}
    (same : withoutCredentials left = withoutCredentials right) : left.Agrees right := by
  obtain ⟨host, path, query, fragment⟩ := agrees_withoutCredentials left
  rw [same] at host path query fragment
  obtain ⟨hostRight, pathRight, queryRight, fragmentRight⟩ := agrees_withoutCredentials right
  exact ⟨host.symm.trans hostRight, path.symm.trans pathRight, query.symm.trans queryRight,
    fragment.symm.trans fragmentRight⟩

private theorem isWeb_of_isSendable {url : Url} (sendable : isSendable url = true) : url.IsWeb := by
  simp only [isSendable, Bool.and_eq_true, Bool.or_eq_true, decide_eq_true_eq] at sendable
  exact sendable.1

/-- Userinfo is asked for at the URL of the trimmed text exactly if trimming changes nothing and
requests can be sent there. -/
theorem asksAt_iff {remote : Remote} {url : Url} {accessToken : Text}
    (parsed : Url.parse (Text.trimBlank remote.userinfoUrl) = .ok url)
    (allowed : accessToken.any Http.Response.isForbiddenInValue = false) :
    remote.AsksAt accessToken (withoutCredentials url) ↔
      remote.userinfoUrl.hasAsciiMargins = true ∧ isSendable (withoutCredentials url) = true := by
  constructor
  · rintro ⟨request, made, -, place, -⟩
    unfold userinfoRequest at made
    split at made
    · cases made
    rename_i found read
    rw [allowed] at made
    split at made
    · cases made
    simp only [Bool.false_eq_true, if_false] at made
    split at made
    · rename_i sendable
      cases made
      have same : withoutCredentials found = withoutCredentials url := place
      exact ⟨Url.hasAsciiMargins_of_agrees parsed read (agrees_of_withoutCredentials_eq same),
        same ▸ sendable⟩
    · cases made
  · rintro ⟨ascii, sendable⟩
    obtain ⟨special, notFile⟩ := (isWeb_of_isSendable sendable).special
    rw [scheme_withoutCredentials] at special notFile
    have read : Url.parse remote.userinfoUrl = .ok url := Url.parse_of_hasAsciiMargins parsed ascii
    have hosted : url.host?.isNone = false := by
      rw [Option.isNone_eq_false_iff, Option.isSome_iff_ne_none]
      exact Url.host?_ne_none_of_parse parsed special notFile
    let request : Outgoing := {
      method := "GET".toList, url := withoutCredentials url
      urlAuthorization := urlAuthorization? url
      authorization := "Bearer ".toList ++ accessToken, accept := "*/*".toList }
    refine ⟨request, ?_, rfl, rfl, goesOut_iff.2 sendable⟩
    unfold userinfoRequest
    rw [read]
    simp only [hosted, allowed, sendable, Bool.false_eq_true, if_false, if_true]
    rfl

/-! ## From a configuration -/

theorem endpoint_eq_ok_iff {value : Text} {url : Url} :
    endpoint value = .ok url ↔ Url.parse value = .ok url := by
  constructor
  · exact of_mapError_eq_ok
  · intro parsed
    unfold endpoint
    rw [parsed]
    rfl

def withEndpoints (config : Config) (redirectUrl authUrl tokenUrl : Url) : Remote where
  authUrl := authUrl
  tokenUrl := tokenUrl
  userinfoUrl := config.userinfoUrl
  redirectUrl := redirectUrl.text
  clientId := config.clientId
  clientSecret := config.clientSecret
  scopes := config.scopes

theorem ofConfig_of_endpoints {config : Config} {redirectUrl authUrl tokenUrl : Url}
    (effective : config.effectiveRedirectUrl = .ok redirectUrl)
    (authRead : endpoint config.authUrl = .ok authUrl)
    (tokenRead : endpoint config.tokenUrl = .ok tokenUrl) :
    ofConfig config = .ok (withEndpoints config redirectUrl authUrl tokenUrl) := by
  obtain ⟨again, parsed⟩ := (Config.sound_of_effectiveRedirectUrl effective).exists_parse_text
  have redirectRead : endpoint redirectUrl.text = .ok again := endpoint_eq_ok_iff.2 parsed
  have made : ofConfig config = endpoint redirectUrl.text >>= fun _ =>
      .ok (withEndpoints config redirectUrl authUrl tokenUrl) := by
    unfold ofConfig
    rw [effective, authRead, tokenRead]
    rfl
  rw [made, redirectRead]
  rfl

theorem ofConfig_eq_ok_iff {config : Config} {redirectUrl authUrl tokenUrl : Url}
    (effective : config.effectiveRedirectUrl = .ok redirectUrl) :
    (∃ remote, ofConfig config = .ok remote ∧ remote.authUrl = authUrl ∧
      remote.tokenUrl = tokenUrl) ↔
      endpoint config.authUrl = .ok authUrl ∧ endpoint config.tokenUrl = .ok tokenUrl := by
  constructor
  · rintro ⟨remote, made, rfl, rfl⟩
    obtain ⟨_, -, afterRedirect⟩ := of_bind_eq_ok made
    obtain ⟨authUrl, authRead, afterAuth⟩ := of_bind_eq_ok afterRedirect
    obtain ⟨tokenUrl, tokenRead, afterToken⟩ := of_bind_eq_ok afterAuth
    obtain ⟨_, -, finished⟩ := of_bind_eq_ok afterToken
    cases finished
    exact ⟨authRead, tokenRead⟩
  · rintro ⟨authRead, tokenRead⟩
    exact ⟨_, ofConfig_of_endpoints effective authRead tokenRead, rfl, rfl⟩

private theorem userinfoUrl_of_ofConfig {config : Config} {remote : Remote}
    (made : ofConfig config = .ok remote) : remote.userinfoUrl = config.userinfoUrl := by
  obtain ⟨redirectUrl, -, afterRedirect⟩ := of_bind_eq_ok made
  obtain ⟨authUrl, -, afterAuth⟩ := of_bind_eq_ok afterRedirect
  obtain ⟨tokenUrl, -, afterToken⟩ := of_bind_eq_ok afterAuth
  obtain ⟨_, -, finished⟩ := of_bind_eq_ok afterToken
  cases finished
  rfl

theorem exists_of_validate {config : Config} (accepted : config.validate = .ok ()) :
    ∃ redirectUrl authUrl tokenUrl userinfoUrl,
      config.effectiveRedirectUrl = .ok redirectUrl ∧
      Url.parse (Text.trimBlank config.authUrl) = .ok authUrl ∧
      Url.parse (Text.trimBlank config.tokenUrl) = .ok tokenUrl ∧
      Url.parse (Text.trimBlank config.userinfoUrl) = .ok userinfoUrl := by
  obtain ⟨written, redirectRead, afterRedirect⟩ := of_bind_eq_ok accepted
  obtain ⟨authUrl, authRead, afterAuth⟩ := of_bind_eq_ok afterRedirect
  obtain ⟨tokenUrl, tokenRead, afterToken⟩ := of_bind_eq_ok afterAuth
  obtain ⟨userinfoUrl, userinfoRead, -⟩ := of_bind_eq_ok afterToken
  have effective := Config.effectiveRedirectUrl_eq_ok_iff.2
    ⟨written, Config.requireUrl_eq_ok_iff.1 redirectRead, rfl⟩
  exact ⟨_, authUrl, tokenUrl, userinfoUrl, effective, Config.requireUrl_eq_ok_iff.1 authRead,
    Config.requireUrl_eq_ok_iff.1 tokenRead, Config.requireUrl_eq_ok_iff.1 userinfoRead⟩

/-- **Where the provider of an accepted configuration is reached.** There is a provider with the
login endpoints that validation parsed exactly if the white space around both texts is ASCII, and a
provider uses the login endpoints that it has. It asks for userinfo at the URL that validation
parsed, without credentials, exactly if the white space around that text is ASCII and requests can be
sent there, and exchanges codes exactly if requests can be sent to its token endpoint; an access token
that no header can hold is not asked with at all. -/
theorem endpoints_of_validate {config : Config} (accepted : config.validate = .ok ()) :
    ∃ authUrl tokenUrl userinfoUrl,
      Url.parse (Text.trimBlank config.authUrl) = .ok authUrl ∧
      Url.parse (Text.trimBlank config.tokenUrl) = .ok tokenUrl ∧
      Url.parse (Text.trimBlank config.userinfoUrl) = .ok userinfoUrl ∧
      ((∃ remote, ofConfig config = .ok remote ∧ remote.authUrl = authUrl ∧
          remote.tokenUrl = tokenUrl) ↔
        config.authUrl.hasAsciiMargins = true ∧ config.tokenUrl.hasAsciiMargins = true) ∧
      ∀ remote, ofConfig config = .ok remote ->
        remote.LogsInAt remote.authUrl remote.tokenUrl ∧
        ∀ accessToken, accessToken.any Http.Response.isForbiddenInValue = false ->
          (remote.AsksAt accessToken (withoutCredentials userinfoUrl) ↔
            config.userinfoUrl.hasAsciiMargins = true ∧
              isSendable (withoutCredentials userinfoUrl) = true) := by
  obtain ⟨redirectUrl, authUrl, tokenUrl, userinfoUrl, effective, authParsed, tokenParsed,
    userinfoParsed⟩ := exists_of_validate accepted
  refine ⟨authUrl, tokenUrl, userinfoUrl, authParsed, tokenParsed, userinfoParsed, ?_, ?_⟩
  · rw [ofConfig_eq_ok_iff effective, endpoint_eq_ok_iff, endpoint_eq_ok_iff,
      Url.parse_eq_ok_iff_hasAsciiMargins authParsed, Url.parse_eq_ok_iff_hasAsciiMargins tokenParsed]
  · intro remote made
    refine ⟨logsInAt_own remote, fun accessToken allowed => ?_⟩
    rw [← userinfoUrl_of_ofConfig made] at userinfoParsed ⊢
    exact asksAt_iff userinfoParsed allowed

/-! ## A configuration with white space before an endpoint -/

namespace Sample

/-- A configuration whose login endpoint stands behind a margin. -/
def config (margin : Text) : Config where
  redirectUrl := "https://[::1]/auth/callback".toList
  authUrl := margin ++ "https://[::1]/authorize".toList
  tokenUrl := "https://[::1]/token".toList
  userinfoUrl := "https://[::1]/userinfo".toList
  clientId := "client".toList
  clientSecret := "secret".toList
  scopeList := "openid".toList
  redirectOrigin := none

end Sample

theorem sample_endpoints :
    (Sample.config [' ']).validate = .ok () ∧
    ∃ remote url, ofConfig (Sample.config [' ']) = .ok remote ∧
      remote.LogsInAt remote.authUrl remote.tokenUrl ∧ remote.AsksAt "token".toList url := by
  have accepted : (Sample.config [' ']).validate = .ok () := rfl
  obtain ⟨authUrl, tokenUrl, userinfoUrl, -, -, userinfoParsed, login, reached⟩ :=
    endpoints_of_validate accepted
  obtain ⟨remote, made, -, -⟩ := login.2 (by decide)
  have sendable : isSendable (withoutCredentials userinfoUrl) = true := by
    cases userinfoParsed
    decide
  have asked := ((reached remote made).2 "token".toList (by decide)).2 ⟨by decide, sendable⟩
  exact ⟨accepted, remote, _, made, (reached remote made).1, asked⟩

/-- A no-break space before an endpoint is accepted and leaves no provider. -/
theorem accepted_without_provider :
    (Sample.config ['\u00A0']).validate = .ok () ∧
    ofConfig (Sample.config ['\u00A0']) =
      .error (.invalidConfig "relative URL without a base".toList) :=
  ⟨rfl, rfl⟩

end Provider.Remote
end LoginGate
