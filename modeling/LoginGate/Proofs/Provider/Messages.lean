import LoginGate.Proofs.Provider.Endpoints

/-!
Contract: what a provider reads in the messages of a login.

Owns:
- the scopes of an accepted configuration, which are never missing;
- the pairs that a provider is told when a login begins and when its code is exchanged;
- the law that both messages are read as these pairs.

Does not own: whether there is a provider (`Proofs.Provider.Endpoints`), or what it answers.

A provider compares the callback URL of the two messages, so both are stated with the same one. The
browser carries the first message as a URL: it is read by a URL parser first, and only the query
that this finds is decoded.
-/

namespace LoginGate

/-! ## Scopes -/

theorem Config.scopes_ne_nil_of_validate {config : Config} (accepted : config.validate = .ok ()) :
    config.scopes ≠ [] := by
  obtain ⟨_, -, afterRedirect⟩ := of_bind_eq_ok accepted
  obtain ⟨_, -, afterAuth⟩ := of_bind_eq_ok afterRedirect
  obtain ⟨_, -, afterToken⟩ := of_bind_eq_ok afterAuth
  obtain ⟨_, -, afterUserinfo⟩ := of_bind_eq_ok afterToken
  obtain ⟨_, -, afterId⟩ := of_bind_eq_ok afterUserinfo
  obtain ⟨_, -, afterSecret⟩ := of_bind_eq_ok afterId
  intro missing
  rw [missing] at afterSecret
  cases afterSecret

/-- An entry of a list is not empty, so neither is a text that joins some. -/
theorem Text.join_entries_ne_nil {list separator : Text} (filled : entries list ≠ []) :
    join separator (entries list) ≠ [] := by
  obtain ⟨entry, rest, shape⟩ := List.exists_cons_of_ne_nil filled
  have listed : entry ∈ entries list := by simp [shape]
  have written : entry ≠ [] := by simpa using (List.mem_filter.1 listed).2
  obtain ⟨c, behind, begins⟩ := List.exists_cons_of_ne_nil written
  have inEntry : c ∈ entry := by simp [begins]
  exact List.ne_nil_of_mem (mem_join listed inEntry)

namespace Provider.Remote

/-! ## Messages -/

/-- What a provider is told when a login begins. -/
def loginPairs (config : Config) (redirectUrl : Url) (state : Text) : Form.Pairs :=
  [("response_type".toList, "code".toList), ("client_id".toList, config.clientId),
    ("state".toList, state), ("redirect_uri".toList, redirectUrl.text),
    ("scope".toList, Text.join [' '] config.scopes), ("access_type".toList, "offline".toList)]

def redemptionPairs (redirectUrl : Url) (code : Text) : Form.Pairs :=
  [("grant_type".toList, "authorization_code".toList), ("code".toList, code),
    ("redirect_uri".toList, redirectUrl.text)]

/-- Exchanging a code is to send a request and to read the reply. -/
def ExchangesBy (remote : Remote) (code : Text) (request : Outgoing) : Prop :=
  ∀ network, remote.exchangeCode network code =
    match (network request).bind Reply.received? with
    | some reply => reply.token
    | none => .error .noReply

/-- The messages of a login, as they are read at the endpoints. -/
structure Tells (remote : Remote) (config : Config) (redirectUrl : Url) : Prop where
  /-- The browser goes to the authorization endpoint. Its own pairs come first; the added ones have
  different names, and no other part of the URL is touched. -/
  login : ∀ state, ((loginPairs config redirectUrl state).map (·.1)).Nodup ∧
    ∃ url, Url.parse (remote.authorizationUrl state) = .ok url ∧
      { url with query := remote.authUrl.query } = remote.authUrl ∧
      url.pairs = remote.authUrl.pairs ++ loginPairs config redirectUrl state
  /-- A code is posted to the token endpoint, if requests can be sent there. -/
  redemption : isSendable remote.tokenUrl = true -> ∀ code, ∃ request,
    remote.ExchangesBy code request ∧
    request.method = "POST".toList ∧ request.url = remote.tokenUrl ∧
    request.contentType = some "application/x-www-form-urlencoded".toList ∧
    Form.decode request.body = redemptionPairs redirectUrl code
  /-- Otherwise the network is not asked. -/
  silence : isSendable remote.tokenUrl = false -> ∀ code network other,
    remote.exchangeCode network code = remote.exchangeCode other code

section Remote

variable {remote : Remote}

private theorem exists_parse_authorizationUrl (web : remote.authUrl.IsCanonical) (state : Text) :
    ∃ url, Url.parse (remote.authorizationUrl state) = .ok url ∧
      { url with query := remote.authUrl.query } = remote.authUrl ∧
      url.pairs = remote.authUrl.pairs ++ remote.authorizationPairs state :=
  ⟨_, (web.withPairs _).parse_text, rfl, Url.pairs_withPairs _ _⟩

private theorem exists_exchangesBy (sendable : isSendable remote.tokenUrl = true) (code : Text) :
    ∃ request, remote.ExchangesBy code request ∧
      request.method = "POST".toList ∧ request.url = remote.tokenUrl ∧
      request.contentType = some "application/x-www-form-urlencoded".toList ∧
      Form.decode request.body = remote.tokenPairs code := by
  obtain ⟨request, made, -, place, goesOut⟩ := redeemsAt_own_iff.2 sendable
  refine ⟨request, ?_, ?_⟩
  · intro network
    unfold exchangeCode
    rw [made]
    simp only [bind, Except.bind]
    rw [goesOut network]
    rfl
  · unfold tokenRequest at made
    split at made
    · cases made
    · cases made
      exact ⟨rfl, rfl, rfl, Form.decode_encode _⟩

private theorem exchangeCode_of_not_sendable (unsendable : isSendable remote.tokenUrl = false)
    (code : Text) (network other : Network) :
    remote.exchangeCode network code = remote.exchangeCode other code := by
  cases made : remote.tokenRequest code with
  | error failure =>
    unfold exchangeCode
    rw [made]
    rfl
  | ok request =>
    have place := tokenUrl_of_tokenRequest made
    have unsent : ∀ network, send network request = none := by
      intro network
      unfold send
      rw [place, unsendable]
      rfl
    unfold exchangeCode
    rw [made]
    simp only [bind, Except.bind, unsent]

end Remote

section Configured

variable {config : Config} {redirectUrl : Url}

private theorem authorizationPairs_withEndpoints (accepted : config.validate = .ok ())
    (authUrl tokenUrl : Url) (state : Text) :
    (withEndpoints config redirectUrl authUrl tokenUrl).authorizationPairs state =
      loginPairs config redirectUrl state := by
  have present : (Text.join [' '] config.scopes).isEmpty = false := by
    rw [List.isEmpty_eq_false_iff]
    exact Text.join_entries_ne_nil (Config.scopes_ne_nil_of_validate accepted)
  show _ ++ (if (Text.join [' '] config.scopes).isEmpty then _ else _) ++ _ = _
  rw [present]
  rfl

private theorem tells_withEndpoints (accepted : config.validate = .ok ()) {authUrl : Url}
    (canonical : authUrl.IsCanonical) (tokenUrl : Url) :
    (withEndpoints config redirectUrl authUrl tokenUrl).Tells config redirectUrl where
  login state := by
    let remote := withEndpoints config redirectUrl authUrl tokenUrl
    have own : remote.authUrl.IsCanonical := canonical
    obtain ⟨url, parsed, unchanged, pairs⟩ := exists_parse_authorizationUrl own state
    rw [authorizationPairs_withEndpoints accepted] at pairs
    have names : ((loginPairs config redirectUrl state).map (·.1)).Nodup := by
      simp [loginPairs]
    exact ⟨names, url, parsed, unchanged, pairs⟩
  redemption sendable := exists_exchangesBy sendable
  silence := exchangeCode_of_not_sendable

/-- **What a provider reads in the messages of a login is what was configured.** An accepted
configuration has a provider if both login endpoints can be read as they stand. If the authorization
endpoint is a URL of the web, the provider gets the pairs of a login behind those that the endpoint
has itself, and the code of a login with the same callback URL. Each of them reads as it was given,
whatever characters it holds. -/
theorem provider_reads_configuration (accepted : config.validate = .ok ()) :
    ∃ redirectUrl, config.effectiveRedirectUrl = .ok redirectUrl ∧
      (∀ authUrl tokenUrl, (∃ remote, ofConfig config = .ok remote ∧ remote.authUrl = authUrl ∧
          remote.tokenUrl = tokenUrl) ↔
        Url.parse config.authUrl = .ok authUrl ∧ Url.parse config.tokenUrl = .ok tokenUrl) ∧
      ∀ remote, ofConfig config = .ok remote -> remote.authUrl.IsWeb ->
        remote.Tells config redirectUrl := by
  obtain ⟨redirectUrl, -, -, -, effective, -⟩ := exists_of_validate accepted
  refine ⟨redirectUrl, effective, ?_, ?_⟩
  · intro authUrl tokenUrl
    rw [ofConfig_eq_ok_iff effective, endpoint_eq_ok_iff, endpoint_eq_ok_iff]
  · intro remote made web
    obtain ⟨authRead, tokenRead⟩ := (ofConfig_eq_ok_iff effective).1 ⟨remote, made, rfl, rfl⟩
    have shape : remote = withEndpoints config redirectUrl remote.authUrl remote.tokenUrl :=
      Except.ok.inj (made.symm.trans (ofConfig_of_endpoints effective authRead tokenRead))
    have canonical := web.canonical (endpoint_eq_ok_iff.1 authRead)
    rw [shape]
    exact tells_withEndpoints accepted canonical remote.tokenUrl

end Configured

namespace Sample

/-- A configuration with separators in all its texts, and an endpoint that has a query already. -/
def separated : Config where
  redirectUrl := "https://[::1]/auth/callback?a=b&c".toList
  authUrl := " https://[::1]/authorize?tenant=a%26b#top".toList
  tokenUrl := "http://[::1]:8080/token".toList
  userinfoUrl := "https://[::1]/userinfo".toList
  clientId := "id&state=1+2%".toList
  clientSecret := "secret".toList
  scopeList := "openid, e&mail ,".toList
  redirectOrigin := some "http://[::1]:3000".toList

def authorize : Url where
  scheme := "https".toList
  authority := some {
    username := [], password := [], host := .ipv6 [0, 0, 0, 0, 0, 0, 0, 1], port := none }
  path := .segments ["authorize".toList]
  query := some "tenant=a%26b".toList
  fragment := some "top".toList

end Sample

theorem sample_messages :
    Sample.separated.validate = .ok () ∧
      ∃ redirectUrl remote, redirectUrl.text = "http://[::1]:3000/auth/callback?a=b&c".toList ∧
        ofConfig Sample.separated = .ok remote ∧ remote.authUrl = Sample.authorize ∧
        remote.authUrl.IsWeb ∧ isSendable remote.tokenUrl = true ∧
        remote.Tells Sample.separated redirectUrl := by
  have accepted : Sample.separated.validate = .ok () := rfl
  obtain ⟨redirectUrl, effective, provided, reads⟩ := provider_reads_configuration accepted
  have authRead : Url.parse Sample.separated.authUrl = .ok Sample.authorize := rfl
  obtain ⟨tokenUrl, tokenRead, sendable⟩ :
      ∃ url, Url.parse Sample.separated.tokenUrl = .ok url ∧ isSendable url = true :=
    ⟨_, rfl, by decide⟩
  obtain ⟨remote, made, authUrl, rfl⟩ := (provided _ _).2 ⟨authRead, tokenRead⟩
  have web : remote.authUrl.IsWeb := authUrl ▸ .inr rfl
  have text : Sample.separated.effectiveRedirectUrl.map Url.text =
      .ok "http://[::1]:3000/auth/callback?a=b&c".toList := rfl
  rw [effective] at text
  exact ⟨accepted, redirectUrl, remote, Except.ok.inj text, made, authUrl, web, sendable,
    reads remote made web⟩

end Provider.Remote
end LoginGate
