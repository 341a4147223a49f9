import LoginGate.Proofs.Environment.Spelling
import LoginGate.Proofs.Environment.Tree
import LoginGate.Proofs.Url.Printable
import LoginGate.Settings

/-!
Contract: what the settings of a server hold of the variables of its environment.

Owns:
- what a reader of a record gives of each setting that stands under the name of a field;
- the settings that are texts, with the names of their variables;
- the law that such a setting is the text of its variable exactly when that keeps its spelling.

Does not own: which texts keep their spelling (`Environment.Spelling`).
-/

namespace LoginGate

namespace Environment

variable {α : Type}

/-- A value is what a reader gives of the setting under a name, if there is one. -/
def Gives (setting : Setting) (name : String) (read : Reader α) (value : α) : Prop :=
  ∀ below, lookup name.toList setting.entries = some below -> read below = .ok value

private theorem settings_of_fields {name : String} {count : Nat} {setting : Setting}
    {given : Fields}
    (isRecord : fields name count setting = .ok given) : given.settings = setting := by
  unfold fields at isRecord
  split at isRecord
  · cases isRecord
    rfl
  · cases isRecord
    rfl
  · cases isRecord

namespace Fields

variable {given : Fields} {setting : Setting} {name : String} {position : Nat} {read : Reader α}
  {found : Option α}

private theorem exists_of_read? (isRecord : given.settings = setting)
    (done : given.read? name position read = .ok found) {below : Setting}
    (present : lookup name.toList setting.entries = some below) :
    ∃ value, read below = .ok value ∧ found = some value := by
  subst isRecord
  unfold read? at done
  split at done
  · rename_i items shape
    rw [shape] at present
    cases present
  · rw [present] at done
    dsimp only at done
    cases result : read below with
    | error cause =>
      rw [result] at done
      cases done
    | ok value =>
      rw [result] at done
      cases done
      exact ⟨value, rfl, rfl⟩

private theorem eq_some_of_require {value : α}
    (done : given.require name position found = .ok value) :
    found = some value := by
  unfold require at done
  split at done
  · cases done
    rfl
  · split at done <;> cases done

private theorem gives_of_require {value : α} (isRecord : given.settings = setting)
    (done : given.read? name position read = .ok found)
    (required : given.require name position found = .ok value) : Gives setting name read value := by
  intro below present
  obtain ⟨other, isRead, same⟩ := exists_of_read? isRecord done present
  rw [eq_some_of_require required] at same
  cases same
  exact isRead

private theorem gives_of_getD {default : α} (isRecord : given.settings = setting)
    (done : given.read? name position read = .ok found) :
    Gives setting name read (found.getD default) := by
  intro below present
  obtain ⟨value, isRead, rfl⟩ := exists_of_read? isRecord done present
  exact isRead

private theorem gives_of_join {read : Reader (Option α)} {found : Option (Option α)}
    (isRecord : given.settings = setting)
    (done : given.read? name position read = .ok found) : Gives setting name read found.join := by
  intro below present
  obtain ⟨value, isRead, rfl⟩ := exists_of_read? isRecord done present
  exact isRead

end Fields
end Environment

namespace Settings

open Environment

/-! ## Records -/

/-- What a configuration holds of the settings it is read from. -/
structure ConfigOf (setting : Setting) (config : Config) : Prop where
  redirectUrl : Gives setting "redirect_url" readText config.redirectUrl
  authUrl : Gives setting "auth_url" readText config.authUrl
  tokenUrl : Gives setting "token_url" readText config.tokenUrl
  userinfoUrl : Gives setting "userinfo_url" readText config.userinfoUrl
  clientId : Gives setting "client_id" readText config.clientId
  clientSecret : Gives setting "client_secret" readText config.clientSecret
  scopeList : Gives setting "scopes" readText config.scopeList
  redirectOrigin : Gives setting "redirect_origin" (readOptional readText) config.redirectOrigin

private theorem configOf_of_readConfig {setting : Setting} {config : Config}
    (done : readConfig setting = .ok config) : ConfigOf setting config := by
  obtain ⟨given, isRecord, done⟩ := of_bind_eq_ok done
  have isRecord := settings_of_fields isRecord
  obtain ⟨_, redirectUrl, done⟩ := of_bind_eq_ok done
  obtain ⟨_, authUrl, done⟩ := of_bind_eq_ok done
  obtain ⟨_, tokenUrl, done⟩ := of_bind_eq_ok done
  obtain ⟨_, userinfoUrl, done⟩ := of_bind_eq_ok done
  obtain ⟨_, clientId, done⟩ := of_bind_eq_ok done
  obtain ⟨_, clientSecret, done⟩ := of_bind_eq_ok done
  obtain ⟨_, scopeList, done⟩ := of_bind_eq_ok done
  obtain ⟨_, redirectOrigin, done⟩ := of_bind_eq_ok done
  obtain ⟨_, requiredRedirectUrl, done⟩ := of_bind_eq_ok done
  obtain ⟨_, requiredAuthUrl, done⟩ := of_bind_eq_ok done
  obtain ⟨_, requiredTokenUrl, done⟩ := of_bind_eq_ok done
  obtain ⟨_, requiredUserinfoUrl, done⟩ := of_bind_eq_ok done
  obtain ⟨_, requiredClientId, done⟩ := of_bind_eq_ok done
  obtain ⟨_, requiredClientSecret, done⟩ := of_bind_eq_ok done
  cases done
  exact {
    redirectUrl := Fields.gives_of_require isRecord redirectUrl requiredRedirectUrl
    authUrl := Fields.gives_of_require isRecord authUrl requiredAuthUrl
    tokenUrl := Fields.gives_of_require isRecord tokenUrl requiredTokenUrl
    userinfoUrl := Fields.gives_of_require isRecord userinfoUrl requiredUserinfoUrl
    clientId := Fields.gives_of_require isRecord clientId requiredClientId
    clientSecret := Fields.gives_of_require isRecord clientSecret requiredClientSecret
    scopeList := Fields.gives_of_getD isRecord scopeList
    redirectOrigin := Fields.gives_of_join isRecord redirectOrigin }

structure KeysOf (setting : Setting) (keys : Session.Keys) : Prop where
  identity : Gives setting "identity" readText keys.identity
  email : Gives setting "email" readText keys.email
  token : Gives setting "token" readText keys.token

private theorem keysOf_of_readKeys {setting : Setting} {keys : Session.Keys}
    (done : readKeys setting = .ok keys) : KeysOf setting keys := by
  obtain ⟨given, isRecord, done⟩ := of_bind_eq_ok done
  have isRecord := settings_of_fields isRecord
  obtain ⟨_, identity, done⟩ := of_bind_eq_ok done
  obtain ⟨_, email, done⟩ := of_bind_eq_ok done
  obtain ⟨_, token, done⟩ := of_bind_eq_ok done
  cases done
  exact {
    identity := Fields.gives_of_getD isRecord identity
    email := Fields.gives_of_getD isRecord email
    token := Fields.gives_of_getD isRecord token }

structure SessionOf (setting : Setting) (session : Session.Settings) : Prop where
  cookieName : Gives setting "cookie_name" readText session.cookieName
  durationMinutes : Gives setting "duration_minutes" readSigned session.durationMinutes
  secureCookies : Gives setting "secure_cookies" readBool session.secureCookies
  cleanupIntervalSeconds :
    Gives setting "cleanup_interval_seconds" readUnsigned session.cleanupIntervalSeconds
  keys : Gives setting "keys" readKeys session.keys

private theorem sessionOf_of_readSession {setting : Setting} {session : Session.Settings}
    (done : readSession setting = .ok session) : SessionOf setting session := by
  obtain ⟨given, isRecord, done⟩ := of_bind_eq_ok done
  have isRecord := settings_of_fields isRecord
  obtain ⟨_, cookieName, done⟩ := of_bind_eq_ok done
  obtain ⟨_, durationMinutes, done⟩ := of_bind_eq_ok done
  obtain ⟨_, secureCookies, done⟩ := of_bind_eq_ok done
  obtain ⟨_, cleanupIntervalSeconds, done⟩ := of_bind_eq_ok done
  obtain ⟨_, keys, done⟩ := of_bind_eq_ok done
  cases done
  exact {
    cookieName := Fields.gives_of_getD isRecord cookieName
    durationMinutes := Fields.gives_of_getD isRecord durationMinutes
    secureCookies := Fields.gives_of_getD isRecord secureCookies
    cleanupIntervalSeconds := Fields.gives_of_getD isRecord cleanupIntervalSeconds
    keys := Fields.gives_of_getD isRecord keys }

structure SettingsOf (setting : Setting) (settings : Settings) : Prop where
  listenAddress : Gives setting "listen_addr" readText settings.listenAddress
  session : Gives setting "session" readSession settings.session
  provider : Gives setting "oauth2" (readOptional readConfig) settings.provider
  adminList : Gives setting "admins" readText settings.adminList
  httpTimeoutSeconds : Gives setting "http_timeout_seconds" readUnsigned settings.httpTimeoutSeconds

private theorem settingsOf_of_read {setting : Setting} {settings : Settings}
    (done : read setting = .ok settings) : SettingsOf setting settings := by
  obtain ⟨given, isRecord, done⟩ := of_bind_eq_ok done
  have isRecord := settings_of_fields isRecord
  obtain ⟨_, listenAddress, done⟩ := of_bind_eq_ok done
  obtain ⟨_, session, done⟩ := of_bind_eq_ok done
  obtain ⟨_, provider, done⟩ := of_bind_eq_ok done
  obtain ⟨_, adminList, done⟩ := of_bind_eq_ok done
  obtain ⟨_, httpTimeoutSeconds, done⟩ := of_bind_eq_ok done
  cases done
  exact {
    listenAddress := Fields.gives_of_getD isRecord listenAddress
    session := Fields.gives_of_getD isRecord session
    provider := Fields.gives_of_join isRecord provider
    adminList := Fields.gives_of_getD isRecord adminList
    httpTimeoutSeconds := Fields.gives_of_getD isRecord httpTimeoutSeconds }

end Settings

inductive TextSetting where
  | listenAddress
  | admins
  | cookieName
  | identityKey
  | emailKey
  | tokenKey
  | redirectUrl
  | authUrl
  | tokenUrl
  | userinfoUrl
  | clientId
  | clientSecret
  | scopes
  | redirectOrigin
deriving DecidableEq, Repr

namespace TextSetting

open Environment

def key : TextSetting -> Text
  | listenAddress => "LISTEN_ADDR".toList
  | admins => "ADMINS".toList
  | cookieName => "SESSION__COOKIE_NAME".toList
  | identityKey => "SESSION__KEYS__IDENTITY".toList
  | emailKey => "SESSION__KEYS__EMAIL".toList
  | tokenKey => "SESSION__KEYS__TOKEN".toList
  | redirectUrl => "OAUTH2__REDIRECT_URL".toList
  | authUrl => "OAUTH2__AUTH_URL".toList
  | tokenUrl => "OAUTH2__TOKEN_URL".toList
  | userinfoUrl => "OAUTH2__USERINFO_URL".toList
  | clientId => "OAUTH2__CLIENT_ID".toList
  | clientSecret => "OAUTH2__CLIENT_SECRET".toList
  | scopes => "OAUTH2__SCOPES".toList
  | redirectOrigin => "OAUTH2__REDIRECT_ORIGIN".toList

def names : TextSetting -> List Text
  | listenAddress => ["listen_addr".toList]
  | admins => ["admins".toList]
  | cookieName => ["session".toList, "cookie_name".toList]
  | identityKey => ["session".toList, "keys".toList, "identity".toList]
  | emailKey => ["session".toList, "keys".toList, "email".toList]
  | tokenKey => ["session".toList, "keys".toList, "token".toList]
  | redirectUrl => ["oauth2".toList, "redirect_url".toList]
  | authUrl => ["oauth2".toList, "auth_url".toList]
  | tokenUrl => ["oauth2".toList, "token_url".toList]
  | userinfoUrl => ["oauth2".toList, "userinfo_url".toList]
  | clientId => ["oauth2".toList, "client_id".toList]
  | clientSecret => ["oauth2".toList, "client_secret".toList]
  | scopes => ["oauth2".toList, "scopes".toList]
  | redirectOrigin => ["oauth2".toList, "redirect_origin".toList]

def value? (setting : TextSetting) (settings : Settings) : Option Text :=
  match setting with
  | listenAddress => some settings.listenAddress
  | admins => some settings.adminList
  | cookieName => some settings.session.cookieName
  | identityKey => some settings.session.keys.identity
  | emailKey => some settings.session.keys.email
  | tokenKey => some settings.session.keys.token
  | redirectUrl => settings.provider.map (·.redirectUrl)
  | authUrl => settings.provider.map (·.authUrl)
  | tokenUrl => settings.provider.map (·.tokenUrl)
  | userinfoUrl => settings.provider.map (·.userinfoUrl)
  | clientId => settings.provider.map (·.clientId)
  | clientSecret => settings.provider.map (·.clientSecret)
  | scopes => settings.provider.map (·.scopeList)
  | redirectOrigin => settings.provider.bind (·.redirectOrigin)

private theorem path?_key (setting : TextSetting) :
    path? setting.key = some (entrySteps setting.names) := by
  cases setting <;> decide +kernel

/-- What is read of a value that stands under the name of a field. -/
theorem eq_toText {tree : Setting} {name : String} {text : Text} {value : Scalar}
    (gives : Gives tree name readText text)
    (stands : tree.under? [name.toList] = some (.scalar value)) : text = value.toText := by
  obtain ⟨below, present, same⟩ := Option.bind_eq_some_iff.1 stands
  cases same
  have isRead := gives _ present
  cases isRead
  rfl

section Records

variable {tree : Setting} {settings : Settings} {name : String} {value : Scalar}
  (record : Settings.SettingsOf tree settings)

include record

private theorem session_eq_toText {field : Session.Settings -> Text}
    (gives : ∀ below session, Settings.SessionOf below session ->
      Gives below name readText (field session))
    (stands : tree.under? ["session".toList, name.toList] = some (.scalar value)) :
    field settings.session = value.toText := by
  obtain ⟨below, present, stands⟩ := Option.bind_eq_some_iff.1 stands
  have session := Settings.sessionOf_of_readSession (record.session below present)
  exact eq_toText (gives below _ session) stands

private theorem keys_eq_toText {field : Session.Keys -> Text}
    (gives : ∀ below keys, Settings.KeysOf below keys -> Gives below name readText (field keys))
    (stands : tree.under? ["session".toList, "keys".toList, name.toList] = some (.scalar value)) :
    field settings.session.keys = value.toText := by
  obtain ⟨below, present, stands⟩ := Option.bind_eq_some_iff.1 stands
  have session := Settings.sessionOf_of_readSession (record.session below present)
  obtain ⟨below, present, stands⟩ := Option.bind_eq_some_iff.1 stands
  have keys := Settings.keysOf_of_readKeys (session.keys below present)
  exact eq_toText (gives below _ keys) stands

/-- A provider is configured when anything stands in its record. -/
theorem exists_config
    (stands : tree.under? ["oauth2".toList, name.toList] = some (.scalar value)) :
    ∃ below config, settings.provider = some config ∧ Settings.ConfigOf below config ∧
      below.under? [name.toList] = some (.scalar value) := by
  obtain ⟨below, present, stands⟩ := Option.bind_eq_some_iff.1 stands
  have isRead := record.provider below present
  unfold readOptional at isRead
  split at isRead
  · cases stands
  · cases done : Settings.readConfig below with
    | error cause =>
      rw [done] at isRead
      cases isRead
    | ok config =>
      rw [done] at isRead
      have provided : some config = settings.provider := Except.ok.inj isRead
      exact ⟨below, config, provided.symm, Settings.configOf_of_readConfig done, stands⟩

private theorem provider_eq_toText {field : Config -> Text}
    (gives : ∀ below config, Settings.ConfigOf below config ->
      Gives below name readText (field config))
    (stands : tree.under? ["oauth2".toList, name.toList] = some (.scalar value)) :
    settings.provider.map field = some value.toText := by
  obtain ⟨below, config, provided, fields, stands⟩ := exists_config record stands
  rw [provided]
  exact congrArg some (eq_toText (gives below config fields) stands)

private theorem redirectOrigin_eq_toText
    (stands : tree.under? ["oauth2".toList, "redirect_origin".toList] = some (.scalar value)) :
    settings.provider.bind (·.redirectOrigin) = some value.toText := by
  obtain ⟨below, config, provided, fields, stands⟩ := exists_config record stands
  obtain ⟨setting, present, same⟩ := Option.bind_eq_some_iff.1 stands
  cases same
  have isRead : some value.toText = config.redirectOrigin :=
    Except.ok.inj (fields.redirectOrigin _ present)
  rw [provided, Option.bind_some, isRead]

end Records

/-- A text setting is the text of the value that stands at its path. -/
theorem value?_of_read (setting : TextSetting) {tree : Setting} {settings : Settings}
    {value : Scalar} (done : Settings.read tree = .ok settings)
    (stands : tree.under? setting.names = some (.scalar value)) :
    setting.value? settings = some value.toText := by
  have record := Settings.settingsOf_of_read done
  cases setting with
  | listenAddress => exact congrArg some (eq_toText record.listenAddress stands)
  | admins => exact congrArg some (eq_toText record.adminList stands)
  | cookieName => exact congrArg some (session_eq_toText record (fun _ _ => (·.cookieName)) stands)
  | identityKey => exact congrArg some (keys_eq_toText record (fun _ _ => (·.identity)) stands)
  | emailKey => exact congrArg some (keys_eq_toText record (fun _ _ => (·.email)) stands)
  | tokenKey => exact congrArg some (keys_eq_toText record (fun _ _ => (·.token)) stands)
  | redirectUrl => exact provider_eq_toText record (fun _ _ => (·.redirectUrl)) stands
  | authUrl => exact provider_eq_toText record (fun _ _ => (·.authUrl)) stands
  | tokenUrl => exact provider_eq_toText record (fun _ _ => (·.tokenUrl)) stands
  | userinfoUrl => exact provider_eq_toText record (fun _ _ => (·.userinfoUrl)) stands
  | clientId => exact provider_eq_toText record (fun _ _ => (·.clientId)) stands
  | clientSecret => exact provider_eq_toText record (fun _ _ => (·.clientSecret)) stands
  | scopes => exact provider_eq_toText record (fun _ _ => (·.scopeList)) stands
  | redirectOrigin => exact redirectOrigin_eq_toText record stands

/-- **What a text setting holds of its variable.** For every environment that loads, and every
setting whose path a variable spells, if no later variable touches that path: the setting holds the
value of the variable as it is written again, and this is the text of the variable exactly if the
text keeps its spelling. A text that looks like neither a truth value nor a number is always kept. A
number that is kept is in plain form, or the name of a number that is not finite. -/
theorem value?_of_ofVariables {before after : List (Text × Text)} {key value : Text}
    {settings : Settings}
    (loaded : Settings.ofVariables (before ++ (key, value) :: after) = .ok settings)
    (setting : TextSetting) (spelled : path? key = path? setting.key)
    (last : ∀ entry ∈ after, ¬ Touches entry.1 setting.names) :
    setting.value? settings = some (Scalar.ofText value).toText ∧
    (setting.value? settings = some value ↔ KeepsSpelling value) ∧
    (¬ IsTruthWord value -> ¬ Decimal.Extended.IsNumeral value ->
      setting.value? settings = some value) ∧
    (Decimal.Extended.IsNumeral value -> setting.value? settings = some value ->
      Decimal.IsPlain value ∨ value ∈ ["inf".toList, "-inf".toList, "NaN".toList]) := by
  rw [path?_key] at spelled
  have holds := value?_of_read setting loaded (under?_ofVariables spelled last)
  have kept : setting.value? settings = some value ↔ KeepsSpelling value := by
    rw [holds, Option.some_inj]
    exact toText_ofText_eq_iff
  refine ⟨holds, kept, ?_, ?_⟩
  · intro notWord notNumeral
    exact kept.2 (.text notWord notNumeral)
  · intro numeral same
    exact (kept.1 same).plain numeral

/-! ## A secret that looks like a number -/

namespace Sample

def environment : List (Text × Text) := [
  (redirectUrl.key, "https://[::1]/auth/callback".toList),
  (authUrl.key, "https://[::1]/authorize".toList),
  (tokenUrl.key, "https://[::1]/token".toList),
  (userinfoUrl.key, "https://[::1]/userinfo".toList),
  (clientId.key, "client".toList),
  (clientSecret.key, "0123".toList)]

private theorem loads : (Settings.ofVariables environment).isOk = true := by decide +kernel

end Sample

theorem sample_value?_clientId :
    ∃ settings, Settings.ofVariables Sample.environment = .ok settings ∧
      clientId.value? settings = some "client".toList := by
  have loads := Sample.loads
  cases loaded : Settings.ofVariables Sample.environment with
  | error cause =>
    rw [loaded] at loads
    cases loads
  | ok settings =>
    have shape : Sample.environment = Sample.environment.take 4 ++
        (clientId.key, "client".toList) :: [(clientSecret.key, "0123".toList)] := rfl
    have last : ∀ entry ∈ [(clientSecret.key, "0123".toList)],
        ¬ Touches entry.1 clientId.names := by
      simp only [List.forall_mem_singleton]
      rintro ⟨steps, spelled, near⟩
      rw [path?_key] at spelled
      cases spelled
      exact near fun _ different => absurd different (by decide)
    have notWord : ¬ IsTruthWord "client".toList := by
      unfold IsTruthWord
      decide
    have notNumeral : ¬ Decimal.Extended.IsNumeral "client".toList := by
      rw [← Decimal.Extended.read?_isSome_iff]
      decide
    rw [shape] at loaded
    have kept := (value?_of_ofVariables loaded clientId rfl last).2.2.1
    exact ⟨settings, rfl, kept notWord notNumeral⟩

/-- The secret `0123` loses its zero. -/
theorem clientSecret_respelled :
    ((Settings.ofVariables Sample.environment).toOption.bind clientSecret.value?) =
      some "123".toList := by
  decide +kernel

end TextSetting
end LoginGate
