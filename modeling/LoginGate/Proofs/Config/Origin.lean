import LoginGate.Flow.Paths
import LoginGate.Proofs.Config.Redirect
import LoginGate.Proofs.Url.Web

/-!
Contract: the callback URL of a configuration, with its origin replaced and nothing else.

Owns:
- the port that a URL is reached at, and URLs of one origin;
- replacing the origin of a URL of the web by that of another, which is complete;
- the law that says which callback URL a configuration has.

Does not own: what every replacement keeps (`Proofs.Url.Origin`).

The three parts are replaced one after the other, each unless the URL refuses it. Between URLs of
the web none is refused: both schemes are special, and the text of a parsed host is read as this
host again. The last step drops whatever port is left from before.
-/

namespace LoginGate

namespace Url

/-! ## One origin -/

def writtenPort? (url : Url) : Option Nat := url.authority.bind (·.port)

/-- The port that a URL is reached at: the written one, or else that of its scheme. -/
def port? (url : Url) : Option Nat := url.writtenPort?.or (defaultPort? url.scheme)

structure SameOrigin (left right : Url) : Prop where
  scheme : left.scheme = right.scheme
  host : left.host? = right.host?
  port : left.writtenPort? = right.writtenPort?

theorem SameOrigin.port?_eq {left right : Url} (same : left.SameOrigin right) :
    left.port? = right.port? := by
  unfold port?
  rw [same.port, same.scheme]

/-! ## Between URLs of the web -/

private theorem takesScheme_of_special {url : Url} {scheme : Text}
    (special : isSpecialScheme scheme = true)
    (notFile : isFileScheme scheme = false) (ownSpecial : isSpecialScheme url.scheme = true)
    (hosted : url.host?.isSome = true) : takesScheme url scheme = true := by
  unfold takesScheme
  rw [special, notFile, ownSpecial, hosted]
  rfl

private theorem withHost_of_special {url : Url} {segments : List Text} {text : Text} {host : Host}
    {authority : Authority} (special : isSpecialScheme url.scheme = true)
    (path : url.path = .segments segments) (known : url.authority = some authority)
    (read : specialHost text = .ok host) :
    url.withHost text = .ok { url with authority := some { authority with host } } := by
  unfold withHost
  rw [special, read, known, path]
  rfl

private theorem host?_of_authority {url : Url} {authority : Authority}
    (known : url.authority = some authority) (filled : authority.host ≠ .name []) :
    url.host? = some authority.host := by
  unfold host?
  rw [known, Option.bind_some, if_neg filled]

section Canonical

variable {url origin : Url} {authority other : Authority}

/-- A URL of the web takes scheme, host and port from another one. -/
theorem withOriginOf_eq (canonical : url.IsCanonical) (known : url.authority = some authority)
    (canonicalOrigin : origin.IsCanonical) (owned : origin.authority = some other) :
    url.withOriginOf origin = { url with
      scheme := origin.scheme
      authority := some { authority with host := other.host, port := other.port } } := by
  obtain ⟨ownSpecial, ownNotFile⟩ := canonical.web.special
  obtain ⟨special, notFile⟩ := canonicalOrigin.web.special
  obtain ⟨segments, path, -⟩ := canonical.path
  have sound := (canonical.sound.authority authority known).1
  have soundOther := (canonicalOrigin.sound.authority other owned).1
  have filled := soundOther.hosted special notFile
  have hosted : url.host? = some authority.host :=
    host?_of_authority known (sound.hosted ownSpecial ownNotFile)
  have takes : takesScheme url origin.scheme = true :=
    takesScheme_of_special special notFile ownSpecial (by rw [hosted]; rfl)
  let schemed : Url := { url with
    scheme := origin.scheme
    authority := some (authority.withoutDefaultPort origin.scheme) }
  have withScheme : url.withScheme origin.scheme = schemed := by
    unfold Url.withScheme
    rw [if_pos takes, hosted, notFile, known]
    rfl
  have read : specialHost other.host.text = .ok other.host := by
    have again := soundOther.host filled
    unfold readHost at again
    rwa [if_pos special] at again
  let rehosted : Url := { schemed with
    authority := some { authority.withoutDefaultPort origin.scheme with host := other.host } }
  have withHost : schemed.withHost other.host.text = .ok rehosted :=
    withHost_of_special special path rfl read
  have hostedAgain : rehosted.host? = some other.host := if_neg filled
  -- A port that was read is written, so the last step leaves it as it is.
  have stays : other.port.bind (writtenPort rehosted.scheme) = other.port :=
    canonicalOrigin.port other owned
  have withPort : rehosted.withPort other.port = { url with
      scheme := origin.scheme
      authority := some { authority with host := other.host, port := other.port } } := by
    unfold Url.withPort
    rw [hostedAgain, show isFileScheme rehosted.scheme = false from notFile, stays]
    rfl
  unfold withOriginOf
  rw [withScheme, host?_of_authority owned filled]
  dsimp only
  rw [withHost, owned]
  exact withPort

/-- A URL of the web has the origin of another one, once this has replaced its own. -/
theorem sameOrigin_withOriginOf (canonical : url.IsCanonical)
    (canonicalOrigin : origin.IsCanonical) : (url.withOriginOf origin).SameOrigin origin := by
  obtain ⟨authority, known, -⟩ := canonical.exists_authority
  obtain ⟨other, owned, sound⟩ := canonicalOrigin.exists_authority
  obtain ⟨special, notFile⟩ := canonicalOrigin.web.special
  have filled := sound.hosted special notFile
  rw [withOriginOf_eq canonical known canonicalOrigin owned]
  constructor
  · rfl
  · rw [host?_of_authority owned filled]
    exact if_neg filled
  · unfold writtenPort?
    rw [owned]
    rfl

end Canonical
end Url

namespace Config

/-! ## The callback URL -/

/-- **An origin override replaces the origin of the callback URL and nothing else.** With a callback
URL of the web every configuration has an effective one, which differs from it at most in the
origin, and so the paths of the flow do not depend on the override. An override that is a URL of the
web gives its scheme, host and port, also where it writes no port; one that is missing or cannot be
read changes nothing. -/
theorem effectiveRedirectUrl_replaces_origin {config : Config} {redirect : Url}
    (parsed : Url.parse (Text.trimBlank config.redirectUrl) = .ok redirect)
    (web : redirect.IsWeb) :
    ∃ effective, config.effectiveRedirectUrl = .ok effective ∧
      effective.SameButOrigin redirect ∧
      Flow.Paths.ofRedirectUrl effective = Flow.Paths.ofRedirectUrl redirect ∧
      (∀ text origin, config.redirectOrigin = some text ->
        Url.parse (Text.trimBlank text) = .ok origin -> origin.IsWeb ->
          effective.SameOrigin origin ∧ effective.port? = origin.port?) ∧
      ((∀ text, config.redirectOrigin = some text ->
        (Url.parse (Text.trimBlank text)).isOk = false) -> effective = redirect) := by
  have kept := config.sameButOrigin_override redirect
  refine ⟨_, effectiveRedirectUrl_eq_ok_iff.2 ⟨redirect, parsed, rfl⟩, kept, ?_, ?_, ?_⟩
  · unfold Flow.Paths.ofRedirectUrl Url.pathText
    rw [kept.path]
  · intro text origin given read webOrigin
    have overridden : config.override? = some origin :=
      override?_eq_some_iff.2 ⟨text, given, read⟩
    have same := Url.sameOrigin_withOriginOf (web.canonical parsed) (webOrigin.canonical read)
    rw [overridden]
    exact ⟨same, same.port?_eq⟩
  · intro unreadable
    have nothing : config.override? = none := by
      apply Option.eq_none_iff_forall_ne_some.2
      intro origin overridden
      obtain ⟨text, given, read⟩ := override?_eq_some_iff.1 overridden
      have failed := unreadable text given
      rw [read] at failed
      cases failed
    rw [nothing]
    rfl

/-! ## A port that becomes the default one -/

namespace Sample

/-- A callback URL with a port that is the default one of its override's scheme. -/
def overridden : Config where
  redirectUrl := "https://user:word@[::1]:80/auth/callback?a=b#c".toList
  authUrl := "https://[::1]/authorize".toList
  tokenUrl := "https://[::1]/token".toList
  userinfoUrl := "https://[::1]/userinfo".toList
  clientId := "client".toList
  clientSecret := "secret".toList
  scopeList := "openid".toList
  redirectOrigin := some " http://other@[::2]/path".toList

end Sample

theorem sample_effectiveRedirectUrl :
    ∃ redirect origin effective,
      Url.parse (Text.trimBlank Sample.overridden.redirectUrl) = .ok redirect ∧ redirect.IsWeb ∧
      Url.parse "http://other@[::2]/path".toList = .ok origin ∧
      Sample.overridden.effectiveRedirectUrl = .ok effective ∧
      effective.SameButOrigin redirect ∧ effective.SameOrigin origin ∧
      effective.port? = some 80 ∧
      effective.text = "http://user:word@[::2]/auth/callback?a=b#c".toList := by
  obtain ⟨redirect, parsed, web⟩ : ∃ redirect,
      Url.parse (Text.trimBlank Sample.overridden.redirectUrl) = .ok redirect ∧ redirect.IsWeb :=
    ⟨_, rfl, .inr rfl⟩
  obtain ⟨origin, read, webOrigin, port⟩ : ∃ origin,
      Url.parse "http://other@[::2]/path".toList = .ok origin ∧ origin.IsWeb ∧
        origin.port? = some 80 := ⟨_, rfl, .inl rfl, rfl⟩
  obtain ⟨effective, given, kept, -, taken, -⟩ := effectiveRedirectUrl_replaces_origin parsed web
  obtain ⟨same, samePort⟩ := taken _ origin rfl read webOrigin
  have text : Sample.overridden.effectiveRedirectUrl.map Url.text =
      .ok "http://user:word@[::2]/auth/callback?a=b#c".toList := rfl
  rw [given] at text
  exact ⟨redirect, origin, effective, parsed, web, read, given, kept, same, samePort.trans port,
    Except.ok.inj text⟩

end Config
end LoginGate
