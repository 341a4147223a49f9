import LoginGate.Config
import LoginGate.Proofs.Text.Trim
import LoginGate.Proofs.Url.Origin

/-!
Contract: the callback URL of a configuration, as it is given and as it is in effect.

Owns:
- fields that hold a URL, which are never blank;
- the URL that overrides the origin of the callback URL;
- when there is an effective callback URL, and which one.

Does not own: the origin of the effective one (`Proofs.Config.Origin`).
-/

namespace LoginGate.Config

/-- A text of white space is no URL, so a field is only refused if its trimmed text is none. -/
theorem requireUrl_eq_ok_iff {field value : Text} {url : Url} :
    requireUrl field value = .ok url ↔ Url.parse (Text.trimBlank value) = .ok url := by
  constructor
  · intro required
    obtain ⟨_, -, parsed⟩ := of_bind_eq_ok required
    split at parsed
    · rename_i found
      cases parsed
      exact found
    · cases parsed
  · intro parsed
    have filled : Text.isBlank value = false := by
      apply Bool.eq_false_iff.2
      intro blank
      rw [Text.trimBlank_of_isBlank blank] at parsed
      cases parsed
    have present : requireText field value = .ok () := by
      unfold requireText
      rw [filled]
      rfl
    unfold requireUrl
    rw [present, parsed]
    rfl

section Override

variable {config : Config}

/-- The URL whose origin replaces that of the callback URL, if one is given that can be read. -/
def override? (config : Config) : Option Url :=
  config.redirectOrigin.bind fun text => (Url.parse (Text.trimBlank text)).toOption

theorem override?_eq_some_iff {origin : Url} :
    config.override? = some origin ↔ ∃ text, config.redirectOrigin = some text ∧
      Url.parse (Text.trimBlank text) = .ok origin := by
  unfold override?
  rw [Option.bind_eq_some_iff]
  refine exists_congr fun text => and_congr_right fun _ => ?_
  cases Url.parse (Text.trimBlank text) with
  | error cause =>
    constructor
    · rintro ⟨⟩
    · rintro ⟨⟩
  | ok url =>
    constructor
    · rintro ⟨⟩
      rfl
    · rintro ⟨⟩
      rfl

/-- The effective callback URL is the given one with the origin of the override, if there is one. -/
theorem effectiveRedirectUrl_eq_ok_iff {url : Url} :
    config.effectiveRedirectUrl = .ok url ↔
      ∃ redirect, Url.parse (Text.trimBlank config.redirectUrl) = .ok redirect ∧
        (config.override?.map redirect.withOriginOf).getD redirect = url := by
  have replaced (redirect : Url)
      (required : requireUrl "redirect_url".toList config.redirectUrl = .ok redirect) :
      config.effectiveRedirectUrl =
        .ok ((config.override?.map redirect.withOriginOf).getD redirect) := by
    unfold effectiveRedirectUrl override?
    rw [required]
    cases config.redirectOrigin with
    | none => rfl
    | some text =>
      rw [Option.map_some, Option.bind_some]
      cases Url.parse (Text.trimBlank text) <;> rfl
  constructor
  · intro effective
    obtain ⟨redirect, required, -⟩ := of_bind_eq_ok effective
    rw [replaced redirect required] at effective
    exact ⟨redirect, requireUrl_eq_ok_iff.1 required, Except.ok.inj effective⟩
  · rintro ⟨redirect, parsed, rfl⟩
    exact replaced redirect (requireUrl_eq_ok_iff.2 parsed)

/-- At most the origin is not that of the given callback URL. -/
theorem sameButOrigin_override (config : Config) (redirect : Url) :
    ((config.override?.map redirect.withOriginOf).getD redirect).SameButOrigin redirect := by
  cases config.override? with
  | none => exact .refl redirect
  | some origin => exact Url.sameButOrigin_withOriginOf redirect origin

end Override

end LoginGate.Config
