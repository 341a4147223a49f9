import LoginGate.Admins
import LoginGate.Proofs.Config.Redirect
import LoginGate.Server.Setup

/-!
Contract: the paths of a configured login flow, and what cutting them off a location leaves.

Owns:
- paths that stand side by side in one directory and hold nothing that a path encodes;
- the law that the paths of a configuration are such paths when they are rooted;
- the ways in which a location loses a path of the flow.

Does not own: what sanitizing does to a location before (`Redirect.Destination`).
-/

namespace LoginGate

/-! ## Where the paths come from -/

theorem Config.plain_of_effectiveRedirectUrl {config : Config} {url : Url}
    (effective : config.effectiveRedirectUrl = .ok url) : url.path.Plain := by
  obtain ⟨redirect, parsed, rfl⟩ := effectiveRedirectUrl_eq_ok_iff.1 effective
  rw [(config.sameButOrigin_override redirect).path]
  exact (Url.plain_of_parse parsed).1

namespace Flow.Paths

theorem mem_handled_iff {paths : Paths} {path : Text} :
    path ∈ paths.handled ↔ path = paths.callback ∨ path = paths.login ∨ path = paths.logout := by
  unfold handled
  rw [Text.mem_sortedSet]
  simp

/-- Paths that stand in one directory. -/
def Siblings (paths : Paths) : Prop :=
  ∃ directory, ∀ path ∈ paths.handled, ∃ name, '/' ∉ name ∧ path = directory ++ '/' :: name

/-- The paths of a flow that is served under rooted paths. -/
structure Configured (paths : Paths) : Prop where
  siblings : paths.Siblings
  plain : ∀ path ∈ paths.handled, path.Avoids Percent.path
  /-- Only the callback can be the root. -/
  root : ['/'] ∈ paths.handled -> paths.callback = ['/']

/-- The directory of a rooted callback, in which login and logout stand too. -/
theorem exists_directory {url : Url} (rooted : url.pathText.head? = some '/') :
    ∃ directory name, '/' ∉ name ∧ url.pathText = directory ++ '/' :: name ∧
      ofRedirectUrl url = {
        callback := directory ++ '/' :: name, login := directory ++ "/login".toList
        logout := directory ++ "/logout".toList } := by
  cases cut : Text.cutLast '/' url.pathText with
  | none =>
    have missing : '/' ∉ url.pathText.reverse := Text.cut_eq_none_iff.1 (by
      simpa [Text.cutLast] using cut)
    exact absurd (List.mem_reverse.2 (List.mem_of_head? rooted)) missing
  | some parts =>
    obtain ⟨directory, name⟩ := parts
    obtain ⟨shape, missing⟩ := Text.cutLast_eq_some_iff.1 cut
    refine ⟨directory, name, missing, shape, ?_⟩
    unfold ofRedirectUrl
    dsimp only
    rw [cut, shape]
    rfl

theorem siblings_ofRedirectUrl {url : Url} (rooted : url.pathText.head? = some '/') :
    (ofRedirectUrl url).Siblings := by
  obtain ⟨directory, name, missing, -, paths⟩ := exists_directory rooted
  refine ⟨directory, fun path member => ?_⟩
  rw [paths] at member
  rcases mem_handled_iff.1 member with rfl | rfl | rfl
  · exact ⟨name, missing, rfl⟩
  · exact ⟨"login".toList, by decide, rfl⟩
  · exact ⟨"logout".toList, by decide, rfl⟩

/-- Login and logout stand beside a rooted callback. -/
theorem configured_ofRedirectUrl {url : Url} (plain : url.path.Plain)
    (rooted : url.pathText.head? = some '/') : (ofRedirectUrl url).Configured := by
  have avoids := plain.avoids rooted
  have siblings := siblings_ofRedirectUrl rooted
  obtain ⟨directory, name, -, shape, paths⟩ := exists_directory rooted
  have directoryAvoids : directory.Avoids Percent.path := by
    intro c member
    apply avoids c
    show c ∈ url.pathText
    rw [shape]
    exact List.mem_append_left _ member
  rw [paths] at siblings ⊢
  refine ⟨siblings, ?_, ?_⟩
  · intro path member
    rcases mem_handled_iff.1 member with rfl | rfl | rfl
    · rw [← shape]
      exact avoids
    · exact Text.avoids_append directoryAvoids (Text.avoids_of_any_eq_false (by decide))
    · exact Text.avoids_append directoryAvoids (Text.avoids_of_any_eq_false (by decide))
  · intro member
    rcases mem_handled_iff.1 member with atCallback | atLogin | atLogout
    · exact atCallback.symm
    · have short := congrArg List.length atLogin
      simp at short
    · have short := congrArg List.length atLogout
      simp at short

/-- The paths of a configuration are those of its callback URL. -/
theorem exists_url_of_ofConfig {connect : Config -> Except SetupError Provider} {config : Config}
    {login : Server.Login} (built : Server.Login.ofConfig connect config = .ok login) :
    ∃ url, config.effectiveRedirectUrl = .ok url ∧ login.paths = ofRedirectUrl url := by
  obtain ⟨_, -, afterValidation⟩ := of_bind_eq_ok built
  obtain ⟨url, effective, afterUrl⟩ := of_bind_eq_ok afterValidation
  obtain ⟨provider, -, finished⟩ := of_bind_eq_ok afterUrl
  cases finished
  exact ⟨url, of_mapError_eq_ok effective, rfl⟩

theorem configured_of_ofConfig {connect : Config -> Except SetupError Provider} {config : Config}
    {login : Server.Login} (built : Server.Login.ofConfig connect config = .ok login)
    (rooted : ∀ path ∈ login.paths.handled, path.head? = some '/') : login.paths.Configured := by
  obtain ⟨url, effective, paths⟩ := exists_url_of_ofConfig built
  have callback : url.pathText.head? = some '/' := by
    apply rooted
    rw [paths]
    exact mem_handled_iff.2 (.inl rfl)
  rw [paths]
  exact configured_ofRedirectUrl (Config.plain_of_effectiveRedirectUrl effective) callback

/-! ## Paths at the end of a text -/

/-- Of two paths in one directory, none is the end of the other. -/
theorem Siblings.eq_of_suffix {paths : Paths} (siblings : paths.Siblings) {path other : Text}
    (member : path ∈ paths.handled) (otherMember : other ∈ paths.handled)
    (suffix : path <:+ other) : path = other := by
  obtain ⟨directory, inDirectory⟩ := siblings
  obtain ⟨name, nameBare, rfl⟩ := inDirectory path member
  obtain ⟨otherName, otherBare, rfl⟩ := inDirectory other otherMember
  obtain ⟨before, whole⟩ := suffix
  have cutWhole : Text.cutLast '/' (directory ++ '/' :: otherName) =
      some (before ++ directory, name) :=
    Text.cutLast_eq_some_iff.2 ⟨by rw [← whole, List.append_assoc], nameBare⟩
  have cutOther : Text.cutLast '/' (directory ++ '/' :: otherName) =
      some (directory, otherName) :=
    Text.cutLast_eq_some_iff.2 ⟨rfl, otherBare⟩
  rw [cutWhole] at cutOther
  obtain ⟨-, rfl⟩ := Prod.mk.inj (Option.some.inj cutOther)
  rfl

/-- At most one of the paths is the end of a location. -/
theorem Siblings.eq_of_suffix_of_suffix {paths : Paths} (siblings : paths.Siblings)
    {path other location : Text} (member : path ∈ paths.handled)
    (otherMember : other ∈ paths.handled) (ends : path <:+ location)
    (otherEnds : other <:+ location) : path = other := by
  rcases List.suffix_or_suffix_of_suffix ends otherEnds with shorter | longer
  · exact siblings.eq_of_suffix member otherMember shorter
  · exact (siblings.eq_of_suffix otherMember member longer).symm

/-- A location loses a path of the flow from its end, if it has one there. -/
theorem stripSuffix_cases (paths : Paths) (location : Text) :
    (paths.stripSuffix location = location ∧ ∀ path ∈ paths.handled, ¬ path <:+ location) ∨
      ∃ path ∈ paths.handled, ∃ head, location = head ++ path ∧
        paths.stripSuffix location = if head = [] then ['/'] else head := by
  unfold stripSuffix
  cases found : paths.handled.findSome? fun path => Text.beforeSuffix? path location with
  | none =>
    refine .inl ⟨rfl, ?_⟩
    rintro path member ⟨head, whole⟩
    have missing := List.findSome?_eq_none_iff.1 found path member
    rw [Text.beforeSuffix?_eq_some_iff.2 whole.symm] at missing
    cases missing
  | some head =>
    obtain ⟨path, member, cut⟩ := List.exists_of_findSome?_eq_some found
    refine .inr ⟨path, member, head, Text.beforeSuffix?_eq_some_iff.1 cut, ?_⟩
    cases head with
    | nil => rfl
    | cons c rest => rfl

end Flow.Paths
end LoginGate
