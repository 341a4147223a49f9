import LoginGate.Proofs.Redirect.HostName
import LoginGate.Proofs.Url.Web
import LoginGate.Redirect.Target

/-!
Contract: which URLs a request is redirected to.

Owns:
- the host of a URL of the web, and its path and query, which hold no white space;
- the law that sanitizing keeps path and query of the URLs on the host of the request and nothing of
  all others, whichever way the request spells its host.

Does not own: locations that are no URLs (`Redirect.LocalPath`, `Redirect.Destination`).
-/

namespace LoginGate

/-! ## URLs of the web -/

namespace Url

section Web

variable {text : Text} {url : Url} (parsed : parse text = .ok url) (web : url.IsWeb)
include parsed web

/-- A URL of the web has a host. -/
theorem IsWeb.exists_host : ∃ host, url.host? = some host ∧ host.Written := by
  obtain ⟨special, notFile⟩ := web.special
  obtain ⟨authority, known, sound⟩ := (web.canonical parsed).exists_authority
  refine ⟨authority.host, ?_, sound.written⟩
  unfold host?
  rw [known, Option.bind_some, if_neg (sound.hosted special notFile)]

/-- Path and query of a URL of the web hold no white space. -/
theorem IsWeb.solid_pathAndQuery : ∀ c ∈ url.pathAndQuery, Text.isWhitespace c = false := by
  have solid {excluded : Char -> Bool} (space : excluded ' ' = true)
      (controls : ∀ c, Percent.controls c = true -> excluded c = true) {part : Text}
      (avoids : part.Avoids excluded) : ∀ c ∈ part, Text.isWhitespace c = false := by
    intro c member
    apply Bool.eq_false_iff.2
    intro blank
    have covered : excluded c = true := by
      by_cases isSpace : c = ' '
      · rw [isSpace, space]
      · exact controls c (HostName.controls_of_isWhitespace blank isSpace)
    rw [avoids c member] at covered
    cases covered
  have canonical := web.canonical parsed
  intro c member
  rcases List.mem_append.1 member with inPath | behind
  · exact solid (by decide) (fun _ => Percent.path_of_controls) canonical.avoids_pathText c inPath
  · have avoids : (marked '?' url.query).Avoids Percent.specialQuery :=
      avoids_marked (by decide) canonical.query
    exact solid (by decide) (fun _ => Percent.specialQuery_of_controls) avoids c behind

end Web
end Url

namespace Redirect

/-! ## The law -/

/-- A location that is a URL, once it is trimmed and tabs and line ends are dropped. -/
def Names (location : Text) (url : Url) : Prop :=
  Url.parse (Text.trimBlank (location.filter (! Text.isTabOrNewline ·))) = .ok url

theorem names_of_toOption {location : Text} {url : Url}
    (read : (Url.parse (Text.trimBlank (location.filter (! Text.isTabOrNewline ·)))).toOption =
      some url) : Names location url := by
  unfold Names
  cases parsed : Url.parse (Text.trimBlank (location.filter (! Text.isTabOrNewline ·))) with
  | error cause =>
    rw [parsed] at read
    cases read
  | ok found =>
    rw [parsed] at read
    cases read
    rfl

/-- What is kept of a URL on the own host: path and query after a single slash. -/
def kept (url : Url) : Text := '/' :: url.pathAndQuery.dropWhile isSlash

section Web

variable {location : Text} {url : Url} (names : Names location url) (web : url.IsWeb)
include names web

/-- Sanitizing compares the hosts of the request and of the URL in their comparison form. -/
theorem sanitize_of_names {host : Url.Host} (hosted : url.host? = some host) (requestHost : Text) :
    sanitize requestHost location =
      if HostName.normalize requestHost ≠ [] ∧
          HostName.normalize requestHost = HostName.normalize host.text then kept url
      else ['/'] := by
  have solid := web.solid_pathAndQuery names
  have trimmed : url.pathAndQuery.Trimmed :=
    ⟨fun c first => solid c (List.mem_of_head? first),
      fun c last => solid c (List.mem_of_getLast? last)⟩
  have present : (Text.trimBlank (location.filter (! Text.isTabOrNewline ·))).isEmpty = false := by
    rw [List.isEmpty_eq_false_iff]
    intro nothing
    unfold Names at names
    rw [nothing] at names
    cases names
  have found : candidate requestHost location = (sameHostPath? requestHost url).getD [] := by
    unfold Names at names
    unfold candidate
    dsimp only
    rw [present, names]
    rfl
  unfold sanitize
  rw [found]
  unfold sameHostPath?
  dsimp only
  rw [hosted]
  by_cases empty : HostName.normalize requestHost = []
  · rw [if_pos (by simp [empty]), if_neg (by simp [empty])]
    rfl
  · rw [if_neg (by simp [empty])]
    dsimp only
    by_cases same : HostName.normalize host.text = HostName.normalize requestHost
    · rw [if_pos same, if_pos ⟨empty, same.symm⟩, Option.getD_some, trimmed.trimBlank_eq]
      rfl
    · rw [if_neg same, if_neg fun both => same both.2.symm]
      rfl

/-- **Sanitizing keeps exactly the URLs on the host of the request.** Of a URL of the web it keeps
path and query, with a single slash in front, if its host and that of the request have the same
comparison form and this is not empty; of all other URLs it keeps nothing. So every spelling of the
host of the URL keeps it, unless that host is nothing but dots; and a name with or without a port
keeps it exactly if it is the text of this host up to letter case and dots at the end. -/
theorem sanitize_keeps_same_host :
    ∃ host, url.host? = some host ∧
      (∀ requestHost, sanitize requestHost location =
        if HostName.normalize requestHost ≠ [] ∧
            HostName.normalize requestHost = HostName.normalize host.text then kept url
        else ['/']) ∧
      (∀ requestHost, HostName.Spells host requestHost -> (¬ ∀ c ∈ host.text, c = '.') ->
        sanitize requestHost location = kept url) ∧
      ∀ name port, HostName.IsName name -> HostName.IsPort port ->
        sanitize (name ++ port) location =
          if HostName.bare name ≠ [] ∧ HostName.bare name = HostName.bare host.text then kept url
          else ['/'] := by
  obtain ⟨host, hosted, written⟩ := web.exists_host names
  have law := sanitize_of_names names web hosted
  refine ⟨host, hosted, law, ?_, ?_⟩
  · intro requestHost spells notDots
    have filled := mt (HostName.normalize_text_eq_nil_iff written).1 notDots
    rw [law, spells.normalize_eq written, if_pos ⟨filled, rfl⟩]
  · intro name port isName isPort
    rw [law, HostName.normalize_name isName isPort]
    simp only [HostName.bare_eq_normalize_iff isName written]

end Web

/-- A host that stands only before the `@` is not the host. -/
example : sanitize "a.eu".toList "https://a.eu@b/c".toList = ['/'] := by
  decide +kernel

namespace Sample

def location : Text := " https://ann@B.eu.:8443//a?q=/b#c\n".toList

def url : Url where
  scheme := "https".toList
  authority := some {
    username := "ann".toList, password := [], host := .name "b.eu.".toList
    port := some 8443 }
  path := .segments [[], "a".toList]
  query := some "q=/b".toList
  fragment := some "c".toList

end Sample

theorem sample_sanitize_keeps_same_host :
    Names Sample.location Sample.url ∧ Sample.url.IsWeb ∧
      sanitize "B.eU..:443".toList Sample.location = "/a?q=/b".toList ∧
      sanitize "b.eu.example.org:443".toList Sample.location = ['/'] := by
  have names : Names Sample.location Sample.url := names_of_toOption (by decide +kernel)
  have web : Sample.url.IsWeb := .inr rfl
  obtain ⟨host, hosted, -, spelled, named⟩ := sanitize_keeps_same_host names web
  have same : host = .name "b.eu.".toList := (Option.some.inj hosted).symm
  subst same
  have port : HostName.IsPort ":443".toList :=
    .inr ⟨"443".toList, rfl, List.all_eq_true.1 (by decide)⟩
  have spells : HostName.Spells (.name "b.eu.".toList) "B.eU..:443".toList :=
    @HostName.Spells.name _ "B.eU.".toList ['.'] _ (by simp) (by decide)
      (fun _ member => List.mem_singleton.1 member) port
  have filled : ¬ ∀ c ∈ "b.eu.".toList, c = '.' :=
    fun dots => absurd (dots 'b' (by decide)) (by decide)
  refine ⟨names, web, spelled _ spells filled, ?_⟩
  have other : HostName.IsName "b.eu.example.org".toList := by decide
  exact (named _ _ other port).trans (by decide)

end Redirect
end LoginGate
