import LoginGate.Proofs.Redirect.Destination
import LoginGate.Proofs.Redirect.SameHost
import LoginGate.Proofs.Redirect.Settled
import LoginGate.Proofs.Url.Margins

/-!
Contract: what a page on the own host becomes when it is remembered as the start of a login.

Owns:
- the path of a URL of the web, which begins with a slash and holds no backslash;
- the law that a location names a URL with or without white space around it;
- what cutting off the paths of the flow leaves of a page outside the flow;
- the law that sanitizing keeps a local path without white space.

Does not own: pages at paths of the flow (`Redirect.Destination`).

The paths of the flow are cut off the end of the whole location. A page whose path has no such end
loses nothing of it, but it may lose the end of its query.
-/

namespace LoginGate

/-- White space around a text does not survive when it is trimmed after a filter. -/
theorem Text.trimBlank_filter_trimBlank (kept : Char -> Bool) (text : Text) :
    trimBlank ((trimBlank text).filter kept) = trimBlank (text.filter kept) := by
  obtain ⟨left, right, shape, leftBlank, rightBlank⟩ := exists_margins text
  conv => rhs; rw [shape, List.filter_append, List.filter_append]
  symm
  apply trim_append_of_dropped
  · exact fun c member => leftBlank c (List.mem_filter.1 member).1
  · exact fun c member => rightBlank c (List.mem_filter.1 member).1

/-! ## The path of a URL of the web -/

namespace Url

/-- The path of a URL of the web begins with a slash and holds no other separator. -/
theorem IsWeb.pathText {text : Text} {url : Url} (parsed : parse text = .ok url)
    (web : url.IsWeb) : url.pathText.head? = some '/' ∧ ∀ c ∈ url.pathText, c ≠ '\\' := by
  obtain ⟨segments, path, filled, kept⟩ := (web.canonical parsed).path
  unfold Url.pathText
  rw [path]
  constructor
  · rw [Path.text_segments filled]
    rfl
  · rintro c member rfl
    obtain ⟨segment, inPath, inSegment⟩ := List.mem_flatMap.1 member
    rcases List.mem_cons.1 inSegment with slash | inText
    · cases slash
    · exact absurd ((kept segment inPath).whole '\\' inText) (by decide)

end Url

namespace Redirect

/-! ## Names of the location -/

/-- A referer that names a URL is the location of its request. -/
theorem Names.location {request : Http.RequestInfo} {referer : Text} {url : Url}
    (given : request.referer = some referer) (names : Names referer url) :
    Names request.location url := by
  have present : Text.trimBlank referer ≠ [] := by
    intro nothing
    unfold Names at names
    rw [← Text.trimBlank_filter_trimBlank, nothing] at names
    cases names
  have same : request.location = Text.trimBlank referer := by
    obtain ⟨c, rest, shape⟩ := List.exists_cons_of_ne_nil present
    unfold Http.RequestInfo.location
    rw [given, Option.map_some, shape]
  unfold Names
  rw [same, Text.trimBlank_filter_trimBlank]
  exact names

/-! ## Cutting the end of a page -/

theorem kept_eq (url : Url) : kept url = collapse url.pathText ++ Url.marked '?' url.query := by
  refine collapse_append url.pathText fun c starts => ?_
  cases given : url.query with
  | none =>
    rw [given] at starts
    cases starts
  | some query =>
    rw [given] at starts
    cases starts
    decide

/-- A path of slashes alone at its start is collapsed by dropping some of them. -/
theorem collapse_suffix {path : Text} (rooted : path.head? = some '/')
    (plain : ∀ c ∈ path, c ≠ '\\') : collapse path <:+ path := by
  obtain ⟨rest, rfl⟩ := List.head?_eq_some_iff.1 rooted
  rw [collapse, List.dropWhile_cons_of_pos (by decide)]
  clear rooted
  -- Each slash that follows takes the place of the one before.
  induction rest with
  | nil => exact List.suffix_rfl
  | cons c others inductionHypothesis =>
    by_cases slash : isSlash c = true
    · have same : c = '/' := by
        have other := plain c (List.mem_cons_of_mem _ List.mem_cons_self)
        simpa [isSlash, other] using slash
      subst same
      rw [List.dropWhile_cons_of_pos slash]
      have inner := inductionHypothesis fun d member => plain d (List.mem_cons_of_mem _ member)
      exact inner.trans (List.suffix_cons _ _)
    · simp only [List.dropWhile_cons_of_neg slash, List.suffix_rfl]

/-- A text without a mark ends what stands behind the mark, if it ends the whole. -/
theorem suffix_of_suffix_append_cons {mark : Char} {ending before behind : Text}
    (missing : mark ∉ ending) (suffix : ending <:+ before ++ mark :: behind) : ending <:+ behind := by
  rcases List.suffix_or_suffix_of_suffix suffix (List.suffix_append before (mark :: behind)) with
    shorter | longer
  · rcases List.suffix_cons_iff.1 shorter with whole | inner
    · exact absurd (whole ▸ List.mem_cons_self) missing
    · exact inner
  · exact absurd (longer.subset List.mem_cons_self) missing

/-- A page whose path has no path of the flow at its end keeps its path. Its query loses such a path
from its end, if it has one there. -/
theorem stripSuffix_kept_cases {paths : Flow.Paths} (configured : paths.Configured) {url : Url}
    (rooted : url.pathText.head? = some '/') (plain : ∀ c ∈ url.pathText, c ≠ '\\')
    (elsewhere : ∀ path ∈ paths.handled, ¬ path <:+ url.pathText) :
    (paths.stripSuffix (kept url) = kept url ∧
      ∀ path ∈ paths.handled, ∀ query, url.query = some query -> ¬ path <:+ query) ∨
    ∃ path ∈ paths.handled, ∃ front, url.query = some (front ++ path) ∧
      paths.stripSuffix (kept url) = collapse url.pathText ++ '?' :: front := by
  rcases paths.stripSuffix_cases (kept url) with ⟨same, none⟩ | ⟨path, member, head, shape, cut⟩
  · refine .inl ⟨same, ?_⟩
    rintro path member query given suffix
    apply none path member
    rw [kept_eq, given]
    exact suffix.trans ((List.suffix_cons '?' query).trans (List.suffix_append _ _))
  · right
    cases given : url.query with
    | none =>
      have ends : path <:+ collapse url.pathText := by
        rw [kept_eq, given, Url.marked, List.append_nil] at shape
        exact ⟨head, shape.symm⟩
      exact absurd (ends.trans (collapse_suffix rooted plain)) (elsewhere path member)
    | some query =>
      have unmarked : '?' ∉ path := by
        intro marked
        exact absurd (configured.plain path member '?' marked) (by decide)
      have whole : head ++ path = collapse url.pathText ++ '?' :: query := by
        rw [← shape, kept_eq, given]
        rfl
      obtain ⟨front, inQuery⟩ := suffix_of_suffix_append_cons unmarked ⟨head, whole⟩
      have left : head = collapse url.pathText ++ '?' :: front := by
        rw [← inQuery, ← List.cons_append, ← List.append_assoc] at whole
        exact List.append_cancel_right whole
      refine ⟨path, member, front, by rw [inQuery], ?_⟩
      rw [cut, left, if_neg (List.append_ne_nil_of_right_ne_nil _ (List.cons_ne_nil _ _))]

/-! ## Sanitizing again -/

/-- A local path without white space is kept as it is, whatever the host of the request is. -/
theorem sanitize_eq_self {location : Text} (isLocal : IsLocalPath location)
    (solid : ∀ c ∈ location, Text.isWhitespace c = false) (requestHost : Text) :
    sanitize requestHost location = location := by
  have settled : IsSettled location :=
    { isLocal with ends := fun c last => solid c (List.mem_of_getLast? last) }
  exact settled.sanitize_eq_self requestHost

end Redirect
end LoginGate
