import LoginGate.Proofs.Redirect.LocalPath
import LoginGate.Proofs.Text.Trim

/-!
Contract: redirect targets that are sanitized more than once.

Owns:
- texts on which sanitizing has nothing left to do;
- the law that these are the texts which sanitizing gives, and those which it keeps, whatever the
  host of the request is.

Does not own: what is kept of a location in the first place (`Redirect.SameHost`).

A target is sanitized when a login starts and again when it ends, by requests that may name different
hosts. The second host does not matter, because a rooted text is never read as a URL with a host. White
space in the middle stays, also right behind the slash, so only the last character tells whether there
is something to trim.
-/

namespace LoginGate.Redirect

/-- A local path with no white space at its end. -/
structure IsSettled (target : Text) : Prop extends IsLocalPath target where
  ends : ∀ c, target.getLast? = some c -> Text.isWhitespace c = false

private theorem isSettled_root : IsSettled ['/'] where
  toIsLocalPath := isLocalPath_root
  ends c last := by
    cases last
    decide

/-- What dropping leaves at the front of a text ends like the text. -/
theorem getLast?_dropWhile {dropped : Char -> Bool} {text : Text} {c : Char}
    (last : (text.dropWhile dropped).getLast? = some c) : text.getLast? = some c := by
  obtain ⟨front, whole⟩ := List.dropWhile_suffix dropped (l := text)
  rw [← whole, List.getLast?_append, last]
  rfl

/-- A slash before a trimmed text whose own slashes at the start were dropped settles it. -/
theorem isSettled_cons_dropWhile {text : Text} (unbroken : Unbroken text) (trimmed : text.Trimmed) :
    IsSettled ('/' :: text.dropWhile isSlash) where
  toIsLocalPath := isLocalPath_cons_dropWhile unbroken
  ends c last := by
    cases behind : text.dropWhile isSlash with
    | nil =>
      rw [behind] at last
      exact isSettled_root.ends c last
    | cons first rest =>
      rw [behind, List.getLast?_cons_cons, ← behind] at last
      exact trimmed.last c (getLast?_dropWhile last)

private theorem isSettled_sanitize (requestHost location : Text) :
    IsSettled (sanitize requestHost location) :=
  isSettled_cons_dropWhile
    ((unbroken_candidate requestHost location).subset (Text.trimBlank_infix _).subset)
    (Text.trimmed_trimBlank _)

section Settled

variable {target : Text} (settled : IsSettled target)
include settled

theorem IsSettled.trimmed : target.Trimmed where
  first c starts := by
    rw [settled.rooted] at starts
    cases starts
    decide
  last := settled.ends

/-- Without tabs and line ends there are none to drop. -/
theorem IsSettled.filter_eq_self : target.filter (! Text.isTabOrNewline ·) = target := by
  apply List.filter_eq_self.2
  intro c member
  rw [isTabOrNewline_eq_false_iff.2 (settled.unbroken c member)]
  rfl

/-- Such a text is read as a relative reference and kept whole. -/
theorem IsSettled.candidate_eq_self (requestHost : Text) : candidate requestHost target = target := by
  have present : target.isEmpty = false := by
    obtain ⟨rest, rfl⟩ := List.head?_eq_some_iff.1 settled.rooted
    rfl
  unfold candidate
  dsimp only
  rw [settled.filter_eq_self, settled.trimmed.trimBlank_eq, present, parse_of_rooted settled.rooted]
  rfl

theorem IsSettled.sanitize_eq_self (requestHost : Text) : sanitize requestHost target = target := by
  have kept := settled.candidate_eq_self requestHost
  have trimmed := settled.trimmed.trimBlank_eq
  obtain ⟨rest, rfl⟩ := List.head?_eq_some_iff.1 settled.rooted
  have stays : rest.dropWhile isSlash = rest := by
    apply Text.trimStart_eq_self
    intro c starts
    have other := settled.single c
      (by rw [List.getElem?_cons_succ, ← List.head?_eq_getElem?, starts])
    simpa [isSlash] using other
  unfold sanitize
  rw [kept, trimmed, List.dropWhile_cons_of_pos (by decide), stays]

end Settled

/-- **Sanitizing twice is sanitizing once.** The second pass changes nothing, whatever the two hosts
are. What sanitizing gives and what it keeps are the same texts for every host: `/`, and the texts
without tab and line end that begin with a slash and with no second one in either direction, and do
not end with white space. -/
theorem sanitize_settles (host : Text) :
    (∀ requestHost location,
      sanitize host (sanitize requestHost location) = sanitize requestHost location) ∧
    ∀ target,
      (sanitize host target = target ↔ IsSettled target) ∧
      ((∃ location, sanitize host location = target) ↔ IsSettled target) := by
  have again : ∀ requestHost location,
      sanitize host (sanitize requestHost location) = sanitize requestHost location :=
    fun requestHost location => (isSettled_sanitize requestHost location).sanitize_eq_self host
  refine ⟨again, fun target => ⟨?_, ?_⟩⟩
  · constructor
    · intro same
      rw [← same]
      exact isSettled_sanitize host target
    · intro settled
      exact settled.sanitize_eq_self host
  · constructor
    · intro given
      obtain ⟨location, same⟩ := given
      rw [← same]
      exact isSettled_sanitize host location
    · intro settled
      exact ⟨target, settled.sanitize_eq_self host⟩

/-- White space right behind the slash is kept, at the end it is not. -/
example : sanitize "a.eu".toList "/ a\u00A0".toList = "/ a".toList := by
  decide +kernel

end LoginGate.Redirect
