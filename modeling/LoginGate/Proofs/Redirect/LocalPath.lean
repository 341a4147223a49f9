import LoginGate.Flow.Paths
import LoginGate.Proofs.Url.Clean
import LoginGate.Proofs.Url.Printable
import LoginGate.Redirect.Target

/-!
Contract: whatever a redirect target is made from, it is a path on the own host.

Owns:
- texts that a browser reads as a path on the host that it is on;
- the laws that sanitizing gives such a text, and that cutting a path of the flow off its end keeps
  it one;
- the law that neither brings in a character, beside those that are printed in a URL;
- the law that a rooted text is no absolute URL.

Does not own: which answers carry a redirect target (`Server.Location`).
-/

namespace LoginGate.Redirect

/-- A path on the host where the browser is: one slash and no other at the start, in either
direction, and no character that a browser would drop to find another one. -/
structure IsLocalPath (text : Text) : Prop where
  rooted : text.head? = some '/'
  single : ∀ c, text[1]? = some c -> c ≠ '/' ∧ c ≠ '\\'
  unbroken : ∀ c ∈ text, c ≠ '\t' ∧ c ≠ '\r' ∧ c ≠ '\n'

/-! ## Characters that browsers drop -/

def Unbroken (text : Text) : Prop := ∀ c ∈ text, Text.isTabOrNewline c = false

theorem Unbroken.subset {text other : Text} (unbroken : Unbroken text) (subset : other ⊆ text) :
    Unbroken other :=
  fun c member => unbroken c (subset member)

theorem isTabOrNewline_eq_false_iff {c : Char} :
    Text.isTabOrNewline c = false ↔ c ≠ '\t' ∧ c ≠ '\r' ∧ c ≠ '\n' := by
  simp only [Text.isTabOrNewline, Bool.or_eq_false_iff, beq_eq_false_iff_ne, ne_eq]
  constructor
  · rintro ⟨⟨tab, newline⟩, carriage⟩
    exact ⟨tab, carriage, newline⟩
  · rintro ⟨tab, carriage, newline⟩
    exact ⟨⟨tab, newline⟩, carriage⟩

private theorem isTabOrNewline_of_not_controls {c : Char} (printable : Percent.controls c = false) :
    Text.isTabOrNewline c = false := by
  rw [isTabOrNewline_eq_false_iff]
  refine ⟨?_, ?_, ?_⟩ <;> rintro rfl <;> exact absurd printable (by decide)

/-- What is kept of a location: either it is the path of a URL, or the line ends have been dropped
from it. -/
theorem forall_mem_candidate {Kept : Char -> Prop} {location : Text}
    (printable : ∀ c, Percent.controls c = false -> Kept c)
    (given : ∀ c ∈ location, Text.isTabOrNewline c = false -> Kept c) (requestHost : Text) :
    ∀ c ∈ candidate requestHost location, Kept c := by
  have nothing : ∀ c ∈ ([] : Text), Kept c := fun _ member => absurd member List.not_mem_nil
  have trimmed :
      ∀ c ∈ Text.trimBlank (location.filter (! Text.isTabOrNewline ·)), Kept c := by
    intro c member
    obtain ⟨inLocation, kept⟩ := List.mem_filter.1 ((Text.trimBlank_infix _).subset member)
    exact given c inLocation (by simpa using kept)
  unfold candidate
  dsimp only
  split
  · exact nothing
  split
  · rename_i url parsed
    unfold sameHostPath?
    dsimp only
    split
    · exact nothing
    split
    · exact nothing
    split
    · exact fun c member => printable c (Url.printable_pathAndQuery parsed c member)
    · exact nothing
  · exact trimmed
  · exact nothing

theorem unbroken_candidate (requestHost location : Text) :
    Unbroken (candidate requestHost location) :=
  forall_mem_candidate (fun _ => isTabOrNewline_of_not_controls) (fun _ _ kept => kept) requestHost

theorem isLocalPath_root : IsLocalPath ['/'] where
  rooted := rfl
  single c found := by cases found
  unbroken c member := by
    rw [List.mem_singleton.1 member]
    decide

/-- A slash before a text whose own slashes at the start were dropped makes a local path. -/
theorem isLocalPath_cons_dropWhile {text : Text} (unbroken : Unbroken text) :
    IsLocalPath ('/' :: text.dropWhile isSlash) where
  rooted := rfl
  single c found := by
    have notSlash := List.head?_dropWhile_not isSlash text
    rw [List.getElem?_cons_succ, ← List.head?_eq_getElem?] at found
    rw [found] at notSlash
    simpa [isSlash] using notSlash
  unbroken c member := by
    rw [← isTabOrNewline_eq_false_iff]
    rcases List.mem_cons.1 member with rfl | inText
    · decide
    · exact unbroken c (List.dropWhile_subset _ inText)

/-- Sanitizing gives a local path, whatever host and location are. -/
theorem isLocalPath_sanitize (requestHost location : Text) :
    IsLocalPath (sanitize requestHost location) :=
  isLocalPath_cons_dropWhile
    ((unbroken_candidate requestHost location).subset (Text.trimBlank_infix _).subset)

example : sanitize "example.com".toList "\\\\evil.example.com/a".toList =
    "/evil.example.com/a".toList := by
  decide +kernel

/-- A local path stays one when its end is cut off, as long as something is left. -/
theorem IsLocalPath.of_append {head tail : Text} (isLocal : IsLocalPath (head ++ tail))
    (nonempty : head ≠ []) : IsLocalPath head := by
  obtain ⟨first, rest, rfl⟩ := List.exists_cons_of_ne_nil nonempty
  refine ⟨isLocal.rooted, ?_, ?_⟩
  · intro c found
    have bound := (List.getElem?_eq_some_iff.1 found).1
    exact isLocal.single c ((List.getElem?_append_left bound).trans found)
  · intro c member
    exact isLocal.unbroken c (List.mem_append_left tail member)

/-- Cutting a path of the flow off the end of a local path leaves a local path, whatever the paths
of the flow are. -/
theorem isLocalPath_stripSuffix (paths : Flow.Paths) {location : Text}
    (isLocal : IsLocalPath location) : IsLocalPath (paths.stripSuffix location) := by
  unfold Flow.Paths.stripSuffix
  split
  · exact isLocal
  · exact isLocalPath_root
  · rename_i head nonempty found
    obtain ⟨path, -, cut⟩ := List.exists_of_findSome?_eq_some found
    rw [Text.beforeSuffix?_eq_some_iff.1 cut] at isLocal
    exact isLocal.of_append nonempty

/-- A rooted text has no scheme, so it is never read as an absolute URL. -/
theorem parse_of_rooted {text : Text} (rooted : text.head? = some '/') :
    Url.parse text = .error .relativeWithoutBase := by
  obtain ⟨rest, rfl⟩ := List.head?_eq_some_iff.1 rooted
  exact Url.parse_cons_of_not_letter (by decide) (by decide) rest

end LoginGate.Redirect
