import LoginGate.Url.Parser

/-!
Contract: segments of a path that name a directory instead of standing for themselves.

Owns: the few texts that do, up to letter case, and what follows for a text with a character that none
of them has.

Does not own: what becomes of such a segment (`Url.Parser`).
-/

namespace LoginGate.Url

/-- A segment that stands for a directory, itself or its parent. -/
def namesDirectory (segment : Text) : Bool := isSingleDot segment || isDoubleDot segment

def dotSpellings : List Text := [['.'], "%2e".toList]

def directorySpellings : List Text :=
  dotSpellings ++ dotSpellings.flatMap fun first => dotSpellings.map (first ++ ·)

private theorem lower_mem_dotSpellings {text : Text} (dot : isDotOrEncoded text = true) :
    Text.toAsciiLower text ∈ dotSpellings := by
  simp only [isDotOrEncoded, Bool.or_eq_true, beq_iff_eq, Text.equalIgnoringCase] at dot
  rcases dot with rfl | same
  · decide
  · rw [same]
    decide

theorem lower_mem_directorySpellings {segment : Text} (names : namesDirectory segment = true) :
    Text.toAsciiLower segment ∈ directorySpellings := by
  have double : ∀ k, (isDotOrEncoded (segment.take k) && isDotOrEncoded (segment.drop k)) = true ->
      Text.toAsciiLower segment ∈ directorySpellings := by
    intro k dots
    rw [Bool.and_eq_true] at dots
    have first := lower_mem_dotSpellings dots.1
    have second := lower_mem_dotSpellings dots.2
    have whole : Text.toAsciiLower segment =
        Text.toAsciiLower (segment.take k) ++ Text.toAsciiLower (segment.drop k) := by
      unfold Text.toAsciiLower
      rw [← List.map_append, List.take_append_drop]
    rw [whole]
    exact List.mem_append_right _
      (List.mem_flatMap.2 ⟨_, first, List.mem_map.2 ⟨_, second, rfl⟩⟩)
  unfold namesDirectory at names
  rcases Bool.or_eq_true_iff.1 names with single | parent
  · exact List.mem_append_left _ (lower_mem_dotSpellings single)
  · unfold isDoubleDot at parent
    exact (Bool.or_eq_true_iff.1 parent).elim (double 1) (double 3)

/-- A text with a character that is its own lower case and in no spelling names no directory. -/
theorem namesDirectory_of_mem {text : Text} {c : Char} (member : c ∈ text)
    (lower : Text.asciiLower c = c) (foreign : ∀ spelling ∈ directorySpellings, c ∉ spelling) :
    namesDirectory text = false := by
  apply Bool.eq_false_iff.2
  intro names
  have lowered : c ∈ Text.toAsciiLower text := List.mem_map.2 ⟨c, member, lower⟩
  exact foreign _ (lower_mem_directorySpellings names) lowered

end LoginGate.Url
