import LoginGate.Text.Classes

/-!
Contract: the laws of trimming.

Owns:
- texts without white space at either end, which trimming keeps and gives;
- what trimming does to a text with a character inside that stays;
- the margins that it drops, which may stand there or not.

Does not own: which other characters a format drops.
-/

namespace LoginGate.Text

/-- A text that neither begins nor ends with white space. -/
structure Trimmed (text : Text) : Prop where
  first : ∀ c, text.head? = some c -> isWhitespace c = false
  last : ∀ c, text.getLast? = some c -> isWhitespace c = false

theorem trimStart_eq_self {dropped : Char -> Bool} {text : Text}
    (first : ∀ c, text.head? = some c -> dropped c = false) : trimStart dropped text = text := by
  unfold trimStart
  cases text with
  | nil => rfl
  | cons c rest =>
    rw [List.dropWhile_cons, first c rfl]
    rfl

theorem trimEnd_eq_self {dropped : Char -> Bool} {text : Text}
    (last : ∀ c, text.getLast? = some c -> dropped c = false) : trimEnd dropped text = text := by
  have ends : ∀ c, text.reverse.head? = some c -> dropped c = false := by
    rw [List.head?_reverse]
    exact last
  have kept := trimStart_eq_self ends
  unfold trimStart at kept
  rw [trimEnd, kept, List.reverse_reverse]

theorem not_dropped_of_head?_trimStart {dropped : Char -> Bool} {text : Text} {c : Char}
    (starts : (trimStart dropped text).head? = some c) : dropped c = false := by
  have outside := List.head?_dropWhile_not dropped text
  unfold trimStart at starts
  rw [starts] at outside
  simpa using outside

theorem not_dropped_of_getLast?_trimEnd {dropped : Char -> Bool} {text : Text} {c : Char}
    (ends : (trimEnd dropped text).getLast? = some c) : dropped c = false := by
  unfold trimEnd at ends
  rw [List.getLast?_reverse] at ends
  exact not_dropped_of_head?_trimStart ends

theorem trimEnd_prefix (dropped : Char -> Bool) (text : Text) : trimEnd dropped text <+: text := by
  unfold trimEnd
  rw [← List.reverse_suffix, List.reverse_reverse]
  exact List.dropWhile_suffix _

/-- Only what stands before a character that stays is trimmed at the start. -/
theorem trimStart_append_cons {dropped : Char -> Bool} {c : Char} (kept : dropped c = false)
    (before rest : Text) :
    trimStart dropped (before ++ c :: rest) = trimStart dropped before ++ c :: rest := by
  unfold trimStart
  rw [List.dropWhile_append]
  split
  · rename_i nothing
    rw [List.isEmpty_iff.1 nothing, List.dropWhile_cons_of_neg (by simp [kept])]
    rfl
  · rfl

/-- Only what stands behind a character that stays is trimmed at the end. -/
theorem trimEnd_append_cons {dropped : Char -> Bool} {c : Char} (kept : dropped c = false)
    (before rest : Text) :
    trimEnd dropped (before ++ c :: rest) = before ++ c :: trimEnd dropped rest := by
  have stays : (c :: before.reverse).dropWhile dropped = c :: before.reverse :=
    List.dropWhile_cons_of_neg (by simp [kept])
  have shape : (before ++ c :: rest).reverse = rest.reverse ++ c :: before.reverse := by
    simp
  unfold trimEnd
  rw [shape, List.dropWhile_append]
  split
  · rename_i nothing
    rw [List.isEmpty_iff.1 nothing, stays]
    simp
  · simp

theorem Trimmed.trimBlank_eq {text : Text} (trimmed : Trimmed text) : trimBlank text = text := by
  unfold trimBlank trim
  rw [trimStart_eq_self trimmed.first, trimEnd_eq_self trimmed.last]

theorem trimmed_trimBlank (text : Text) : Trimmed (trimBlank text) := by
  unfold trimBlank trim
  constructor
  · intro c starts
    obtain ⟨rest, whole⟩ := trimEnd_prefix isWhitespace (trimStart isWhitespace text)
    have startsWhole : (trimStart isWhitespace text).head? = some c := by
      rw [← whole, List.head?_append, starts]
      rfl
    exact not_dropped_of_head?_trimStart startsWhole
  · intro c ends
    exact not_dropped_of_getLast?_trimEnd ends

/-! ## Margins -/

theorem trimStart_append_of_dropped {dropped : Char -> Bool} {before : Text}
    (drops : ∀ c ∈ before, dropped c = true) (text : Text) :
    trimStart dropped (before ++ text) = trimStart dropped text := by
  unfold trimStart
  induction before with
  | nil => rfl
  | cons c rest inductionHypothesis =>
    rw [List.cons_append, List.dropWhile_cons_of_pos (drops c List.mem_cons_self)]
    exact inductionHypothesis fun d member => drops d (List.mem_cons_of_mem _ member)

private theorem trimEnd_append_of_dropped {dropped : Char -> Bool} {after : Text}
    (drops : ∀ c ∈ after, dropped c = true) (text : Text) :
    trimEnd dropped (text ++ after) = trimEnd dropped text := by
  have behind : ∀ c ∈ after.reverse, dropped c = true :=
    fun c member => drops c (List.mem_reverse.1 member)
  have reversed := trimStart_append_of_dropped behind text.reverse
  unfold trimStart at reversed
  unfold trimEnd
  rw [List.reverse_append, reversed]

theorem exists_trimEnd_append (dropped : Char -> Bool) (text : Text) :
    ∃ after, text = trimEnd dropped text ++ after ∧ ∀ c ∈ after, dropped c = true := by
  refine ⟨(text.reverse.takeWhile dropped).reverse, ?_, ?_⟩
  · unfold trimEnd
    rw [← List.reverse_append, List.takeWhile_append_dropWhile, List.reverse_reverse]
  · intro c member
    exact List.all_eq_true.1 List.all_takeWhile c (List.mem_reverse.1 member)

theorem trimStart_append_of_ne_nil {dropped : Char -> Bool} {text : Text}
    (filled : trimStart dropped text ≠ []) (after : Text) :
    trimStart dropped (text ++ after) = trimStart dropped text ++ after := by
  unfold trimStart at filled ⊢
  rw [List.dropWhile_append, List.isEmpty_eq_false_iff.2 filled]
  rfl

/-- What is dropped at the ends may stand there or not. -/
theorem trim_append_of_dropped {dropped : Char -> Bool} {before after : Text}
    (left : ∀ c ∈ before, dropped c = true) (right : ∀ c ∈ after, dropped c = true) (text : Text) :
    trim dropped (before ++ text ++ after) = trim dropped text := by
  unfold trim
  rw [List.append_assoc, trimStart_append_of_dropped left]
  by_cases nothing : trimStart dropped text = []
  · have all : ∀ c ∈ text, dropped c = true := by
      have whole : text.takeWhile dropped = text := by
        have divided := List.takeWhile_append_dropWhile (p := dropped) (l := text)
        unfold trimStart at nothing
        rwa [nothing, List.append_nil] at divided
      rw [← whole]
      exact List.all_eq_true.1 List.all_takeWhile
    rw [trimStart_append_of_dropped all, nothing]
    have gone := trimStart_append_of_dropped right []
    rw [List.append_nil] at gone
    rw [gone]
    rfl
  · rw [trimStart_append_of_ne_nil nothing, trimEnd_append_of_dropped right]

theorem trimBlank_of_isBlank {text : Text} (blank : isBlank text = true) : trimBlank text = [] := by
  have dropped := trim_append_of_dropped (List.all_eq_true.1 blank)
    (fun _ member => absurd member List.not_mem_nil) []
  rwa [List.append_nil, List.append_nil] at dropped

/-- A text is its trimmed form between two margins. -/
theorem exists_margins (text : Text) :
    ∃ left right, text = left ++ trimBlank text ++ right ∧ (∀ c ∈ left, isWhitespace c = true) ∧
      ∀ c ∈ right, isWhitespace c = true := by
  obtain ⟨right, shape, blank⟩ := exists_trimEnd_append isWhitespace (trimStart isWhitespace text)
  refine ⟨text.takeWhile isWhitespace, right, ?_, List.all_eq_true.1 List.all_takeWhile, blank⟩
  rw [List.append_assoc, trimBlank, trim, ← shape]
  exact List.takeWhile_append_dropWhile.symm

theorem trimBlank_infix (text : Text) : trimBlank text <:+: text := by
  obtain ⟨left, right, shape, -, -⟩ := exists_margins text
  exact ⟨left, right, shape.symm⟩

end LoginGate.Text
