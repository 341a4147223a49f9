import LoginGate.Proofs.Text.Classes
import LoginGate.Proofs.Text.Trim
import LoginGate.Url.Parser

/-!
Contract: what the parser drops from a text before it reads a URL.

Owns:
- texts of which nothing is dropped;
- texts that no URL begins with;
- controls and spaces around a text, which change nothing;
- what becomes of controls and spaces that a later character keeps inside.

Does not own: white space of other kinds (`Proofs.Url.Margins`).
-/

namespace LoginGate

namespace Url

/-- Without controls and spaces, nothing is dropped. -/
theorem clean_eq_self {text : Text} (solid : ∀ c ∈ text, Text.isC0ControlOrSpace c = false) :
    clean text = text := by
  have first : Text.trimStart Text.isC0ControlOrSpace text = text :=
    Text.trimStart_eq_self fun c starts => solid c (List.mem_of_head? starts)
  have last : Text.trimEnd Text.isC0ControlOrSpace text = text :=
    Text.trimEnd_eq_self fun c ends => solid c (List.mem_of_getLast? ends)
  unfold clean Text.trim
  rw [first, last, List.filter_eq_self]
  intro c member
  simp [Text.isTabOrNewline_of_not_dropped (solid c member)]

/-! ## Texts without a scheme -/

private theorem scheme?_cons_of_not_letter {c : Char} (notLetter : Text.isLetter c = false)
    (rest : Text) :
    scheme? (c :: rest) = none := by
  unfold scheme?
  rw [Text.cut]
  by_cases colon : c = ':'
  · rw [if_pos colon]
  · rw [if_neg colon]
    cases Text.cut ':' rest with
    | none => rfl
    | some parts => simp [notLetter]

private theorem exists_clean_cons {c : Char} (kept : Text.isC0ControlOrSpace c = false)
    (rest : Text) :
    ∃ others, clean (c :: rest) = c :: others := by
  have started : Text.trimStart Text.isC0ControlOrSpace (c :: rest) = c :: rest :=
    List.dropWhile_cons_of_neg (by simp [kept])
  have trimmed := Text.trimEnd_append_cons kept [] rest
  rw [List.nil_append, List.nil_append] at trimmed
  unfold clean
  rw [Text.trim, started, trimmed,
    List.filter_cons_of_pos (by simp [Text.isTabOrNewline_of_not_dropped kept])]
  exact ⟨_, rfl⟩

/-- What begins with anything but a letter, once it is trimmed, is no URL. -/
theorem parse_cons_of_not_letter {c : Char} (kept : Text.isC0ControlOrSpace c = false)
    (notLetter : Text.isLetter c = false) (rest : Text) :
    parse (c :: rest) = .error .relativeWithoutBase := by
  obtain ⟨others, cleaned⟩ := exists_clean_cons kept rest
  unfold parse readClean
  rw [cleaned, scheme?_cons_of_not_letter notLetter]
  rfl

/-! ## Margins -/

/-- Controls and spaces around a text are overlooked. -/
theorem parse_append {before after : Text}
    (left : ∀ c ∈ before, Text.isC0ControlOrSpace c = true)
    (right : ∀ c ∈ after, Text.isC0ControlOrSpace c = true) (text : Text) :
    parse (before ++ text ++ after) = parse text := by
  unfold parse clean
  rw [Text.trim_append_of_dropped left right]

/-- A character behind a text that is kept keeps what stands between them. -/
theorem exists_clean_append {text : Text} (filled : clean text ≠ []) (between : Text) {c : Char}
    (kept : Text.isC0ControlOrSpace c = false) :
    ∃ dropped : Text, (∀ d ∈ dropped, Text.isC0ControlOrSpace d = true) ∧
      clean (text ++ between ++ [c]) =
        clean text ++ ((dropped ++ between).filter (! Text.isTabOrNewline ·) ++ [c]) := by
  obtain ⟨dropped, shape, drops⟩ := Text.exists_trimEnd_append Text.isC0ControlOrSpace
    (Text.trimStart Text.isC0ControlOrSpace text)
  have started : Text.trimStart Text.isC0ControlOrSpace text ≠ [] := by
    intro nothing
    apply filled
    unfold clean Text.trim
    rw [nothing]
    rfl
  have ended := Text.trimEnd_append_cons kept
    (Text.trimStart Text.isC0ControlOrSpace text ++ between) []
  have stays : [c].filter (! Text.isTabOrNewline ·) = [c] :=
    List.filter_cons_of_pos (by simp [Text.isTabOrNewline_of_not_dropped kept])
  refine ⟨dropped, drops, ?_⟩
  unfold clean Text.trim
  rw [List.append_assoc, Text.trimStart_append_of_ne_nil started, ← List.append_assoc, ended,
    Text.trimEnd]
  conv => lhs; rw [shape]
  simp [stays]

end Url
end LoginGate
