import LoginGate.Text.Basic

/-!
Contract: splitting a text and joining its parts.

Owns:
- the characters of the parts, which are those of the text but the separators;
- the characters of joined parts;
- texts with a separator inside, split on both sides of it;
- the law that splitting undoes joining.

Does not own: splitting a text that goes on behind its end (`Proofs.Text.Cut`).
-/

namespace LoginGate.Text

/-! ## Characters -/

theorem exists_mem_split {separator c : Char} {text : Text} (member : c ∈ text)
    (different : c ≠ separator) : ∃ part ∈ split separator text, c ∈ part := by
  unfold split
  induction text with
  | nil => cases member
  | cons d rest inductionHypothesis =>
    rw [splitAny]
    rcases List.mem_cons.1 member with rfl | later
    · rw [if_neg (by simpa using different)]
      cases splitAny (· == separator) rest with
      | nil => simp
      | cons part parts => simp
    · obtain ⟨part, found, inPart⟩ := inductionHypothesis later
      split
      · exact ⟨part, List.mem_cons_of_mem _ found, inPart⟩
      · revert found
        cases splitAny (· == separator) rest with
        | nil => simp
        | cons first parts =>
          intro found
          rcases List.mem_cons.1 found with rfl | other
          · exact ⟨d :: part, List.mem_cons_self, List.mem_cons_of_mem _ inPart⟩
          · exact ⟨part, List.mem_cons_of_mem _ other, inPart⟩

theorem mem_join {separator part : Text} {parts : List Text} {c : Char}
    (listed : part ∈ parts) (member : c ∈ part) : c ∈ join separator parts := by
  fun_induction join separator parts with
  | case1 => cases listed
  | case2 only =>
    rw [← List.mem_singleton.1 listed]
    exact member
  | case3 first rest _ inductionHypothesis =>
    simp only [List.mem_append]
    rcases List.mem_cons.1 listed with rfl | later
    · exact .inl (.inl member)
    · exact .inr (inductionHypothesis later)

/-- A part holds characters of the text, and no separators. -/
theorem mem_of_mem_splitAny {stop : Char -> Bool} {text part : Text}
    (member : part ∈ splitAny stop text) : ∀ c ∈ part, c ∈ text ∧ stop c = false := by
  fun_induction splitAny stop text generalizing part with
  | case1 =>
    rw [List.mem_singleton.1 member]
    simp
  | case2 c rest stops inductionHypothesis =>
    intro d inPart
    rcases List.mem_cons.1 member with rfl | later
    · cases inPart
    · have found := inductionHypothesis later d inPart
      exact ⟨List.mem_cons_of_mem _ found.1, found.2⟩
  | case3 c rest goesOn nothing inductionHypothesis =>
    exact absurd nothing (splitAny_ne_nil stop rest)
  | case4 c rest goesOn first parts found inductionHypothesis =>
    intro d inPart
    rw [found] at inductionHypothesis
    rcases List.mem_cons.1 member with rfl | later
    · rcases List.mem_cons.1 inPart with rfl | inFirst
      · exact ⟨List.mem_cons_self, by simpa using goesOn⟩
      · have kept := inductionHypothesis List.mem_cons_self d inFirst
        exact ⟨List.mem_cons_of_mem _ kept.1, kept.2⟩
    · have kept := inductionHypothesis (List.mem_cons_of_mem _ later) d inPart
      exact ⟨List.mem_cons_of_mem _ kept.1, kept.2⟩

theorem exists_mem_of_mem_join {separator : Text} {parts : List Text} {c : Char}
    (member : c ∈ join separator parts) : c ∈ separator ∨ ∃ part ∈ parts, c ∈ part := by
  fun_induction join separator parts with
  | case1 => cases member
  | case2 only => exact .inr ⟨only, List.mem_cons_self, member⟩
  | case3 first rest _ inductionHypothesis =>
    simp only [List.mem_append] at member
    rcases member with (inFirst | inSeparator) | later
    · exact .inr ⟨first, List.mem_cons_self, inFirst⟩
    · exact .inl inSeparator
    · rcases inductionHypothesis later with inSeparator | ⟨part, listed, inPart⟩
      · exact .inl inSeparator
      · exact .inr ⟨part, List.mem_cons_of_mem _ listed, inPart⟩

/-! ## Splitting what was joined -/

section Parts

variable {stop : Char -> Bool} {part : Text}

private theorem splitAny_of_not_stop (goesOn : ∀ c ∈ part, stop c = false) :
    splitAny stop part = [part] := by
  induction part with
  | nil => rfl
  | cons c rest inductionHypothesis =>
    rw [List.forall_mem_cons] at goesOn
    rw [splitAny, goesOn.1, inductionHypothesis goesOn.2]
    rfl

private theorem splitAny_append_cons {separator : Char} (stops : stop separator = true)
    (goesOn : ∀ c ∈ part, stop c = false) (rest : Text) :
    splitAny stop (part ++ separator :: rest) = part :: splitAny stop rest := by
  induction part with
  | nil => rw [List.nil_append, splitAny, if_pos stops]
  | cons c part inductionHypothesis =>
    rw [List.forall_mem_cons] at goesOn
    rw [List.cons_append, splitAny, goesOn.1, inductionHypothesis goesOn.2]
    rfl

/-- Splitting undoes joining by one of the separators, unless nothing was joined. -/
theorem splitAny_join {separator : Char} (stops : stop separator = true) {parts : List Text}
    (some : parts ≠ []) (goesOn : ∀ part ∈ parts, ∀ c ∈ part, stop c = false) :
    splitAny stop (join [separator] parts) = parts := by
  induction parts with
  | nil => exact absurd rfl some
  | cons part parts inductionHypothesis =>
    rw [List.forall_mem_cons] at goesOn
    cases parts with
    | nil => exact splitAny_of_not_stop goesOn.1
    | cons next parts =>
      have later := inductionHypothesis (List.cons_ne_nil next parts) goesOn.2
      rw [join, List.append_assoc, List.singleton_append, splitAny_append_cons stops goesOn.1, later]
      intro empty
      cases empty

end Parts

section One

variable {separator : Char}

private theorem not_stop_of_not_mem {part : Text} (missing : separator ∉ part) :
    ∀ c ∈ part, (c == separator) = false := by
  intro c member
  rw [beq_eq_false_iff_ne]
  exact fun same => missing (same ▸ member)

theorem split_of_not_mem {part : Text} (missing : separator ∉ part) :
    split separator part = [part] :=
  splitAny_of_not_stop (not_stop_of_not_mem missing)

theorem split_append_cons {part : Text} (missing : separator ∉ part) (rest : Text) :
    split separator (part ++ separator :: rest) = part :: split separator rest :=
  splitAny_append_cons (by simp) (not_stop_of_not_mem missing) rest

/-- Splitting undoes joining, unless nothing was joined. -/
theorem split_join {parts : List Text} (some : parts ≠ [])
    (missing : ∀ part ∈ parts, separator ∉ part) :
    split separator (join [separator] parts) = parts :=
  splitAny_join (by simp) some fun part member => not_stop_of_not_mem (missing part member)

/-- A text with a separator inside is split on both sides of it. -/
theorem split_append_separator (separator : Char) (left right : Text) :
    split separator (left ++ separator :: right) =
      split separator left ++ split separator right := by
  unfold split
  induction left with
  | nil => simp [splitAny]
  | cons c rest inductionHypothesis =>
    rw [List.cons_append, splitAny, splitAny, inductionHypothesis]
    split
    · rfl
    · cases shape : splitAny (· == separator) rest with
      | nil => exact absurd shape (splitAny_ne_nil _ _)
      | cons part parts => rfl

end One

end LoginGate.Text
