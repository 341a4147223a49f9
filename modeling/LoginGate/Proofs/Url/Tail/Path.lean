import LoginGate.Proofs.Text.Classes
import LoginGate.Proofs.Text.Cut
import LoginGate.Proofs.Url.Directory
import LoginGate.Proofs.Url.Percent

/-!
Contract: a path with white space outside ASCII behind it has another last segment.

Owns:
- tails of blanks and controls that end in white space outside ASCII;
- segments with such a tail, which name neither a directory nor a drive;
- the law that the last segment of a path takes the tail.

Does not own: what else of a URL may take a tail (`Proofs.Url.Tail.Authority`,
`Proofs.Url.Tail.Whole`).
-/

namespace LoginGate.Url

/-- Blanks and controls that end in white space outside ASCII. -/
structure BlankTail (tail : Text) : Prop where
  blank : ∀ c ∈ tail, Text.isC0ControlOrSpace c = true ∨ Text.isWhitespace c = true
  last : ∃ before c, tail = before ++ [c] ∧ Text.isWhitespace c = true ∧ 128 ≤ c.toNat

namespace BlankTail

variable {tail : Text} (isTail : BlankTail tail)
include isTail

theorem ne_nil : tail ≠ [] := by
  obtain ⟨before, c, shape, -, -⟩ := isTail.last
  simp [shape]

theorem exists_foreign : ∃ c ∈ tail, 128 ≤ c.toNat := by
  obtain ⟨before, c, rfl, -, outside⟩ := isTail.last
  exact ⟨c, by simp, outside⟩

/-- A tail holds no delimiter. -/
theorem not_mem {mark : Char}
    (visible : Text.isC0ControlOrSpace mark = false ∧ Text.isWhitespace mark = false) :
    mark ∉ tail := by
  intro member
  rcases isTail.blank mark member with control | blank
  · rw [visible.1] at control
    cases control
  · rw [visible.2] at blank
    cases blank

theorem not_separator {c : Char} (member : c ∈ tail) (special : Bool) :
    isPathSeparator special c = false := by
  have slash : c ≠ '/' := fun same => isTail.not_mem (by decide) (same ▸ member)
  have backslash : c ≠ '\\' := fun same => isTail.not_mem (by decide) (same ▸ member)
  simp [isPathSeparator, slash, backslash]

/-- A text does not begin with a delimiter for having a tail. -/
theorem not_begins {mark : Char}
    (visible : Text.isC0ControlOrSpace mark = false ∧ Text.isWhitespace mark = false) {text : Text}
    (outer : ∀ inner, text ≠ mark :: inner) (inner : Text) : text ++ tail ≠ mark :: inner := by
  intro begins
  cases text with
  | nil =>
    have inTail : mark ∈ tail := by
      rw [List.nil_append] at begins
      rw [begins]
      exact List.mem_cons_self
    exact isTail.not_mem visible inTail
  | cons first rest => exact outer rest (by rw [(List.cons.inj begins).1])

theorem exists_cons : ∃ c rest, tail = c :: rest ∧ ∀ special, isPathSeparator special c = false := by
  obtain ⟨c, rest, rfl⟩ := List.exists_cons_of_ne_nil isTail.ne_nil
  exact ⟨c, rest, rfl, isTail.not_separator List.mem_cons_self⟩

end BlankTail

/-! ## Paths -/

section Foreign

variable {text : Text} {c : Char}

private theorem namesDirectory_of_foreign (member : c ∈ text) (outside : 128 ≤ c.toNat) :
    namesDirectory text = false := by
  have kept : Text.asciiLower c = c := by
    have above : ¬ ('A' ≤ c ∧ c ≤ 'Z') := by
      rw [Char.le_def, Char.le_def, UInt32.le_iff_toNat_le, UInt32.le_iff_toNat_le]
      have value : c.toNat = c.val.toNat := rfl
      have last : 'Z'.val.toNat = 90 := rfl
      omega
    simp only [Text.asciiLower, Bool.and_eq_true, decide_eq_true_eq]
    exact if_neg above
  apply namesDirectory_of_mem member kept
  intro spelling listed inSpelling
  have ascii : ∀ spelling ∈ directorySpellings, ∀ d ∈ spelling, d.toNat < 128 := by
    simp [directorySpellings, dotSpellings]
  exact Nat.not_lt.2 outside (ascii spelling listed c inSpelling)

theorem isDriveLetter_of_mem (member : c ∈ text) (outside : 128 ≤ c.toNat) :
    isDriveLetter text = false := by
  apply Bool.eq_false_iff.2
  intro drive
  unfold isDriveLetter at drive
  split at drive
  · rename_i letter mark
    simp only [Bool.and_eq_true, Bool.or_eq_true, beq_iff_eq] at drive
    have ascii : letter.toNat < 128 ∧ mark.toNat < 128 := by
      constructor
      · have range := Text.isLetter_iff.1 drive.1
        omega
      · rcases drive.2 with rfl | rfl
        all_goals decide
    simp only [List.mem_cons, List.not_mem_nil, or_false] at member
    rcases member with rfl | rfl
    · omega
    · omega
  · cases drive

end Foreign

theorem addSegments_concat (file : Bool) (path parts : List Text) :
    ∃ before, ∀ segment, addSegments file path (parts ++ [segment]) =
      addSegment file before segment true := by
  induction parts generalizing path with
  | nil => exact ⟨path, fun _ => rfl⟩
  | cons part rest inductionHypothesis =>
    obtain ⟨before, whole⟩ := inductionHypothesis (addSegment file path part false)
    refine ⟨before, fun segment => ?_⟩
    rw [← whole segment, List.cons_append]
    cases shape : rest ++ [segment] with
    | nil => simp at shape
    | cons next others => rfl

section Segments

variable {tail : Text} (isTail : BlankTail tail)
include isTail

private theorem addSegment_append (file : Bool) (path : List Text) (segment : Text)
    (isLast : Bool) :
    addSegment file path (segment ++ tail) isLast =
      Percent.encode Percent.path (segment ++ tail) :: path := by
  obtain ⟨c, inTail, outside⟩ := isTail.exists_foreign
  have member : c ∈ segment ++ tail := List.mem_append_right _ inTail
  have noDrive : (file && path.isEmpty && isDriveLetter (segment ++ tail)) = false := by
    rw [isDriveLetter_of_mem member outside, Bool.and_false]
  have plain := namesDirectory_of_foreign member outside
  unfold namesDirectory at plain
  rw [Bool.or_eq_false_iff] at plain
  unfold addSegment
  rw [plain.1, plain.2, noDrive]
  simp

/-- The segment that the tail joins is longer than any segment that stands there without it. -/
theorem head?_addSegment_ne (file : Bool) (path : List Text) (segment : Text) :
    (addSegment file path segment true).head? ≠
      some (Percent.encode Percent.path (segment ++ tail)) := by
  have long := Percent.length_le_length_encode Percent.path (segment ++ tail)
  have grows := List.length_pos_iff.2 isTail.ne_nil
  rw [List.length_append] at long
  have differs : ∀ other : Text, other.length < (Percent.encode Percent.path (segment ++ tail)).length ->
      some other ≠ some (Percent.encode Percent.path (segment ++ tail)) := by
    rintro other shorter same
    rw [Option.some.inj same] at shorter
    exact Nat.lt_irrefl _ shorter
  unfold addSegment
  split
  · exact differs [] (by simp; omega)
  · split
    · exact differs [] (by simp; omega)
    · split
      · rename_i letter others _ _ drive
        have two : others.length = 1 := by
          simp only [Bool.and_eq_true] at drive
          have isDrive := drive.2
          unfold isDriveLetter at isDrive
          split at isDrive
          · rename_i same
            cases same
            rfl
          · cases isDrive
        exact differs [letter, ':'] (by simp only [List.length_cons, List.length_nil] at long ⊢; omega)
      · intro same
        exact Percent.encode_append_ne isTail.ne_nil Percent.path _ (Option.some.inj same).symm

/-- The last segment of a path takes the tail. -/
theorem getLast?_readPath_append (scheme text : Text) :
    ∃ segment, (readPath scheme (text ++ tail)).getLast? = some segment ∧ segment ≠ [] ∧
      (readPath scheme text).getLast? ≠ some segment := by
  have grown : ∀ segment, Percent.encode Percent.path (segment ++ tail) ≠ [] := by
    intro segment empty
    have long := Percent.length_le_length_encode Percent.path (segment ++ tail)
    rw [empty] at long
    exact isTail.ne_nil (List.append_eq_nil_iff.1 (List.eq_nil_of_length_eq_zero (Nat.le_zero.1 long))).2
  have last : ∀ file body special, ∃ segment,
      (pathOf file (Text.splitAny (isPathSeparator special) (body ++ tail))).getLast? = some segment ∧
      segment ≠ [] ∧
      (pathOf file (Text.splitAny (isPathSeparator special) body)).getLast? ≠ some segment := by
    intro file body special
    obtain ⟨parts, last, alone, together⟩ :=
      Text.splitAny_append (fun c member => isTail.not_separator member special) body
    obtain ⟨before, added⟩ := addSegments_concat file [] parts
    refine ⟨Percent.encode Percent.path (last ++ tail), ?_, grown last, ?_⟩
    · rw [together, pathOf, added, addSegment_append isTail, List.getLast?_reverse]
      rfl
    · rw [alone, pathOf, added, List.getLast?_reverse]
      exact head?_addSegment_ne isTail file before last
  cases text with
  | nil =>
    obtain ⟨segment, together, filled, -⟩ := last (isFileScheme scheme) [] (isSpecialScheme scheme)
    obtain ⟨c, rest, rfl, bare⟩ := isTail.exists_cons
    refine ⟨segment, ?_, filled, ?_⟩
    · unfold readPath
      simp only [List.nil_append] at together ⊢
      rw [bare]
      exact together
    · unfold readPath
      dsimp only
      split
      · exact fun same => filled (Option.some.inj same).symm
      · exact fun none => nomatch none
  | cons c rest =>
    unfold readPath
    simp only [List.cons_append]
    split
    · exact last _ rest _
    · exact last _ (c :: rest) _

theorem readPath_append_ne (scheme text : Text) :
    readPath scheme (text ++ tail) ≠ readPath scheme text := by
  obtain ⟨segment, together, -, alone⟩ := getLast?_readPath_append isTail scheme text
  intro same
  rw [same] at together
  exact alone together

theorem withoutLeadingEmpty_readPath_append_ne (scheme text : Text) :
    withoutLeadingEmpty (readPath scheme (text ++ tail)) ≠
      withoutLeadingEmpty (readPath scheme text) := by
  obtain ⟨segment, together, filled, alone⟩ := getLast?_readPath_append isTail scheme text
  have keeps : ∀ path : List Text, (withoutLeadingEmpty path).getLast? = some segment ↔
      path.getLast? = some segment := by
    intro path
    induction path with
    | nil => simp [withoutLeadingEmpty, Ne.symm filled]
    | cons first rest inductionHypothesis =>
      unfold withoutLeadingEmpty at inductionHypothesis ⊢
      cases first with
      | nil =>
        rw [List.dropWhile_cons_of_pos rfl, inductionHypothesis]
        cases rest with
        | nil => simp [Ne.symm filled]
        | cons second others => rw [List.getLast?_cons_cons]
      | cons c segment => rw [List.dropWhile_cons_of_neg (by simp)]
  intro same
  rw [← keeps, same, keeps] at together
  exact alone together

end Segments

end LoginGate.Url
