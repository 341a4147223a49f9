import LoginGate.Proofs.Text.Split
import LoginGate.Proofs.Unicode.Capitals
import LoginGate.Proofs.Url.Domain

/-!
Contract: the ASCII form of a domain name is a name that is its own ASCII form.

Owns:
- the labels of an ASCII form, each read back as the label that it was written for;
- the law for whole names.

Does not own: how names are cut out of a URL (`Proofs.Url.Reread`).
-/

namespace LoginGate

namespace Url

/-! ## Labels -/

/-- A label of an ASCII form is the label itself or an encoded one, and it is read as the plain label
that it was written for. -/
theorem plainLabel?_asciiLabel {label plain : Text} (accepted : plainLabel? label = some plain) :
    plainLabel? (asciiLabel plain) = some plain := by
  have again := accepted
  unfold plainLabel? at accepted
  split at accepted
  · rename_i encoded cutOff
    simp only [Option.bind_eq_bind, Option.bind_eq_some_iff] at accepted
    obtain ⟨decoded, -, checked⟩ := accepted
    split at checked
    · cases checked
    · rename_i passes
      cases checked
      simp only [Bool.or_eq_true, not_or, Bool.not_eq_true, bne_eq_false_iff_eq] at passes
      unfold asciiLabel
      rw [passes.1.1, passes.2]
      have same : encodedMark ++ encoded = label := (Text.afterPrefix?_eq_some_iff.1 cutOff).symm
      simpa [same] using again
  · split at accepted
    · rename_i passes
      cases accepted
      unfold asciiLabel
      split
      · exact again
      · rename_i notAscii
        simp only [Bool.not_eq_true] at notAscii
        rw [notAscii, Bool.false_or] at passes
        have cutOff : Text.afterPrefix? encodedMark (encodedMark ++ Punycode.encode label) =
            some (Punycode.encode label) :=
          Text.afterPrefix?_eq_some_iff.2 rfl
        unfold plainLabel?
        rw [cutOff]
        simp only [Punycode.decode?_encode, Option.bind_eq_bind, Option.bind_some, notAscii, passes,
          Bool.not_true, Bool.or_self, bne_self_eq_false, Bool.false_eq_true, if_false]
    · cases accepted

private theorem cases_of_mem_asciiLabel {label plain : Text}
    (accepted : plainLabel? label = some plain) {c : Char} (member : c ∈ asciiLabel plain) :
    c.toNat < 128 ∧ (c ∈ label ∨ c = '-' ∨ Punycode.IsDigit c) := by
  have inMark : ∀ c ∈ encodedMark, c = '-' ∨ Punycode.IsDigit c := by
    intro c found
    have listed : c ∈ ['x', 'n', '-', '-'] := found
    simp only [List.mem_cons, List.not_mem_nil, or_false] at listed
    rcases listed with rfl | rfl | rfl | rfl
    · exact .inr (.inl (by decide))
    · exact .inr (.inl (by decide))
    · exact .inl rfl
    · exact .inl rfl
  have small : c.toNat < 128 := by
    unfold asciiLabel at member
    split at member
    · rename_i ascii
      simpa using List.all_eq_true.1 ascii c member
    · rcases List.mem_append.1 member with marked | encoded
      · rcases inMark c marked with rfl | digit
        · decide
        · unfold Punycode.IsDigit at digit
          omega
      · exact Punycode.ascii_encode plain c encoded
  refine ⟨small, ?_⟩
  unfold plainLabel? at accepted
  split at accepted
  · rename_i encoded cutOff
    simp only [Option.bind_eq_bind, Option.bind_eq_some_iff] at accepted
    obtain ⟨decoded, -, checked⟩ := accepted
    split at checked
    · cases checked
    · rename_i passes
      cases checked
      simp only [Bool.or_eq_true, not_or, Bool.not_eq_true, bne_eq_false_iff_eq] at passes
      unfold asciiLabel at member
      rw [passes.1.1, passes.2, if_neg Bool.false_ne_true,
        ← Text.afterPrefix?_eq_some_iff.1 cutOff] at member
      exact .inl member
  · split at accepted
    · cases accepted
      unfold asciiLabel at member
      split at member
      · exact .inl member
      · rcases List.mem_append.1 member with marked | encoded
        · exact .inr (inMark c marked)
        · rcases Punycode.cases_of_mem_encode encoded with inLabel | other
          · exact .inl inLabel.1
          · exact .inr other
    · cases accepted

private theorem mapM_asciiLabel {parts labels : List Text}
    (accepted : parts.mapM plainLabel? = some labels) :
    (labels.map asciiLabel).mapM plainLabel? = some labels := by
  induction parts generalizing labels with
  | nil =>
    cases accepted
    rfl
  | cons part parts inductionHypothesis =>
    simp only [List.mapM_cons, Option.pure_def, Option.bind_eq_bind, Option.bind_eq_some_iff,
      Option.some.injEq] at accepted
    obtain ⟨plain, first, others, rest, rfl⟩ := accepted
    simp [plainLabel?_asciiLabel first, inductionHypothesis rest]

/-! ## Whole names -/

/-- An ASCII name without capital letters is cut into its labels as it stands. -/
theorem asciiDomain?_of_folded {name : Text}
    (folded : ∀ c ∈ name, c.toNat < 128 ∧ ¬ (65 ≤ c.toNat ∧ c.toNat ≤ 90)) :
    asciiDomain? name = (do
      let labels <- (Text.split '.' name).mapM plainLabel?
      let ascii := Text.join ['.'] (labels.map asciiLabel)
      if (labels.any isFromRight && !labels.all hasOneDirection)
          || ascii.any isForbiddenInDomain then none
      else some ascii) := by
  have unchanged : name.flatMap Unicode.foldForDomain = name := by
    have single : name.map Unicode.foldForDomain = name.map fun c => [c] :=
      List.map_congr_left fun c member =>
        Unicode.foldForDomain_eq_self (folded c member).1 (folded c member).2
    rw [List.flatMap_def, single, ← List.flatMap_def, List.flatMap_singleton']
  have ascii : name.all (·.toNat < 128) = true := by
    simpa using fun c member => (folded c member).1
  unfold asciiDomain?
  simp only [unchanged, ascii, if_true]

/-- **The ASCII form of a name is its own ASCII form.** -/
theorem asciiDomain?_idempotent {name ascii : Text} (written : asciiDomain? name = some ascii) :
    asciiDomain? ascii = some ascii ∧ ascii.any isForbiddenInDomain = false ∧
      ∀ c ∈ ascii, c.toNat < 128 := by
  unfold asciiDomain? at written
  simp only [Option.bind_eq_bind, Option.bind_eq_some_iff] at written
  obtain ⟨labels, accepted, checked⟩ := written
  have again := mapM_asciiLabel accepted
  split at checked
  · cases checked
  rename_i passes
  cases checked
  have noCapital : ∀ c ∈ (if (name.flatMap Unicode.foldForDomain).all (·.toNat < 128) then
        name.flatMap Unicode.foldForDomain
      else Unicode.normalizeComposed (name.flatMap Unicode.foldForDomain)),
      ¬ (65 ≤ c.toNat ∧ c.toNat ≤ 90) := by
    intro c member
    split at member
    · obtain ⟨origin, -, folded⟩ := List.mem_flatMap.1 member
      intro capital
      have small := Unicode.not_capital_of_mem_foldForDomain folded
      rw [Unicode.isLatinCapital_of_ascii capital] at small
      cases small
    · exact Unicode.not_capital_of_mem_normalizeComposed member
  have characters : ∀ part ∈ labels.map asciiLabel, ∀ c ∈ part,
      c ≠ '.' ∧ c.toNat < 128 ∧ ¬ (65 ≤ c.toNat ∧ c.toNat ≤ 90) := by
    intro part listed c member
    obtain ⟨plain, inLabels, rfl⟩ := List.mem_map.1 listed
    obtain ⟨source, inSources, found⟩ := exists_source_of_mapM_eq_some accepted inLabels
    obtain ⟨small, inSource | rfl | digit⟩ := cases_of_mem_asciiLabel found member
    · obtain ⟨inName, noDot⟩ := Text.mem_of_mem_splitAny inSources c inSource
      exact ⟨by simpa using noDot, small, noCapital c inName⟩
    · decide
    · unfold Punycode.IsDigit at digit
      refine ⟨?_, small, by omega⟩
      rintro rfl
      exact absurd digit (by decide)
  have folded : ∀ c ∈ Text.join ['.'] (labels.map asciiLabel),
      c.toNat < 128 ∧ ¬ (65 ≤ c.toNat ∧ c.toNat ≤ 90) := by
    intro c member
    rcases Text.exists_mem_of_mem_join member with dot | ⟨part, listed, inPart⟩
    · rw [List.mem_singleton.1 dot]
      decide
    · exact (characters part listed c inPart).2
  have filled : labels.map asciiLabel ≠ [] := by
    obtain ⟨part, listed⟩ := List.exists_mem_of_ne_nil _ (Text.splitAny_ne_nil (· == '.')
      (if (name.flatMap Unicode.foldForDomain).all (·.toNat < 128) then
        name.flatMap Unicode.foldForDomain
      else Unicode.normalizeComposed (name.flatMap Unicode.foldForDomain)))
    obtain ⟨plain, inLabels, -⟩ := exists_mem_of_mapM_eq_some accepted listed
    exact List.ne_nil_of_mem (List.mem_map_of_mem inLabels)
  have divided : Text.split '.' (Text.join ['.'] (labels.map asciiLabel)) = labels.map asciiLabel :=
    Text.split_join filled fun part listed dot => (characters part listed '.' dot).1 rfl
  rw [asciiDomain?_of_folded folded, divided, again]
  simp only [Option.bind_eq_bind, Option.bind_some, passes]
  simp only [Bool.not_eq_true, Bool.or_eq_false_iff] at passes
  exact ⟨rfl, passes.2, fun c member => (folded c member).1⟩

end Url
end LoginGate
