import LoginGate.Unicode.Compose

/-!
Contract: the characters that normalization leaves where they are.

Owns:
- code points that neither decompose nor compose;
- the law that a text in normalization form C still holds such a character.

Does not own: which characters a domain name may hold (`Proofs.Url.Domain`).
-/

namespace LoginGate.Unicode

/-- A code point that decomposes to itself and composes with no other. -/
structure Inert (n : Nat) : Prop where
  undivided : decompose 4 n = [n]
  first : ∀ second, composePair? n second = none
  second : ∀ first, composePair? first n = none

/-- Outside Hangul the table decides alone. -/
theorem inert_of_not_mem {n : Nat} (notHangul : n < 0x1100 ∨ 0x11C3 ≤ n ∧ n < 0xAC00)
    (undivided : images? decompositionEntries n = none)
    (unused : ∀ entry ∈ decompositionEntries, n ∉ entry.images) : Inert n := by
  have notSyllable : isHangulSyllable n = false := by
    simp only [isHangulSyllable, Bool.and_eq_false_iff, decide_eq_false_iff_not]
    omega
  have missing : ∀ first second, n = first ∨ n = second ->
      decompositionEntries.find? (fun entry =>
        entry.images == [first, second] && !covers compositionExclusions entry.first) = none := by
    intro first second among
    apply List.find?_eq_none.2
    intro entry member found
    simp only [Bool.and_eq_true, beq_iff_eq] at found
    apply unused entry member
    rw [found.1]
    simpa using among
  constructor
  · rw [decompose, notSyllable, undivided]
    rfl
  · intro second
    have noLetter : ¬ (0x1100 ≤ n ∧ n < 0x1113 ∧ 0x1161 ≤ second ∧ second < 0x1176) := by omega
    unfold composePair?
    rw [if_neg noLetter, notSyllable, missing n second (.inl rfl)]
    simp
  · intro first
    have noLetter : ¬ (0x1100 ≤ first ∧ first < 0x1113 ∧ 0x1161 ≤ n ∧ n < 0x1176) := by omega
    have noFinal : ¬ (isHangulSyllable first = true ∧ (first - 0xAC00) % 28 = 0 ∧
        0x11A7 < n ∧ n < 0x11C3) := by omega
    unfold composePair?
    rw [if_neg noLetter, if_neg noFinal, missing first n (.inr rfl)]
    rfl

/-! ## Order -/

private theorem mem_insertMark {n mark : Nat} {reversed : List Nat} :
    n ∈ insertMark mark reversed ↔ n = mark ∨ n ∈ reversed := by
  induction reversed with
  | nil => simp [insertMark]
  | cons last before inductionHypothesis =>
    rw [insertMark]
    split
    · simp only [List.mem_cons, inductionHypothesis]
      exact or_left_comm
    · simp only [List.mem_cons]

theorem mem_orderMarks {n : Nat} {points : List Nat} : n ∈ orderMarks points ↔ n ∈ points := by
  have general : ∀ reversed, n ∈ points.foldl (fun reversed point => insertMark point reversed)
      reversed ↔ n ∈ points ∨ n ∈ reversed := by
    induction points with
    | nil => simp
    | cons point rest inductionHypothesis =>
      intro reversed
      rw [List.foldl_cons, inductionHypothesis, mem_insertMark, List.mem_cons]
      grind
  unfold orderMarks
  rw [List.mem_reverse, general]
  simp

/-! ## Composition -/

/-- An inert starter is never replaced, and an inert point never joins a starter. -/
theorem mem_composeFrom {n starter : Nat} {kept rest : List Nat} (inert : Inert n)
    (member : n = starter ∨ n ∈ kept ∨ n ∈ rest) : n ∈ composeFrom starter kept rest := by
  fun_induction composeFrom starter kept rest with
  | case1 => simpa using member
  | case2 starter kept point rest blocked composed joined inductionHypothesis =>
    have pair : composePair? starter point = some composed := by
      split at joined
      · cases joined
      · exact joined
    have others : n ≠ starter ∧ n ≠ point := by
      constructor
      · rintro rfl
        rw [inert.first] at pair
        cases pair
      · rintro rfl
        rw [inert.second] at pair
        cases pair
    apply inductionHypothesis
    simp only [List.mem_cons, others, false_or] at member
    exact .inr member
  | case3 starter kept point rest blocked apart starts inductionHypothesis =>
    rcases member with rfl | inKept | inRest
    · simp
    · simp [inKept]
    · have later := inductionHypothesis (by simpa using inRest)
      simp [later]
  | case4 starter kept point rest blocked apart follows inductionHypothesis =>
    apply inductionHypothesis
    simp only [List.mem_cons] at member ⊢
    grind

/-- Normalization keeps an inert character. -/
theorem mem_normalizeComposed {c : Char} {text : Text} (inert : Inert c.toNat) (member : c ∈ text) :
    c ∈ normalizeComposed text := by
  have decomposed : c.toNat ∈ text.flatMap fun c => decompose 4 c.toNat := by
    refine List.mem_flatMap.2 ⟨c, member, ?_⟩
    rw [inert.undivided]
    exact List.mem_singleton_self _
  have ordered := mem_orderMarks.2 decomposed
  have composed : c.toNat ∈ compose (orderMarks (text.flatMap fun c => decompose 4 c.toNat)) := by
    cases shape : orderMarks (text.flatMap fun c => decompose 4 c.toNat) with
    | nil =>
      rw [shape] at ordered
      cases ordered
    | cons point rest =>
      rw [shape] at ordered
      apply mem_composeFrom inert
      rcases List.mem_cons.1 ordered with same | later
      · exact .inl same
      · exact .inr (.inr later)
  exact List.mem_map.2 ⟨c.toNat, composed, Char.ofNat_toNat c⟩

end LoginGate.Unicode
