import LoginGate.Proofs.Unicode.Compose
import LoginGate.Proofs.Unicode.Lowercase
import LoginGate.Unicode.DomainFold

/-!
Contract: a folded and composed text has no capital letters of ASCII.

Owns:
- the capital letters that decomposition can make ASCII capitals of;
- the laws that folding gives none of them and that decomposition makes none of others;
- the law that an ASCII text without capital letters is its own folded form.

Does not own: what a domain name makes of the composed text (`Proofs.Url.Ascii`).

Folding alone is not enough: composition first decomposes, and what folding left must not decompose
to a capital letter. So the set is closed under the decompositions, taken backwards.
-/

namespace LoginGate.Unicode

/-- Latin capital letters with and without marks, each with its lower-case letter. -/
def latinCapitals : List Run :=
  [⟨0x41, 0x5A, 1, 0x61⟩, ⟨0xC0, 0xD6, 1, 0xE0⟩, ⟨0xD8, 0xDE, 1, 0xF8⟩, ⟨0x100, 0x12E, 2, 0x101⟩,
    ⟨0x130, 0x130, 1, 0x69⟩, ⟨0x134, 0x136, 2, 0x135⟩, ⟨0x139, 0x13D, 2, 0x13A⟩,
    ⟨0x141, 0x147, 2, 0x142⟩, ⟨0x14A, 0x176, 2, 0x14B⟩, ⟨0x178, 0x178, 1, 0xFF⟩,
    ⟨0x179, 0x17D, 2, 0x17A⟩, ⟨0x1A0, 0x1A4, 2, 0x1A1⟩, ⟨0x1AF, 0x1AF, 1, 0x1B0⟩,
    ⟨0x1CD, 0x1DB, 2, 0x1CE⟩, ⟨0x1DE, 0x1EE, 2, 0x1DF⟩, ⟨0x1F4, 0x1F4, 1, 0x1F5⟩,
    ⟨0x1F8, 0x21E, 2, 0x1F9⟩, ⟨0x222, 0x232, 2, 0x223⟩, ⟨0x1E00, 0x1E94, 2, 0x1E01⟩,
    ⟨0x1EA0, 0x1EFE, 2, 0x1EA1⟩, ⟨0x212A, 0x212A, 1, 0x6B⟩, ⟨0x212B, 0x212B, 1, 0xE5⟩]

def isLatinCapital (n : Nat) : Bool :=
  latinCapitals.any fun run =>
    run.first ≤ n && n ≤ run.last && (n - run.first) % run.step == 0

theorem isLatinCapital_iff {n : Nat} :
    isLatinCapital n = true ↔
      ∃ run ∈ latinCapitals, run.image? n = some (run.image + (n - run.first)) := by
  simp only [isLatinCapital, List.any_eq_true, Run.image?_eq_some_iff, Bool.and_eq_true,
    decide_eq_true_eq, beq_iff_eq, and_true, and_assoc]

theorem isLatinCapital_of_ascii {n : Nat} (capital : 65 ≤ n ∧ n ≤ 90) : isLatinCapital n = true :=
  isLatinCapital_iff.2 ⟨_, List.mem_cons_self,
    Run.image?_eq_some_iff.2 ⟨capital.1, capital.2, Nat.mod_one _, rfl⟩⟩

private theorem not_capital_of_lt {n : Nat} (behind : 0x212B < n) : isLatinCapital n = false := by
  apply Bool.eq_false_iff.2
  intro capital
  obtain ⟨run, inCapitals, maps⟩ := isLatinCapital_iff.1 capital
  have inside := (Run.image?_eq_some_iff.1 maps).2.1
  have last : ∀ run ∈ latinCapitals, run.last ≤ 0x212B := by decide
  exact absurd (last run inCapitals) (by omega)

/-! ## Tables without capital letters -/

/-- An entry whose images are no capital letters; most lie behind all of them. -/
def Entry.sparesCapitals (entry : Entry) : Bool :=
  entry.images.all (0x212B < ·) ||
    match entry.images with
    | [image] => latinCapitals.all (Run.avoids ⟨entry.first, entry.last, entry.step, image⟩)
    | images => images.all (! isLatinCapital ·)

private theorem exists_of_images? {entries : List Entry} {n : Nat} {images : List Nat}
    (found : images? entries n = some images) :
    ∃ entry ∈ entries, entry.first ≤ n ∧ n ≤ entry.last ∧ (n - entry.first) % entry.step = 0 ∧
      images = match entry.images with
        | [image] => [image + (n - entry.first)]
        | images => images := by
  obtain ⟨entry, first, rfl⟩ := Option.map_eq_some_iff.1 found
  have inside := List.find?_some first
  simp only [Bool.and_eq_true, decide_eq_true_eq, beq_iff_eq] at inside
  exact ⟨entry, List.mem_of_find?_eq_some first, inside.1.1, inside.1.2, inside.2, rfl⟩

theorem Entry.not_capital {entry : Entry} (spares : entry.sparesCapitals = true) {n image : Nat}
    (inside : entry.first ≤ n ∧ n ≤ entry.last ∧ (n - entry.first) % entry.step = 0)
    (member : image ∈ match entry.images with
      | [image] => [image + (n - entry.first)]
      | images => images) : isLatinCapital image = false := by
  simp only [sparesCapitals, Bool.or_eq_true] at spares
  rcases spares with behind | spares
  · apply not_capital_of_lt
    split at member
    · rename_i only single
      simp only [single, List.all_cons, List.all_nil, Bool.and_true, decide_eq_true_eq] at behind
      rw [List.mem_singleton.1 member]
      omega
    · simpa using List.all_eq_true.1 behind image member
  split at spares
  · rename_i only single
    rw [single] at member
    have avoids := List.all_eq_true.1 spares
    have maps : Run.image? ⟨entry.first, entry.last, entry.step, only⟩ n = some image :=
      Run.image?_eq_some_iff.2 ⟨inside.1, inside.2.1, inside.2.2, List.mem_singleton.1 member⟩
    apply Bool.eq_false_iff.2
    intro capital
    obtain ⟨run, inCapitals, again⟩ := isLatinCapital_iff.1 capital
    rw [Run.image?_of_avoids (avoids run inCapitals) maps] at again
    cases again
  · rename_i images notSingle
    split at member
    · rename_i only single
      exact absurd single (notSingle only)
    · simpa using List.all_eq_true.1 spares image member

/-! ## Folding -/

private theorem casefoldEntries_spareCapitals :
    casefoldEntries.all Entry.sparesCapitals = true := by
  decide +kernel

/-- Each capital letter has an entry in the table of foldings. -/
theorem latinCapitals_folded :
    (latinCapitals.all fun run => casefoldEntries.any fun entry =>
      entry.first == run.first && entry.last == run.last && entry.step == run.step) = true := by
  decide +kernel

private theorem latinCapitals_not_barred :
    (latinCapitals.all fun run => barredRanges.all run.misses) = true := by
  decide +kernel

private theorem images?_ne_none_of_capital {n : Nat} (capital : isLatinCapital n = true) :
    images? casefoldEntries n ≠ none := by
  obtain ⟨run, inCapitals, maps⟩ := isLatinCapital_iff.1 capital
  obtain ⟨atLeast, atMost, onStep, -⟩ := Run.image?_eq_some_iff.1 maps
  obtain ⟨entry, member, same⟩ :=
    List.any_eq_true.1 (List.all_eq_true.1 latinCapitals_folded run inCapitals)
  simp only [Bool.and_eq_true, beq_iff_eq] at same
  obtain ⟨⟨first, last⟩, step⟩ := same
  intro missing
  have outside := List.find?_eq_none.1 (Option.map_eq_none_iff.1 missing) entry member
  simp only [first, last, step, atLeast, atMost, onStep, decide_true, Bool.and_self, beq_self_eq_true,
    not_true_eq_false] at outside

/-- Folding gives no capital letters. -/
theorem not_capital_of_mem_foldForDomain {c d : Char} (member : d ∈ foldForDomain c) :
    isLatinCapital d.toNat = false := by
  unfold foldForDomain at member
  dsimp only at member
  split at member
  · rw [List.mem_singleton.1 member]
    decide
  split at member
  · rename_i kept
    rw [List.mem_singleton.1 member]
    apply Bool.eq_false_iff.2
    intro capital
    simp only [Bool.or_eq_true, beq_iff_eq] at kept
    rcases kept with (((sharp | sigma) | nonJoiner) | joiner) | barred
    · rw [sharp] at capital
      cases capital
    · rw [sigma] at capital
      cases capital
    · rw [nonJoiner] at capital
      cases capital
    · rw [joiner] at capital
      cases capital
    · obtain ⟨run, inCapitals, maps⟩ := isLatinCapital_iff.1 capital
      obtain ⟨range, inBarred, inside⟩ := List.any_eq_true.1 barred
      have misses := List.all_eq_true.1 (List.all_eq_true.1 latinCapitals_not_barred run inCapitals)
        range inBarred
      simp only [Bool.and_eq_true, decide_eq_true_eq] at inside
      exact (Run.outside_of_misses misses maps).1 inside
  split at member
  · rw [List.mem_singleton.1 member]
    decide
  split at member
  · rename_i images found
    obtain ⟨image, inImages, rfl⟩ := List.mem_map.1 member
    obtain ⟨entry, inTable, first, last, step, rfl⟩ := exists_of_images? found
    have spared := Entry.not_capital (List.all_eq_true.1 casefoldEntries_spareCapitals entry inTable)
      ⟨first, last, step⟩ inImages
    by_cases valid : image.isValidChar
    · rw [Char.ofNat, dif_pos valid]
      exact spared
    · rw [Char.ofNat, dif_neg valid]
      decide
  · rename_i missing
    rw [List.mem_singleton.1 member]
    apply Bool.eq_false_iff.2
    intro capital
    exact images?_ne_none_of_capital capital missing

/-! ## Composition -/

private theorem decompositionEntries_spareCapitals :
    (decompositionEntries.all fun entry =>
      entry.sparesCapitals || entry.first == entry.last && isLatinCapital entry.first) = true := by
  decide +kernel

private theorem decompositionEntries_beyondAscii :
    (decompositionEntries.all fun entry => 128 ≤ entry.first) = true := by
  decide +kernel

private theorem latinCapitals_not_hangul :
    (latinCapitals.all fun run => run.last < 0x1100 || 0x1200 ≤ run.first) = true := by
  decide

private theorem not_capital_of_mem_hangulLetters {n letter : Nat}
    (syllable : isHangulSyllable n = true)
    (member : letter ∈ hangulLetters n) : isLatinCapital letter = false := by
  have range : 0x1100 ≤ letter ∧ letter < 0x1200 := by
    simp only [isHangulSyllable, Bool.and_eq_true, decide_eq_true_eq] at syllable
    unfold hangulLetters at member
    dsimp only at member
    split at member
    · simp only [List.mem_cons, List.not_mem_nil, or_false] at member
      omega
    · simp only [List.cons_append, List.nil_append, List.mem_cons, List.not_mem_nil, or_false]
        at member
      omega
  apply Bool.eq_false_iff.2
  intro capital
  obtain ⟨run, inCapitals, maps⟩ := isLatinCapital_iff.1 capital
  obtain ⟨atLeast, atMost, -, -⟩ := Run.image?_eq_some_iff.1 maps
  have apart := List.all_eq_true.1 latinCapitals_not_hangul run inCapitals
  simp only [Bool.or_eq_true, decide_eq_true_eq] at apart
  omega

/-- What is no capital letter does not decompose to any. -/
theorem not_capital_of_mem_decompose {steps n part : Nat} (small : isLatinCapital n = false)
    (member : part ∈ decompose steps n) : isLatinCapital part = false := by
  induction steps generalizing n part with
  | zero =>
    rw [List.mem_singleton.1 member]
    exact small
  | succ steps inductionHypothesis =>
    rw [decompose] at member
    split at member
    · rename_i syllable
      exact not_capital_of_mem_hangulLetters syllable member
    split at member
    · rename_i images found
      obtain ⟨image, inImages, inParts⟩ := List.mem_flatMap.1 member
      refine inductionHypothesis ?_ inParts
      obtain ⟨entry, inTable, first, last, step, rfl⟩ := exists_of_images? found
      have checked := List.all_eq_true.1 decompositionEntries_spareCapitals entry inTable
      simp only [Bool.or_eq_true, Bool.and_eq_true, beq_iff_eq] at checked
      rcases checked with spares | ⟨single, capital⟩
      · exact Entry.not_capital spares ⟨first, last, step⟩ inImages
      · have same : entry.first = n := by omega
        rw [same, small] at capital
        cases capital
    · rw [List.mem_singleton.1 member]
      exact small

/-- Composed characters are outside ASCII. -/
theorem beyondAscii_of_composePair? {first second composed : Nat}
    (found : composePair? first second = some composed) : 128 ≤ composed := by
  unfold composePair? at found
  split at found
  · have same := Option.some.inj found
    omega
  split at found
  · rename_i syllable
    have range := syllable.1
    simp only [isHangulSyllable, Bool.and_eq_true, decide_eq_true_eq] at range
    have same := Option.some.inj found
    omega
  · obtain ⟨entry, first, rfl⟩ := Option.map_eq_some_iff.1 found
    simpa using List.all_eq_true.1 decompositionEntries_beyondAscii entry
      (List.mem_of_find?_eq_some first)

private theorem mem_of_mem_composeFrom {n starter : Nat} {kept rest : List Nat} (ascii : n < 128)
    (member : n ∈ composeFrom starter kept rest) : n = starter ∨ n ∈ kept ∨ n ∈ rest := by
  fun_induction composeFrom starter kept rest with
  | case1 starter kept => simpa using member
  | case2 starter kept point rest blocked composed joined inductionHypothesis =>
    have pair : composePair? starter point = some composed := by
      split at joined
      · cases joined
      · exact joined
    have outside := beyondAscii_of_composePair? pair
    rcases inductionHypothesis member with same | inKept | inRest
    · omega
    · exact .inr (.inl inKept)
    · exact .inr (.inr (List.mem_cons_of_mem _ inRest))
  | case3 starter kept point rest blocked apart starts inductionHypothesis =>
    rw [List.mem_append, List.mem_cons, List.mem_reverse] at member
    rcases member with (same | inKept) | later
    · exact .inl same
    · exact .inr (.inl inKept)
    · rcases inductionHypothesis later with same | inKept | inRest
      · exact .inr (.inr (List.mem_cons.2 (.inl same)))
      · cases inKept
      · exact .inr (.inr (List.mem_cons_of_mem _ inRest))
  | case4 starter kept point rest blocked apart follows inductionHypothesis =>
    rcases inductionHypothesis member with same | inKept | inRest
    · exact .inl same
    · rcases List.mem_cons.1 inKept with same | inKept
      · exact .inr (.inr (List.mem_cons.2 (.inl same)))
      · exact .inr (.inl inKept)
    · exact .inr (.inr (List.mem_cons_of_mem _ inRest))

/-- An ASCII character of a composed text comes from a decomposed one. -/
theorem exists_mem_of_mem_normalizeComposed {c : Char} {text : Text} (ascii : c.toNat < 128)
    (member : c ∈ normalizeComposed text) :
    c.toNat = 0 ∨ ∃ source ∈ text, c.toNat ∈ decompose 4 source.toNat := by
  obtain ⟨n, composed, rfl⟩ := List.mem_map.1 member
  have code : (Char.ofNat n).toNat = 0 ∨ (Char.ofNat n).toNat = n := by
    by_cases valid : n.isValidChar
    · rw [Char.ofNat, dif_pos valid]
      exact .inr rfl
    · rw [Char.ofNat, dif_neg valid]
      exact .inl rfl
  rcases code with zero | same
  · exact .inl zero
  · right
    rw [same] at ascii ⊢
    have ordered : n ∈ orderMarks (text.flatMap fun c => decompose 4 c.toNat) := by
      revert composed
      cases orderMarks (text.flatMap fun c => decompose 4 c.toNat) with
      | nil => exact id
      | cons point rest =>
        intro composed
        rcases mem_of_mem_composeFrom ascii composed with same | inKept | inRest
        · exact List.mem_cons.2 (.inl same)
        · cases inKept
        · exact List.mem_cons_of_mem _ inRest
    exact List.mem_flatMap.1 (mem_orderMarks.1 ordered)

/-- **A folded and composed text has no capital letters of ASCII.** -/
theorem not_capital_of_mem_normalizeComposed {name : Text} {c : Char}
    (member : c ∈ normalizeComposed (name.flatMap foldForDomain)) :
    ¬ (65 ≤ c.toNat ∧ c.toNat ≤ 90) := by
  intro capital
  rcases exists_mem_of_mem_normalizeComposed (by omega) member with zero | ⟨source, folded, part⟩
  · omega
  · obtain ⟨origin, -, written⟩ := List.mem_flatMap.1 folded
    have small := not_capital_of_mem_decompose (not_capital_of_mem_foldForDomain written) part
    rw [isLatinCapital_of_ascii capital] at small
    cases small

/-! ## Folded texts -/

private theorem casefoldEntries_ascii :
    (casefoldEntries.all fun entry =>
      128 ≤ entry.first || 65 ≤ entry.first && entry.last ≤ 90) = true := by
  decide +kernel

theorem foldForDomain_eq_self {c : Char} (ascii : c.toNat < 128)
    (small : ¬ (65 ≤ c.toNat ∧ c.toNat ≤ 90)) : foldForDomain c = [c] := by
  have unmapped : images? casefoldEntries c.toNat = none := by
    apply Option.map_eq_none_iff.2
    apply List.find?_eq_none.2
    intro entry inTable covered
    have range := List.all_eq_true.1 casefoldEntries_ascii entry inTable
    simp only [Bool.or_eq_true, Bool.and_eq_true, decide_eq_true_eq] at range covered
    omega
  unfold foldForDomain
  dsimp only
  rw [unmapped, if_neg (by simp only [Bool.or_eq_true, beq_iff_eq]; omega)]
  split
  · rfl
  · rw [if_neg (by simp only [beq_iff_eq]; omega)]

end LoginGate.Unicode
