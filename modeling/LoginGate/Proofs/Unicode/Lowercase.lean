import LoginGate.Unicode.Lowercase

/-!
Contract: the laws of lower-casing.

Owns:
- characters that lower-casing leaves alone wherever they stand, and that it gives no others;
- sets of code points that lower-casing neither leaves nor enters;
- the law that a lower-cased text is its own lower case.

Does not own: which sets matter to a format (`Mailbox.Alike`).

The table has 185 runs. What is needed of it is a fact about each pair of runs, or about each run
and each range, and the runs are compared by their ends and not code point by code point.
-/

namespace LoginGate.Unicode

/-! ## Runs -/

theorem Run.image?_eq_some_iff {run : Run} {n image : Nat} :
    run.image? n = some image ↔
      run.first ≤ n ∧ n ≤ run.last ∧ (n - run.first) % run.step = 0 ∧
        image = run.image + (n - run.first) := by
  unfold Run.image?
  split
  · rename_i inside
    simp only [Option.some.injEq]
    constructor
    · rintro rfl
      exact ⟨inside.1, inside.2.1, inside.2.2, rfl⟩
    · rintro ⟨-, -, -, rfl⟩
      rfl
  · rename_i outside
    simp only [reduceCtorEq, false_iff]
    rintro ⟨atLeast, atMost, onStep, -⟩
    exact outside ⟨atLeast, atMost, onStep⟩

def Run.lastImage (run : Run) : Nat := run.image + (run.last - run.first)

/-- A run whose images another run does not cover: they lie apart, or the other takes every second
code point and the images are those between. -/
def Run.avoids (run other : Run) : Bool :=
  run.lastImage < other.first || other.last < run.image ||
    other.first ≤ run.image && other.step == 2 && (run.image - other.first) % 2 == 1 &&
      (run.step == 2 || run.first == run.last)

theorem Run.image?_of_avoids {run other : Run} (avoids : run.avoids other = true) {n image : Nat}
    (maps : run.image? n = some image) : other.image? image = none := by
  obtain ⟨atLeast, atMost, onStep, rfl⟩ := Run.image?_eq_some_iff.1 maps
  cases again : other.image? (run.image + (n - run.first)) with
  | none => rfl
  | some second =>
    exfalso
    obtain ⟨otherLeast, otherMost, otherStep, -⟩ := Run.image?_eq_some_iff.1 again
    simp only [Run.avoids, Bool.or_eq_true, Bool.and_eq_true, decide_eq_true_eq,
      beq_iff_eq] at avoids
    unfold Run.lastImage at avoids
    rcases avoids with (below | above) | ⟨⟨⟨from_first, everySecond⟩, between⟩, steps⟩
    · omega
    · omega
    · rw [everySecond] at otherStep
      rcases steps with alsoSecond | single
      · rw [alsoSecond] at onStep
        omega
      · omega

/-- A run that begins, ends and maps outside a range. -/
def Run.misses (run : Run) (range : Nat × Nat) : Bool :=
  (run.last < range.1 || range.2 < run.first) && (run.lastImage < range.1 || range.2 < run.image)

theorem Run.outside_of_misses {run : Run} {range : Nat × Nat} (misses : run.misses range = true)
    {n image : Nat} (maps : run.image? n = some image) :
    ¬ (range.1 ≤ n ∧ n ≤ range.2) ∧ ¬ (range.1 ≤ image ∧ image ≤ range.2) := by
  obtain ⟨atLeast, atMost, -, rfl⟩ := Run.image?_eq_some_iff.1 maps
  simp only [Run.misses, Bool.or_eq_true, Bool.and_eq_true, decide_eq_true_eq] at misses
  unfold Run.lastImage at misses
  omega

def Run.isScalar (run : Run) : Bool :=
  run.lastImage < 0xD800 || 0xDFFF < run.image && run.lastImage < 0x110000

/-! ## The table -/

private theorem lowercaseRuns_avoid :
    (lowercaseRuns.all fun run => lowercaseRuns.all run.avoids) = true := by
  decide +kernel

private theorem lowercaseRuns_scalar : lowercaseRuns.all Run.isScalar = true := by
  decide +kernel

def lowerImage? (n : Nat) : Option Nat := lowercaseRuns.findSome? (·.image? n)

private theorem lowerImage?_eq_some {n image : Nat} (maps : lowerImage? n = some image) :
    ∃ run ∈ lowercaseRuns, run.image? n = some image := by
  obtain ⟨run, member, found⟩ := List.exists_of_findSome?_eq_some maps
  exact ⟨run, member, found⟩

/-- What the table maps to, it does not map any further. -/
theorem lowerImage?_image {n image : Nat} (maps : lowerImage? n = some image) :
    lowerImage? image = none := by
  obtain ⟨run, member, found⟩ := lowerImage?_eq_some maps
  unfold lowerImage?
  rw [List.findSome?_eq_none_iff]
  intro other otherMember
  have avoid := lowercaseRuns_avoid
  rw [List.all_eq_true] at avoid
  have avoids := List.all_eq_true.1 (avoid run member) other otherMember
  exact Run.image?_of_avoids avoids found

private theorem toNat_ofNat_image {n image : Nat} (maps : lowerImage? n = some image) :
    (Char.ofNat image).toNat = image := by
  obtain ⟨run, member, found⟩ := lowerImage?_eq_some maps
  have scalar := List.all_eq_true.1 lowercaseRuns_scalar run member
  obtain ⟨-, atMost, -, rfl⟩ := Run.image?_eq_some_iff.1 found
  simp only [Run.isScalar, Bool.or_eq_true, Bool.and_eq_true, decide_eq_true_eq] at scalar
  unfold Run.lastImage at scalar
  have valid : (run.image + (n - run.first)).isValidChar := by
    unfold Nat.isValidChar
    omega
  rw [Char.ofNat, dif_pos valid]
  rfl

def runsMiss (ranges : List (Nat × Nat)) : Bool :=
  lowercaseRuns.all fun run => ranges.all run.misses

private theorem not_covers_of_runsMiss {ranges : List (Nat × Nat)} (miss : runsMiss ranges = true)
    {n image : Nat} (maps : lowerImage? n = some image) :
    covers ranges n = false ∧ covers ranges image = false := by
  obtain ⟨run, member, found⟩ := lowerImage?_eq_some maps
  have outside : ∀ range ∈ ranges,
      ¬ (range.1 ≤ n ∧ n ≤ range.2) ∧ ¬ (range.1 ≤ image ∧ image ≤ range.2) := by
    intro range rangeMember
    have misses := List.all_eq_true.1 (List.all_eq_true.1 miss run member) range rangeMember
    exact Run.outside_of_misses misses found
  unfold covers
  simp only [List.any_eq_false, Bool.and_eq_true, decide_eq_true_eq]
  exact ⟨fun range rangeMember => (outside range rangeMember).1,
    fun range rangeMember => (outside range rangeMember).2⟩

/-- No image is the capital I with a dot, whose lower case has two characters. -/
theorem lowerImage?_ne_dotted (n : Nat) : lowerImage? n ≠ some 0x130 := by
  intro maps
  have miss : runsMiss [(0x130, 0x130)] = true := by decide +kernel
  have outside := (not_covers_of_runsMiss miss maps).2
  exact absurd outside (by decide)

private theorem simpleLower_eq (c : Char) :
    simpleLower c = ((lowerImage? c.toNat).map Char.ofNat).getD c := by
  unfold simpleLower lowerImage?
  cases lowercaseRuns.findSome? (·.image? c.toNat) <;> rfl

/-! ## Settled characters -/

/-- A character that is its own lower case, wherever it stands. -/
structure Settled (c : Char) : Prop where
  lowerChar : lowerChar c = [c]
  not_sigma : c ≠ capitalSigma

private theorem settled_of_unmapped {c : Char} (notDotted : c.toNat ≠ 0x130)
    (unmapped : lowerImage? c.toNat = none) : Settled c := by
  constructor
  · unfold Unicode.lowerChar
    rw [if_neg notDotted, simpleLower_eq, unmapped]
    rfl
  · rintro rfl
    exact absurd unmapped (by decide +kernel)

/-- Lower-casing gives settled characters. -/
theorem settled_of_mem_lowerChar {c d : Char} (member : d ∈ lowerChar c) : Settled d := by
  unfold lowerChar at member
  split at member
  · simp only [List.mem_cons, List.not_mem_nil, or_false] at member
    rcases member with rfl | rfl
    · exact settled_of_unmapped (by decide) (by decide +kernel)
    · exact settled_of_unmapped (by decide) (by decide +kernel)
  · rename_i notDotted
    rw [List.mem_singleton, simpleLower_eq] at member
    cases maps : lowerImage? c.toNat with
    | none =>
      rw [maps] at member
      subst member
      exact settled_of_unmapped notDotted maps
    | some image =>
      rw [maps] at member
      subst member
      have number := toNat_ofNat_image maps
      have unmapped := lowerImage?_image maps
      apply settled_of_unmapped
      · rintro (dotted : (Char.ofNat image).toNat = 0x130)
        rw [number] at dotted
        subst dotted
        exact absurd maps (lowerImage?_ne_dotted c.toNat)
      · show lowerImage? (Char.ofNat image).toNat = none
        rw [number]
        exact unmapped

private theorem settled_finalSigma : Settled finalSigma :=
  settled_of_unmapped (by decide) (by decide +kernel)

private theorem settled_of_mem_lowerAfter {before text : Text} {c : Char}
    (member : c ∈ lowerAfter before text) : Settled c := by
  induction text generalizing before with
  | nil => exact absurd member List.not_mem_nil
  | cons first rest inductionHypothesis =>
    rw [lowerAfter, List.mem_append] at member
    rcases member with here | later
    · split at here
      · rw [List.mem_singleton] at here
        subst here
        exact settled_finalSigma
      · exact settled_of_mem_lowerChar here
    · exact inductionHypothesis later

private theorem lowerAfter_of_settled {before text : Text} (settled : ∀ c ∈ text, Settled c) :
    lowerAfter before text = text := by
  induction text generalizing before with
  | nil => rfl
  | cons first rest inductionHypothesis =>
    obtain ⟨firstSettled, restSettled⟩ := List.forall_mem_cons.1 settled
    rw [lowerAfter, if_neg (fun sigma => firstSettled.not_sigma sigma.1),
      firstSettled.lowerChar, inductionHypothesis restSettled]
    rfl

/-- A lower-cased text is its own lower case. -/
@[simp] theorem toLower_toLower (text : Text) : toLower (toLower text) = toLower text := by
  apply lowerAfter_of_settled
  intro c member
  exact settled_of_mem_lowerAfter member

/-! ## Sets of code points -/

/-- A set of code points that lower-casing neither leaves nor enters: none of them stands in the
table or in the two rules beside it. -/
def spares (ranges : List (Nat × Nat)) : Bool :=
  runsMiss ranges &&
    [0x130, 'i'.toNat, 0x307, capitalSigma.toNat, finalSigma.toNat].all (!covers ranges ·)

section Spared

variable {ranges : List (Nat × Nat)} (spared : spares ranges = true)
include spared

private theorem runsMiss_of_spares : runsMiss ranges = true :=
  (Bool.and_eq_true _ _ ▸ spared).1

private theorem not_covers_special {n : Nat}
    (special : n ∈ [0x130, 'i'.toNat, 0x307, capitalSigma.toNat, finalSigma.toNat]) :
    covers ranges n = false := by
  have outside := List.all_eq_true.1 (Bool.and_eq_true _ _ ▸ spared).2 n special
  simpa using outside

theorem settled_of_covers {c : Char} (inside : covers ranges c.toNat = true) : Settled c := by
  apply settled_of_unmapped
  · intro dotted
    rw [dotted, not_covers_special spared (by simp)] at inside
    cases inside
  · cases maps : lowerImage? c.toNat with
    | none => rfl
    | some image =>
      rw [(not_covers_of_runsMiss (runsMiss_of_spares spared) maps).1] at inside
      cases inside

theorem not_covers_of_mem_lowerChar {c d : Char} (outside : covers ranges c.toNat = false)
    (member : d ∈ lowerChar c) : covers ranges d.toNat = false := by
  unfold lowerChar at member
  split at member
  · simp only [List.mem_cons, List.not_mem_nil, or_false] at member
    rcases member with rfl | rfl
    · exact not_covers_special spared (by simp)
    · exact not_covers_special spared (by decide)
  · rw [List.mem_singleton, simpleLower_eq] at member
    cases maps : lowerImage? c.toNat with
    | none =>
      rw [maps] at member
      subst member
      exact outside
    | some image =>
      rw [maps] at member
      subst member
      show covers ranges (Char.ofNat image).toNat = false
      rw [toNat_ofNat_image maps]
      exact (not_covers_of_runsMiss (runsMiss_of_spares spared) maps).2

end Spared

end LoginGate.Unicode
