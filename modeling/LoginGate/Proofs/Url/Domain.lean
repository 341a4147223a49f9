import LoginGate.Proofs.Text.Split
import LoginGate.Proofs.Text.Utf8
import LoginGate.Proofs.Unicode.Compose
import LoginGate.Proofs.Url.Punycode
import LoginGate.Url.Domain

/-!
Contract: no domain name holds white space, in any form.

Owns:
- the white space that folding leaves, of whatever kind it was before;
- the law that a name with white space has no ASCII form.

Does not own: what an encoded label holds (`Proofs.Url.Punycode`), or how the bytes of a host become
a name (`Url.Parser`).

White space survives each step on the way to the ASCII form, and the last one refuses it: inside
ASCII because it is forbidden there, outside because no label may be encoded with it.
-/

namespace LoginGate

/-! ## White space under folding -/

namespace Unicode

/-- The code points of white space that folding leaves in a text. -/
def foldedBlanks : List Nat := [9, 10, 11, 12, 13, 0x20, 0x85, 0x1680, 0x2028, 0x2029]

/-- Every other white space is folded to a space, alone or before a mark. -/
theorem exists_mem_foldForDomain {c : Char} (blank : Text.isWhitespace c = true) :
    ∃ folded ∈ foldForDomain c, folded.toNat ∈ foldedBlanks := by
  have every : ∀ n ∈ [9, 10, 11, 12, 13, 0x20, 0x85, 0xA0, 0x1680, 0x2000, 0x2001, 0x2002, 0x2003,
        0x2004, 0x2005, 0x2006, 0x2007, 0x2008, 0x2009, 0x200A, 0x2028, 0x2029, 0x202F, 0x205F,
        0x3000],
      (foldForDomain (Char.ofNat n)).any (fun folded => foldedBlanks.contains folded.toNat) =
        true := by
    decide +kernel
  have listed := every c.toNat (by
    simp only [Text.isWhitespace, Bool.or_eq_true, Bool.and_eq_true, decide_eq_true_eq,
      beq_iff_eq] at blank
    simp only [List.mem_cons, List.not_mem_nil, or_false]
    omega)
  rw [Char.ofNat_toNat, List.any_eq_true] at listed
  simpa using listed

private theorem inert_of_mem_foldedBlanks {n : Nat} (blank : n ∈ foldedBlanks) : Inert n := by
  have outside : ∀ n ∈ foldedBlanks, n < 0x1100 ∨ 0x11C3 ≤ n ∧ n < 0xAC00 := by decide
  have undivided : ∀ n ∈ foldedBlanks, images? decompositionEntries n = none := by
    decide +kernel
  have unused : ∀ entry ∈ decompositionEntries, ∀ n ∈ entry.images, n ∉ foldedBlanks := by
    decide +kernel
  exact inert_of_not_mem (outside n blank) (undivided n blank)
    fun entry member image => unused entry member n image blank

private theorem isLabelChar_of_mem_foldedBlanks {c : Char} (blank : c.toNat ∈ foldedBlanks) :
    isJoinControl c = false ∧ isLabelChar c = false := by
  have invisible : ∀ n ∈ foldedBlanks, covers visibleRanges n = false := by decide +kernel
  constructor
  · apply Bool.eq_false_iff.2
    intro control
    simp only [isJoinControl, Bool.or_eq_true, beq_iff_eq] at control
    rcases control with rfl | rfl
    all_goals exact absurd blank (by decide)
  · unfold isLabelChar
    rw [invisible _ blank]
    rfl

end Unicode

/-! ## Labels -/

namespace Url

/-- White space of a label that has a plain form stands in its ASCII form, and there only inside
ASCII. -/
theorem mem_asciiLabel_of_plainLabel? {label plain : Text} {c : Char}
    (accepted : plainLabel? label = some plain) (member : c ∈ label)
    (blank : c.toNat ∈ Unicode.foldedBlanks) : c ∈ asciiLabel plain ∧ c.toNat < 128 := by
  have notMarked : c ∉ encodedMark := by
    intro inMark
    have apart : encodedMark.all (fun c => !Unicode.foldedBlanks.contains c.toNat) = true := by
      decide
    simpa [blank] using List.all_eq_true.1 apart c inMark
  unfold plainLabel? at accepted
  split at accepted
  · rename_i encoded cutOff
    simp only [Option.bind_eq_bind, Option.bind_eq_some_iff] at accepted
    obtain ⟨decoded, -, checked⟩ := accepted
    split at checked
    · cases checked
    · rename_i passes
      cases checked
      simp only [Bool.or_eq_true, not_or, Bool.not_eq_true, bne_eq_false_iff_eq] at passes
      obtain ⟨⟨notAscii, -⟩, written⟩ := passes
      have inEncoded : c ∈ encoded := by
        rw [Text.afterPrefix?_eq_some_iff.1 cutOff] at member
        exact (List.mem_append.1 member).resolve_left notMarked
      unfold asciiLabel
      rw [notAscii, written]
      exact ⟨List.mem_append_right _ inEncoded,
        Punycode.ascii_encode plain c (by rw [written]; exact inEncoded)⟩
  · split at accepted
    · rename_i passes
      cases accepted
      unfold asciiLabel
      split
      · rename_i ascii
        exact ⟨member, by simpa using List.all_eq_true.1 ascii c member⟩
      · rename_i notAscii
        simp only [notAscii, Bool.false_or] at passes
        simp only [isEncodableLabel, Bool.and_eq_true, List.all_eq_true] at passes
        have passed := passes.1.1.1 c member
        obtain ⟨noControl, noLabelChar⟩ := Unicode.isLabelChar_of_mem_foldedBlanks blank
        have ascii : c.toNat < 128 := by
          simpa [noControl, noLabelChar] using passed
        exact ⟨List.mem_append_right _ (Punycode.mem_encode member ascii), ascii⟩
    · cases accepted

/-- **A name with white space has no ASCII form.** -/
theorem asciiDomain?_eq_none_of_isWhitespace {name : Text} {c : Char} (member : c ∈ name)
    (blank : Text.isWhitespace c = true) : asciiDomain? name = none := by
  obtain ⟨folded, inFold, foldedBlank⟩ := Unicode.exists_mem_foldForDomain blank
  have inFolded : folded ∈ name.flatMap Unicode.foldForDomain :=
    List.mem_flatMap.2 ⟨c, member, inFold⟩
  have inComposed : folded ∈
      (if (name.flatMap Unicode.foldForDomain).all (·.toNat < 128) then
        name.flatMap Unicode.foldForDomain
      else Unicode.normalizeComposed (name.flatMap Unicode.foldForDomain)) := by
    split
    · exact inFolded
    · exact Unicode.mem_normalizeComposed (Unicode.inert_of_mem_foldedBlanks foldedBlank) inFolded
  have notDot : folded ≠ '.' := by
    rintro rfl
    exact absurd foldedBlank (by decide)
  obtain ⟨label, inLabels, inLabel⟩ := Text.exists_mem_split inComposed notDot
  unfold asciiDomain?
  apply Option.eq_none_iff_forall_ne_some.2
  intro ascii done
  simp only [Option.bind_eq_bind, Option.bind_eq_some_iff] at done
  obtain ⟨labels, accepted, checked⟩ := done
  obtain ⟨plain, inPlain, found⟩ := exists_mem_of_mapM_eq_some accepted inLabels
  obtain ⟨inAscii, small⟩ := mem_asciiLabel_of_plainLabel? found inLabel foldedBlank
  have inWhole : folded ∈ Text.join ['.'] (labels.map asciiLabel) :=
    Text.mem_join (List.mem_map_of_mem inPlain) inAscii
  have forbidden : isForbiddenInDomain folded = true := by
    have every : ∀ n ∈ Unicode.foldedBlanks, n < 128 -> n ≤ 0x20 := by decide
    have control := every _ foldedBlank small
    simp [isForbiddenInDomain, control]
  have refused := List.any_eq_true.2 ⟨folded, inWhole, forbidden⟩
  rw [refused, Bool.or_true] at checked
  cases checked

end Url
end LoginGate
