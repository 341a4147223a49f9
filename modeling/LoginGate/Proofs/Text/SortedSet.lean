import Mathlib.Data.Char
import Mathlib.Data.List.Lex
import Mathlib.Data.List.Sort
import LoginGate.Admins

/-!
Contract: sorted sets of texts, of which there is one for each set of members.

Owns:
- the order of texts by code points, which is the lexicographic order;
- the law that inserting keeps a list strictly increasing;
- when two lists have the same sorted set.

Does not own: the members of a sorted set (`Admins`).
-/

namespace LoginGate.Text

theorem before_eq_true_iff {left right : Text} : before left right = true ↔ left < right := by
  fun_induction before left right with
  | case1 => simp
  | case2 first rest => simp
  | case3 first rest => simp
  | case4 a left b right inductionHypothesis =>
    rw [Bool.or_eq_true, Bool.and_eq_true, decide_eq_true_iff, beq_iff_eq, inductionHypothesis,
      List.cons_lt_cons_iff]
    exact Iff.rfl

/-- Inserting keeps a list strictly increasing. -/
theorem pairwise_insertSorted {text : Text} {texts : List Text}
    (increasing : texts.Pairwise (· < ·)) : (insertSorted text texts).Pairwise (· < ·) := by
  induction texts with
  | nil => exact List.pairwise_singleton _ _
  | cons first rest inductionHypothesis =>
    obtain ⟨least, later⟩ := List.pairwise_cons.1 increasing
    unfold insertSorted
    split
    · rename_i smaller
      have below : text < first := before_eq_true_iff.1 smaller
      apply List.pairwise_cons.2
      refine ⟨?_, increasing⟩
      intro other member
      rcases List.mem_cons.1 member with rfl | inRest
      · exact below
      · exact below.trans (least other inRest)
    · rename_i notSmaller
      split
      · exact increasing
      · rename_i different
        have above : first < text := by
          rw [before_eq_true_iff] at notSmaller
          exact lt_of_le_of_ne (not_lt.1 notSmaller) (Ne.symm different)
        apply List.pairwise_cons.2
        refine ⟨?_, inductionHypothesis later⟩
        intro other member
        rcases mem_insertSorted.1 member with rfl | inRest
        · exact above
        · exact least other inRest

/-- A sorted set is strictly increasing. -/
theorem sortedLT_sortedSet (texts : List Text) : (sortedSet texts).SortedLT := by
  apply List.Pairwise.sortedLT
  induction texts with
  | nil => exact List.Pairwise.nil
  | cons first rest inductionHypothesis => exact pairwise_insertSorted inductionHypothesis

/-- Two lists have the same sorted set exactly if they have the same members. -/
theorem sortedSet_eq_iff {left right : List Text} :
    sortedSet left = sortedSet right ↔ ∀ text, text ∈ left ↔ text ∈ right := by
  constructor
  · intro same text
    rw [← mem_sortedSet, same, mem_sortedSet]
  · intro same
    apply (sortedLT_sortedSet left).eq_of_mem_iff (sortedLT_sortedSet right)
    intro text
    rw [mem_sortedSet, mem_sortedSet, same]

end LoginGate.Text
