import Mathlib.Data.List.Induction
import Mathlib.Data.List.Lattice
import Mathlib.Data.List.Nodup
import Mathlib.Data.List.Pairwise

/-!
Contract: the distinct members of a list in the order in which they come first.

Owns: what is added by members behind the list, and by lists that its members say.
Does not own: lists that are kept sorted (`Text.SortedSet`).
-/

namespace LoginGate

variable {α β : Type} [BEq α] [LawfulBEq α] [BEq β] [LawfulBEq β]

/-- Members that were there before add nothing. -/
theorem eraseDups_append_of_subset {list more : List α} (known : more ⊆ list) :
    (list ++ more).eraseDups = list.eraseDups := by
  have nothing : more.removeAll list = [] := by
    apply List.eq_nil_iff_forall_not_mem.2
    intro member left
    have outside := (List.mem_filter.1 left).2
    simp [known (List.mem_filter.1 left).1] at outside
  rw [List.eraseDups_append, nothing, List.eraseDups_nil, List.append_nil]

theorem eraseDups_append_of_not_mem {list : List α} {new : α} (missing : new ∉ list) :
    (list ++ [new]).eraseDups = list.eraseDups ++ [new] := by
  have stays : [new].removeAll list = [new] := by
    simp [List.removeAll, missing]
  rw [List.eraseDups_append, stays, List.eraseDups_cons]
  rfl

theorem nodup_eraseDups (list : List α) : list.eraseDups.Nodup := by
  induction list using List.reverseRecOn with
  | nil => exact List.nodup_nil
  | append_singleton list last inductionHypothesis =>
    by_cases known : last ∈ list
    · rw [eraseDups_append_of_subset (by simpa using known)]
      exact inductionHypothesis
    · rw [eraseDups_append_of_not_mem known, ← List.concat_eq_append]
      exact inductionHypothesis.concat fun member => known (List.mem_eraseDups.1 member)

/-- What comes behind two lists with the same distinct members does not tell them apart. -/
theorem eraseDups_append_congr {left right : List α} (same : left.eraseDups = right.eraseDups)
    (more : List α) : (left ++ more).eraseDups = (right ++ more).eraseDups := by
  have members (member : α) : member ∈ left ↔ member ∈ right := by
    rw [← List.mem_eraseDups, same, List.mem_eraseDups]
  have sameRest : more.removeAll left = more.removeAll right := by
    unfold List.removeAll
    apply List.filter_congr
    intro member _
    simp [members member]
  rw [List.eraseDups_append, List.eraseDups_append, same, sameRest]

/-- A list that is not distinct says later only what it has said before. -/
theorem eraseDups_flatMap_eraseDups (f : α -> List β) (list : List α) :
    (list.eraseDups.flatMap f).eraseDups = (list.flatMap f).eraseDups := by
  induction list using List.reverseRecOn with
  | nil => rfl
  | append_singleton list last inductionHypothesis =>
    rw [List.flatMap_append, List.flatMap_singleton]
    by_cases known : last ∈ list
    · have saidBefore : f last ⊆ list.flatMap f :=
        fun member inLast => List.mem_flatMap.2 ⟨last, known, inLast⟩
      rw [eraseDups_append_of_subset (by simpa using known), inductionHypothesis,
        eraseDups_append_of_subset saidBefore]
    · rw [eraseDups_append_of_not_mem known, List.flatMap_append, List.flatMap_singleton]
      exact eraseDups_append_congr inductionHypothesis (f last)

end LoginGate
