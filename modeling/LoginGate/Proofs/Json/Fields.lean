import Mathlib.Data.List.Basic
import LoginGate.Json.Basic

/-!
Contract: the laws of the fields of an object.

Owns:
- what look-up finds after a key was set and after it was removed;
- the order of the keys after a key was set;
- fields given by their keys in order and by what is found under each.

Does not own: what fields with repeated keys come to (`Json.Meaning`).
-/

namespace LoginGate.Json

/-- Setting a key changes what is found under it and nothing else. -/
@[simp] theorem lookup_insert (key other : Text) (value : Json) (fields : Fields) :
    lookup other (insert key value fields) =
      if key = other then some value else lookup other fields := by
  induction fields with
  | nil => rfl
  | cons field rest inductionHypothesis =>
    by_cases here : field.1 = key
    · have inserted : insert key value (field :: rest) = (key, value) :: rest := by
        rw [insert, if_pos here, here]
      rw [inserted, lookup, lookup, here]
      split <;> rfl
    · have inserted : insert key value (field :: rest) = field :: insert key value rest := by
        rw [insert, if_neg here]
      rw [inserted, lookup, lookup, inductionHypothesis]
      by_cases found : field.1 = other
      · rw [if_pos found, if_pos found, if_neg (fun same => here (found.trans same.symm))]
      · rw [if_neg found, if_neg found]

/-- Removing a key leaves nothing under it and changes nothing else. -/
@[simp] theorem lookup_erase (key other : Text) (fields : Fields) :
    lookup other (erase key fields) = if key = other then none else lookup other fields := by
  induction fields with
  | nil => simp [erase, lookup]
  | cons field rest inductionHypothesis =>
    by_cases here : field.1 = key
    · have erased : erase key (field :: rest) = erase key rest := by simp [erase, here]
      rw [erased, inductionHypothesis, lookup, here]
      split <;> rfl
    · have erased : erase key (field :: rest) = field :: erase key rest := by simp [erase, here]
      rw [erased, lookup, lookup, inductionHypothesis]
      by_cases found : field.1 = other
      · rw [if_pos found, if_pos found, if_neg (fun same => here (found.trans same.symm))]
      · rw [if_neg found, if_neg found]

/-! ## Keys -/

/-- Nothing is found exactly under the keys that are not there. -/
theorem lookup_eq_none_iff {key : Text} {fields : Fields} :
    lookup key fields = none ↔ key ∉ fields.map (·.1) := by
  induction fields with
  | nil => simp [lookup]
  | cons field rest inductionHypothesis =>
    rw [lookup, List.map_cons, List.mem_cons, not_or, ← inductionHypothesis]
    by_cases here : field.1 = key
    · simp [here]
    · simp [here, Ne.symm here]

theorem mem_of_lookup {key : Text} {value : Json} {fields : Fields}
    (found : lookup key fields = some value) : (key, value) ∈ fields := by
  induction fields with
  | nil => cases found
  | cons field rest inductionHypothesis =>
    rw [lookup] at found
    split at found
    · next here =>
      cases found
      exact here ▸ List.mem_cons_self
    · exact List.mem_cons_of_mem _ (inductionHypothesis found)

/-- A key that is set keeps its place, or comes last. -/
theorem keys_insert (key : Text) (value : Json) (fields : Fields) :
    (insert key value fields).map (·.1) =
      if key ∈ fields.map (·.1) then fields.map (·.1) else fields.map (·.1) ++ [key] := by
  induction fields with
  | nil => rfl
  | cons field rest inductionHypothesis =>
    rw [insert, List.map_cons]
    by_cases here : field.1 = key
    · rw [if_pos here, if_pos (by simp [here]), List.map_cons, here]
    · rw [if_neg here, List.map_cons, inductionHypothesis]
      by_cases later : key ∈ rest.map (·.1)
      · rw [if_pos later, if_pos (List.mem_cons_of_mem _ later)]
      · rw [if_neg later, if_neg (List.not_mem_cons_of_ne_of_not_mem (Ne.symm here) later),
          List.cons_append]

/-- A new key comes last. -/
theorem insert_of_not_mem {key : Text} {value : Json} {fields : Fields}
    (missing : key ∉ fields.map (·.1)) : insert key value fields = fields ++ [(key, value)] := by
  induction fields with
  | nil => rfl
  | cons field rest inductionHypothesis =>
    rw [List.map_cons, List.mem_cons, not_or] at missing
    rw [insert, if_neg (Ne.symm missing.1), inductionHypothesis missing.2, List.cons_append]

/-! ## Fields by their keys -/

/-- The fields with some keys, in their order, and the values that are found under them. -/
def gather (keys : List Text) (find : Text -> Option Json) : Fields :=
  keys.filterMap fun key => (find key).map (key, ·)

theorem keys_gather {keys : List Text} {find : Text -> Option Json}
    (found : ∀ key ∈ keys, find key ≠ none) : (gather keys find).map (·.1) = keys := by
  have kept : ∀ key ∈ keys, ((find key).map (key, ·)).map (·.1) = some key := by
    intro key member
    obtain ⟨value, same⟩ := Option.ne_none_iff_exists'.1 (found key member)
    rw [same]
    rfl
  rw [gather, List.map_filterMap, List.filterMap_congr kept, List.filterMap_some]

theorem lookup_gather (key : Text) (keys : List Text) (find : Text -> Option Json) :
    lookup key (gather keys find) = if key ∈ keys then find key else none := by
  unfold gather
  induction keys with
  | nil => rfl
  | cons first rest inductionHypothesis =>
    rw [List.filterMap_cons]
    cases found : find first with
    | none =>
      rw [Option.map_none, inductionHypothesis]
      by_cases here : key = first
      · simp [here, found]
      · simp [here]
    | some value =>
      rw [Option.map_some, lookup, inductionHypothesis]
      by_cases here : first = key
      · simp [← here, found]
      · simp [here, Ne.symm here]

/-- Fields with distinct keys are given by these and what is found under each. -/
theorem gather_lookup {fields : Fields} (distinct : (fields.map (·.1)).Nodup) :
    gather (fields.map (·.1)) (lookup · fields) = fields := by
  dsimp only [gather]
  induction fields with
  | nil => rfl
  | cons field rest inductionHypothesis =>
    obtain ⟨notLater, restDistinct⟩ := List.nodup_cons.1 distinct
    have sameLater : ∀ key ∈ rest.map (·.1),
        (lookup key (field :: rest)).map (key, ·) = (lookup key rest).map (key, ·) := by
      intro key later
      rw [lookup, if_neg]
      rintro rfl
      exact notLater later
    have here : lookup field.1 (field :: rest) = some field.2 := if_pos rfl
    rw [List.map_cons, List.filterMap_cons, here, List.filterMap_congr sameLater,
      inductionHypothesis restDistinct, Option.map_some]

theorem fields_ext {left right : Fields} (keys : left.map (·.1) = right.map (·.1))
    (distinct : (left.map (·.1)).Nodup) (same : ∀ key, lookup key left = lookup key right) :
    left = right := by
  have rightDistinct : (right.map (·.1)).Nodup := keys ▸ distinct
  calc
    left = gather (left.map (·.1)) (lookup · left) := (gather_lookup distinct).symm
    _ = gather (right.map (·.1)) (lookup · right) := by rw [keys, funext same]
    _ = right := gather_lookup rightDistinct

end LoginGate.Json
