/-!
Contract: the last of several entries that sets a value.

Owns: the value that a list of entries leaves, where some entries set it and the others keep it, and
what it says about the order of the entries.

Does not own: which entries set what (`Server.StateToken`, `Server.Verdict`).
-/

namespace LoginGate

variable {Entry Value : Type}

/-- The value after entries, each of which sets it or keeps it. -/
def latest (sets : Entry -> Option Value) (start : Value) (entries : List Entry) : Value :=
  entries.foldl (fun value entry => (sets entry).getD value) start

@[simp] theorem latest_nil (sets : Entry -> Option Value) (start : Value) :
    latest sets start [] = start := rfl

@[simp] theorem latest_cons (sets : Entry -> Option Value) (start : Value) (entry : Entry)
    (rest : List Entry) :
    latest sets start (entry :: rest) = latest sets ((sets entry).getD start) rest := rfl

private theorem latest_append (sets : Entry -> Option Value) (start : Value)
    (first second : List Entry) :
    latest sets start (first ++ second) = latest sets (latest sets start first) second :=
  List.foldl_append

theorem latest_of_forall_none {sets : Entry -> Option Value} {start : Value}
    {entries : List Entry} (keeps : ∀ entry ∈ entries, sets entry = none) :
    latest sets start entries = start := by
  induction entries with
  | nil => rfl
  | cons entry rest inductionHypothesis =>
    rw [latest_cons, keeps entry List.mem_cons_self, Option.getD_none]
    exact inductionHypothesis fun other member => keeps other (List.mem_cons_of_mem _ member)

/-- What ties a state to the value is kept by entries that each keep it. -/
theorem foldl_latest {State : Type} {perform : State -> Entry -> State}
    {sets : Entry -> Option Value} {Fits : Value -> State -> Prop} {entries : List Entry}
    (keeps : ∀ entry ∈ entries, ∀ value state, Fits value state ->
      Fits ((sets entry).getD value) (perform state entry))
    {value : Value} {state : State} (fits : Fits value state) :
    Fits (latest sets value entries) (entries.foldl perform state) := by
  induction entries generalizing value state with
  | nil => exact fits
  | cons entry rest inductionHypothesis =>
    refine inductionHypothesis (fun other member => keeps other (List.mem_cons_of_mem _ member)) ?_
    exact keeps entry List.mem_cons_self value state fits

/-- Either some entry is the last one to set the value, or the value is as it was. -/
theorem latest_cases (sets : Entry -> Option Value) (start : Value) (entries : List Entry) :
    (∃ earlier entry later, entries = earlier ++ entry :: later ∧
      sets entry = some (latest sets start entries) ∧ ∀ other ∈ later, sets other = none) ∨
    (latest sets start entries = start ∧ ∀ entry ∈ entries, sets entry = none) := by
  induction entries generalizing start with
  | nil => exact Or.inr ⟨rfl, fun _ member => absurd member List.not_mem_nil⟩
  | cons first rest inductionHypothesis =>
    rw [latest_cons]
    rcases inductionHypothesis ((sets first).getD start) with
      ⟨earlier, entry, later, rfl, set, silent⟩ | ⟨kept, silent⟩
    · exact Or.inl ⟨first :: earlier, entry, later, rfl, set, silent⟩
    · rw [kept]
      cases set : sets first with
      | some value => exact Or.inl ⟨[], first, rest, rfl, set, silent⟩
      | none =>
        refine Or.inr ⟨rfl, ?_⟩
        intro entry member
        rcases List.mem_cons.1 member with rfl | inRest
        · exact set
        · exact silent entry inRest

/-- The value is one that was not there at the start exactly when the last entry that sets a value
sets this one. -/
theorem latest_eq_iff {sets : Entry -> Option Value} {start value : Value} {entries : List Entry}
    (new : start ≠ value) :
    latest sets start entries = value ↔
      ∃ earlier entry later, entries = earlier ++ entry :: later ∧ sets entry = some value ∧
        ∀ other ∈ later, sets other = none := by
  constructor
  · rintro rfl
    rcases latest_cases sets start entries with found | ⟨kept, -⟩
    · exact found
    · exact absurd kept.symm new
  · rintro ⟨earlier, entry, later, rfl, set, silent⟩
    rw [latest_append, latest_cons, set, Option.getD_some, latest_of_forall_none silent]

end LoginGate
