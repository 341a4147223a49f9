/-!
Contract: readings one after another, of which each may fail.

Owns: what the result of the whole says about each of them.
Does not own: a reader (`Url.Sound`, `Json.Sound`).
-/

namespace LoginGate

theorem ok_bind {ε α β : Type} (value : α) (next : α -> Except ε β) :
    (.ok value : Except ε α) >>= next = next value := rfl

/-- A reading that is followed by another and gives a result has one itself. -/
theorem of_bind_eq_ok {ε α β : Type} {first : Except ε α} {next : α -> Except ε β} {result : β}
    (done : first >>= next = .ok result) :
    ∃ value, first = .ok value ∧ next value = .ok result := by
  cases first with
  | error cause => cases done
  | ok value => exact ⟨value, rfl, done⟩

theorem of_mapError_eq_ok {ε ε' α : Type} {result : Except ε α} {wrap : ε -> ε'} {value : α}
    (done : result.mapError wrap = .ok value) : result = .ok value := by
  cases result with
  | error cause => cases done
  | ok found =>
    cases done
    rfl

end LoginGate
