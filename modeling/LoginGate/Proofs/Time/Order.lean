import LoginGate.Time.Instant

/-!
Contract: the order of instants.

Owns: the order in which no instant is later than those behind it, and its laws.
Does not own: what is over at an instant (`Session.Expiry`).
-/

namespace LoginGate.Instant

instance : LE Instant where
  le instant other := other.before instant = false

instance (instant other : Instant) : Decidable (instant ≤ other) :=
  inferInstanceAs (Decidable (other.before instant = false))

theorem before_iff {instant other : Instant} :
    instant.before other = true ↔
      instant.seconds < other.seconds ∨
        instant.seconds = other.seconds ∧ instant.nanos < other.nanos := by
  simp [before]

theorem le_iff {instant other : Instant} :
    instant ≤ other ↔
      instant.seconds < other.seconds ∨
        instant.seconds = other.seconds ∧ instant.nanos ≤ other.nanos := by
  have never : instant ≤ other ↔ ¬ other.before instant = true := by
    rw [Bool.not_eq_true]
    rfl
  rw [never, before_iff]
  omega

theorem le_refl (instant : Instant) : instant ≤ instant := by
  rw [le_iff]
  omega

end LoginGate.Instant
