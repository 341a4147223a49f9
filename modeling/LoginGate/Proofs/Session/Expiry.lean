import LoginGate.Proofs.Session.Store
import LoginGate.Proofs.Time.Order

/-!
Contract: a session that is over may be dropped at any time, and nobody can tell.

Owns:
- the relation between what a store holds of a session and the whole of it, when a session that is
  over may be missing;
- the law that it outlives look-ups and clean-ups, and that a look-up sees the whole.

Does not own: the runs in which sessions are dropped (`Session.Eviction`, `Server.Isolation`).
-/

namespace LoginGate

namespace Session

theorem isExpired_eq_false_iff {session : Session} {now : Instant} :
    session.isExpired now = false ↔ now.before session.expiresAt = true := by
  unfold isExpired
  rw [Bool.not_eq_false']

/-- Writing to a session does not alter the end of its life. -/
@[simp] theorem expiresAt_set (session : Session) (key : Text) (value : Option Json) :
    (session.set key value).expiresAt = session.expiresAt := by
  cases value <;> rfl

/-- What is over stays over. -/
theorem isExpired_of_le {session : Session} {now later : Instant} (ordered : now ≤ later)
    (expired : session.isExpired now = true) : session.isExpired later = true := by
  unfold isExpired at *
  rw [Bool.not_eq_true', ← Bool.not_eq_true, Instant.before_iff] at *
  rw [Instant.le_iff] at ordered
  omega

/-- What is held is the whole, or nothing when the whole is over. -/
def Remains (now : Instant) (held whole : Option Session) : Prop :=
  held = whole ∨ held = none ∧ ∀ session, whole = some session -> session.isExpired now = true

def live (now : Instant) (session : Option Session) : Option Session :=
  session.filter (! ·.isExpired now)

@[simp] theorem live_none (now : Instant) : live now none = none := rfl

@[simp] theorem live_some (now : Instant) (session : Session) :
    live now (some session) = if session.isExpired now then none else some session := by
  unfold live
  rw [Option.filter_some]
  cases session.isExpired now <;> rfl

theorem live_eq_some_iff {now : Instant} {session : Option Session} {found : Session} :
    live now session = some found ↔ session = some found ∧ found.isExpired now = false := by
  unfold live
  rw [Option.filter_eq_some_iff, Bool.not_eq_true']

namespace Remains

variable {now : Instant} {held whole : Option Session}

theorem refl (now : Instant) (held : Option Session) : Remains now held held := .inl rfl

theorem mono {earlier : Instant} (ordered : earlier ≤ now) (remains : Remains earlier held whole) :
    Remains now held whole := by
  rcases remains with rfl | ⟨rfl, ended⟩
  · exact .inl rfl
  · exact .inr ⟨rfl, fun session same => isExpired_of_le ordered (ended session same)⟩

/-- Nobody who looks a session up can tell what is held from the whole. -/
theorem live_eq (remains : Remains now held whole) : live now held = live now whole := by
  rcases remains with rfl | ⟨rfl, ended⟩
  · rfl
  · cases whole with
    | none => rfl
    | some session => rw [live_none, live_some, if_pos (ended session rfl)]

theorem eq_some {session : Session} (remains : Remains now held (some session))
    (alive : session.isExpired now = false) : held = some session := by
  have found := live_eq_some_iff.2 ⟨rfl, alive⟩
  rw [← remains.live_eq] at found
  exact (live_eq_some_iff.1 found).1

/-- What was dropped earlier, when it was over, remains. -/
theorem live_left {earlier : Instant} (ordered : earlier ≤ now) (remains : Remains now held whole) :
    Remains now (live earlier held) whole := by
  rcases remains with rfl | ⟨rfl, ended⟩
  · cases held with
    | none => exact .inl rfl
    | some session =>
      cases expired : session.isExpired earlier with
      | false => exact .inl (by simp [expired])
      | true =>
        refine .inr ⟨by simp [expired], ?_⟩
        rintro _ ⟨⟩
        exact isExpired_of_le ordered expired
  · exact .inr ⟨rfl, ended⟩

/-- Whoever last saw the whole session knows it still, also after it was dropped. -/
theorem getD_eq {session : Session} (remains : Remains now held (some session)) :
    held.getD session = session := by
  rcases remains with rfl | ⟨rfl, -⟩ <;> rfl

theorem map {change : Session -> Session}
    (kept : ∀ session, (change session).expiresAt = session.expiresAt)
    (remains : Remains now held whole) : Remains now (held.map change) (whole.map change) := by
  rcases remains with rfl | ⟨rfl, ended⟩
  · exact .inl rfl
  · refine .inr ⟨rfl, ?_⟩
    intro changed found
    obtain ⟨session, same, rfl⟩ := Option.map_eq_some_iff.1 found
    have expired := ended session same
    unfold isExpired at expired ⊢
    rw [kept]
    exact expired

end Remains
end Session

namespace Store

/-- A look-up gives what is stored under the id, unless it is over. -/
theorem get_eq_live (store : Store) (now : Instant) (id : SessionId) :
    (store.get now id).1 = Session.live now (store.find? id) := by
  unfold get
  cases store.find? id with
  | none => rfl
  | some session => cases expired : session.isExpired now <;> simp [expired]

/-- A look-up drops the session that it looks for when this is over, and no other. -/
theorem find?_get (store : Store) (now : Instant) (id other : SessionId) :
    (store.get now id).2.find? other =
      if id = other then Session.live now (store.find? other) else store.find? other := by
  unfold get
  cases found : store.find? id with
  | none =>
    by_cases same : id = other
    · subst same
      simp [found]
    · rw [if_neg same]
  | some session =>
    by_cases same : id = other
    · subst same
      cases expired : session.isExpired now <;> simp [found, expired]
    · cases expired : session.isExpired now <;> simp [expired, same]

section Remains

variable {store : Store} {earlier now : Instant} (ordered : earlier ≤ now)
  {whole : Option Session} {other : SessionId}
  (remains : Session.Remains now (store.find? other) whole)
include ordered remains

theorem remains_get (id : SessionId) :
    Session.Remains now ((store.get earlier id).2.find? other) whole := by
  rw [find?_get]
  split
  · exact remains.live_left ordered
  · exact remains

theorem Distinct.remains_cleanup (distinct : store.Distinct) :
    Session.Remains now ((store.cleanup earlier).2.find? other) whole := by
  rw [distinct.find?_cleanup]
  exact remains.live_left ordered

end Remains

/-- A session is kept under an id unless it is over. -/
structure Keeps (store : Store) (id : SessionId) (now : Instant) (session : Session) : Prop where
  distinct : store.Distinct
  remains : Session.Remains now (store.find? id) (some session)

theorem Distinct.keeps {store : Store} (distinct : store.Distinct) {id : SessionId}
    {session : Session} (found : store.find? id = some session) (now : Instant) :
    store.Keeps id now session where
  distinct := distinct
  remains := found ▸ .refl now _

theorem Keeps.mono {store : Store} {id : SessionId} {now later : Instant} {session : Session}
    (ordered : now ≤ later) (keeps : store.Keeps id now session) : store.Keeps id later session where
  distinct := keeps.distinct
  remains := keeps.remains.mono ordered

end Store
end LoginGate
