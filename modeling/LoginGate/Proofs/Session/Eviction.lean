import Mathlib.Data.List.Nodup
import LoginGate.Proofs.Session.Expiry
import LoginGate.Proofs.Session.Values

/-!
Contract: a store is a map in which sessions expire, and nobody sees when they are removed.

Owns:
- runs of operations on a store and on the sessions that it gave away;
- the session that a run records under an id, in a map that forgets nothing;
- the law that a look-up gives what is recorded unless it is over, and the count of what was
  created and removed.

Does not own: which requests lead to which operations (`Server.Isolation`).

A session that is over is removed when somebody asks for it or at a clean-up, so the stored sessions
depend on who asked. What is found does not.
-/

namespace LoginGate

namespace Session

/-- What somebody who holds a session does to it. -/
inductive Change where
  | set (key : Text) (value : Option Json)
  | announce

def Change.apply (session : Session) : Change -> Session
  | .set key value => session.set key value
  | .announce => session.announce

@[simp] theorem id_apply (session : Session) (change : Change) :
    (change.apply session).id = session.id := by
  cases change with
  | set key value => exact id_set session key value
  | announce => rfl

@[simp] theorem expiresAt_apply (session : Session) (change : Change) :
    (change.apply session).expiresAt = session.expiresAt := by
  cases change with
  | set key value => exact expiresAt_set session key value
  | announce => rfl

end Session

namespace Store

/-! ## Runs -/

/-- An operation on a store, or on a session that somebody got from it. -/
inductive Operation where
  | create (now : Instant) (id : SessionId)
  | get (now : Instant) (id : SessionId)
  | cleanup (now : Instant)
  | size
  | change (id : SessionId) (given : Session.Change)

namespace Operation

def time? : Operation -> Option Instant
  | .create now _ | .get now _ | .cleanup now => some now
  | .size | .change _ _ => none

def createdId? : Operation -> Option SessionId
  | .create _ id => some id
  | .get _ _ | .cleanup _ | .size | .change _ _ => none

/-- An operation that makes or alters a session, other than one that looks it up or removes it. -/
def writes : Operation -> Bool
  | .create _ _ | .change _ _ => true
  | .get _ _ | .cleanup _ | .size => false

/-- Whether an operation creates a session: the end of its life lies within the calendar. -/
def creates (lifetime : Span) : Operation -> Bool
  | .create now id => (Session.create? id now lifetime).isSome
  | .get _ _ | .cleanup _ | .size | .change _ _ => false

def alter (id : SessionId) (session : Session) : Operation -> Session
  | .change changed given => if changed = id then given.apply session else session
  | .create _ _ | .get _ _ | .cleanup _ | .size => session

def alterAll (id : SessionId) (session : Session) (operations : List Operation) : Session :=
  operations.foldl (alter id) session

/-- What an operation makes of the session under an id, where nothing is removed. -/
def record (lifetime : Span) (id : SessionId) (held : Option Session) : Operation -> Option Session
  | .create now created =>
    if created = id then (Session.create? id now lifetime).or held else held
  | operation => held.map (operation.alter id)

end Operation

def step (store : Store) : Operation -> Store
  | .create now id => ((store.create? now id).map (·.2)).getD store
  | .get now id => (store.get now id).2
  | .cleanup now => (store.cleanup now).2
  | .size => store
  | .change id given =>
    match store.find? id with
    | none => store
    | some session => store.update (given.apply session)

def run (store : Store) (operations : List Operation) : Store := operations.foldl step store

/-- The session that a run records under an id, in a map that forgets nothing. -/
def recorded (lifetime : Span) (operations : List Operation) (id : SessionId) : Option Session :=
  operations.foldl (Operation.record lifetime id) none

/-- How many sessions an operation removes: a look-up the one it asks for, if this is over. -/
def evicted (store : Store) : Operation -> Nat
  | .get now id => if (store.find? id).any (·.isExpired now) then 1 else 0
  | .cleanup now => (store.cleanup now).1
  | .create _ _ | .size | .change _ _ => 0

def evictions (store : Store) : List Operation -> Nat
  | [] => 0
  | operation :: rest => store.evicted operation + (store.step operation).evictions rest

/-! ## What is found -/

section Step

variable (store : Store) (now : Instant) (id other : SessionId)

private theorem step_create_of_none (unmade : Session.create? id now store.lifetime = none) :
    store.step (.create now id) = store := by
  show ((store.create? now id).map (·.2)).getD store = store
  unfold create?
  rw [unmade]
  rfl

private theorem step_create_of_some {session : Session}
    (made : Session.create? id now store.lifetime = some session) :
    store.create? now id = some (session, store.step (.create now id)) := by
  show _ = some (session, ((store.create? now id).map (·.2)).getD store)
  unfold create?
  rw [made]
  rfl

private theorem step_change_of_none (given : Session.Change) (missing : store.find? id = none) :
    store.step (.change id given) = store := by
  show (match store.find? id with | none => store | some session => _) = store
  rw [missing]

private theorem step_change_of_some (given : Session.Change) {session : Session}
    (found : store.find? id = some session) :
    store.step (.change id given) = store.update (given.apply session) := by
  show (match store.find? id with | none => store | some session => _) = _
  rw [found]

private theorem find?_step_create :
    (store.step (.create now id)).find? other =
      Operation.record store.lifetime other (store.find? other) (.create now id) := by
  show _ = if id = other then (Session.create? other now store.lifetime).or _ else _
  cases made : Session.create? id now store.lifetime with
  | none =>
    rw [step_create_of_none store now id made]
    split
    · rename_i same
      rw [← same, made, Option.none_or]
    · rfl
  | some session =>
    rw [find?_create? (step_create_of_some store now id made)]
    split
    · rename_i same
      rw [← same, made, Option.some_or]
    · rfl

private theorem find?_step_change (given : Session.Change) :
    (store.step (.change id given)).find? other =
      Operation.record store.lifetime other (store.find? other) (.change id given) := by
  show _ = (store.find? other).map fun session =>
    if id = other then given.apply session else session
  cases found : store.find? id with
  | none =>
    rw [step_change_of_none store id given found]
    by_cases same : id = other
    · rw [← same, found]
      rfl
    · simp [same]
  | some session =>
    rw [step_change_of_some store id given found, find?_update, Session.id_apply, id_of_find? found]
    by_cases same : id = other
    · subst same
      simp [found]
    · simp [same]

end Step

@[simp] theorem lifetime_step (store : Store) (operation : Operation) :
    (store.step operation).lifetime = store.lifetime := by
  cases operation with
  | create now id =>
    cases made : Session.create? id now store.lifetime with
    | none => rw [step_create_of_none store now id made]
    | some session => rw [(eq_of_create? (step_create_of_some store now id made)).2]
  | get now id =>
    show (store.get now id).2.lifetime = _
    unfold get
    split
    · rfl
    · split <;> rfl
  | cleanup | size => rfl
  | change id given =>
    cases found : store.find? id with
    | none => rw [step_change_of_none store id given found]
    | some session => rw [step_change_of_some store id given found]; rfl

theorem Distinct.step {store : Store} (distinct : store.Distinct) (operation : Operation) :
    (store.step operation).Distinct := by
  cases operation with
  | create now id =>
    cases made : Session.create? id now store.lifetime with
    | none =>
      rw [step_create_of_none store now id made]
      exact distinct
    | some session => exact distinct.create? (step_create_of_some store now id made)
  | get now id => exact distinct.get now id
  | cleanup now => exact distinct.cleanup now
  | size => exact distinct
  | change id given =>
    cases found : store.find? id with
    | none =>
      rw [step_change_of_none store id given found]
      exact distinct
    | some session =>
      rw [step_change_of_some store id given found]
      exact distinct.update _

theorem Distinct.run {store : Store} (distinct : store.Distinct) (operations : List Operation) :
    (store.run operations).Distinct := by
  induction operations generalizing store with
  | nil => exact distinct
  | cons operation rest inductionHypothesis => exact inductionHypothesis (distinct.step operation)

private theorem expiresAt_alter (id : SessionId) (operation : Operation) (session : Session) :
    (operation.alter id session).expiresAt = session.expiresAt := by
  cases operation with
  | change changed given =>
    unfold Operation.alter
    dsimp only
    split
    · exact Session.expiresAt_apply session given
    · rfl
  | create | get | cleanup | size => rfl

/-- What a store holds under an id stays what a run records there, unless it is over. -/
theorem remains_step {store : Store} (distinct : store.Distinct) {now : Instant}
    {id : SessionId} {whole : Option Session} {operation : Operation}
    (earlier : ∀ time, operation.time? = some time -> time ≤ now)
    (remains : Session.Remains now (store.find? id) whole) :
    Session.Remains now ((store.step operation).find? id)
      (operation.record store.lifetime id whole) := by
  have unaltered : whole.map (fun session => session) = whole := Option.map_id_fun' ▸ rfl
  cases operation with
  | create time created =>
    rw [find?_step_create]
    unfold Operation.record
    dsimp only
    split
    · cases Session.create? id time store.lifetime with
      | none => exact remains
      | some opened => exact .refl now _
    · exact remains
  | get time asked =>
    simp only [Operation.record, Operation.alter, unaltered]
    exact remains_get (earlier time rfl) remains asked
  | cleanup time =>
    simp only [Operation.record, Operation.alter, unaltered]
    exact distinct.remains_cleanup (earlier time rfl) remains
  | size =>
    simp only [Operation.record, Operation.alter, unaltered]
    exact remains
  | change changed given =>
    rw [find?_step_change]
    exact remains.map (expiresAt_alter id (.change changed given))

private theorem forall_time_cons {now : Instant} {operation : Operation} {rest : List Operation} :
    (∀ time ∈ (operation :: rest).filterMap Operation.time?, time ≤ now) ↔
      (∀ time, operation.time? = some time -> time ≤ now) ∧
        ∀ time ∈ rest.filterMap Operation.time?, time ≤ now := by
  simp only [List.mem_filterMap, List.mem_cons]
  constructor
  · intro earlier
    exact ⟨fun time asked => earlier time ⟨operation, .inl rfl, asked⟩,
      fun time ⟨other, listed, asked⟩ => earlier time ⟨other, .inr listed, asked⟩⟩
  · rintro ⟨first, others⟩ time ⟨other, rfl | listed, asked⟩
    · exact first time asked
    · exact others time ⟨other, listed, asked⟩

private theorem remains_run {store : Store} (distinct : store.Distinct) {now : Instant}
    {id : SessionId} {whole : Option Session} {operations : List Operation}
    (earlier : ∀ time ∈ operations.filterMap Operation.time?, time ≤ now)
    (remains : Session.Remains now (store.find? id) whole) :
    Session.Remains now ((store.run operations).find? id)
      (operations.foldl (Operation.record store.lifetime id) whole) := by
  induction operations generalizing store whole with
  | nil => exact remains
  | cons operation rest inductionHypothesis =>
    obtain ⟨first, others⟩ := forall_time_cons.1 earlier
    have after := inductionHypothesis (distinct.step operation) others
      (remains_step distinct first remains)
    rwa [lifetime_step] at after

/-- A look-up gives what the run records, unless it is over. -/
theorem get_run (lifetime : Span) {operations : List Operation} {now : Instant}
    (earlier : ∀ time ∈ operations.filterMap Operation.time?, time ≤ now) (id : SessionId) :
    ((({ lifetime } : Store).run operations).get now id).1 =
      Session.live now (recorded lifetime operations id) := by
  have empty : ({ lifetime } : Store).Distinct := distinct_of_sessions_nil rfl
  have missing : Session.Remains now (({ lifetime } : Store).find? id) none := .refl now none
  rw [get_eq_live, (remains_run empty earlier missing).live_eq]
  rfl

/-! ## What is recorded -/

private theorem alter_of_not_writes {operation : Operation} (reads : operation.writes = false)
    (id : SessionId) (session : Session) : operation.alter id session = session := by
  cases operation with
  | change changed given => cases reads
  | create | get | cleanup | size => rfl

private theorem record_of_not_created {operation : Operation} {id : SessionId}
    (other : operation.createdId? ≠ some id) (lifetime : Span) (held : Option Session) :
    operation.record lifetime id held = held.map (operation.alter id ·) := by
  cases operation with
  | create now created =>
    have different : created ≠ id := fun same => other (congrArg some same)
    show (if created = id then _ else held) = held.map fun session => session
    rw [if_neg different, Option.map_id_fun']
    rfl
  | get | cleanup | size | change => rfl

/-- What only reads is not recorded. -/
theorem recorded_filter_writes (lifetime : Span) (operations : List Operation) (id : SessionId) :
    recorded lifetime (operations.filter Operation.writes) id = recorded lifetime operations id := by
  unfold recorded
  generalize (none : Option Session) = held
  induction operations generalizing held with
  | nil => rfl
  | cons operation rest inductionHypothesis =>
    cases writes : operation.writes with
    | true => rw [List.filter_cons_of_pos writes, List.foldl_cons, List.foldl_cons,
        inductionHypothesis]
    | false =>
      have kept : operation.record lifetime id held = held := by
        have other : operation.createdId? ≠ some id := by
          cases operation with
          | create => cases writes
          | get | cleanup | size | change => simp [Operation.createdId?]
        rw [record_of_not_created other, funext (alter_of_not_writes writes id), Option.map_id_fun']
        rfl
      rw [List.filter_cons_of_neg (by simp [writes]), List.foldl_cons, kept, inductionHypothesis]

private theorem foldl_record_of_not_created {lifetime : Span} {id : SessionId}
    {operations : List Operation}
    (others : ∀ operation ∈ operations, operation.createdId? ≠ some id) (held : Option Session) :
    operations.foldl (Operation.record lifetime id) held =
      held.map (Operation.alterAll id · operations) := by
  induction operations generalizing held with
  | nil => cases held <;> rfl
  | cons operation rest inductionHypothesis =>
    rw [List.foldl_cons, record_of_not_created (others operation List.mem_cons_self),
      inductionHypothesis fun other member => others other (List.mem_cons_of_mem _ member),
      Option.map_map]
    rfl

/-- A session is recorded because an operation created it, or because it was there before. -/
theorem exists_of_foldl_record {lifetime : Span} {id : SessionId} {operations : List Operation}
    {held : Option Session} {session : Session}
    (found : operations.foldl (Operation.record lifetime id) held = some session) :
    (∃ earlier createdAt since opened, operations = earlier ++ .create createdAt id :: since ∧
      Session.create? id createdAt lifetime = some opened ∧
      session = Operation.alterAll id opened since) ∨
    ∃ start, held = some start ∧ session = Operation.alterAll id start operations := by
  induction operations generalizing held with
  | nil => exact .inr ⟨session, found, rfl⟩
  | cons operation rest inductionHypothesis =>
    rcases inductionHypothesis found with
      ⟨earlier, createdAt, since, opened, rfl, made, same⟩ | ⟨start, recorded, same⟩
    · exact .inl ⟨operation :: earlier, createdAt, since, opened, rfl, made, same⟩
    · by_cases creates : operation.createdId? = some id
      · cases operation with
        | create createdAt created =>
          cases creates
          change (if id = id then (Session.create? id createdAt lifetime).or held else _) = _
            at recorded
          rw [if_pos rfl] at recorded
          cases made : Session.create? id createdAt lifetime with
          | some opened =>
            rw [made] at recorded
            cases recorded
            exact .inl ⟨[], createdAt, rest, _, rfl, made, same⟩
          | none =>
            rw [made, Option.none_or] at recorded
            exact .inr ⟨start, recorded, same⟩
        | get | cleanup | size | change => cases creates
      · rw [record_of_not_created creates] at recorded
        obtain ⟨before, there, rfl⟩ := Option.map_eq_some_iff.1 recorded
        exact .inr ⟨before, there, same⟩

/-- With fresh ids, what is recorded is the one session created under the id, with all that was done
to it since. -/
theorem recorded_eq_some_iff {lifetime : Span} {operations : List Operation}
    (fresh : (operations.filterMap Operation.createdId?).Nodup) {id : SessionId}
    {session : Session} :
    recorded lifetime operations id = some session ↔
      ∃ earlier createdAt since opened, operations = earlier ++ .create createdAt id :: since ∧
        Session.create? id createdAt lifetime = some opened ∧
        session = Operation.alterAll id opened since := by
  constructor
  · intro found
    rcases exists_of_foldl_record found with made | ⟨start, nothing, -⟩
    · exact made
    · cases nothing
  · rintro ⟨earlier, createdAt, since, opened, rfl, made, rfl⟩
    have others : ∀ operation ∈ since, operation.createdId? ≠ some id := by
      intro operation member again
      have first : (Operation.create createdAt id :: since).filterMap Operation.createdId? =
          id :: since.filterMap Operation.createdId? := rfl
      rw [List.filterMap_append, first, List.nodup_append] at fresh
      exact (List.nodup_cons.1 fresh.2.1).1 (List.mem_filterMap.2 ⟨operation, member, again⟩)
    have created (held : Option Session) :
        Operation.record lifetime id held (.create createdAt id) = some opened := by
      show (if id = id then (Session.create? id createdAt lifetime).or held else held) = _
      rw [if_pos rfl, made, Option.some_or]
    unfold recorded
    rw [List.foldl_append, List.foldl_cons, created, foldl_record_of_not_created others]
    rfl

/-- What is done to a session does not alter the end of its life. -/
theorem expiresAt_alterAll (id : SessionId) (session : Session) (operations : List Operation) :
    (Operation.alterAll id session operations).expiresAt = session.expiresAt := by
  unfold Operation.alterAll
  induction operations generalizing session with
  | nil => rfl
  | cons operation rest inductionHypothesis =>
    rw [List.foldl_cons, inductionHypothesis, expiresAt_alter]

/-! ## How many there are -/

private theorem size_erase_of_none {store : Store} {id : SessionId}
    (missing : store.find? id = none) :
    (store.erase id).size = store.size := by
  have all : ∀ session ∈ store.sessions, decide (session.id ≠ id) = true := by
    intro session member
    simpa using List.find?_eq_none.1 missing session member
  show (store.sessions.filter _).length = store.sessions.length
  rw [List.filter_eq_self.2 all]

theorem Distinct.size_erase {store : Store} (distinct : store.Distinct) {session : Session}
    {id : SessionId} (found : store.find? id = some session) :
    (store.erase id).size + 1 = store.size := by
  have listed : id ∈ store.sessions.map (·.id) :=
    List.mem_map.2 ⟨session, mem_of_find? found, id_of_find? found⟩
  have once : store.sessions.countP (·.id == id) = 1 := by
    have counted := List.count_eq_one_of_mem distinct listed
    rwa [List.count, List.countP_map] at counted
  have others : store.sessions.countP (¬ ·.id == id) = (store.erase id).size := by
    rw [List.countP_eq_length_filter]
    simp [size, Store.erase]
  have both := List.length_eq_countP_add_countP (·.id == id) (l := store.sessions)
  rw [once, others] at both
  show _ = store.sessions.length
  omega

/-- A clean-up removes exactly the stored sessions that are over, and gives their number. -/
theorem cleanup_eq (store : Store) (now : Instant) :
    (store.cleanup now).1 = store.sessions.countP (·.isExpired now) ∧
      (store.cleanup now).2.size + (store.cleanup now).1 = store.size := by
  have both := List.length_eq_countP_add_countP (·.isExpired now) (l := store.sessions)
  have kept : store.sessions.countP (fun session => ¬ session.isExpired now) =
      (store.sessions.filter (! ·.isExpired now)).length := by
    rw [List.countP_eq_length_filter]
    simp
  rw [kept] at both
  unfold cleanup size
  dsimp only
  omega

private theorem size_update (store : Store) (session : Session) :
    (store.update session).size = store.size :=
  List.length_map _

theorem Distinct.size_get {store : Store} (distinct : store.Distinct) (now : Instant)
    (id : SessionId) :
    (store.get now id).2.size + store.evicted (.get now id) = store.size := by
  show _ + (if (store.find? id).any (·.isExpired now) then 1 else 0) = _
  unfold Store.get
  cases found : store.find? id with
  | none => rfl
  | some session =>
    rw [Option.any_some]
    dsimp only
    split
    · exact distinct.size_erase found
    · rfl

/-- An operation adds the session that it creates and takes those that it removes. -/
theorem Distinct.size_step {store : Store} (distinct : store.Distinct) {operation : Operation}
    (fresh : ∀ id, operation.createdId? = some id -> store.find? id = none) :
    (store.step operation).size + store.evicted operation =
      store.size + if operation.creates store.lifetime then 1 else 0 := by
  cases operation with
  | create now id =>
    show _ + 0 = _ + if (Session.create? id now store.lifetime).isSome then 1 else 0
    cases made : Session.create? id now store.lifetime with
    | none =>
      rw [step_create_of_none store now id made]
      rfl
    | some session =>
      rw [(eq_of_create? (step_create_of_some store now id made)).2]
      have erased := size_erase_of_none (fresh id rfl)
      unfold size at erased ⊢
      simp [erased]
  | get now id => exact distinct.size_get now id
  | cleanup now => exact (store.cleanup_eq now).2
  | size => rfl
  | change id given =>
    show _ + 0 = _ + 0
    cases found : store.find? id with
    | none => rw [step_change_of_none store id given found]
    | some session => rw [step_change_of_some store id given found, size_update]

theorem Distinct.find?_step_of_none {store : Store} (distinct : store.Distinct) {id : SessionId}
    {operation : Operation} (other : operation.createdId? ≠ some id)
    (missing : store.find? id = none) : (store.step operation).find? id = none := by
  cases operation with
  | create now created =>
    have different : created ≠ id := fun same => other (congrArg some same)
    rw [find?_step_create, missing]
    exact if_neg different
  | get now asked =>
    show (store.get now asked).2.find? id = none
    rw [find?_get, missing, Session.live_none, ite_self]
  | cleanup now =>
    show (store.cleanup now).2.find? id = none
    rw [distinct.find?_cleanup, missing]
    rfl
  | size => exact missing
  | change changed given =>
    rw [find?_step_change, missing]
    rfl

theorem Distinct.size_run {store : Store} (distinct : store.Distinct) {operations : List Operation}
    (fresh : (operations.filterMap Operation.createdId?).Nodup)
    (unknown : ∀ id ∈ operations.filterMap Operation.createdId?, store.find? id = none) :
    (store.run operations).size + store.evictions operations =
      store.size + operations.countP (Operation.creates store.lifetime) := by
  induction operations generalizing store with
  | nil => rfl
  | cons operation rest inductionHypothesis =>
    have first : ∀ id, operation.createdId? = some id -> store.find? id = none :=
      fun id created => unknown id (List.mem_filterMap.2 ⟨operation, List.mem_cons_self, created⟩)
    have others : ∀ id ∈ rest.filterMap Operation.createdId?, operation.createdId? ≠ some id := by
      intro id member created
      rw [List.filterMap_cons_some created, List.nodup_cons] at fresh
      exact fresh.1 member
    have freshRest : (rest.filterMap Operation.createdId?).Nodup :=
      fresh.sublist ((List.sublist_cons_self operation rest).filterMap _)
    have unknownRest : ∀ id ∈ rest.filterMap Operation.createdId?,
        (store.step operation).find? id = none := by
      intro id member
      have listed := ((List.sublist_cons_self operation rest).filterMap _).subset member
      exact distinct.find?_step_of_none (others id member) (unknown id listed)
    have after := inductionHypothesis (distinct.step operation) freshRest unknownRest
    have now := distinct.size_step first
    rw [lifetime_step] at after
    rw [List.countP_cons]
    show ((store.step operation).run rest).size +
      (store.evicted operation + (store.step operation).evictions rest) = _
    omega

/-! ## The ideal map -/

/-- A store that starts empty is the map of all sessions created, each with all that was done to it
since and for as long as it lives. Clean-ups remove what is over and nothing else, the size counts
what was created and not removed, and what was only looked up or cleaned up is never noticed. -/
theorem run_refines_expiring_map (lifetime : Span) {operations : List Operation}
    (fresh : (operations.filterMap Operation.createdId?).Nodup) {now : Instant}
    (earlier : ∀ time ∈ operations.filterMap Operation.time?, time ≤ now) :
    let store := ({ lifetime } : Store).run operations
    (∀ id session, (store.get now id).1 = some session ↔
      ∃ before createdAt since opened, operations = before ++ .create createdAt id :: since ∧
        Session.create? id createdAt lifetime = some opened ∧
        now.before opened.expiresAt = true ∧ session = Operation.alterAll id opened since) ∧
    ((store.cleanup now).1 = store.sessions.countP (·.isExpired now) ∧
      ∀ id, (store.cleanup now).2.find? id =
        (store.find? id).filter (! ·.isExpired now)) ∧
    store.size + ({ lifetime } : Store).evictions operations =
      operations.countP (Operation.creates lifetime) ∧
    ∀ others : List Operation,
      others.filter Operation.writes = operations.filter Operation.writes ->
      (∀ time ∈ others.filterMap Operation.time?, time ≤ now) ->
      ∀ id, ((({ lifetime } : Store).run others).get now id).1 = (store.get now id).1 := by
  have found (run : List Operation) (before : ∀ time ∈ run.filterMap Operation.time?, time ≤ now)
      (id : SessionId) := get_run lifetime before id
  have empty : ({ lifetime } : Store).Distinct := distinct_of_sessions_nil rfl
  refine ⟨fun id session => ?_, ⟨(cleanup_eq _ now).1, (empty.run operations).find?_cleanup now⟩, ?_, ?_⟩
  · rw [found operations earlier, Session.live_eq_some_iff, recorded_eq_some_iff fresh]
    constructor
    · rintro ⟨⟨before, createdAt, since, opened, split, made, rfl⟩, alive⟩
      refine ⟨before, createdAt, since, opened, split, made, ?_, rfl⟩
      rwa [Session.isExpired_eq_false_iff, expiresAt_alterAll] at alive
    · rintro ⟨before, createdAt, since, opened, split, made, alive, rfl⟩
      refine ⟨⟨before, createdAt, since, opened, split, made, rfl⟩, ?_⟩
      rwa [Session.isExpired_eq_false_iff, expiresAt_alterAll]
  · rw [empty.size_run fresh fun id _ => find?_of_sessions_nil rfl id]
    exact Nat.zero_add _
  · intro others same before id
    rw [found others before, found operations earlier, ← recorded_filter_writes lifetime others,
      same, recorded_filter_writes]

/-- Two sessions that live for a minute. The first one is dropped by the look-up that comes too
late, the second one is still there. -/
theorem sample_run_refines_expiring_map :
    let lifetime := Span.ofSeconds 60
    let operations : List Operation :=
      [.create ⟨0, 0⟩ ⟨1⟩, .create ⟨10, 0⟩ ⟨2⟩, .change ⟨2⟩ .announce, .get ⟨65, 0⟩ ⟨1⟩,
        .cleanup ⟨66, 0⟩]
    let store := ({ lifetime } : Store).run operations
    (operations.filterMap Operation.createdId?).Nodup ∧
    (∀ time ∈ operations.filterMap Operation.time?, time ≤ (⟨69, 0⟩ : Instant)) ∧
    (store.get ⟨69, 0⟩ ⟨2⟩).1 =
      some { id := ⟨2⟩, createdAt := ⟨10, 0⟩, expiresAt := ⟨70, 0⟩, changes := 1 } ∧
    store.size + ({ lifetime } : Store).evictions operations = 2 := by
  intro lifetime operations store
  have fresh : (operations.filterMap Operation.createdId?).Nodup := by decide
  have earlier : ∀ time ∈ operations.filterMap Operation.time?, time ≤ (⟨69, 0⟩ : Instant) := by
    decide
  obtain ⟨found, -, counted, -⟩ := run_refines_expiring_map lifetime fresh earlier
  refine ⟨fresh, earlier, (found _ _).2 ?_, counted⟩
  exact ⟨[.create ⟨0, 0⟩ ⟨1⟩], ⟨10, 0⟩, _, _, rfl, rfl, rfl, rfl⟩

end Store
end LoginGate
