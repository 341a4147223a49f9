import LoginGate.Session.Store

/-!
Contract: a store as a map from ids to sessions.

Owns:
- what is found under an id after each operation;
- stores in which no two sessions have one id, and that every operation keeps them so.

Does not own: which sessions a request touches (`Server.Incident`).

Looking up needs no assumption; only a clean-up, which goes by time and not by id, agrees with the
map when ids are distinct.
-/

namespace LoginGate

theorem Session.eq_of_create? {id : SessionId} {now : Instant} {lifetime : Span}
    {session : Session} (created : Session.create? id now lifetime = some session) :
    ∃ expiresAt, session = { id, createdAt := now, expiresAt } := by
  obtain ⟨expiresAt, -, rfl⟩ := Option.map_eq_some_iff.1 created
  exact ⟨expiresAt, rfl⟩

namespace Store

theorem id_of_find? {store : Store} {id : SessionId} {session : Session}
    (found : store.find? id = some session) : session.id = id := by
  have holds := List.find?_some found
  exact of_decide_eq_true holds

theorem mem_of_find? {store : Store} {id : SessionId} {session : Session}
    (found : store.find? id = some session) : session ∈ store.sessions :=
  List.mem_of_find?_eq_some found

theorem find?_of_sessions_nil {store : Store} (empty : store.sessions = []) (id : SessionId) :
    store.find? id = none := by
  unfold find?
  rw [empty]
  rfl

theorem eq_of_create? {store after : Store} {now : Instant} {id : SessionId} {session : Session}
    (created : store.create? now id = some (session, after)) :
    Session.create? id now store.lifetime = some session ∧
      after = { store with sessions := (store.erase id).sessions ++ [session] } := by
  obtain ⟨opened, opens, same⟩ := Option.map_eq_some_iff.1 created
  cases same
  exact ⟨opens, rfl⟩

/-! ## Look-up after each operation -/

@[simp] theorem find?_erase (store : Store) (id other : SessionId) :
    (store.erase id).find? other = if id = other then none else store.find? other := by
  unfold erase find?
  induction store.sessions with
  | nil => simp
  | cons session rest inductionHypothesis =>
    by_cases removed : session.id = id
    · rw [List.filter_cons_of_neg (by simp [removed]), inductionHypothesis]
      by_cases same : id = other
      · rw [if_pos same, if_pos same]
      · rw [if_neg same, if_neg same, List.find?_cons_of_neg (by simp [removed, same])]
    · rw [List.filter_cons_of_pos (by simp [removed])]
      by_cases here : session.id = other
      · rw [List.find?_cons_of_pos (by simp [here]), List.find?_cons_of_pos (by simp [here]),
          if_neg (fun same => removed (here.trans same.symm))]
      · rw [List.find?_cons_of_neg (by simp [here]), List.find?_cons_of_neg (by simp [here]),
          inductionHypothesis]

/-- An update changes what is found under the id of the session, if anything is. -/
theorem find?_update (store : Store) (session : Session) (other : SessionId) :
    (store.update session).find? other =
      if session.id = other then (store.find? other).map fun _ => session
      else store.find? other := by
  unfold update find?
  induction store.sessions with
  | nil => simp
  | cons old rest inductionHypothesis =>
    rw [List.map_cons]
    by_cases replaced : old.id = session.id
    · rw [if_pos replaced]
      by_cases here : session.id = other
      · rw [List.find?_cons_of_pos (by simp [here]), if_pos here,
          List.find?_cons_of_pos (by simp [replaced, here])]
        rfl
      · rw [List.find?_cons_of_neg (by simp [here]), inductionHypothesis, if_neg here, if_neg here,
          List.find?_cons_of_neg (by simp [replaced, here])]
    · rw [if_neg replaced]
      by_cases here : old.id = other
      · have different : session.id ≠ other := fun same => replaced (here.trans same.symm)
        rw [List.find?_cons_of_pos (by simp [here]), if_neg different,
          List.find?_cons_of_pos (by simp [here])]
      · rw [List.find?_cons_of_neg (by simp [here]), inductionHypothesis,
          List.find?_cons_of_neg (by simp [here])]

/-- A created session is found under its id, and hides whatever was found there before. -/
theorem find?_create? {store after : Store} {now : Instant} {id : SessionId} {session : Session}
    (created : store.create? now id = some (session, after)) (other : SessionId) :
    after.find? other = if id = other then some session else store.find? other := by
  obtain ⟨opened, rfl⟩ := eq_of_create? created
  obtain ⟨expiresAt, rfl⟩ := Session.eq_of_create? opened
  have erased := find?_erase store id other
  unfold find? at erased ⊢
  rw [List.find?_append, erased]
  by_cases same : id = other
  · simp [same]
  · rw [if_neg same, if_neg same, List.find?_cons_of_neg (by simp [same]), List.find?_nil,
      Option.or_none]

/-! ## Distinct ids -/

/-- No two sessions of a store have one id. -/
def Distinct (store : Store) : Prop := (store.sessions.map (·.id)).Nodup

theorem distinct_of_sessions_nil {store : Store} (empty : store.sessions = []) :
    store.Distinct := by
  unfold Distinct
  rw [empty]
  exact List.nodup_nil

theorem Distinct.filter {store : Store} (distinct : store.Distinct) (kept : Session -> Bool) :
    Distinct { store with sessions := store.sessions.filter kept } :=
  List.Nodup.sublist (List.Sublist.map _ List.filter_sublist) distinct

theorem Distinct.erase {store : Store} (distinct : store.Distinct) (id : SessionId) :
    (store.erase id).Distinct :=
  distinct.filter _

/-- An update replaces a session under its id. -/
theorem ids_update (store : Store) (session : Session) :
    (store.update session).sessions.map (·.id) = store.sessions.map (·.id) := by
  unfold Store.update
  rw [List.map_map]
  refine List.map_congr_left fun old _ => ?_
  by_cases replaced : old.id = session.id
  · simp [replaced]
  · simp [replaced]

theorem Distinct.update {store : Store} (distinct : store.Distinct) (session : Session) :
    (store.update session).Distinct := by
  unfold Distinct
  rw [ids_update]
  exact distinct

theorem Distinct.get {store : Store} (distinct : store.Distinct) (now : Instant)
    (id : SessionId) : (store.get now id).2.Distinct := by
  unfold Store.get
  split
  · exact distinct
  · split
    · exact distinct.erase id
    · exact distinct

theorem Distinct.create? {store after : Store} {now : Instant} {id : SessionId}
    {session : Session} (distinct : store.Distinct)
    (created : store.create? now id = some (session, after)) : after.Distinct := by
  obtain ⟨opened, rfl⟩ := eq_of_create? created
  obtain ⟨expiresAt, rfl⟩ := Session.eq_of_create? opened
  unfold Distinct
  rw [List.map_append, List.nodup_append]
  refine ⟨distinct.erase id, by simp, ?_⟩
  intro one member other last same
  simp only [Store.erase, List.mem_map, List.mem_filter, decide_eq_true_eq] at member
  obtain ⟨session, ⟨-, different⟩, rfl⟩ := member
  have other_eq : other = id := by simpa using last
  exact different (same.trans other_eq)

theorem Distinct.cleanup {store : Store} (distinct : store.Distinct) (now : Instant) :
    (store.cleanup now).2.Distinct :=
  distinct.filter _

/-- With distinct ids, a session is found under its id. -/
theorem Distinct.find?_of_mem {store : Store} (distinct : store.Distinct) {session : Session}
    (member : session ∈ store.sessions) : store.find? session.id = some session := by
  obtain ⟨lifetime, sessions⟩ := store
  unfold Distinct at distinct
  unfold find?
  induction sessions with
  | nil => exact absurd member List.not_mem_nil
  | cons first rest inductionHypothesis =>
    rw [List.map_cons, List.nodup_cons] at distinct
    rcases List.mem_cons.1 member with rfl | inRest
    · exact List.find?_cons_of_pos (by simp)
    · have different : first.id ≠ session.id := fun same =>
        distinct.1 (same ▸ List.mem_map_of_mem inRest)
      rw [List.find?_cons_of_neg (by simp [different])]
      exact inductionHypothesis distinct.2 inRest

/-- With distinct ids, a clean-up hides exactly the sessions that are over. -/
theorem Distinct.find?_cleanup {store : Store} (distinct : store.Distinct) (now : Instant)
    (id : SessionId) :
    (store.cleanup now).2.find? id = (store.find? id).filter (! ·.isExpired now) := by
  cases kept : (store.cleanup now).2.find? id with
  | some session =>
    have member := mem_of_find? kept
    simp only [Store.cleanup, List.mem_filter] at member
    have sameId := id_of_find? kept
    have found := distinct.find?_of_mem member.1
    rw [sameId] at found
    rw [found, Option.filter_some, if_pos member.2]
  | none =>
    cases found : store.find? id with
    | none => rfl
    | some session =>
      rw [Option.filter_some]
      by_cases live : (!session.isExpired now) = true
      · have member : session ∈ (store.cleanup now).2.sessions := by
          simp only [Store.cleanup, List.mem_filter]
          exact ⟨mem_of_find? found, live⟩
        have again := (distinct.cleanup now).find?_of_mem member
        rw [id_of_find? found, kept] at again
        exact absurd again (by simp)
      · rw [if_neg live]

end Store
end LoginGate
