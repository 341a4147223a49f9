import LoginGate.Proofs.Server.Failure

/-!
Contract: which names of keys keep a login under way apart from an identity.

Owns:
- what stands under each key after a write, whatever names coincide;
- what it means that the start of a login leaves a reading of the session alone;
- for each reading, the names with which it is left alone for every session.

Does not own: what a session holds over whole runs when all names differ (`Session.Grant`).

The names of the three keys are settings that nothing checks, and the key of a login under way is
fixed. Where names coincide the last write stays, so each law below lists the names that must differ
for it, and gives a session for each pair that may not coincide.
-/

namespace LoginGate

/-! ## Writes under any names -/

namespace Session

/-- Of the writes under one name the last stays. -/
theorem get?_storeIdentity (session : Session) (keys : Keys) (identity : Identity)
    (token : Option StoredToken) (key : Text) :
    (session.storeIdentity keys identity token).get? key =
      if keys.token = key then token.map (·.toJson)
      else if keys.email = key then identity.email.map Json.string
      else if keys.identity = key then some identity.document.toJson
      else session.get? key := by
  simp only [storeIdentity, get?_announce, get?_set]

private theorem get?_clearIdentity (session : Session) (keys : Keys) (key : Text) :
    (session.clearIdentity keys).get? key = if key ∈ keys.all then none else session.get? key := by
  by_cases member : key ∈ keys.all
  · rw [if_pos member, get?_clearIdentity_of_mem member]
  · rw [if_neg member, get?_clearIdentity_of_not_mem member]

private theorem get?_pendingStore (session : Session) (pending : Flow.Pending) (key : Text) :
    (pending.store session).get? key =
      if Flow.Pending.key = key then some pending.toJson else session.get? key :=
  get?_set session Flow.Pending.key key _

/-- A login under way counts as an identity where it has the identity's key. -/
theorem hasIdentity_pendingStore (session : Session) (pending : Flow.Pending) (keys : Keys) :
    (pending.store session).hasIdentity keys =
      (decide (keys.identity = Flow.Pending.key) || session.hasIdentity keys) := by
  unfold hasIdentity
  rw [get?_pendingStore]
  by_cases same : Flow.Pending.key = keys.identity
  · rw [if_pos same, decide_eq_true same.symm]
    rfl
  · rw [if_neg same, decide_eq_false (Ne.symm same)]
    rfl

private theorem identity?_pendingStore_of_ne {keys : Keys}
    (identity : keys.identity ≠ Flow.Pending.key)
    (email : keys.email ≠ Flow.Pending.key) (session : Session) (pending : Flow.Pending) :
    (pending.store session).identity? keys = session.identity? keys := by
  unfold identity?
  rw [get?_pendingStore, get?_pendingStore, if_neg identity.symm, if_neg email.symm]

/-- What is read of a session with an identity. -/
theorem identity?_eq_some_iff {session : Session} {keys : Keys} {identity : Identity} :
    session.identity? keys = some identity ↔
      (session.get? keys.identity).bind Document.ofJson? = some identity.document ∧
        (session.get? keys.email).bind Json.text? = identity.email := by
  unfold identity?
  rw [Option.map_eq_some_iff]
  constructor
  · rintro ⟨document, found, rfl⟩
    exact ⟨found, rfl⟩
  · rintro ⟨found, address⟩
    exact ⟨identity.document, found, by rw [address]⟩

private theorem identity?_storeIdentity_of_ne {keys : Keys}
    (identity_email : keys.identity ≠ keys.email)
    (identity_token : keys.identity ≠ keys.token) (email_token : keys.email ≠ keys.token)
    (session : Session) (identity : Identity) (token : Option StoredToken) :
    (session.storeIdentity keys identity token).identity? keys = some identity := by
  rw [identity?_eq_some_iff, get?_storeIdentity, get?_storeIdentity, if_neg identity_token.symm,
    if_neg identity_email.symm, if_pos rfl, if_neg email_token.symm, if_pos rfl]
  refine ⟨rfl, ?_⟩
  cases identity.email <;> rfl

/-- Only what stands under the key of the record decides which record is read. -/
theorem peek_eq_of_get?_eq {before after : Session}
    (same : after.get? Flow.Pending.key = before.get? Flow.Pending.key) :
    Flow.Pending.peek after = Flow.Pending.peek before := by
  unfold Flow.Pending.peek
  rw [same]

end Session

namespace Server

/-- The start of a login leaves a reading as it was, on every server with the keys and for every
session. -/
def StartKeeps {α : Type} (keys : Session.Keys) (read : Session -> α) : Prop :=
  ∀ (server : Server) (session : Session) (request : Http.RequestInfo) (stateBytes : Bytes)
    (after : Session), server.keys = keys ->
      (server.beginLogin (some session) request stateBytes).session = some after ->
        read after = read session

/-- What no record changes, no start changes: without a login flow it does nothing at all. -/
theorem startKeeps_of_pendingStore {α : Type} {read : Session -> α} (keys : Session.Keys)
    (keeps : ∀ (session : Session) (pending : Flow.Pending),
      read (pending.store session) = read session) : StartKeeps keys read := by
  intro server session request stateBytes after _ left
  cases configured : server.login with
  | none =>
    unfold beginLogin at left
    rw [configured] at left
    cases left
    rfl
  | some login =>
    rw [beginLogin_session configured] at left
    cases left
    exact keeps session _

/-- What every start leaves alone, some record leaves alone in each session. -/
theorem StartKeeps.pendingStore {α : Type} {keys : Session.Keys} {read : Session -> α}
    (keeps : StartKeeps keys read) (session : Session) :
    ∃ pending : Flow.Pending, read (pending.store session) = read session := by
  let server : Server := { Sample.unserved with settings := { keys } }
  have left := @beginLogin_session server _ rfl session Sample.outage.request []
  exact ⟨_, keeps server session _ [] _ rfl left⟩

/-! ## Sessions in which coinciding names show -/

namespace Sample

def opened : Session :=
  { id := { bits := 1 }, createdAt := { seconds := 1 }, expiresAt := { seconds := 2 } }

def kept : StoredToken where
  accessToken := []
  tokenType := []
  refreshToken := none
  expiresAt := none
  authenticatedAt := { seconds := 1 }

end Sample

section Names

variable {keys : Session.Keys}

theorem startKeeps_hasIdentity_iff :
    StartKeeps keys (·.hasIdentity keys) ↔ keys.identity ≠ Flow.Pending.key := by
  constructor
  · intro keeps same
    obtain ⟨pending, kept⟩ := keeps.pendingStore Sample.opened
    rw [Session.hasIdentity_pendingStore, decide_eq_true same, Bool.true_or] at kept
    cases kept
  · intro different
    apply startKeeps_of_pendingStore
    intro session pending
    rw [Session.hasIdentity_pendingStore, decide_eq_false different, Bool.false_or]

/-- Under the key of the address a record hides an address, and under that of the document it is
taken for a document. -/
theorem startKeeps_identity?_iff :
    StartKeeps keys (·.identity? keys) ↔
      keys.identity ≠ Flow.Pending.key ∧ keys.email ≠ Flow.Pending.key := by
  constructor
  · intro keeps
    have notIdentity : keys.identity ≠ Flow.Pending.key := by
      intro same
      obtain ⟨pending, kept⟩ := keeps.pendingStore Sample.opened
      have present : (Sample.opened.identity? keys).isSome = true := by
        rw [← kept]
        unfold Session.identity?
        rw [Session.get?_pendingStore _ _ keys.identity, if_pos same.symm]
        rfl
      cases present
    refine ⟨notIdentity, ?_⟩
    intro same
    -- The session has a document, and an address under the key of the record.
    let session := (Sample.opened.set keys.identity (some (.object []))).set keys.email
      (some (.string []))
    have different : keys.email ≠ keys.identity := by
      rw [same]
      exact notIdentity.symm
    have before : session.identity? keys = some { document := {}, email := some [] } := by
      rw [Session.identity?_eq_some_iff]
      simp [session, different, Document.ofJson?, Json.text?]
    obtain ⟨pending, kept⟩ := keeps.pendingStore session
    have address := (Session.identity?_eq_some_iff.1 (kept.trans before)).2
    rw [Session.get?_pendingStore, if_pos same.symm] at address
    cases address
  · rintro ⟨identity, email⟩
    exact startKeeps_of_pendingStore keys (Session.identity?_pendingStore_of_ne identity email)

theorem startKeeps_token_iff :
    StartKeeps keys (·.get? keys.token) ↔ keys.token ≠ Flow.Pending.key := by
  constructor
  · intro keeps same
    obtain ⟨pending, kept⟩ := keeps.pendingStore Sample.opened
    rw [Session.get?_pendingStore, if_pos same.symm] at kept
    cases kept
  · intro different
    apply startKeeps_of_pendingStore
    intro session pending
    rw [Session.get?_pendingStore, if_neg different.symm]

/-- A stored identity is read back when its three keys differ. Otherwise an address or a token takes
the place of another value, or its absence does. -/
theorem identity?_storeIdentity_iff :
    (∀ (session : Session) (identity : Session.Identity) (token : Option StoredToken),
      (session.storeIdentity keys identity token).identity? keys = some identity) ↔
      keys.identity ≠ keys.email ∧ keys.identity ≠ keys.token ∧ keys.email ≠ keys.token := by
  constructor
  · intro reads
    have withoutAddress := Session.identity?_eq_some_iff.1
      (reads Sample.opened { document := {}, email := none } none)
    have withAddress := Session.identity?_eq_some_iff.1
      (reads Sample.opened { document := {}, email := some [] } none)
    simp only [Session.get?_storeIdentity] at withoutAddress withAddress
    refine ⟨?_, ?_, ?_⟩
    · intro same
      simp [same] at withoutAddress
    · intro same
      simp [same] at withoutAddress
    · intro same
      simp [same] at withAddress
  · rintro ⟨identity_email, identity_token, email_token⟩
    exact Session.identity?_storeIdentity_of_ne identity_email identity_token email_token

theorem peek_storeIdentity_iff :
    (∀ (session : Session) (identity : Session.Identity) (token : Option StoredToken),
      Flow.Pending.peek (session.storeIdentity keys identity token) = Flow.Pending.peek session) ↔
      Flow.Pending.key ∉ keys.all := by
  constructor
  · intro keeps member
    have kept := keeps Sample.started { document := {}, email := none } none
    have lost : Flow.Pending.peek
        (Sample.started.storeIdentity keys { document := {}, email := none } none) = none := by
      unfold Flow.Pending.peek
      rw [Session.get?_storeIdentity]
      simp only [Session.Keys.all, List.mem_cons, List.not_mem_nil, or_false] at member
      split
      · rfl
      split
      · rfl
      split
      · rfl
      · grind
    rw [lost] at kept
    cases kept
  · intro other session identity token
    exact Session.peek_eq_of_get?_eq (Session.get?_storeIdentity_of_not_mem other)

theorem peek_clearIdentity_iff :
    (∀ session : Session,
      Flow.Pending.peek (session.clearIdentity keys) = Flow.Pending.peek session) ↔
      Flow.Pending.key ∉ keys.all := by
  constructor
  · intro keeps member
    have kept := keeps Sample.started
    unfold Flow.Pending.peek at kept
    rw [Session.get?_clearIdentity, if_pos member] at kept
    cases kept
  · intro other session
    exact Session.peek_eq_of_get?_eq (Session.get?_clearIdentity_of_not_mem other)

end Names

/-- **When a login under way and an identity leave each other alone.** Any three names may be
configured as keys. For each of them, and for every server and session: the start of a login changes
neither whether the session is logged in, nor who is, nor the token, exactly when the key of the
record is not among the keys that are read for it; a stored identity is read back exactly when its
keys differ; and storing or removing an identity leaves the record exactly when the key of the
record is none of the three. -/
theorem readings_undisturbed_iff (keys : Session.Keys) :
    (StartKeeps keys (·.hasIdentity keys) ↔ keys.identity ≠ Flow.Pending.key) ∧
    (StartKeeps keys (·.identity? keys) ↔
      keys.identity ≠ Flow.Pending.key ∧ keys.email ≠ Flow.Pending.key) ∧
    (StartKeeps keys (·.get? keys.token) ↔ keys.token ≠ Flow.Pending.key) ∧
    ((∀ (session : Session) (identity : Session.Identity) (token : Option StoredToken),
      (session.storeIdentity keys identity token).identity? keys = some identity) ↔
        keys.identity ≠ keys.email ∧ keys.identity ≠ keys.token ∧ keys.email ≠ keys.token) ∧
    ((∀ (session : Session) (identity : Session.Identity) (token : Option StoredToken),
      Flow.Pending.peek (session.storeIdentity keys identity token) =
        Flow.Pending.peek session) ↔ Flow.Pending.key ∉ keys.all) ∧
    ((∀ session : Session,
      Flow.Pending.peek (session.clearIdentity keys) = Flow.Pending.peek session) ↔
        Flow.Pending.key ∉ keys.all) :=
  ⟨startKeeps_hasIdentity_iff, startKeeps_identity?_iff, startKeeps_token_iff,
    identity?_storeIdentity_iff, peek_storeIdentity_iff, peek_clearIdentity_iff⟩

/-- With the document under the key of a login under way, a session is logged in as soon as a login
is started, and the state it waits for is its document. -/
theorem start_counts_as_login :
    let started := Sample.unserved.beginLogin (some Sample.opened) Sample.outage.request [1, 2, 3]
    Sample.opened.hasIdentity Sample.unserved.keys = false ∧
    (started.session.bind (·.identity? Sample.unserved.keys)).bind
      (·.document.text? "state".toList) = some "AQID".toList := by
  intro started
  exact ⟨by decide, by decide⟩

end Server
end LoginGate
