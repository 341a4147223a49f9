import Mathlib.Data.List.Induction
import LoginGate.Proofs.Server.Verdict

/-!
Contract: whatever is done to a session, the three keys of its identity belong together.

Owns:
- the operations on one session, in any order and with any provider;
- what it means that the keys, and those who read them, agree;
- the law that they agree after every sequence of operations, and that everything in them comes from
  one accepted callback.

Does not own: runs of requests on many sessions (`Server.Verdict`).
-/

namespace LoginGate.Server

/-! ## Operations -/

inductive Operation where
  | beginLogin (request : Http.RequestInfo) (stateBytes : Bytes)
  /-- A callback, while the provider answers in a certain way. -/
  | completeLogin (provider : Provider) (request : Http.RequestInfo) (now : Instant)
      (callback : Flow.Callback)
  | logout (request : Http.RequestInfo)
  /-- The application, or a hook of it, sets a key or removes it. -/
  | write (key : Text) (value : Option Json)

def operateOnce (server : Server) (session : Session) : Operation -> Session
  | .beginLogin request stateBytes =>
    (server.beginLogin (some session) request stateBytes).session.getD session
  | .completeLogin provider request now callback =>
    let turn := (server.asking provider).completeLogin (some session) request now callback
    turn.session.getD session
  | .logout request => (server.logout (some session) request).session.getD session
  | .write key value => session.set key value

def operate (server : Server) (session : Session) (operations : List Operation) : Session :=
  operations.foldl server.operateOnce session

def Operation.deed (server : Server) (login : Login) (session : Session) : Operation -> Deed
  | .beginLogin request stateBytes =>
    .started { state := Flow.State.ofBytes stateBytes, referrer := server.returnTarget request }
  | .completeLogin provider _ now callback =>
    .calledBack callback.state (({ login with provider } : Login).outcome session now callback)
  | .logout _ => .loggedOut
  | .write key value => .written key value

private theorem operateOnce_eq_perform {server : Server} {login : Login}
    (configured : server.login = some login) (session : Session) (operation : Operation) :
    server.operateOnce session operation =
      (operation.deed server login session).perform server.keys session := by
  cases operation with
  | beginLogin request stateBytes =>
    rw [operateOnce, beginLogin_session configured]
    rfl
  | completeLogin provider request now callback =>
    have asked : (server.asking provider).login = some { login with provider } := by
      unfold asking
      rw [configured]
      rfl
    rw [operateOnce, completeLogin_session asked]
    rfl
  | logout request => rfl
  | write key value => rfl

private theorem operate_append_singleton (server : Server) (session : Session)
    (operations : List Operation) (operation : Operation) :
    server.operate session (operations ++ [operation]) =
      server.operateOnce (server.operate session operations) operation := by
  unfold operate
  rw [List.foldl_append]
  rfl

/-! ## Agreement -/

/-- The three keys of a session agree with each other, and so do those who read them. -/
structure Consistent (server : Server) (session : Session) : Prop where
  /-- The identity key holds an object, if anything. -/
  identity : ∀ value, session.get? server.keys.identity = some value ->
    ∃ fields, value = .object fields
  token : (session.get? server.keys.token).isSome = (session.get? server.keys.identity).isSome
  email : (session.get? server.keys.email).isSome -> (session.get? server.keys.identity).isSome
  emailText : ∀ value, session.get? server.keys.email = some value ->
    ∃ text, value = .string text ∧ text ≠ []
  /-- The address is what is found in the document, and is missing when nothing is. -/
  emailOfDocument : ∀ document : Document,
    session.get? server.keys.identity = some document.toJson ->
      session.get? server.keys.email = (Identity.email? document).map Json.string
  hasIdentity : session.hasIdentity server.keys = (session.identity? server.keys).isSome
  view : (server.view (some session)).document.isSome = (session.identity? server.keys).isSome

theorem Identity.ne_nil_of_email? {document : Document} {email : Text}
    (found : Identity.email? document = some email) : email ≠ [] := by
  have nonempty := List.find?_some found
  rintro rfl
  cases nonempty

private theorem consistent_of_holds {server : Server} {session : Session}
    {grant : Option Session.Grant}
    (holds : Session.Holds server.keys grant session) : Consistent server session where
  identity value found := by
    rw [holds.identity] at found
    obtain ⟨given, -, rfl⟩ := Option.map_eq_some_iff.1 found
    exact ⟨given.document.fields, rfl⟩
  token := by rw [holds.token, holds.identity, Option.isSome_map, Option.isSome_map]
  email present := by
    rw [holds.email] at present
    rw [holds.identity]
    cases grant with
    | none => cases present
    | some given => rfl
  emailText value found := by
    rw [holds.email] at found
    obtain ⟨text, address, rfl⟩ := Option.map_eq_some_iff.1 found
    obtain ⟨given, -, named⟩ := Option.bind_eq_some_iff.1 address
    exact ⟨text, rfl, Identity.ne_nil_of_email? named⟩
  emailOfDocument document found := by
    rw [holds.identity] at found
    obtain ⟨given, rfl, same⟩ := Option.map_eq_some_iff.1 found
    have sameDocument : given.document = document := by
      cases document
      exact congrArg Document.mk (Json.object.inj same)
    rw [holds.email, ← sameDocument]
    rfl
  hasIdentity := by rw [holds.hasIdentity, holds.identity?, Option.isSome_map]
  view := by
    show ((session.get? server.keys.identity).bind Document.ofJson?).isSome = _
    rw [holds.document, holds.identity?, Option.isSome_map, Option.isSome_map]

/-! ## Every sequence of operations -/

/-- A grant is what one of some operations, a callback, was accepted with. -/
def Granted (server : Server) (login : Login) (session : Session) (operations : List Operation)
    (grant : Session.Grant) : Prop :=
  ∃ earlier provider request now callback later pending,
    operations = earlier ++ .completeLogin provider request now callback :: later ∧
    ({ login with provider } : Login).outcome (server.operate session earlier) now callback =
      .accepted pending grant

theorem Granted.append {server : Server} {login : Login} {session : Session}
    {operations : List Operation} {grant : Session.Grant}
    (granted : Granted server login session operations grant) (more : List Operation) :
    Granted server login session (operations ++ more) grant := by
  obtain ⟨earlier, provider, request, now, callback, later, pending, rfl, accepted⟩ := granted
  refine ⟨earlier, provider, request, now, callback, later ++ more, pending, ?_, accepted⟩
  rw [List.append_assoc, List.cons_append]

private theorem granted_of_verdict? {server : Server} {login : Login} {session : Session}
    {operations : List Operation} {operation : Operation} {grant : Session.Grant}
    (settled : (operation.deed server login (server.operate session operations)).verdict? =
      some (some grant)) :
    Granted server login session (operations ++ [operation]) grant := by
  cases operation with
  | beginLogin request stateBytes => cases settled
  | logout request => cases settled
  | write key value => cases settled
  | completeLogin provider request now callback =>
    obtain ⟨state, pending, same⟩ := Deed.eq_accepted_of_verdict? settled
    obtain ⟨-, accepted⟩ := Deed.calledBack.inj same
    exact ⟨operations, provider, request, now, callback, [], pending, rfl, accepted⟩

section Operations

variable {server : Server} {login : Login} (configured : server.login = some login)
  (apart : server.keys.Apart) {session : Session} (empty : session.values = [])
  {operations : List Operation}
  (spares : ∀ key value, .write key value ∈ operations -> key ∉ server.keys.all)
include configured apart empty spares

/-- After operations on a new session it holds what one callback was accepted with, or nothing. -/
theorem holds_operate :
    ∃ grant, Session.Holds server.keys grant (server.operate session operations) ∧
      ∀ given, grant = some given -> Granted server login session operations given := by
  induction operations using List.reverseRecOn with
  | nil =>
    refine ⟨none, Session.holds_none_of_values_nil server.keys empty, ?_⟩
    intro given absurdly
    cases absurdly
  | append_singleton operations operation inductionHypothesis =>
    obtain ⟨grant, holds, granted⟩ := inductionHypothesis
      (fun key value member => spares key value (List.mem_append_left _ member))
    have sparesDeed :
        (operation.deed server login (server.operate session operations)).Spares
          server.keys.all := by
      intro key written
      cases operation with
      | write other value =>
        cases written
        exact spares key value (List.mem_append_right _ List.mem_cons_self)
      | beginLogin | completeLogin | logout => cases written
    have after := Deed.holds_perform apart sparesDeed holds
    rw [← operateOnce_eq_perform configured, ← operate_append_singleton] at after
    refine ⟨_, after, ?_⟩
    intro given same
    -- The last operation settles the login, or what was held before is held still.
    cases settled :
        (operation.deed server login (server.operate session operations)).verdict? with
    | none =>
      rw [settled] at same
      exact (granted given same).append [operation]
    | some verdict =>
      rw [settled] at same
      cases same
      exact granted_of_verdict? settled

/-- **The keys of an identity belong together.**

Whatever logins, callbacks and logouts a new session goes through, while the application writes none
of the three keys: the keys and their readers agree, and if the session has an identity, then
document, address and token are all from one and the same accepted callback. -/
theorem operate_consistent :
    Consistent server (server.operate session operations) ∧
    ∀ identity, (server.operate session operations).identity? server.keys = some identity ->
      ∃ grant, Granted server login session operations grant ∧ identity = grant.identity ∧
        Session.Holds server.keys (some grant) (server.operate session operations) := by
  obtain ⟨grant, holds, granted⟩ := holds_operate configured apart empty spares
  refine ⟨consistent_of_holds holds, ?_⟩
  intro identity found
  rw [holds.identity?] at found
  obtain ⟨given, rfl, rfl⟩ := Option.map_eq_some_iff.1 found
  exact ⟨given, granted given rfl, rfl, holds⟩

end Operations

/-- A login, a logout and another login leave a consistent session. -/
theorem sample_operate_consistent :
    let session : Session := { id := { bits := 1 }, createdAt := { seconds := 0 }
                               expiresAt := { seconds := 1 } }
    let info : Http.RequestInfo := { host := [], referer := none, uri := ['/'] }
    let callback : Flow.Callback := { code := ['x'], state := "AQID".toList }
    let operations : List Operation := [
      .beginLogin info [1, 2, 3],
      .completeLogin Sample.provider info { seconds := 0 } callback,
      .write "theme".toList none,
      .logout info,
      .beginLogin info [1, 2, 3],
      .completeLogin Sample.provider info { seconds := 0 } callback]
    Consistent Sample.server (Sample.server.operate session operations) ∧
    ∃ grant, Session.Holds Sample.server.keys (some grant)
      (Sample.server.operate session operations) := by
  intro session info callback operations
  have apart : Sample.server.keys.Apart := Session.Keys.apart_default
  have spares : ∀ key value, .write key value ∈ operations -> key ∉ Sample.server.keys.all := by
    intro key value member
    simp only [operations, List.mem_cons, Operation.write.injEq, reduceCtorEq, false_or,
      List.not_mem_nil, or_false] at member
    rw [member.1]
    decide
  have empty : session.values = [] := rfl
  have agreed := operate_consistent rfl apart empty spares
  have present : ((Sample.server.operate session operations).identity?
      Sample.server.keys).isSome = true := by decide +kernel
  obtain ⟨identity, found⟩ := Option.isSome_iff_exists.1 present
  obtain ⟨grant, -, -, holds⟩ := agreed.2 identity found
  exact ⟨agreed.1, grant, holds⟩

end LoginGate.Server
