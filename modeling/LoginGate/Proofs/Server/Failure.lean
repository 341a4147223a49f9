import LoginGate.Proofs.Server.Run

/-!
Contract: what a callback that fails leaves behind.

Owns:
- sessions without some keys;
- the keys that each failure takes from its session, and how often it announces a change;
- the law that a callback which fails takes these keys and does nothing else.

Does not own: the page that answers a failure (`Page.Error`).

The law needs no assumption on the names of the keys. Where one of the three is also the key of a
login under way, a key is taken twice, which is the same as once.
-/

namespace LoginGate

/-! ## Sessions without keys -/

namespace Session

/-- A session without some keys, after a number of announcements. -/
def without (session : Session) (removed : List Text) (announced : Nat) : Session :=
  { session with
    values := session.values.filter (·.1 ∉ removed)
    changes := session.changes + announced }

private theorem without_without (session : Session) (first second : List Text) (some more : Nat) :
    (session.without first some).without second more =
      session.without (first ++ second) (some + more) := by
  unfold without
  simp only [List.filter_filter]
  congr 1
  · apply List.filter_congr
    intro field _
    simp [Bool.and_comm]
  · exact Nat.add_assoc _ _ _

private theorem set_none_eq_without (session : Session) (key : Text) :
    session.set key none = session.without [key] 0 := by
  simp [set, Json.erase, without]

private theorem announce_eq_without (session : Session) :
    session.announce = session.without [] 1 := by
  unfold announce without
  rw [List.filter_eq_self.2 (by simp)]

/-- Removing an identity removes its three keys and announces that once. -/
theorem clearIdentity_eq_without (session : Session) (keys : Keys) :
    session.clearIdentity keys = session.without keys.all 1 := by
  unfold clearIdentity
  rw [announce_eq_without, set_none_eq_without, set_none_eq_without, set_none_eq_without,
    without_without, without_without, without_without]
  rfl

/-- The removed keys hold nothing, and the others what they held. -/
theorem get?_without (session : Session) (removed : List Text) (announced : Nat) (key : Text) :
    (session.without removed announced).get? key =
      if key ∈ removed then none else session.get? key := by
  induction removed generalizing session with
  | nil =>
    unfold get? without
    rw [List.filter_eq_self.2 (by simp), if_neg List.not_mem_nil]
  | cons first rest inductionHypothesis =>
    have split : session.without (first :: rest) announced =
        (session.set first none).without rest announced := by
      rw [set_none_eq_without, without_without, Nat.zero_add]
      rfl
    rw [split, inductionHypothesis, get?_set]
    by_cases inRest : key ∈ rest
    · simp [inRest]
    · by_cases here : first = key
      · simp [here]
      · simp [inRest, here, Ne.symm here]

end Session

/-! ## What a failure takes -/

namespace Flow.Error

def removedKeys (keys : Session.Keys) : Flow.Error -> List Text
  | .missingSession => []
  | .wrongState => [Flow.Pending.key]
  | .notConfigured => keys.all
  | .exchangeFailed _ | .userinfoFailed _ _ | .userinfoUnreadable _ => Flow.Pending.key :: keys.all

def announcements : Flow.Error -> Nat
  | .missingSession | .wrongState => 0
  | .notConfigured | .exchangeFailed _ | .userinfoFailed _ _ | .userinfoUnreadable _ => 1

private theorem removedKeys_of_isUpstream {error : Flow.Error} (upstream : error.isUpstream = true)
    (keys : Session.Keys) :
    error.removedKeys keys = Flow.Pending.key :: keys.all ∧ error.announcements = 1 := by
  cases error <;> first | exact ⟨rfl, rfl⟩ | cases upstream

end Flow.Error

namespace Server

/-! ## Where failures are announced -/

private theorem loginFailed_mem_failLogin {server : Server} {session : Option Session}
    {request : Http.RequestInfo} {asked : List Event} {error : Flow.Error} {failure : LoginFailure}
    (unannounced : .loginFailed failure ∉ asked)
    (failed : .loginFailed failure ∈ (server.failLogin session request asked error).events) :
    failure.error = error := by
  unfold failLogin at failed
  rcases List.mem_append.1 failed with announced | announced
  · exact absurd announced unannounced
  · rw [List.mem_singleton] at announced
    cases announced
    rfl

private theorem loginFailed_not_mem_inquire (provider : Provider) (code : Text)
    (failure : LoginFailure) :
    .loginFailed failure ∉ (inquire provider code).1 := by
  unfold inquire
  split <;> simp

/-- A callback with a session fails when its state is refused or the provider fails. -/
theorem loginFailed_mem_conclude {server : Server} {request : Http.RequestInfo}
    {asked : List Event} {session : Session} {outcome : Outcome} {failure : LoginFailure}
    (unannounced : .loginFailed failure ∉ asked)
    (failed : .loginFailed failure ∈ (server.conclude request asked session outcome).events) :
    outcome = .refused ∧ failure.error = .wrongState ∨ outcome = .failed failure.error := by
  cases outcome with
  | refused =>
    have caused := loginFailed_mem_failLogin List.not_mem_nil failed
    exact .inl ⟨rfl, caused⟩
  | failed error =>
    have caused := loginFailed_mem_failLogin unannounced failed
    exact .inr (by rw [caused])
  | broken document =>
    simp only [conclude, missingEmail, List.mem_append, unannounced, false_or] at failed
    split at failed <;> simp at failed
  | accepted pending grant =>
    simp only [conclude, missingEmail, List.mem_append, unannounced, false_or] at failed
    split at failed <;> simp at failed

/-! ## The law -/

/-- A failed callback leaves its session as the failure says. -/
structure LeavesBehind (server : Server) (session : Option Session) (failure : LoginFailure)
    (turn : Turn) : Prop where
  session_eq : turn.session = session.map fun session =>
    session.without (failure.error.removedKeys server.keys) failure.error.announcements
  unconfigured : failure.error = .notConfigured ↔ server.login = none
  sessionless : failure.error = .missingSession ↔ server.login ≠ none ∧ session = none
  /-- A wrong state is told to the application, and the provider is not asked. -/
  unasked : failure.error = .wrongState -> turn.events = [.loginFailed failure]

/-- With a session and a login flow, the failure is the outcome of the callback. -/
theorem leavesBehind_of_session {server : Server} {login : Login} {session : Session}
    {request : Http.RequestInfo} {now : Instant} {callback : Flow.Callback}
    {failure : LoginFailure} (configured : server.login = some login)
    (failed : .loginFailed failure ∈
      (server.completeLogin (some session) request now callback).events) :
    server.LeavesBehind (some session) failure
      (server.completeLogin (some session) request now callback) := by
  have settled := completeLogin_session configured session request now callback
  have concluded := completeLogin_eq_conclude configured session request now callback
  have taken : (Flow.Pending.take session).2 = session.without [Flow.Pending.key] 0 :=
    Session.set_none_eq_without session Flow.Pending.key
  rw [concluded] at failed
  rcases loginFailed_mem_conclude (loginFailed_not_mem_inquire _ _ _) failed with
    ⟨refused, wrong⟩ | ended
  · rw [refused] at settled concluded failed
    refine ⟨?_, by simp [wrong, configured], by simp [wrong], ?_⟩
    · rw [settled, wrong]
      exact congrArg some taken
    · intro _
      rw [concluded]
      simp only [conclude, failLogin, List.nil_append, List.mem_singleton] at failed ⊢
      rw [← failed]
  · have upstream := Login.isUpstream_of_outcome ended
    obtain ⟨removed, announced⟩ := Flow.Error.removedKeys_of_isUpstream upstream server.keys
    refine ⟨?_, ?_, ?_, ?_⟩
    · rw [settled, ended, Outcome.settle, taken, Session.clearIdentity_eq_without,
        Session.without_without, removed, announced]
      rfl
    all_goals
      cases cause : failure.error <;> simp [cause, Flow.Error.isUpstream, configured] at upstream ⊢

private theorem leavesBehind_of_loginFailed {server : Server} {session : Option Session}
    {request : Http.RequestInfo} {now : Instant} {callback : Flow.Callback}
    {failure : LoginFailure}
    (failed : .loginFailed failure ∈
      (server.completeLogin session request now callback).events) :
    server.LeavesBehind session failure
      (server.completeLogin session request now callback) := by
  cases configured : server.login with
  | none =>
    have ends : server.completeLogin session request now callback =
        server.failLogin session request [] .notConfigured := by
      unfold completeLogin
      rw [configured]
    rw [ends] at failed ⊢
    have cause := loginFailed_mem_failLogin List.not_mem_nil failed
    refine ⟨?_, by simp [cause, configured], by simp [cause, configured], by simp [cause]⟩
    rw [cause]
    show session.map _ = session.map _
    exact congrArg (session.map ·) (funext fun session => session.clearIdentity_eq_without _)
  | some login =>
    cases session with
    | some session => exact leavesBehind_of_session configured failed
    | none =>
      have ends : server.completeLogin none request now callback =
          server.failLogin none request [] .missingSession := by
        unfold completeLogin
        rw [configured]
      rw [ends] at failed ⊢
      have cause := loginFailed_mem_failLogin List.not_mem_nil failed
      exact ⟨rfl, by simp [cause, configured], by simp [cause, configured], by simp [cause]⟩

/-- Putting a session back concerns no session with another id. -/
theorem Turn.find?_answer_of_ne (store : Store) {turn : Turn} {id : SessionId}
    (other : ∀ session, turn.session = some session -> session.id ≠ id) :
    (turn.answer store).store.find? id = store.find? id := by
  unfold Turn.answer
  cases left : turn.session with
  | none => rfl
  | some session =>
    show (store.update session).find? id = _
    rw [Store.find?_update, if_neg (other session left)]

/-- **A failed callback takes what its failure says and nothing else.** Under the keys that the
failure takes nothing is left, every other key holds what it held, and no other session changes.
Without a session none changes at all. -/
theorem failed_callback_takes_only_its_keys {server : Server} {session : Option Session}
    {request : Http.RequestInfo} {now : Instant} {callback : Flow.Callback}
    {failure : LoginFailure}
    (failed : .loginFailed failure ∈
      (server.completeLogin session request now callback).events) :
    let turn := server.completeLogin session request now callback
    server.LeavesBehind session failure turn ∧
    (∀ before, session = some before -> ∃ after, turn.session = some after ∧
      ∀ key, after.get? key =
        if key ∈ failure.error.removedKeys server.keys then none else before.get? key) ∧
    ∀ store id, (∀ before, session = some before -> before.id ≠ id) ->
      (turn.answer store).store.find? id = store.find? id := by
  intro turn
  have leaves := leavesBehind_of_loginFailed failed
  refine ⟨leaves, ?_, ?_⟩
  · rintro before rfl
    exact ⟨_, leaves.session_eq, fun key => Session.get?_without _ _ _ key⟩
  · intro store id other
    apply Turn.find?_answer_of_ne
    intro after left
    rw [leaves.session_eq] at left
    obtain ⟨before, given, rfl⟩ := Option.map_eq_some_iff.1 left
    exact other before given

/-! ## A provider that is down -/

namespace Sample

/-- A server whose provider tells nothing about users. Its identity stands under the key of a login
under way. -/
def unserved : Server where
  login := some {
    provider := { provider with fetchUserinfo := fun _ => .error (.userinfo "down".toList) }
    paths := {
      callback := "/auth/callback".toList
      login := "/auth/login".toList
      logout := "/auth/logout".toList } }
  settings := { keys := { identity := Flow.Pending.key } }
  store := { lifetime := Store.defaultLifetime }

/-- A session that has started a login and keeps a note besides. -/
def started : Session :=
  Flow.Pending.store { state := "s".toList, referrer := "/".toList } {
    id := { bits := 1 }, createdAt := { seconds := 1 }, expiresAt := { seconds := 2 }
    values := [("note".toList, .null), ("email".toList, .string "ann@example.com".toList)] }

/-- What the application is told about the failure. -/
def outage : LoginFailure where
  status := 502
  error := .userinfoFailed 502 (ProviderError.userinfo "down".toList).report
  email := some "ann@example.com".toList
  request := { host := [], referer := none, uri := "/auth/callback".toList }
  session := some ((Flow.Pending.take started).2.clearIdentity unserved.keys)

end Sample

/-- The note stays, and nothing else does. -/
theorem sample_failed_callback_keeps_note :
    let callback : Flow.Callback := { code := "c".toList, state := "s".toList }
    let turn := Sample.unserved.completeLogin (some Sample.started) Sample.outage.request
      { seconds := 1 } callback
    .loginFailed Sample.outage ∈ turn.events ∧
    Sample.unserved.LeavesBehind (some Sample.started) Sample.outage turn ∧
    (Sample.started.without (Sample.outage.error.removedKeys Sample.unserved.keys) 1).values.map
      (·.1) = ["note".toList] := by
  intro callback turn
  have events : turn.events = [.codeExchange "c".toList, .userinfoRequest "c".toList,
      .loginFailed Sample.outage] := rfl
  have failed : .loginFailed Sample.outage ∈ turn.events := by simp [events]
  exact ⟨failed, (failed_callback_takes_only_its_keys failed).1, by decide⟩

end Server
end LoginGate
