import LoginGate.Proofs.Server.Track

/-!
Contract: a state is spent at most once, on the session that it was issued to.

Owns:
- the login that a session waits for, and how incidents change it;
- code exchanges and issued states, counted over a run;
- the law that a code is exchanged only for the state that was issued last, and the bound on the
  number of exchanges that follows from it.

Does not own: what happens after the exchange (`Server.Verdict`).
-/

namespace LoginGate

/-- Reading a record that was written gives it back. -/
@[simp] theorem Flow.Pending.ofJson?_toJson (pending : Flow.Pending) :
    Flow.Pending.ofJson? pending.toJson = some pending := rfl

/-- The session waits for the callback of a login, or for none. -/
def Session.Awaits (pending : Option Flow.Pending) (session : Session) : Prop :=
  session.get? Flow.Pending.key = pending.map (·.toJson)

/-- The record of a session is the login that it waits for. -/
theorem Session.Awaits.peek {pending : Option Flow.Pending} {session : Session}
    (awaits : session.Awaits pending) : Flow.Pending.peek session = pending := by
  unfold Flow.Pending.peek
  rw [awaits]
  cases pending <;> simp

/-- A session waits for the login whose record is put into it. -/
theorem Session.awaits_store (pending : Flow.Pending) (session : Session) :
    (pending.store session).Awaits (some pending) :=
  (Session.get?_set session _ _ _).trans (if_pos rfl)

namespace Server

/-! ## What changes the login that a session waits for -/

/-- The login that a session waits for after a deed, where the deed changes it. -/
def Deed.awaited? : Deed -> Option (Option Flow.Pending)
  | .started pending => some (some pending)
  | .calledBack _ _ => some none
  | .loggedOut | .written _ _ => none

abbrev Incident.awaited? : Incident -> Option (Option Flow.Pending) :=
  Incident.sets none Deed.awaited?

/-- Whatever its end, a callback leaves nothing to wait for. -/
theorem Outcome.awaits_settle {keys : Session.Keys} (apart : keys.Apart) (session : Session)
    (outcome : Outcome) : (outcome.settle keys session).Awaits none := by
  have taken : (Flow.Pending.take session).2.get? Flow.Pending.key = none := by
    show (session.set Flow.Pending.key none).get? Flow.Pending.key = none
    rw [Session.get?_set, if_pos rfl]
  have other := apart.pending_not_mem
  cases outcome with
  | refused => exact taken
  | broken document => exact taken
  | failed error => exact (Session.get?_clearIdentity_of_not_mem other).trans taken
  | accepted pending grant => exact (Session.get?_storeIdentity_of_not_mem other).trans taken

/-- A deed changes the login that a session waits for as it says, and otherwise keeps it. -/
theorem Deed.awaits_perform {keys : Session.Keys} (apart : keys.Apart) {deed : Deed}
    (spares : deed.Spares [Flow.Pending.key]) {pending : Option Flow.Pending}
    {session : Session} (awaits : session.Awaits pending) :
    (deed.perform keys session).Awaits (deed.awaited?.getD pending) := by
  cases deed with
  | started begun => exact Session.awaits_store begun session
  | calledBack state outcome => exact outcome.awaits_settle apart session
  | loggedOut => exact (Session.get?_clearIdentity_of_not_mem apart.pending_not_mem).trans awaits
  | written key value =>
    have different : key ≠ Flow.Pending.key := by
      rintro rfl
      exact spares _ rfl List.mem_cons_self
    show (session.set key value).get? Flow.Pending.key = _
    rw [Session.get?_set, if_neg different]
    exact awaits

/-- Logins started and callbacks tell which login a session waits for. -/
theorem tracks_awaits {keys : Session.Keys} (apart : keys.Apart) :
    Tracks keys [Flow.Pending.key] none Deed.awaited? Session.Awaits where
  created _ empty := Session.get?_of_values_nil empty Flow.Pending.key
  performed deed spares _ _ awaits := deed.awaits_perform apart spares awaits

/-! ## Exchanges and issued states -/

def Visit.state (visit : Visit) : Text := (Flow.Callback.ofQuery visit.request.target.query).state

def Event.isCodeExchange : Event -> Bool
  | .codeExchange _ => true
  | _ => false

private theorem any_isCodeExchange {events : List Event} :
    events.any Event.isCodeExchange = true ↔ ∃ code, .codeExchange code ∈ events := by
  rw [List.any_eq_true]
  constructor
  · rintro ⟨event, member, isExchange⟩
    cases event with
    | codeExchange code => exact ⟨code, member⟩
    | _ => cases isExchange
  · rintro ⟨code, member⟩
    exact ⟨_, member, rfl⟩

/-- Whether a step exchanges a code, on the session with an id and for a state. -/
def exchanges (server : Server) (id : SessionId) (state : Text) : Step -> Bool
  | .visit visit =>
    (visit.answer server).events.any Event.isCodeExchange &&
      (server.findSession visit.moment.now (.ofRequest visit.request)).1.any (·.id = id) &&
      visit.state = state
  | _ => false

def exchangeCount (server : Server) (id : SessionId) (state : Text) : List Step -> Nat
  | [] => 0
  | step :: rest =>
    (server.exchanges id state step).toNat + (server.step step).exchangeCount id state rest

def Incident.issues (state : Text) : Incident -> Bool
  | .done (.started pending) => pending.state = state
  | _ => false

/-- How many logins with a state a run starts on the session with an id. -/
def issueCount (server : Server) (id : SessionId) (state : Text) (steps : List Step) : Nat :=
  ((server.history steps).of id).countP (Incident.issues state)

theorem Incident.eq_started_of_awaited? {incident : Incident} {pending : Flow.Pending}
    (set : incident.awaited? = some (some pending)) :
    incident = .done (.started pending) := by
  cases incident with
  | created createdAt expiresAt => cases set
  | dropped => cases set
  | done deed =>
    cases deed with
    | started begun =>
      cases set
      rfl
    | calledBack state outcome => cases set
    | loggedOut => cases set
    | written key value => cases set

/-- A visit that exchanges a code is a callback on a session that waits for the state, and nothing
else happens in it. -/
theorem Visit.of_codeExchange {server : Server} {visit : Visit} {code : Text}
    (exchanged : .codeExchange code ∈ (visit.answer server).events) :
    ∃ session pending outcome, server.Brings visit.moment.now (.ofRequest visit.request) session ∧
      Flow.Pending.peek session = some pending ∧ pending.state = visit.state ∧ visit.state ≠ [] ∧
      server.stepHistory (.visit visit) =
        [(session.id, .done (.calledBack visit.state outcome))] := by
  obtain ⟨login, session, configured, reached, answered, brings, past, -⟩ :=
    codeExchange_mem_answer_iff.1 exchanged
  obtain ⟨pending, stored, nonempty, same⟩ := Login.accepts_of_outcome_ne_refused past
  refine ⟨session, pending,
    login.outcome session visit.moment.now (.ofQuery visit.request.target.query), brings, stored,
    same, nonempty, ?_⟩
  obtain ⟨lookedUp, quiet⟩ := findSession_of_brings brings
  simp only [stepHistory, requestHistory, reached, configured, Endpoint.isPage, answered,
    flowHistory, lookedUp, quiet]
  rfl

/-- A step that exchanges a code for a state is a callback on the session, which waited for the
state. -/
theorem of_exchanges {server : Server} {id : SessionId} {state : Text} {step : Step}
    (exchanged : server.exchanges id state step = true) {pending : Option Flow.Pending}
    (awaits : FitsStored Session.Awaits pending (server.store.find? id)) :
    pending.any (·.state = state) = true ∧
      ∃ outcome, server.stepHistory step = [(id, .done (.calledBack state outcome))] := by
  cases step with
  | setAdmins | setForbidden | cleanup | write => cases exchanged
  | visit visit =>
    simp only [exchanges, Bool.and_eq_true, decide_eq_true_eq] at exchanged
    obtain ⟨⟨asked, brought⟩, rfl⟩ := exchanged
    obtain ⟨code, member⟩ := any_isCodeExchange.1 asked
    obtain ⟨session, stored, outcome, brings, waiting, same, -, only⟩ :=
      Visit.of_codeExchange member
    rw [findSession_eq_some_iff.2 brings, Option.any_some, decide_eq_true_eq] at brought
    subst brought
    rw [(awaits session brings.find?).peek] at waiting
    refine ⟨?_, outcome, only⟩
    rw [waiting, Option.any_some, same, decide_eq_true_eq]

/-! ## One step, and every run -/

/-- A session that waits for a state after incidents was issued it by one of them, or waited for it
before. -/
theorem issues_or_waits {state : Text} {pending : Option Flow.Pending}
    {incidents : List Incident}
    (after : (latest Incident.awaited? pending incidents).any (·.state = state) = true) :
    0 < incidents.countP (Incident.issues state) ∨ pending.any (·.state = state) = true := by
  rcases latest_cases Incident.awaited? pending incidents with
    ⟨earlier, incident, later, split, set, -⟩ | ⟨kept, -⟩
  · cases last : latest Incident.awaited? pending incidents with
    | none =>
      rw [last] at after
      cases after
    | some begun =>
      rw [last] at after set
      refine Or.inl (List.countP_pos_iff.2 ⟨incident, ?_, ?_⟩)
      · rw [split]
        exact List.mem_append_right earlier List.mem_cons_self
      · rw [Incident.eq_started_of_awaited? set]
        exact after
  · rw [kept] at after
    exact Or.inr after

/-- A step pays for an exchange with a session that waited for the state, and a session comes to
wait for a state only by being issued it. -/
theorem exchanges_add_waits_le {server : Server} {id : SessionId} {pending : Option Flow.Pending}
    (awaits : FitsStored Session.Awaits pending (server.store.find? id)) (state : Text)
    (step : Step) :
    (server.exchanges id state step).toNat +
        ((latest Incident.awaited? pending ((server.stepHistory step).of id)).any
          (·.state = state)).toNat ≤
      ((server.stepHistory step).of id).countP (Incident.issues state) +
        (pending.any (·.state = state)).toNat := by
  cases exchanged : server.exchanges id state step with
  | true =>
    obtain ⟨waited, outcome, only⟩ := of_exchanges exchanged awaits
    have spent : latest Incident.awaited? pending ((server.stepHistory step).of id) = none := by
      rw [only, History.of_singleton, if_pos rfl]
      rfl
    rw [spent, waited]
    exact Nat.le_add_left _ _
  | false =>
    cases waiting : (latest Incident.awaited? pending ((server.stepHistory step).of id)).any
        (·.state = state) with
    | false => exact Nat.zero_le _
    | true =>
      rcases issues_or_waits waiting with issued | waited
      · exact Nat.le_add_right_of_le issued
      · rw [waited]
        exact Nat.le_add_left _ _

/-- A run exchanges a state at most as often as it issues it, and once more if the session waits for
it already. -/
theorem exchangeCount_le {server : Server} (apart : server.keys.Apart)
    (distinct : server.store.Distinct) {id : SessionId} {pending : Option Flow.Pending}
    (awaits : FitsStored Session.Awaits pending (server.store.find? id)) {steps : List Step}
    (spares : ∀ step ∈ steps, step.Spares [Flow.Pending.key]) (state : Text) :
    server.exchangeCount id state steps ≤
      server.issueCount id state steps + (pending.any (·.state = state)).toNat := by
  -- Along the run the session waits for the login that was set last; each step keeps the balance.
  induction steps generalizing server pending with
  | nil => exact Nat.zero_le _
  | cons step rest inductionHypothesis =>
    have paid := exchanges_add_waits_le awaits state step
    have apartNext : (server.step step).keys.Apart := by
      rw [keys_step]
      exact apart
    have awaitsNext : FitsStored Session.Awaits
        (latest Incident.awaited? pending ((server.stepHistory step).of id))
        ((server.step step).store.find? id) :=
      (tracks_awaits apart).step distinct awaits (spares step List.mem_cons_self)
    have later := inductionHypothesis apartNext (distinct_step distinct step) awaitsNext
      (fun other inRest => spares other (List.mem_cons_of_mem _ inRest))
    unfold issueCount at later ⊢
    rw [exchangeCount, history, History.of_append, List.countP_append]
    omega

/-- **A state is spent at most once, on the session that it was issued to.**

Whenever a request makes the server exchange a code, it brings a stored session, and the last thing
among logins started and callbacks on this session was the start of the login that issued the very
state of the request. So no state is exchanged on a session more often than it was issued to it. -/
theorem codeExchange_only_for_last_issued_state {server : Server} (apart : server.keys.Apart)
    (distinct : server.store.Distinct)
    (fresh : ∀ session ∈ server.store.sessions, session.get? Flow.Pending.key = none)
    {steps : List Step} (spares : ∀ step ∈ steps, step.Spares [Flow.Pending.key]) :
    (∀ (visit : Visit) (code : Text),
      .codeExchange code ∈ (visit.answer (server.run steps)).events ->
        ∃ session referrer earlier later,
          (server.run steps).Brings visit.moment.now (.ofRequest visit.request) session ∧
          visit.state ≠ [] ∧
          (server.history steps).of session.id =
            earlier ++ .done (.started { state := visit.state, referrer }) :: later ∧
          (∀ pending, .done (.started pending) ∉ later) ∧
          ∀ state outcome, .done (.calledBack state outcome) ∉ later) ∧
    ∀ (id : SessionId) (state : Text),
      server.exchangeCount id state steps ≤ server.issueCount id state steps := by
  have awaits (id : SessionId) : FitsStored Session.Awaits none (server.store.find? id) :=
    fun session found => fresh session (Store.mem_of_find? found)
  constructor
  · intro visit code exchanged
    obtain ⟨session, pending, outcome, brings, waiting, same, nonempty, -⟩ :=
      Visit.of_codeExchange exchanged
    have awaitsNow := (tracks_awaits apart).run distinct (awaits session.id) spares
    rw [(awaitsNow session brings.find?).peek] at waiting
    have wasNot : (none : Option Flow.Pending) ≠ some pending := by simp
    obtain ⟨earlier, incident, later, split, set, silent⟩ := (latest_eq_iff wasNot).1 waiting
    rw [Incident.eq_started_of_awaited? set] at split
    refine ⟨session, pending.referrer, earlier, later, brings, nonempty, same ▸ split, ?_, ?_⟩
    · intro other member
      cases silent _ member
    · intro state ended member
      cases silent _ member
  · intro id state
    exact exchangeCount_le apart distinct (awaits id) spares state

/-- A browser that is sent into the login flow by the home page comes back with the state. -/
theorem sample_exchanges_last_issued_state :
    let steps := [Step.visit (Sample.visit "/" none)]
    let back := Sample.visit "/auth/callback" (some "code=x&state=AQID")
    (∃ session referrer earlier later,
      (Sample.server.run steps).Brings back.moment.now (.ofRequest back.request) session ∧
      back.state ≠ [] ∧
      (Sample.server.history steps).of session.id =
        earlier ++ .done (.started { state := back.state, referrer }) :: later ∧
      (∀ pending, .done (.started pending) ∉ later) ∧
      ∀ state outcome, .done (.calledBack state outcome) ∉ later) ∧
    Sample.server.exchangeCount { bits := 1 } back.state steps ≤
      Sample.server.issueCount { bits := 1 } back.state steps := by
  intro steps back
  have exchanged : ∃ code, .codeExchange code ∈ (back.answer (Sample.server.run steps)).events :=
    any_isCodeExchange.1 (by decide +kernel)
  obtain ⟨code, asked⟩ := exchanged
  have spares : ∀ step ∈ steps, step.Spares [Flow.Pending.key] := by
    intro step member key written
    rw [List.mem_singleton.1 member] at written
    cases written
  have apart : Sample.server.keys.Apart := Session.Keys.apart_default
  have distinct : Sample.server.store.Distinct := Store.distinct_of_sessions_nil rfl
  have settled := codeExchange_only_for_last_issued_state apart distinct
    (fun session member => absurd member List.not_mem_nil) spares
  exact ⟨settled.1 back code asked, settled.2 _ _⟩

end Server
end LoginGate
