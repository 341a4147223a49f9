import LoginGate.Proofs.Server.Independence
import LoginGate.Proofs.Server.Run

/-!
Contract: sessions do not interfere, over every run.

Owns:
- the steps that concern a session: the requests that carry its cookie, and writing to it;
- the replies to these requests along a run, and the last state of the session;
- the law that other steps leave the session as it is, and that replies and last state are those of
  the run without them.

Does not own: what the replies are (`Server.Gate`).
-/

namespace LoginGate.Server

/-! ## Steps and runs as one session sees them -/

def Step.time? : Step -> Option Instant
  | .visit asked => some asked.moment.now
  | .cleanup now => some now
  | .setAdmins _ | .setForbidden _ | .write _ _ _ => none

def Step.clock (now : Instant) (step : Step) : Instant := step.time?.getD now

/-- A request carries the cookie of the session under an id. -/
def Visit.carries (server : Server) (id : SessionId) (visit : Visit) : Bool :=
  server.namedId? (.ofRequest visit.request) = some id

def Step.concerns (server : Server) (id : SessionId) : Step -> Bool
  | .visit asked => asked.carries server id
  | .setAdmins _ | .setForbidden _ | .cleanup _ | .write _ _ _ => false

/-- A step changes the server apart from its sessions. -/
def Step.configures : Step -> Bool
  | .setAdmins _ | .setForbidden _ => true
  | .visit _ | .cleanup _ | .write _ _ _ => false

def Step.matters (server : Server) (id : SessionId) (step : Step) : Bool :=
  step.concerns server id || step.configures

/-- A step does not draw an id for a new session, nor does the application write to the session
under it. -/
def Step.Avoids (id : SessionId) : Step -> Prop
  | .visit asked => asked.moment.sessionId ≠ id
  | .write written _ _ => written ≠ id
  | .setAdmins _ | .setForbidden _ | .cleanup _ => True

/-- What is replied to a request that carries the cookie of the session under an id. -/
def Step.reply? (server : Server) (id : SessionId) :
    Step -> Option (List Event × Except Fault Http.Response)
  | .visit asked => if asked.carries server id then some (asked.answer server).reply else none
  | .setAdmins _ | .setForbidden _ | .cleanup _ | .write _ _ _ => none

def replies (server : Server) (id : SessionId) :
    List Step -> List (List Event × Except Fault Http.Response)
  | [] => []
  | step :: rest => (step.reply? server id).toList ++ (server.step step).replies id rest

/-- The last state of the session under an id that is stored along a run. -/
def lastHeld (server : Server) (id : SessionId) (held : Session) : List Step -> Session
  | [] => held
  | step :: rest =>
    let after := server.step step
    after.lastHeld id ((after.store.find? id).getD held) rest

/-! ## One step -/

section Step

variable {server : Server} {id : SessionId} {now : Instant} {session : Session}

/-- The session that a jar brings under an id is the one that is kept there. -/
theorem eq_of_brings (keeps : server.store.Keeps id now session) {jar : Http.CookieJar}
    {brought : Session} (brings : server.Brings now jar brought) (same : brought.id = id) :
    brought = session := by
  obtain ⟨named, -, found, -⟩ := brings
  have sameId : named = id := (Store.id_of_find? found).symm.trans same
  rw [← sameId] at keeps
  have remains := keeps.remains
  rw [found] at remains
  rcases remains with here | ⟨nothing, -⟩
  · exact Option.some.inj here
  · cases nothing

theorem brings_of_keeps (keeps : server.store.Keeps id now session) {jar : Http.CookieJar}
    (named : server.namedId? jar = some id) (alive : session.isExpired now = false) :
    server.Brings now jar session :=
  ⟨id, named, keeps.remains.eq_some alive, alive⟩

/-- A request leaves a session alone that it does not name, and one that is over. -/
theorem keeps_visit_of_over {visit : Visit} (keeps : server.store.Keeps id visit.moment.now session)
    (fresh : visit.moment.sessionId ≠ id)
    (ended : visit.carries server id = true -> session.isExpired visit.moment.now = true) :
    (server.step (.visit visit)).store.Keeps id visit.moment.now session := by
  refine ⟨distinct_step keeps.distinct _, ?_⟩
  have asked : (server.asking visit.provider).store.Keeps id visit.moment.now session := keeps
  have other : ∀ brought,
      (server.asking visit.provider).Brings visit.moment.now (.ofRequest visit.request) brought ->
        brought.id ≠ id := by
    intro brought brings same
    obtain ⟨named, names, found, alive⟩ := brings
    have sameId : named = id := (Store.id_of_find? found).symm.trans same
    have carried : visit.carries server id = true := decide_eq_true (sameId ▸ names)
    rw [eq_of_brings asked ⟨named, names, found, alive⟩ same, ended carried] at alive
    cases alive
  show Session.Remains _ ((visit.answer server).store.find? id) _
  unfold Visit.answer
  rcases find?_answer_of_not_brings visit.site fresh other with same | ⟨-, dropped⟩
  · rw [same]
    exact keeps.remains
  · rw [dropped]
    exact keeps.remains.live_left (Instant.le_refl _)

/-- A step that does not look at the clock leaves a session alone, unless it writes to it. -/
theorem find?_step_of_timeless (distinct : server.store.Distinct) {step : Step}
    (avoids : step.Avoids id) (timeless : step.time? = none) :
    (server.step step).store.find? id = server.store.find? id := by
  cases step with
  | visit | cleanup => cases timeless
  | setAdmins | setForbidden => rfl
  | write written key value =>
    have different : written ≠ id := avoids
    rw [find?_step distinct]
    show replay _ _ _ (History.of [(written, _)] id) = _
    rw [History.of_singleton, if_neg different]
    rfl

/-- A step that does not concern a session leaves it as it is. -/
theorem keeps_step_of_idle (keeps : server.store.Keeps id now session) {step : Step}
    (avoids : step.Avoids id) (ordered : now ≤ step.clock now)
    (idle : step.concerns server id = false) :
    (server.step step).store.Keeps id (step.clock now) session := by
  cases step with
  | visit visit =>
    refine keeps_visit_of_over (keeps.mono ordered) avoids fun carried => ?_
    rw [show visit.carries server id = false from idle] at carried
    cases carried
  | cleanup time =>
    refine ⟨distinct_step keeps.distinct _, ?_⟩
    exact keeps.distinct.remains_cleanup (Instant.le_refl _) (keeps.remains.mono ordered)
  | setAdmins | setForbidden | write =>
    refine ⟨distinct_step keeps.distinct _, ?_⟩
    rw [find?_step_of_timeless keeps.distinct avoids rfl]
    exact keeps.remains

/-- A request that names a live session leaves it stored, for as long as before. -/
theorem find?_visit_of_keeps {visit : Visit} (keeps : server.store.Keeps id visit.moment.now session)
    (carried : visit.carries server id = true)
    (alive : session.isExpired visit.moment.now = false) :
    ∃ after, (server.step (.visit visit)).store.find? id = some after ∧
      after.expiresAt = session.expiresAt := by
  have asked : (server.asking visit.provider).store.Keeps id visit.moment.now session := keeps
  have brings := brings_of_keeps asked (of_decide_eq_true carried) alive
  have sameId : session.id = id := Store.id_of_find? (keeps.remains.eq_some alive)
  have found := find?_answer_of_brings visit.site brings
  rwa [sameId] at found

/-- What a request leaves of a session is kept on. -/
theorem keeps_visit {visit : Visit} (keeps : server.store.Keeps id visit.moment.now session)
    (fresh : visit.moment.sessionId ≠ id) :
    (server.step (.visit visit)).store.Keeps id visit.moment.now
      (((server.step (.visit visit)).store.find? id).getD session) := by
  by_cases meets : visit.carries server id = true ∧ session.isExpired visit.moment.now = false
  · obtain ⟨after, found, -⟩ := find?_visit_of_keeps keeps meets.1 meets.2
    refine ⟨distinct_step keeps.distinct _, ?_⟩
    rw [found]
    exact .refl _ _
  · have after := keeps_visit_of_over keeps fresh fun carried => by
      simpa [carried] using meets
    rw [after.remains.getD_eq]
    exact after

end Step

/-! ## Two servers -/

section Alike

variable {server : Server} {store : Store} {id : SessionId} {session : Session} {visit : Visit}
  (keeps : server.store.Keeps id visit.moment.now session)
  (alike : ({ server with store } : Server).store.Keeps id visit.moment.now session)
  (carried : visit.carries server id = true)
include keeps

/-- A request that carries the cookie of a session finds it unless it is over. -/
theorem findSession_of_keeps (named : server.namedId? (.ofRequest visit.request) = some id) :
    (server.findSession visit.moment.now (.ofRequest visit.request)).1 =
      Session.live visit.moment.now (some session) := by
  rw [findSession_eq, named]
  dsimp only
  rw [Store.get_eq_live, keeps.remains.live_eq]

include alike carried

/-- Two servers that keep a session alike reply alike to requests that carry its cookie. -/
theorem reply_alike (lifetime : store.lifetime = server.store.lifetime) :
    (visit.answer { server with store }).reply = (visit.answer server).reply := by
  have named : server.namedId? (.ofRequest visit.request) = some id := of_decide_eq_true carried
  have asked : (server.asking visit.provider).store.Keeps id visit.moment.now session := keeps
  have askedAlike : ({ server.asking visit.provider with store } : Server).store.Keeps id
    visit.moment.now session := alike
  have found : (({ server.asking visit.provider with store } : Server).findSession
      visit.moment.now (.ofRequest visit.request)).1 =
      ((server.asking visit.provider).findSession visit.moment.now (.ofRequest visit.request)).1 :=
    (findSession_of_keeps askedAlike named).trans (findSession_of_keeps asked named).symm
  have askedLifetime : store.lifetime = (server.asking visit.provider).store.lifetime := lifetime
  exact reply_answer visit.moment askedLifetime found visit.site

/-- They make the same of the session. -/
theorem getD_find?_alike (fresh : visit.moment.sessionId ≠ id) :
    (({ server with store }.step (.visit visit)).store.find? id).getD session =
      ((server.step (.visit visit)).store.find? id).getD session := by
  have named : server.namedId? (.ofRequest visit.request) = some id := of_decide_eq_true carried
  have asked : (server.asking visit.provider).store.Keeps id visit.moment.now session := keeps
  have askedAlike : ({ server.asking visit.provider with store } : Server).store.Keeps id
    visit.moment.now session := alike
  cases expired : session.isExpired visit.moment.now with
  | true =>
    rw [(keeps_visit_of_over keeps fresh fun _ => expired).remains.getD_eq,
      (keeps_visit_of_over alike fresh fun _ => expired).remains.getD_eq]
  | false =>
    have brings := brings_of_keeps asked named expired
    have bringsAlike := brings_of_keeps askedAlike named expired
    have found := keeps.remains.eq_some expired
    have foundAlike := alike.remains.eq_some expired
    have history : ({ server with store } : Server).stepHistory (.visit visit) =
        server.stepHistory (.visit visit) :=
      requestHistory_of_brings visit.site brings bringsAlike
    rw [find?_step keeps.distinct, find?_step alike.distinct, found, foundAlike, history]
    rfl

end Alike

/-- So they do at every step that counts for it. -/
theorem step_alike {server : Server} {store : Store} {id : SessionId} {now : Instant}
    {session : Session} {step : Step} (keeps : server.store.Keeps id now session)
    (alike : store.Keeps id now session) (lifetime : store.lifetime = server.store.lifetime)
    (avoids : step.Avoids id) (ordered : now ≤ step.clock now)
    (matters : step.matters server id = true) :
    step.reply? { server with store } id = step.reply? server id ∧
      (({ server with store }.step step).store.find? id).getD session =
        ((server.step step).store.find? id).getD session := by
  cases step with
  | visit visit =>
    have carried : visit.carries server id = true := by
      simpa [Step.matters, Step.concerns, Step.configures] using matters
    have before := keeps.mono ordered
    have beforeAlike := alike.mono ordered
    refine ⟨?_, getD_find?_alike before beforeAlike carried avoids⟩
    have carriedAlike : visit.carries { server with store } id = true := carried
    unfold Step.reply?
    dsimp only
    rw [if_pos carried, if_pos carriedAlike, reply_alike before beforeAlike carried lifetime]
  | setAdmins entries => exact ⟨rfl, alike.remains.getD_eq.trans keeps.remains.getD_eq.symm⟩
  | setForbidden handler => exact ⟨rfl, alike.remains.getD_eq.trans keeps.remains.getD_eq.symm⟩
  | cleanup time => cases matters
  | write written key value => cases matters

/-! ## Runs -/

section Run

variable {server : Server} {id : SessionId} {now : Instant} {session : Session}

theorem lifetime_step (server : Server) (step : Step) :
    (server.step step).store.lifetime = server.store.lifetime := by
  cases step with
  | visit visit => exact lifetime_answer _ visit.site visit.moment visit.request
  | setAdmins | setForbidden | cleanup => rfl
  | write id key value =>
    show (server.write id key value).store.lifetime = _
    unfold write
    split <;> rfl

/-- What a step makes of a server apart from its sessions does not depend on these. -/
theorem step_with_store (server : Server) (store : Store) (step : Step) :
    ({ server with store } : Server).step step =
      { server.step step with store := (({ server with store } : Server).step step).store } := by
  cases step with
  | visit | setAdmins | setForbidden | cleanup => rfl
  | write id key value =>
    show ({ server with store } : Server).write id key value = { server.write id key value with
      store := (({ server with store } : Server).write id key value).store }
    unfold write
    cases server.store.find? id <;> cases store.find? id <;> rfl

private theorem step_of_not_configures {step : Step} (keeps : step.configures = false) :
    server.step step = { server with store := (server.step step).store } := by
  cases step with
  | visit | cleanup => rfl
  | setAdmins | setForbidden => cases keeps
  | write id key value =>
    simp only [step, write]
    cases server.store.find? id <;> rfl

private theorem concerns_run (server : Server) (steps : List Step) (id : SessionId) :
    Step.concerns (server.run steps) id = Step.concerns server id := by
  funext other
  have named (jar : Http.CookieJar) : (server.run steps).namedId? jar = server.namedId? jar := by
    unfold namedId?
    rw [settings_run]
  cases other with
  | visit visit =>
    unfold Step.concerns Visit.carries
    dsimp only
    rw [named]
  | setAdmins | setForbidden | cleanup | write => rfl

private theorem matters_step (server : Server) (step : Step) (id : SessionId) :
    Step.matters (server.step step) id = Step.matters server id := by
  funext other
  have same := congrFun (concerns_run server [step] id) other
  unfold Step.matters
  rw [← same]
  rfl

/-- What a step leaves of a session is kept on. -/
theorem keeps_step (keeps : server.store.Keeps id now session) {step : Step}
    (avoids : step.Avoids id) (ordered : now ≤ step.clock now) :
    (server.step step).store.Keeps id (step.clock now)
      (((server.step step).store.find? id).getD session) := by
  cases concerned : step.concerns server id with
  | false =>
    have after := keeps_step_of_idle keeps avoids ordered concerned
    rwa [after.remains.getD_eq]
  | true =>
    cases step with
    | visit visit => exact keeps_visit (keeps.mono ordered) avoids
    | setAdmins | setForbidden | cleanup | write => cases concerned

/-- The clock does not go back from a time on. -/
def Ordered (now : Instant) (steps : List Step) : Prop :=
  (now :: steps.filterMap Step.time?).Pairwise (· ≤ ·)

theorem Ordered.cons {step : Step} {rest : List Step} (ordered : Ordered now (step :: rest)) :
    now ≤ step.clock now ∧ Ordered (step.clock now) rest := by
  unfold Ordered Step.clock at *
  cases asked : step.time? with
  | none =>
    rw [List.filterMap_cons_none asked] at ordered
    exact ⟨Instant.le_refl now, ordered⟩
  | some time =>
    rw [List.filterMap_cons_some asked, List.pairwise_cons] at ordered
    exact ⟨ordered.1 time List.mem_cons_self, ordered.2⟩

private theorem distinct_run (distinct : server.store.Distinct) (steps : List Step) :
    (server.run steps).store.Distinct :=
  run_preserves (·.store.Distinct) (fun _ step distinct => distinct_step distinct step) distinct
    steps

private theorem times_cons_subset (now : Instant) (step : Step) (rest : List Step) :
    step.clock now :: rest.filterMap Step.time? ⊆
      now :: (step :: rest).filterMap Step.time? := by
  unfold Step.clock
  cases asked : step.time? with
  | none =>
    rw [List.filterMap_cons_none asked]
    exact fun _ member => member
  | some time =>
    rw [List.filterMap_cons_some asked]
    exact List.subset_cons_self _ _

private theorem reply?_of_not_concerns {step : Step} (idle : step.concerns server id = false) :
    step.reply? server id = none := by
  cases step with
  | visit visit =>
    have uncarried : visit.carries server id = false := idle
    unfold Step.reply?
    dsimp only
    rw [uncarried]
    rfl
  | setAdmins | setForbidden | cleanup | write => rfl

/-- No step alters the end of a session's life. -/
theorem expiresAt_step (keeps : server.store.Keeps id now session) {step : Step}
    (avoids : step.Avoids id) (ordered : now ≤ step.clock now) :
    (((server.step step).store.find? id).getD session).expiresAt = session.expiresAt := by
  cases concerned : step.concerns server id with
  | false => rw [(keeps_step_of_idle keeps avoids ordered concerned).remains.getD_eq]
  | true =>
    cases step with
    | setAdmins | setForbidden | cleanup | write => cases concerned
    | visit visit =>
      have before := keeps.mono ordered
      cases expired : session.isExpired visit.moment.now with
      | true => rw [(keeps_visit_of_over before avoids fun _ => expired).remains.getD_eq]
      | false =>
        obtain ⟨after, found, same⟩ := find?_visit_of_keeps before concerned expired
        rw [found]
        exact same

theorem expiresAt_lastHeld (keeps : server.store.Keeps id now session) {steps : List Step}
    (avoids : ∀ step ∈ steps, step.Avoids id) (ordered : Ordered now steps) :
    (server.lastHeld id session steps).expiresAt = session.expiresAt := by
  induction steps generalizing server now session with
  | nil => rfl
  | cons step rest inductionHypothesis =>
    have first := avoids step List.mem_cons_self
    obtain ⟨forward, orderedRest⟩ := ordered.cons
    rw [← expiresAt_step keeps first forward]
    exact inductionHypothesis (keeps_step keeps first forward)
      (fun other member => avoids other (List.mem_cons_of_mem _ member)) orderedRest

/-- What a run leaves of a session is its last state. -/
theorem keeps_run (keeps : server.store.Keeps id now session) {steps : List Step}
    (avoids : ∀ step ∈ steps, step.Avoids id) (ordered : Ordered now steps) {later : Instant}
    (behind : ∀ time ∈ now :: steps.filterMap Step.time?, time ≤ later) :
    (server.run steps).store.Keeps id later (server.lastHeld id session steps) := by
  induction steps generalizing server now session with
  | nil => exact keeps.mono (behind now List.mem_cons_self)
  | cons step rest inductionHypothesis =>
    obtain ⟨forward, orderedRest⟩ := ordered.cons
    have after := keeps_step keeps (avoids step List.mem_cons_self) forward
    refine inductionHypothesis after
      (fun other member => avoids other (List.mem_cons_of_mem _ member)) orderedRest ?_
    exact fun time member => behind time (times_cons_subset now step rest member)

/-- A step that does not concern a session leaves it as it is, unless it is over; no step removes a
session that is not over. -/
theorem step_confined (distinct : server.store.Distinct) {step : Step} (avoids : step.Avoids id)
    (found : server.store.find? id = some session) :
    (step.concerns server id = false ->
      (server.step step).store.find? id = some session ∨
        (server.step step).store.find? id = none ∧
          ∃ time, step.time? = some time ∧ session.isExpired time = true) ∧
    ((server.step step).store.find? id = none ->
      ∃ time, step.time? = some time ∧ session.isExpired time = true) := by
  cases looks : step.time? with
  | none =>
    have same := (find?_step_of_timeless distinct avoids looks).trans found
    refine ⟨fun _ => .inl same, fun missing => ?_⟩
    rw [same] at missing
    cases missing
  | some time =>
    have clock : step.clock time = time := by
      unfold Step.clock
      rw [looks]
      rfl
    have keeps := distinct.keeps found time
    have left (idle : step.concerns server id = false) :
        Session.Remains time ((server.step step).store.find? id) (some session) := by
      have forward : time ≤ step.clock time := by
        rw [clock]
        exact Instant.le_refl time
      have after := keeps_step_of_idle keeps avoids forward idle
      rw [clock] at after
      exact after.remains
    refine ⟨fun idle => ?_, fun missing => ⟨time, rfl, ?_⟩⟩
    · rcases left idle with same | ⟨missing, ended⟩
      · exact .inl same
      · exact .inr ⟨missing, time, rfl, ended session rfl⟩
    · cases concerned : step.concerns server id with
      | false =>
        rcases left concerned with same | ⟨-, ended⟩
        · rw [missing] at same
          cases same
        · exact ended session rfl
      | true =>
        cases step with
        | visit visit =>
          cases looks
          rw [← Bool.not_eq_false]
          intro alive
          obtain ⟨after, still, -⟩ := find?_visit_of_keeps keeps concerned alive
          rw [missing] at still
          cases still
        | setAdmins | setForbidden | cleanup | write => cases concerned

/-- Without the steps that do not count for a session, the replies to it and its last state are the
same. -/
theorem run_alike {store : Store} {steps : List Step} (keeps : server.store.Keeps id now session)
    (alike : store.Keeps id now session) (lifetime : store.lifetime = server.store.lifetime)
    (avoids : ∀ step ∈ steps, step.Avoids id) (ordered : Ordered now steps) :
    ({ server with store } : Server).replies id (steps.filter (Step.matters server id)) =
        server.replies id steps ∧
      ({ server with store } : Server).lastHeld id session
        (steps.filter (Step.matters server id)) = server.lastHeld id session steps := by
  induction steps generalizing server store now session with
  | nil => exact ⟨rfl, rfl⟩
  | cons step rest inductionHypothesis =>
    have first := avoids step List.mem_cons_self
    have others : ∀ other ∈ rest, other.Avoids id :=
      fun other member => avoids other (List.mem_cons_of_mem _ member)
    obtain ⟨forward, orderedRest⟩ := ordered.cons
    have after := keeps_step keeps first forward
    cases matters : step.matters server id with
    | true =>
      obtain ⟨reply, state⟩ := step_alike keeps alike lifetime first forward matters
      have looking : ({ server with store } : Server).store.Keeps id now session := alike
      have afterAlike := keeps_step looking first forward
      rw [state] at afterAlike
      have lifetimeAfter := (lifetime_step { server with store } step).trans
        (lifetime.trans (lifetime_step server step).symm)
      have same := inductionHypothesis after afterAlike lifetimeAfter others orderedRest
      rw [List.filter_cons_of_pos matters]
      simp only [replies, lastHeld, reply, state]
      rw [step_with_store, ← matters_step server step id, same.1, same.2]
      exact ⟨rfl, rfl⟩
    | false =>
      have idle := Bool.or_eq_false_iff.1 matters
      have silent := reply?_of_not_concerns idle.1
      have unchanged : ({ server.step step with store } : Server) = { server with store } := by
        rw [step_of_not_configures idle.2]
      have kept := keeps_step_of_idle keeps first forward idle.1
      have lifetimeAfter := lifetime.trans (lifetime_step server step).symm
      have same := inductionHypothesis kept (alike.mono forward) lifetimeAfter others orderedRest
      rw [matters_step, unchanged] at same
      rw [List.filter_cons_of_neg (by simp [matters])]
      simp only [replies, lastHeld, silent, kept.remains.getD_eq, Option.toList_none,
        List.nil_append]
      exact same

end Run

/-- **Sessions do not interfere.**

A server holds a session at the start of a run in which the clock does not go back, no new session
draws its id and the application does not write to it. Then a request that does not carry its cookie
leaves the session as it is, and so does a clean-up, unless it is over; nothing removes it while it
is not. Without all these steps, every request that carries the cookie gets the same reply, the
session ends in the same state, and later look-ups find the same. -/
theorem sessions_do_not_interfere {server : Server} {session : Session}
    (distinct : server.store.Distinct) (stored : server.store.find? session.id = some session)
    {start : Instant} {steps : List Step} (ordered : Ordered start steps)
    (avoids : ∀ step ∈ steps, step.Avoids session.id) :
    let id := session.id
    let own := steps.filter (Step.matters server id)
    (∀ before step after held, steps = before ++ step :: after ->
      (server.run before).store.find? id = some held ->
      (step.concerns server id = false ->
        (server.run (before ++ [step])).store.find? id = some held ∨
          (server.run (before ++ [step])).store.find? id = none ∧
            ∃ time, step.time? = some time ∧ held.isExpired time = true) ∧
      ((server.run (before ++ [step])).store.find? id = none ->
        ∃ time, step.time? = some time ∧ held.isExpired time = true)) ∧
    server.replies id own = server.replies id steps ∧
    server.lastHeld id session own = server.lastHeld id session steps ∧
    ∀ now, (∀ time ∈ start :: steps.filterMap Step.time?, time ≤ now) ->
      ((server.run own).store.get now id).1 =
          Session.live now (some (server.lastHeld id session steps)) ∧
        ((server.run steps).store.get now id).1 =
          Session.live now (some (server.lastHeld id session steps)) := by
  intro id own
  have keeps := distinct.keeps stored start
  obtain ⟨replies, state⟩ := run_alike keeps keeps rfl avoids ordered
  refine ⟨?_, replies, state, ?_⟩
  · intro before step after held split found
    have member : step ∈ steps := by
      rw [split]
      exact List.mem_append_right _ List.mem_cons_self
    have confined := step_confined (distinct_run distinct before) (avoids step member) found
    rw [concerns_run] at confined
    have run : server.run (before ++ [step]) = (server.run before).step step :=
      List.foldl_append
    rw [run]
    exact confined
  · intro now behind
    have part : own.Sublist steps := List.filter_sublist
    have times : (own.filterMap Step.time?).Sublist (steps.filterMap Step.time?) :=
      part.filterMap _
    have ownKeeps := keeps_run keeps (fun step member => avoids step (part.subset member))
      (List.Pairwise.sublist (times.cons_cons start) ordered)
      fun time member => behind time ((times.cons_cons start).subset member)
    have allKeeps := keeps_run keeps avoids ordered behind
    rw [state] at ownKeeps
    rw [Store.get_eq_live, Store.get_eq_live, ownKeeps.remains.live_eq, allKeeps.remains.live_eq]
    exact ⟨rfl, rfl⟩

/-- A visitor without a cookie and a clean-up are no matter to a session that logs out in between. -/
theorem sample_sessions_do_not_interfere :
    let session : Session := { id := ⟨1⟩, createdAt := ⟨0, 0⟩, expiresAt := ⟨100, 0⟩ }
    let server : Server :=
      { Sample.server with store := { lifetime := Store.defaultLifetime, sessions := [session] } }
    let moment : Moment := { now := ⟨5, 0⟩, sessionId := ⟨2⟩, stateBytes := [1] }
    let visit : Visit := { Sample.visit "/auth/logout" none with moment }
    let stranger : Visit := { visit with request := { visit.request with headers := [] } }
    let steps : List Step := [.visit stranger, .visit visit, .cleanup ⟨200, 0⟩]
    server.store.Distinct ∧ server.store.find? session.id = some session ∧
    Ordered ⟨0, 0⟩ steps ∧ (∀ step ∈ steps, step.Avoids session.id) ∧
    server.replies session.id [.visit visit] = server.replies session.id steps ∧
    server.lastHeld session.id session [.visit visit] =
      server.lastHeld session.id session steps := by
  intro session server moment visit stranger steps
  have distinct : server.store.Distinct := List.pairwise_singleton _ _
  have stored : server.store.find? session.id = some session := rfl
  have ordered : Ordered ⟨0, 0⟩ steps := by
    show ([⟨0, 0⟩, ⟨5, 0⟩, ⟨5, 0⟩, ⟨200, 0⟩] : List Instant).Pairwise (· ≤ ·)
    decide
  have avoids : ∀ step ∈ steps, step.Avoids session.id := by
    simp only [steps, List.mem_cons, List.not_mem_nil, or_false]
    rintro step (rfl | rfl | rfl)
    · exact fun same => absurd (congrArg SessionId.bits same) (by decide)
    · exact fun same => absurd (congrArg SessionId.bits same) (by decide)
    · trivial
  obtain ⟨-, replies, state, -⟩ := sessions_do_not_interfere distinct stored ordered avoids
  have own : steps.filter (Step.matters server session.id) = [.visit visit] := by
    have own : Step.matters server session.id (.visit visit) = true := by decide +kernel
    have other : Step.matters server session.id (.visit stranger) = false := by decide +kernel
    rw [List.filter_cons_of_neg (by simp [other]), List.filter_cons_of_pos own]
    rfl
  rw [own] at replies state
  exact ⟨distinct, stored, ordered, avoids, replies, state⟩

end LoginGate.Server
