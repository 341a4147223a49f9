import LoginGate.Proofs.Server.Isolation
import LoginGate.Proofs.Time.Calendar
import LoginGate.Server.Setup

/-!
Contract: which configured life times of sessions a server can work with.

Owns:
- the three bounds that a number of minutes meets: the longest span, the calendar and the seconds of
  a cookie;
- the end and the cookie of every session that a server opens;
- the law that says when a server is not set up, and when a visitor is not admitted, for such a bound.

Does not own: life times of tokens (`Server.TokenEnd`).

Only the longest span is met while a server is set up, and only if the sessions are its own. The
calendar is met when a session is opened, by every visitor, and it ends long before the longest span
does.
-/

namespace LoginGate

/-! ## Spans of minutes -/

def Span.maxMinutes : Nat := 153722867280912

theorem Span.ofMinutes?_eq_some_iff {minutes : Int} {span : Span} :
    ofMinutes? minutes = some span ↔
      minutes.natAbs ≤ maxMinutes ∧ span = ofSeconds (minutes * 60) := by
  have bound : maxMillis.natAbs / 1000 = 9223372036854775 := by decide
  have greatest : minutes.natAbs * 60 ≤ 9223372036854775 ↔ minutes.natAbs ≤ maxMinutes := by
    unfold maxMinutes
    omega
  unfold ofMinutes?
  rw [bound, Option.ite_none_right_eq_some, greatest, Option.some.injEq]
  exact and_congr_right' eq_comm

theorem Span.ofMinutes?_eq_none_iff {minutes : Int} :
    ofMinutes? minutes = none ↔ maxMinutes < minutes.natAbs := by
  rw [Option.eq_none_iff_forall_ne_some, ← Nat.not_le, ← not_exists]
  simp only [ofMinutes?_eq_some_iff, exists_and_left, exists_eq, and_true]

/-! ## Sessions and their cookies -/

def IsMaxAge (seconds : Int) : Prop := Word.minSigned64 ≤ seconds ∧ seconds ≤ Word.maxSigned64

/-- The minutes of a span have so few seconds that a cookie can be kept for them. -/
theorem isMaxAge_of_le_maxMinutes {minutes : Int} (short : minutes.natAbs ≤ Span.maxMinutes) :
    IsMaxAge (minutes * 60) := by
  unfold Span.maxMinutes at short
  unfold IsMaxAge Word.minSigned64 Word.maxSigned64
  omega

/-- The calendar has the end of a life time that begins at an instant. -/
def Instant.HasEndOf (now : Instant) (lifetime : Span) : Prop :=
  ∃ expiresAt, now.IsSum lifetime.nanos expiresAt

theorem Instant.hasEndOf_iff {now : Instant} {lifetime : Span} :
    now.HasEndOf lifetime ↔
      firstSecond * 1000000000 ≤ now.total + lifetime.nanos ∧
        now.total + lifetime.nanos < (lastSecond + 1) * 1000000000 :=
  exists_isSum_iff

/-- A new session ends exactly its life time later. -/
theorem Session.create?_eq_some_iff {id : SessionId} {now : Instant} {lifetime : Span}
    {session : Session} :
    Session.create? id now lifetime = some session ↔
      ∃ expiresAt, now.IsSum lifetime.nanos expiresAt ∧
        session = { id, createdAt := now, expiresAt } := by
  unfold Session.create?
  rw [Option.map_eq_some_iff]
  apply exists_congr
  intro expiresAt
  rw [Instant.add?_eq_some_iff]
  exact and_congr_right' eq_comm

theorem Session.create?_eq_none_iff {id : SessionId} {now : Instant} {lifetime : Span} :
    Session.create? id now lifetime = none ↔ ¬ now.HasEndOf lifetime := by
  rw [Option.eq_none_iff_forall_ne_some, ← not_exists]
  apply not_congr
  constructor
  · intro made
    obtain ⟨session, created⟩ := made
    obtain ⟨expiresAt, isSum, -⟩ := create?_eq_some_iff.1 created
    exact ⟨expiresAt, isSum⟩
  · intro ended
    obtain ⟨expiresAt, isSum⟩ := ended
    exact ⟨_, create?_eq_some_iff.2 ⟨expiresAt, isSum, rfl⟩⟩

theorem Store.create?_eq_none_iff {store : Store} {now : Instant} {id : SessionId} :
    store.create? now id = none ↔ ¬ now.HasEndOf store.lifetime := by
  rw [← @Session.create?_eq_none_iff id]
  exact Option.map_eq_none_iff

namespace Server

theorem cookieFor?_eq_some_iff {server : Server} {session : Session} {cookie : Http.Cookie} :
    server.cookieFor? session = some cookie ↔
      IsMaxAge (server.settings.durationMinutes * 60) ∧
        cookie = {
          name := server.settings.cookieName, value := session.id.text
          secure := server.settings.secureCookies
          maxAge := server.settings.durationMinutes * 60 } := by
  unfold cookieFor? IsMaxAge
  dsimp only
  rw [Option.ite_none_right_eq_some, Bool.and_eq_true, decide_eq_true_eq, decide_eq_true_eq,
    Option.some.injEq]
  exact and_congr_right' eq_comm

theorem cookieFor?_eq_none_iff {server : Server} {session : Session} :
    server.cookieFor? session = none ↔ ¬ IsMaxAge (server.settings.durationMinutes * 60) := by
  rw [Option.eq_none_iff_forall_ne_some, ← not_exists]
  simp only [cookieFor?_eq_some_iff, exists_and_left, exists_eq, and_true]

/-! ## Admission -/

/-- An admission with a new session, which ends exactly its life time later, and with a cookie that
is kept exactly for the configured time. -/
structure Opens (server : Server) (moment : Moment) (admission : Admission) : Prop where
  id : admission.session.id = moment.sessionId
  createdAt : admission.session.createdAt = moment.now
  expiresAt : moment.now.IsSum server.store.lifetime.nanos admission.session.expiresAt
  cookie : ∃ cookie, admission.cookie = some cookie ∧
    cookie.maxAge = server.settings.durationMinutes * 60 ∧ IsMaxAge cookie.maxAge

inductive Unopened (server : Server) (now : Instant) : Fault -> Prop where
  | calendar (outside : ¬ now.HasEndOf server.store.lifetime) : Unopened server now .beyondCalendar
  | cookie (inside : now.HasEndOf server.store.lifetime)
      (unfit : ¬ IsMaxAge (server.settings.durationMinutes * 60)) : Unopened server now .cookieTooOld

section Admission

variable {server : Server} {moment : Moment} {jar : Http.CookieJar}

theorem ensureSession_eq_error_iff {fault : Fault} :
    (server.ensureSession moment jar).2 = .error fault ↔
      (∀ session, ¬ server.Brings moment.now jar session) ∧ Unopened server moment.now fault := by
  rw [← findSession_eq_none_iff]
  cases found : (server.findSession moment.now jar).1 with
  | some session =>
    rw [ensureSession_of_brings moment jar (findSession_eq_some_iff.1 found)]
    simp
  | none =>
    rw [ensureSession_snd_of_none moment found]
    cases created : Session.create? moment.sessionId moment.now server.store.lifetime with
    | none =>
      have outside := Session.create?_eq_none_iff.1 created
      constructor
      · intro failed
        cases failed
        exact ⟨rfl, .calendar outside⟩
      · intro unopened
        cases unopened.2 with
        | calendar => rfl
        | cookie inside => exact absurd inside outside
    | some session =>
      obtain ⟨expiresAt, isSum, -⟩ := Session.create?_eq_some_iff.1 created
      have inside : moment.now.HasEndOf server.store.lifetime := ⟨expiresAt, isSum⟩
      cases made : server.cookieFor? session with
      | none =>
        have unfit := cookieFor?_eq_none_iff.1 made
        simp only [made]
        constructor
        · intro failed
          cases failed
          exact ⟨trivial, .cookie inside unfit⟩
        · intro unopened
          cases unopened.2 with
          | calendar outside => exact absurd inside outside
          | cookie => rfl
      | some cookie =>
        have fits := (cookieFor?_eq_some_iff.1 made).1
        simp only [made, reduceCtorEq, true_and, false_iff]
        intro unopened
        cases unopened with
        | calendar outside => exact outside inside
        | cookie _ unfit => exact unfit fits

private theorem opens_of_ensureSession {admission : Admission}
    (admitted : (server.ensureSession moment jar).2 = .ok admission) :
    admission.cookie = none ∧ server.Brings moment.now jar admission.session ∨
      Opens server moment admission := by
  cases found : (server.findSession moment.now jar).1 with
  | some session =>
    have brings := findSession_eq_some_iff.1 found
    rw [ensureSession_of_brings moment jar brings] at admitted
    cases admitted
    exact .inl ⟨rfl, brings⟩
  | none =>
    rw [ensureSession_snd_of_none moment found] at admitted
    split at admitted
    · cases admitted
    rename_i session created
    split at admitted
    · cases admitted
    rename_i cookie made
    cases admitted
    obtain ⟨expiresAt, isSum, rfl⟩ := Session.create?_eq_some_iff.1 created
    obtain ⟨fits, rfl⟩ := cookieFor?_eq_some_iff.1 made
    exact .inr ⟨rfl, rfl, isSum, _, rfl, rfl, fits⟩

end Admission

/-! ## From a configuration -/

private theorem lifetime_run (server : Server) (steps : List Step) :
    (server.run steps).store.lifetime = server.store.lifetime :=
  run_unchanged (·.store.lifetime) lifetime_step server steps

section Setup

variable {config : Option Config} {connect : Config -> Except SetupError Provider}
  {settings : Session.Settings} {given : Option Store}

/-- A server is set up for a configuration that is in order, with the sessions that it is given or
with sessions of its own. -/
theorem ofConfig_eq (config : Option Config) (connect : Config -> Except SetupError Provider)
    (settings : Session.Settings) (given : Option Store) :
    ofConfig config connect settings given =
      match config.mapM (Login.ofConfig connect) with
      | .error error => .error (.refused error)
      | .ok login =>
        match given with
        | some store => .ok { login, settings, store }
        | none =>
          match Span.ofMinutes? settings.durationMinutes with
          | some lifetime => .ok { login, settings, store := { lifetime } }
          | none => .error (.broken .lifetimeTooLong) := by
  unfold ofConfig storeFor
  cases config.mapM (Login.ofConfig connect) with
  | error error => rfl
  | ok login =>
    cases given with
    | some store => rfl
    | none => cases Span.ofMinutes? settings.durationMinutes <;> rfl

theorem ofConfig_eq_broken_iff {fault : Fault} :
    ofConfig config connect settings given = .error (.broken fault) ↔
      fault = .lifetimeTooLong ∧ given = none ∧
        (∃ login, config.mapM (Login.ofConfig connect) = .ok login) ∧
        Span.maxMinutes < settings.durationMinutes.natAbs := by
  rw [ofConfig_eq, ← Span.ofMinutes?_eq_none_iff]
  cases config.mapM (Login.ofConfig connect) with
  | error error => simp
  | ok login =>
    cases given with
    | some store => simp
    | none => cases Span.ofMinutes? settings.durationMinutes <;> simp [eq_comm]

/-- A server has the settings that it is set up with, and the sessions of its own live as long as
these say. -/
theorem settings_of_ofConfig {server : Server}
    (built : ofConfig config connect settings given = .ok server) :
    server.settings = settings ∧
      (given = none -> settings.durationMinutes.natAbs ≤ Span.maxMinutes ∧
        server.store.lifetime = .ofSeconds (settings.durationMinutes * 60)) := by
  rw [ofConfig_eq] at built
  split at built
  · cases built
  split at built
  · cases built
    exact ⟨rfl, fun none => absurd none (by simp)⟩
  split at built
  · rename_i lifetime converted
    cases built
    exact ⟨rfl, fun _ => Span.ofMinutes?_eq_some_iff.1 converted⟩
  · cases built

end Setup

/-- **Which life times of sessions break off the work of a server.**

Setting a server up is broken off exactly if the configuration is in order, the server is to have
sessions of its own, and they are to live for more minutes than a span has; otherwise there is a
server or a reason why not. After any steps, a server creates no session exactly at the times when
the calendar does not have the end of the life time, and it does not admit a request exactly if that
brings no session and none can be created, or its cookie would be kept for more seconds than there
are. A session that it does open ends exactly its life time later, and its cookie is kept exactly for
the configured time. The cookie of a server with sessions of its own is never the reason. -/
theorem session_lifetime_faults (config : Option Config)
    (connect : Config -> Except SetupError Provider) (settings : Session.Settings)
    (given : Option Store) :
    (∀ fault, ofConfig config connect settings given = .error (.broken fault) ↔
      fault = .lifetimeTooLong ∧ given = none ∧
        (∃ login, config.mapM (Login.ofConfig connect) = .ok login) ∧
        Span.maxMinutes < settings.durationMinutes.natAbs) ∧
    ∀ server, ofConfig config connect settings given = .ok server -> ∀ steps,
      let later := server.run steps
      (given = none -> later.store.lifetime = .ofSeconds (settings.durationMinutes * 60) ∧
        ∀ moment jar, (later.ensureSession moment jar).2 ≠ .error .cookieTooOld) ∧
      (∀ now id, later.store.create? now id = none ↔ ¬ now.HasEndOf later.store.lifetime) ∧
      (∀ moment jar fault, (later.ensureSession moment jar).2 = .error fault ↔
        (∀ session, ¬ later.Brings moment.now jar session) ∧ Unopened later moment.now fault) ∧
      ∀ moment jar admission, (later.ensureSession moment jar).2 = .ok admission ->
        admission.cookie = none ∧ later.Brings moment.now jar admission.session ∨
          Opens later moment admission := by
  refine ⟨fun fault => ofConfig_eq_broken_iff, fun server built steps => ?_⟩
  intro later
  obtain ⟨same, own⟩ := settings_of_ofConfig built
  refine ⟨fun none => ?_, fun now id => Store.create?_eq_none_iff,
    fun moment jar fault => ensureSession_eq_error_iff,
    fun moment jar admission => opens_of_ensureSession⟩
  obtain ⟨short, lifetime⟩ := own none
  refine ⟨(lifetime_run server steps).trans lifetime, fun moment jar failed => ?_⟩
  cases (ensureSession_eq_error_iff.1 failed).2 with
  | cookie _ unfit =>
    apply unfit
    rw [settings_run, same]
    exact isMaxAge_of_le_maxMinutes short

/-! ## Life times that nobody refuses -/

namespace Sample

def livingFor (minutes : Int) : Except SetupFailure Server :=
  Server.ofConfig none (fun _ => .ok provider) { durationMinutes := minutes } none

def newcomer : Http.Request where
  target := { path := "/".toList }

end Sample

/-- With the usual settings a visitor gets a session and a cookie for twelve hours. -/
theorem sample_session_lifetime :
    let moment : Moment := { now := ⟨1, 0⟩, sessionId := ⟨1⟩, stateBytes := [1, 2, 3] }
    ∃ server admission, Sample.livingFor 720 = .ok server ∧
      (server.ensureSession moment (.ofRequest Sample.newcomer)).2 = .ok admission ∧
      admission.session.expiresAt = ⟨43201, 0⟩ ∧
      admission.cookie.map (·.maxAge) = some 43200 := by
  intro moment
  let server : Server := {
    login := none, settings := { durationMinutes := 720 }
    store := { lifetime := .ofSeconds 43200 } }
  have built : Sample.livingFor 720 = .ok server := rfl
  obtain ⟨-, -, failed, opened⟩ := (session_lifetime_faults _ _ _ _).2 server built []
  have stranger : ∀ session, ¬ server.Brings moment.now (.ofRequest Sample.newcomer) session :=
    findSession_eq_none_iff.1 rfl
  have later : moment.now.IsSum (Span.ofSeconds 43200).nanos ⟨43201, 0⟩ :=
    ⟨by decide, by decide, by decide +kernel⟩
  cases outcome : (server.ensureSession moment (.ofRequest Sample.newcomer)).2 with
  | error fault =>
    cases ((failed moment _ fault).1 outcome).2 with
    | calendar outside => exact absurd ⟨_, later⟩ outside
    | cookie _ unfit => exact absurd (isMaxAge_of_le_maxMinutes (by decide)) unfit
  | ok admission =>
    refine ⟨_, admission, built, outcome, ?_⟩
    cases opened moment _ admission outcome with
    | inl brought => exact absurd brought.2 (stranger _)
    | inr opens =>
      obtain ⟨cookie, set, age, -⟩ := opens.cookie
      have ends := (Instant.isSum_iff.1 opens.expiresAt).1.trans (Instant.isSum_iff.1 later).1.symm
      exact ⟨ends, by rw [set, Option.map_some, age]; rfl⟩

/-- A life time of many years is accepted and admits no visitor from 1970 on; a longer one breaks
the setup off. -/
theorem accepted_lifetime_admits_nobody :
    (∃ server, Sample.livingFor 200000000000 = .ok server ∧
      ∀ moment, 0 ≤ moment.now.seconds ->
        (server.ensureSession moment (.ofRequest Sample.newcomer)).2 = .error .beyondCalendar) ∧
    Sample.livingFor 200000000000000000 = .error (.broken .lifetimeTooLong) := by
  refine ⟨⟨_, rfl, fun moment later => ?_⟩, rfl⟩
  rw [ensureSession_eq_error_iff]
  refine ⟨findSession_eq_none_iff.1 rfl, .calendar ?_⟩
  rw [Instant.hasEndOf_iff]
  intro inside
  have ends : Instant.lastSecond = 8210266876799 := by decide
  have life : (Span.ofSeconds (200000000000 * 60)).nanos = 12000000000000 * 1000000000 := by decide
  have bound := inside.2
  rw [ends, Instant.total] at bound
  change _ + (Span.ofSeconds (200000000000 * 60)).nanos < _ at bound
  rw [life] at bound
  omega

end Server
end LoginGate
