import LoginGate.Proofs.Server.RoundTrip
import LoginGate.Proofs.Time.Calendar

/-!
Contract: when the token of a session ends, and which tokens break a login off.

Owns:
- tokens with an end that the calendar has, and tokens that outlive the calendar;
- the law that a token is kept with its end unless it outlives the calendar;
- the law that completing a login breaks off for such a token and for nothing else.

Does not own: what a session holds after the login (`Server.RoundTrip`).

A duration has two bounds. One that is longer than any span gives no end at all; one that is a span
is added to the current time, and the calendar ends long before the longest span does.
-/

namespace LoginGate

namespace ProviderToken

/-- The end of a token is the instant that lies its duration later, if it has one and the calendar
has this instant. -/
def Ends (token : ProviderToken) (now : Instant) (expiresAt : Option Instant) : Prop :=
  ∀ instant, expiresAt = some instant ↔
    ∃ duration, token.expiresIn = some duration ∧ now.IsSum duration instant

/-- A token is good for a span, and the calendar does not have its end. -/
def Outlives (token : ProviderToken) (now : Instant) : Prop :=
  ∃ duration : Nat, token.expiresIn = some duration ∧
    (duration : Int) ≤ Span.maxMillis * 1000000 ∧ ¬ ∃ instant, now.IsSum duration instant

end ProviderToken

/-- Behind the longest span from an instant of the calendar, there is no other. -/
theorem Instant.not_isSum_of_maxMillis_lt {now instant : Instant} (current : now.inRange = true)
    {nanos : Int} (long : Span.maxMillis * 1000000 < nanos) : ¬ now.IsSum nanos instant := by
  intro isSum
  have bounds := (exists_isSum_iff.1 ⟨instant, isSum⟩).2
  have start := (inRange_iff.1 current).1
  have short : (lastSecond + 1 - firstSecond) * 1000000000 ≤ Span.maxMillis * 1000000 := by
    decide
  unfold Instant.total at bounds
  omega

namespace Server

/-! ## The end of a token -/

/-- The end of a token with a duration, in the two cases that its conversion to a span has. -/
theorem tokenEnd?_of_duration (now : Instant) (duration : Nat) :
    tokenEnd? now (some duration) =
      if (duration : Int) ≤ Span.maxMillis * 1000000 then
        (now.add? { nanos := duration }).map some
      else some none := by
  unfold tokenEnd?
  rw [Option.bind_some, Span.ofDuration?]
  split
  · rename_i converted
    split at converted
    · cases converted
    · rename_i long
      rw [if_neg long]
  · rename_i span converted
    split at converted
    · rename_i short
      cases converted
      rw [if_pos short]
    · cases converted

theorem tokenEnd?_eq_none_iff {now : Instant} {token : ProviderToken} :
    tokenEnd? now token.expiresIn = none ↔ token.Outlives now := by
  unfold ProviderToken.Outlives
  cases token.expiresIn with
  | none => simp [tokenEnd?]
  | some duration =>
    have added : now.add? { nanos := duration } = none ↔
        ¬ ∃ instant, now.IsSum duration instant := by
      rw [Option.eq_none_iff_forall_ne_some, not_exists]
      exact forall_congr' fun instant => not_congr Instant.add?_eq_some_iff
    rw [tokenEnd?_of_duration]
    constructor
    · intro broken
      split at broken
      · rename_i short
        exact ⟨duration, rfl, short, added.1 (Option.map_eq_none_iff.1 broken)⟩
      · cases broken
    · rintro ⟨found, same, short, outside⟩
      cases same
      rw [if_pos short, added.2 outside]
      rfl

/-- A token that does not outlive the calendar has the end that it is given. -/
theorem ends_of_tokenEnd? {now : Instant} (current : now.inRange = true) {token : ProviderToken}
    {expiresAt : Option Instant} (ended : tokenEnd? now token.expiresIn = some expiresAt) :
    token.Ends now expiresAt := by
  intro instant
  cases given : token.expiresIn with
  | none =>
    rw [given] at ended
    cases ended
    simp
  | some duration =>
    rw [given, tokenEnd?_of_duration] at ended
    have only : (∃ found, some duration = some found ∧ now.IsSum found instant) ↔
        now.IsSum duration instant := by
      simp
    rw [only]
    split at ended
    · obtain ⟨sum, added, rfl⟩ := Option.map_eq_some_iff.1 ended
      rw [← @Instant.add?_eq_some_iff _ _ { nanos := duration }, added]
    · rename_i long
      cases ended
      have none := @Instant.not_isSum_of_maxMillis_lt _ instant current _ (Int.not_le.1 long)
      simp [none]

/-! ## Completing a login -/

theorem keptToken?_eq_none_iff {now : Instant} {token : ProviderToken} :
    keptToken? now token = none ↔ token.Outlives now := by
  rw [← tokenEnd?_eq_none_iff]
  exact Option.map_eq_none_iff

/-- A callback is broken off by a token that outlives the calendar, and by nothing else. -/
theorem Login.exists_broken_iff {login : Login} {session : Session} {callback : Flow.Callback}
    {now : Instant} :
    (∃ document, login.outcome session now callback = .broken document) ↔
      ∃ pending token document, login.Verifies session callback pending token document ∧
        token.Outlives now := by
  constructor
  · rintro ⟨document, broken⟩
    have waits : login.outcome session now callback ≠ .refused := by simp [broken]
    have vouched : ∀ error, login.outcome session now callback ≠ .failed error := by simp [broken]
    obtain ⟨pending, token, found, verifies⟩ := Login.exists_verifies waits vouched
    refine ⟨pending, token, found, verifies, keptToken?_eq_none_iff.1 ?_⟩
    rw [verifies.outcome_eq now] at broken
    cases kept : keptToken? now token with
    | none => rfl
    | some stored =>
      rw [kept] at broken
      cases broken
  · rintro ⟨pending, token, document, verifies, outlives⟩
    refine ⟨document, ?_⟩
    rw [verifies.outcome_eq now, keptToken?_eq_none_iff.2 outlives, Option.elim_none]

/-- A server with a login flow verifies a callback that comes with a session. -/
def Verifies (server : Server) (session : Option Session) (callback : Flow.Callback)
    (token : ProviderToken) (document : Document) : Prop :=
  ∃ login given pending, server.login = some login ∧ session = some given ∧
    login.Verifies given callback pending token document

/-- Completing a login gives an answer unless the callback is broken off. -/
theorem response_completeLogin_eq_error_iff {server : Server} {session : Option Session}
    {request : Http.RequestInfo} {now : Instant} {callback : Flow.Callback} {fault : Fault} :
    (server.completeLogin session request now callback).response = .error fault ↔
      fault = .beyondCalendar ∧ ∃ login given document, server.login = some login ∧
        session = some given ∧ login.outcome given now callback = .broken document := by
  cases configured : server.login with
  | none =>
    unfold completeLogin
    rw [configured]
    simp [failLogin]
  | some login =>
    cases session with
    | none =>
      unfold completeLogin
      rw [configured]
      simp [failLogin]
    | some given =>
      rw [completeLogin_eq_conclude configured]
      cases ended : login.outcome given now callback <;>
        simp [conclude, failLogin, ended, eq_comm]

/-- **Which ends of a token a login survives.** A token is kept with its end: the instant its
duration later, if it has one and the calendar has this instant, and none otherwise. Only a token
that is good for a span and outlives the calendar is not kept. So completing a login, on any server
and session, is broken off exactly where the callback is verified with such a token; in all other
cases there is an answer. -/
theorem token_kept_with_end_unless_outlives {now : Instant} (current : now.inRange = true) :
    (∀ token : ProviderToken, ¬ token.Outlives now ->
      ∃ expiresAt, keptToken? now token = some (token.stored now expiresAt) ∧
        token.Ends now expiresAt) ∧
    (∀ token : ProviderToken, token.Outlives now -> keptToken? now token = none) ∧
    ∀ (server : Server) session request callback fault,
      (server.completeLogin session request now callback).response = .error fault ↔
        fault = .beyondCalendar ∧ ∃ token document,
          server.Verifies session callback token document ∧ token.Outlives now := by
  refine ⟨?_, fun token => keptToken?_eq_none_iff.2, ?_⟩
  · intro token within
    obtain ⟨expiresAt, ended⟩ :=
      Option.ne_none_iff_exists'.1 (mt tokenEnd?_eq_none_iff.1 within)
    exact ⟨expiresAt, keptToken?_of_tokenEnd? ended, ends_of_tokenEnd? current ended⟩
  · intro server session request callback fault
    rw [response_completeLogin_eq_error_iff]
    apply and_congr_right'
    constructor
    · rintro ⟨login, given, document, configured, same, broken⟩
      obtain ⟨pending, token, found, verifies, outlives⟩ :=
        Login.exists_broken_iff.1 ⟨document, broken⟩
      exact ⟨token, found, ⟨login, given, pending, configured, same, verifies⟩, outlives⟩
    · rintro ⟨token, document, ⟨login, given, pending, configured, same, verifies⟩, outlives⟩
      obtain ⟨found, broken⟩ :=
        Login.exists_broken_iff.2 ⟨pending, token, document, verifies, outlives⟩
      exact ⟨login, given, found, configured, same, broken⟩

/-! ## Tokens that are good for long -/

namespace Sample

def tokenFor (seconds : Nat) : ProviderToken where
  accessToken := "t".toList
  tokenType := "bearer".toList
  expiresIn := some (seconds * 1000000000)

def lasting (seconds : Nat) : Provider :=
  { provider with exchangeCode := fun _ => .ok (tokenFor seconds) }

end Sample

/-- A token for an hour has an end, and one for the greatest number of seconds has none. -/
theorem sample_token_kept_with_end :
    let now : Instant := { seconds := 1 }
    now.inRange = true ∧
    keptToken? now (Sample.tokenFor 3600) =
      some ((Sample.tokenFor 3600).stored now (some { seconds := 3601 })) ∧
    keptToken? now (Sample.tokenFor Word.maxUnsigned64) =
      some ((Sample.tokenFor Word.maxUnsigned64).stored now none) := by
  intro now
  have current : now.inRange = true := by decide +kernel
  have kept := (token_kept_with_end_unless_outlives current).1
  refine ⟨current, ?_, ?_⟩
  · obtain ⟨expiresAt, stored, ends⟩ :=
      kept (Sample.tokenFor 3600) (mt keptToken?_eq_none_iff.2 (by decide +kernel))
    have later : now.IsSum (3600 * 1000000000 : Nat) { seconds := 3601 } :=
      ⟨by decide, by decide, by decide +kernel⟩
    rw [stored, (ends _).2 ⟨_, rfl, later⟩]
  · obtain ⟨expiresAt, stored, ends⟩ :=
      kept (Sample.tokenFor Word.maxUnsigned64) (mt keptToken?_eq_none_iff.2 (by decide +kernel))
    have none : expiresAt = none := by
      apply Option.eq_none_iff_forall_ne_some.2
      intro instant same
      obtain ⟨duration, given, isSum⟩ := (ends instant).1 same
      cases given
      exact Instant.not_isSum_of_maxMillis_lt current (by decide) isSum
    rw [stored, none]

/-- A token for the greatest number of seconds that a span has breaks the login off. -/
theorem lasting_token_breaks_login_off :
    let now : Instant := { seconds := 1 }
    let waiting := Flow.Pending.store { state := "s".toList, referrer := "/".toList } Sample.visitor
    now.inRange = true ∧
      ((Sample.server.asking (Sample.lasting 9223372036854775)).completeLogin (some waiting)
        { host := [], referer := none, uri := "/".toList } now
        { code := "c".toList, state := "s".toList }).response = .error .beyondCalendar := by
  intro now waiting
  obtain ⟨document, vouches⟩ := Sample.provider_vouches "t".toList
  have lasting : (Sample.lasting 9223372036854775).Vouches "c".toList
      (Sample.tokenFor 9223372036854775) document := ⟨rfl, vouches.described⟩
  have outlives : (Sample.tokenFor 9223372036854775).Outlives now :=
    keptToken?_eq_none_iff.1 (by decide +kernel)
  obtain ⟨login, configured, asked⟩ : ∃ login,
      (Sample.server.asking (Sample.lasting 9223372036854775)).login = some login ∧
        login.provider = Sample.lasting 9223372036854775 := ⟨_, rfl, rfl⟩
  have accepts : Flow.Pending.accepts { state := "s".toList, referrer := "/".toList }
      "s".toList = true := by
    decide
  obtain ⟨found, broken⟩ : ∃ found,
      login.outcome waiting now { code := "c".toList, state := "s".toList } = .broken found :=
    Login.exists_broken_iff.2 ⟨_, _, _, {
      waits := (Session.awaits_store _ Sample.visitor).peek, accepts := accepts
      vouches := asked ▸ lasting }, outlives⟩
  exact ⟨by decide +kernel,
    response_completeLogin_eq_error_iff.2 ⟨rfl, login, _, found, configured, rfl, broken⟩⟩

end Server
end LoginGate
