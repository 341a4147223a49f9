import LoginGate.Proofs.Session.Values

/-!
Contract: sessions that hold the result of one login, whole, or of none.

Owns:
- what an accepted login leaves in its session;
- the relation between that and the three keys, and how it is set, removed and kept;
- what the readers of an identity find.

Does not own: when a login is accepted (`Server.Deed`).

An address in a session never stands alone: it is the one in the document beside it, and the token
is the one that came with that document.
-/

namespace LoginGate.Session

/-- What an accepted login leaves in its session. -/
structure Grant where
  document : Document
  token : StoredToken

/-- The identity of a grant, with the address that its document names. -/
def Grant.identity (grant : Grant) : Identity :=
  { document := grant.document, email := Identity.email? grant.document }

/-- The three keys hold exactly a grant, or nothing. -/
structure Holds (keys : Keys) (grant : Option Grant) (session : Session) : Prop where
  identity : session.get? keys.identity = grant.map (·.document.toJson)
  email : session.get? keys.email = (grant.bind (·.identity.email)).map Json.string
  token : session.get? keys.token = grant.map (·.token.toJson)

/-! ## Writers -/

theorem holds_none_of_values_nil (keys : Keys) {session : Session} (empty : session.values = []) :
    Holds keys none session where
  identity := get?_of_values_nil empty keys.identity
  email := get?_of_values_nil empty keys.email
  token := get?_of_values_nil empty keys.token

/-- What does not touch the three keys keeps what they hold. -/
theorem Holds.frame {keys : Keys} {grant : Option Grant} {before after : Session}
    (holds : Holds keys grant before)
    (same : ∀ key ∈ keys.all, after.get? key = before.get? key) : Holds keys grant after where
  identity := (same keys.identity (by simp [Keys.all])).trans holds.identity
  email := (same keys.email (by simp [Keys.all])).trans holds.email
  token := (same keys.token (by simp [Keys.all])).trans holds.token

theorem Holds.set {keys : Keys} {grant : Option Grant} {session : Session}
    (holds : Holds keys grant session) {key : Text} (other : key ∉ keys.all)
    (value : Option Json) : Holds keys grant (session.set key value) := by
  refine holds.frame ?_
  intro held member
  have different : key ≠ held := by
    rintro rfl
    exact other member
  rw [get?_set, if_neg different]

/-- Storing the identity of a grant with its token makes the session hold it, whatever it held
before. -/
theorem holds_storeIdentity {keys : Keys} (apart : keys.Apart) (session : Session)
    (grant : Grant) :
    Holds keys (some grant) (session.storeIdentity keys grant.identity (some grant.token)) := by
  have identity_email := apart.identity_email.symm
  have identity_token := apart.identity_token.symm
  have email_token := apart.email_token.symm
  constructor
  · simp [storeIdentity, identity_email, identity_token, Grant.identity]
  · simp [storeIdentity, email_token]
  · simp [storeIdentity]

theorem holds_clearIdentity (keys : Keys) (session : Session) :
    Holds keys none (session.clearIdentity keys) where
  identity := get?_clearIdentity_of_mem (by simp [Keys.all])
  email := get?_clearIdentity_of_mem (by simp [Keys.all])
  token := get?_clearIdentity_of_mem (by simp [Keys.all])

/-! ## Readers -/

section Readers

variable {keys : Keys} {grant : Option Grant} {session : Session}

/-- Exactly a session with a grant counts as logged in. -/
theorem Holds.hasIdentity (holds : Holds keys grant session) :
    session.hasIdentity keys = grant.isSome := by
  unfold Session.hasIdentity
  rw [holds.identity, Option.isSome_map]

/-- The document that is read is that of the grant. -/
theorem Holds.document (holds : Holds keys grant session) :
    (session.get? keys.identity).bind Document.ofJson? = grant.map (·.document) := by
  rw [holds.identity]
  cases grant <;> rfl

/-- The address that is read is that in the document of the grant. -/
theorem Holds.address (holds : Holds keys grant session) :
    (session.get? keys.email).bind Json.text? = grant.bind (·.identity.email) := by
  rw [holds.email]
  cases grant.bind (·.identity.email) <;> rfl

/-- The identity that is read is that of the grant. -/
theorem Holds.identity? (holds : Holds keys grant session) :
    session.identity? keys = grant.map (·.identity) := by
  unfold Session.identity?
  rw [holds.document, holds.address]
  cases grant <;> rfl

end Readers

end LoginGate.Session
