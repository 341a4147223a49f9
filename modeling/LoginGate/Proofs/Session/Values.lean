import LoginGate.Flow.Pending
import LoginGate.Proofs.Json.Fields
import LoginGate.Session.Identity

/-!
Contract: what a session holds after each kind of write.

Owns:
- the laws of setting, taking and announcing;
- keys that stand apart from each other and from the key of a login under way;
- what a session holds after an identity was stored or removed.

Does not own: which work writes what (`Server.Deed`).
-/

namespace LoginGate.Session

/-! ## Single keys -/

/-- Setting a key changes what is found under it and nothing else. -/
@[simp] theorem get?_set (session : Session) (key other : Text) (value : Option Json) :
    (session.set key value).get? other = if key = other then value else session.get? other := by
  cases value with
  | none => exact Json.lookup_erase key other session.values
  | some value => exact Json.lookup_insert key other value session.values

@[simp] theorem id_set (session : Session) (key : Text) (value : Option Json) :
    (session.set key value).id = session.id := by
  cases value <;> rfl

@[simp] theorem get?_announce (session : Session) (key : Text) :
    session.announce.get? key = session.get? key := rfl

theorem get?_of_values_nil {session : Session} (empty : session.values = []) (key : Text) :
    session.get? key = none := by
  unfold get?
  rw [empty]
  rfl

/-! ## Keys -/

/-- The keys of an identity differ from each other and from the key of a login under way. -/
structure Keys.Apart (keys : Keys) : Prop where
  identity_email : keys.identity ≠ keys.email
  identity_token : keys.identity ≠ keys.token
  email_token : keys.email ≠ keys.token
  identity_pending : keys.identity ≠ Flow.Pending.key
  email_pending : keys.email ≠ Flow.Pending.key
  token_pending : keys.token ≠ Flow.Pending.key

def Keys.all (keys : Keys) : List Text := [keys.identity, keys.email, keys.token]

theorem Keys.apart_default : ({} : Keys).Apart := by
  constructor <;> decide

theorem Keys.Apart.pending_not_mem {keys : Keys} (apart : keys.Apart) :
    Flow.Pending.key ∉ keys.all := by
  simp [Keys.all, apart.identity_pending.symm, apart.email_pending.symm, apart.token_pending.symm]

/-! ## Identities -/

/-- Storing an identity leaves every key alone that is none of the three. -/
theorem get?_storeIdentity_of_not_mem {session : Session} {keys : Keys} {identity : Identity}
    {token : Option StoredToken} {key : Text} (other : key ∉ keys.all) :
    (session.storeIdentity keys identity token).get? key = session.get? key := by
  simp only [Keys.all, List.mem_cons, List.not_mem_nil, or_false, not_or] at other
  obtain ⟨notIdentity, notEmail, notToken⟩ := other
  simp [storeIdentity, Ne.symm notIdentity, Ne.symm notEmail, Ne.symm notToken]

/-- Removing an identity leaves every key alone that is none of the three. -/
theorem get?_clearIdentity_of_not_mem {session : Session} {keys : Keys} {key : Text}
    (other : key ∉ keys.all) :
    (session.clearIdentity keys).get? key = session.get? key := by
  simp only [Keys.all, List.mem_cons, List.not_mem_nil, or_false, not_or] at other
  obtain ⟨notIdentity, notEmail, notToken⟩ := other
  simp [clearIdentity, Ne.symm notIdentity, Ne.symm notEmail, Ne.symm notToken]

/-- Removing an identity leaves none of the three keys. -/
theorem get?_clearIdentity_of_mem {session : Session} {keys : Keys} {key : Text}
    (member : key ∈ keys.all) : (session.clearIdentity keys).get? key = none := by
  simp only [Keys.all, List.mem_cons, List.not_mem_nil, or_false] at member
  rcases member with rfl | rfl | rfl <;> simp [clearIdentity]

@[simp] theorem id_storeIdentity (session : Session) (keys : Keys) (identity : Identity)
    (token : Option StoredToken) : (session.storeIdentity keys identity token).id = session.id := by
  simp [storeIdentity, announce]

@[simp] theorem id_clearIdentity (session : Session) (keys : Keys) :
    (session.clearIdentity keys).id = session.id := by
  simp [clearIdentity, announce]

end LoginGate.Session
