import LoginGate.Text.Base64

/-!
Contract: the states that tie a callback to the login that asked for it.

Owns: how many random bytes make a state, and its written form.

Does not own: the random bytes, which are inputs, and the record of an issued state
(`Flow.Pending`).
-/

namespace LoginGate.Flow.State

def size : Nat := 32

/-- The state of random bytes, in digits that need no escape in a URL. -/
def ofBytes (bytes : Bytes) : Text := Base64.digits Base64.urlSafe bytes

end LoginGate.Flow.State
