import LoginGate.Session.Basic

/-!
Contract: the record of a login that has been sent to the provider and is not completed yet.

Owns: the key of the record, its JSON form, and the rule that a record is removed when it is read,
so that a state can be presented once at most.

Does not own: how states are drawn (`Flow.State`).
-/

namespace LoginGate.Flow

/-- A login under way: the state that the provider must give back, and where to go afterwards. -/
structure Pending where
  state : Text
  referrer : Text
deriving DecidableEq, Repr

namespace Pending

def key : Text := "oauth2pending".toList

def toJson (pending : Pending) : Json :=
  .object [("state".toList, .string pending.state), ("referrer".toList, .string pending.referrer)]

/-- A record from an object that holds both texts, or from an array of the two. -/
def ofJson? : Json -> Option Pending
  | .object fields => do
    let state <- (Json.lookup "state".toList fields).bind Json.text?
    let referrer <- (Json.lookup "referrer".toList fields).bind Json.text?
    return { state, referrer }
  | .array [.string state, .string referrer] => some { state, referrer }
  | _ => none

def store (pending : Pending) (session : Session) : Session :=
  session.set key (some pending.toJson)

def peek (session : Session) : Option Pending := (session.get? key).bind ofJson?

/-- Removes the record of a session, readable or not, and gives it. -/
def take (session : Session) : Option Pending × Session :=
  let (value, session) := session.take key
  (value.bind ofJson?, session)

/-- Whether a state is the issued one. An empty state never is. -/
def accepts (pending : Pending) (state : Text) : Bool :=
  !pending.state.isEmpty && pending.state == state

end Pending
end LoginGate.Flow
