import LoginGate.Url.Form

/-!
Contract: what the provider sends back with the browser.

Owns: the reader of code and state from a query. A query that names one of them twice says nothing
about either, and is read like one that names neither.

Does not own: whether the state is the right one (`Flow.Pending`).
-/

namespace LoginGate.Flow

/-- Code and state of a callback; what is missing is empty. -/
structure Callback where
  code : Text := []
  state : Text := []
deriving DecidableEq, Repr

namespace Callback

/-- The value of a name that stands at most once among pairs, empty when it is missing; `none` when
it stands there more often. -/
def single? (name : String) (pairs : Form.Pairs) : Option Text :=
  match pairs.filter (·.1 = name.toList) with
  | [] => some []
  | [(_, value)] => some value
  | _ => none

def ofQuery (query : Option Text) : Callback :=
  let pairs := Form.decode (query.getD [])
  match single? "code" pairs, single? "state" pairs with
  | some code, some state => { code, state }
  | _, _ => {}

def pairs (callback : Callback) : Form.Pairs :=
  [("code".toList, callback.code), ("state".toList, callback.state)]

end Callback
end LoginGate.Flow
