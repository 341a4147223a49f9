import LoginGate.Json.Record
import LoginGate.SessionId

/-!
Contract: session ids in JSON.

Owns: the JSON form of an id, a string of its digits without the mark, and its reader.
Does not own: the digits (`SessionId`).
-/

namespace LoginGate.SessionId

def toJson (id : SessionId) : Json := .string id.bareText

def read (cursor : Json.Cursor) : Except Json.ReadError (SessionId × Json.Cursor) := do
  let (text, after) <- Json.readText cursor
  match parseBare text with
  | .ok id => return (id, after)
  | .error error => throw { cause := .refused error.reason, place := none }

def parseJson (bytes : Bytes) : Except Json.ReadError SessionId := Json.readWholeText read bytes

end LoginGate.SessionId
