import LoginGate.Json.Kind
import LoginGate.Mailbox

/-!
Contract: the document that an identity provider gives about a user, and the address in it.

Owns:
- documents, which are JSON objects with their fields in the provider's order;
- the choice of the field that carries the address.

Does not own: where a document is kept (`Session.Identity`).
-/

namespace LoginGate

/-- What a provider says about a user. -/
structure Document where
  fields : Json.Fields := []
deriving Repr

namespace Document

/-- Reads an object; one level of the nesting limit is the document itself. -/
def read (cursor : Json.Cursor) : Except Json.ReadError (Document × Json.Cursor) := do
  let start := cursor.skipBlank
  match start.peek with
  | none => throw (start.errorNext .endInValue)
  | some '\x7b' =>
    let (value, after) <- Json.readValue Json.nestingLimit start
    match value with
    | .object fields => return ({ fields }, after)
    | _ => return ({}, after)
  | some _ => throw (Json.wrongType start "a map".toList)

def parse (bytes : Bytes) : Except Json.ReadError Document := Json.readWholeText read bytes

def ofJson? : Json -> Option Document
  | .object fields => some { fields }
  | _ => none

def toJson (document : Document) : Json := .object document.fields

def get? (document : Document) (key : Text) : Option Json := Json.lookup key document.fields

def text? (document : Document) (key : Text) : Option Text := (document.get? key).bind Json.text?

def insert (document : Document) (key : Text) (value : Json) : Document :=
  { fields := Json.insert key value document.fields }

def text (document : Document) : Text := document.toJson.render

end Document

namespace Identity

/-- The fields that may carry the address, the preferred one first. -/
def emailFields : List Text := ["email".toList, "mail".toList]

/-- The normal form of the first such field that holds a string and does not become empty. -/
def email? (document : Document) : Option Text :=
  ((emailFields.filterMap document.text?).map Mailbox.normalize).find? (! ·.isEmpty)

end Identity
end LoginGate
