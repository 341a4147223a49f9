import LoginGate.Text.Classes
import LoginGate.Unicode.Lowercase

/-!
Contract: mail addresses as people and providers write them.

Owns:
- the removal of comments in parentheses and of a display name;
- the test for a plain address;
- the normal form under which two spellings of an address are one identity.

Does not own: quoted local parts, comments inside an address, and groups, which are no mailboxes
here. A text that is no mailbox still has a normal form.
-/

namespace LoginGate.Mailbox

/-- Drops the groups between `opening` and `closing` that a text starts with, and the white space
after each. `none` when a group does not end. -/
def dropGroups? (opening closing : Char) (text : Text) : Option Text :=
  match text with
  | [] => some []
  | c :: rest =>
    if c = opening then
      match _found : Text.cut closing rest with
      | none => none
      | some (_, after) => dropGroups? opening closing (Text.trimStart Text.isWhitespace after)
    else some (c :: rest)
termination_by text.length
decreasing_by
  have shape := (Text.cut_eq_some_iff.1 _found).1
  have shorter := (List.dropWhile_suffix (l := after) Text.isWhitespace).length_le
  simp only [Text.trimStart, List.length_cons]
  rw [shape]
  simp only [List.length_append, List.length_cons]
  omega

/-- Drops the comments at the end of a text, then those at its start. -/
def withoutComments? (text : Text) : Option Text := do
  let reversed <- dropGroups? ')' '(' text.reverse
  dropGroups? '(' ')' reversed.reverse

def isForbidden (c : Char) : Bool :=
  Text.isWhitespace c || Text.isControl c || c == '<' || c == '>' || c == ',' || c == ';'

/-- A plain address: a local part, an `@`, and a domain that neither begins nor ends with a dot. -/
def isAddress (text : Text) : Bool :=
  match Text.cutLast '@' text with
  | none => false
  | some (localPart, domain) =>
    !localPart.isEmpty && !domain.isEmpty && domain.head? != some '.' &&
      domain.getLast? != some '.' && !text.any isForbidden

/-- The text in the last angle brackets when a text ends with one, else the text itself. -/
def bracketed? (text : Text) : Option Text :=
  match Text.beforeSuffix? ['>'] text with
  | none => some text
  | some inner => (Text.cutLast '<' inner).map fun (_, address) => Text.trimBlank address

def parse? (text : Text) : Option Text := do
  let address <- bracketed? (<- withoutComments? (Text.trimBlank text))
  if isAddress address then some address else none

/-- The normal form: the address of a mailbox, or else the whole text, trimmed and in lower case. -/
def normalize (text : Text) : Text :=
  Unicode.toLower (Text.trimBlank ((parse? text).getD text))

end LoginGate.Mailbox
