import LoginGate.Text.Classes
import LoginGate.Url.Basic
import LoginGate.Url.Percent

/-!
Contract: pairs of names and values in a query or a form.

Owns:
- the encoding, in which a plus sign stands for a space;
- decoding, which accepts any text;
- adding pairs to the query of a URL.

Does not own: which pairs are sent (`Provider.Remote`) or expected (`Flow.Callback`).
-/

namespace LoginGate.Form

abbrev Pairs := List (Text × Text)

def isPlain (c : Char) : Bool :=
  Text.isAlphanumeric c || c == '*' || c == '-' || c == '.' || c == '_'

def encodeChar (c : Char) : Text :=
  if isPlain c then [c]
  else if c = ' ' then ['+']
  else (Utf8.encodeChar c).flatMap Percent.encodeByte

def encodeText (text : Text) : Text := text.flatMap encodeChar

def encodePair (pair : Text × Text) : Text := encodeText pair.1 ++ '=' :: encodeText pair.2

def encode (pairs : Pairs) : Text := Text.join ['&'] (pairs.map encodePair)

/-- Decodes a name or value; bytes that are no text are replaced. -/
def decodeText (text : Text) : Text :=
  Utf8.decodeLossy (Percent.decode (Utf8.encode (text.map fun c => if c = '+' then ' ' else c)))

/-- Decodes a pair; without an equals sign the value is empty. -/
def decodePair (text : Text) : Text × Text :=
  match Text.cut '=' text with
  | some (name, value) => (decodeText name, decodeText value)
  | none => (decodeText text, [])

/-- Decodes pairs; empty parts between ampersands count for nothing. -/
def decode (text : Text) : Pairs :=
  ((Text.split '&' text).filter (! ·.isEmpty)).map decodePair

end LoginGate.Form

namespace LoginGate.Url

def withPairs (url : Url) (pairs : Form.Pairs) : Url :=
  { url with
    query := some (match url.query with
      | none | some [] => Form.encode pairs
      | some query => query ++ '&' :: Form.encode pairs) }

end LoginGate.Url
