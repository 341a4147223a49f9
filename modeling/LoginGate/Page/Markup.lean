import LoginGate.Text.Basic

/-!
Contract: HTML pages as sequences of tags and texts.

Owns:
- the escaping of texts and attribute values;
- the pieces of a page and their text. A piece that holds a value from outside is always escaped.

Does not own: which pages there are (`Page.Error`, `Page.Gated`).
-/

namespace LoginGate.Page

def escapeChar (c : Char) : Text :=
  if c = '&' then "&amp;".toList
  else if c = '<' then "&lt;".toList
  else if c = '>' then "&gt;".toList
  else if c = '"' then "&#34;".toList
  else if c = '\'' then "&#39;".toList
  else [c]

/-- A text for the content of an element or for an attribute value. -/
def escape (text : Text) : Text := text.flatMap escapeChar

structure Attribute where
  name : Text
  value : Text
deriving DecidableEq, Repr

inductive Piece where
  | opening (name : Text) (attributes : List Attribute)
  | closing (name : Text)
  /-- A tag of an element that has no content. -/
  | empty (name : Text) (attributes : List Attribute)
  /-- Text of the page itself, which holds no tags. -/
  | fixed (text : Text)
  /-- A value from outside. -/
  | value (text : Text)
deriving DecidableEq, Repr

def Attribute.text (given : Attribute) : Text :=
  ' ' :: given.name ++ "=\"".toList ++ escape given.value ++ ['"']

/-- What stands between the angle brackets of a piece that is a tag. -/
def Piece.tag? : Piece -> Option Text
  | .opening name attributes => some (name ++ attributes.flatMap Attribute.text)
  | .closing name => some ('/' :: name)
  | .empty name attributes => some (name ++ attributes.flatMap Attribute.text ++ ['/'])
  | .fixed _ | .value _ => none

def Piece.text (piece : Piece) : Text :=
  match piece with
  | .fixed text => text
  | .value text => escape text
  | tag => '<' :: tag.tag?.getD [] ++ ['>']

def render (pieces : List Piece) : Text := pieces.flatMap Piece.text

def element (name : String) (content : List Piece) : List Piece :=
  .opening name.toList [] :: content ++ [.closing name.toList]

end LoginGate.Page
