import LoginGate.Page.Markup
import LoginGate.Server.View

/-!
Contract: the two pages behind the gate.

Owns: the page that shows a user's document and the page that lists the administrators.
Does not own: who gets to see them (`Server.Access`).
-/

namespace LoginGate.Page

open Server (View)

def attr (name value : String) : Attribute := { name := name.toList, value := value.toList }

def logoutPieces (path : Text) : List Piece :=
  element "p" ([.opening "a".toList [{ name := "href".toList, value := path }],
    .fixed "Sign out".toList, .closing "a".toList])

def layout (logout : Option Text) (title : String) (content : List Piece) : List Piece :=
  [.opening "!DOCTYPE html".toList [], .opening "html".toList [attr "lang" "en"]] ++
    element "head" (.empty "meta".toList [attr "charset" "utf-8"] ::
      element "title" [.fixed title.toList]) ++
    element "body" (element "h1" [.fixed title.toList] ++ content ++
      (logout.map logoutPieces).getD []) ++
    [.closing "html".toList]

def summary (view : View) : List Piece :=
  if view.email.isEmpty then element "p" [.fixed "No email address on record.".toList]
  else
    element "p" (.fixed "Signed in as ".toList :: element "strong" [.value view.email] ++
      [.fixed (if view.isAdmin then " (administrator).".toList else ['.'])])

/-! ## Home -/

/-- A value as it is shown: a string as it is, anything else as compact JSON. -/
def shown : Json -> Text
  | .string text => text
  | value => value.render

def fieldPieces (field : Text × Json) : List Piece :=
  element "dt" [.value field.1] ++ element "dd" [.value (shown field.2)]

def homePieces (logout : Option Text) (view : View) : List Piece :=
  layout logout "Home" (match view.document with
    | some document => summary view ++ element "dl" (document.fields.flatMap fieldPieces)
    | none => element "p" [.fixed "Authentication is disabled.".toList])

def home (logout : Option Text) (view : View) : Http.Response :=
  .html 200 (render (homePieces logout view))

/-! ## Administrators -/

def adminPieces (admins : Admins) : List Piece :=
  if admins.emails.isEmpty then
    element "p" [.fixed "No administrators configured; every user is an administrator.".toList]
  else element "ul" (admins.emails.flatMap fun email => element "li" [.value email])

def administratorsPieces (logout : Option Text) (admins : Admins) (view : View) : List Piece :=
  layout logout "Administrators" (summary view ++ adminPieces admins)

def administrators (logout : Option Text) (admins : Admins) (view : View) : Http.Response :=
  .html 200 (render (administratorsPieces logout admins view))

end LoginGate.Page
