import LoginGate.Server.View
import LoginGate.Text.Quoted

/-!
Contract: servers and views as they are written for someone who inspects a program.

Owns: the notation for records, options and sets, and what is shown of a server and of a view.
Does not own: the notation for texts (`Text.Quoted`).

Secrets, sessions and hooks are not shown; two dots stand for them.
-/

namespace LoginGate.Inspection

def braced (name : String) (parts : List Text) : Text :=
  name.toList ++ " \x7b ".toList ++ Text.join ", ".toList parts ++ " \x7d".toList

def field (field : String × Text) : Text := field.1.toList ++ ": ".toList ++ field.2

def record (name : String) (fields : List (String × Text)) : Text :=
  braced name (fields.map field)

/-- A record with more fields than are shown. -/
def openRecord (name : String) (fields : List (String × Text)) : Text :=
  braced name (fields.map field ++ ["..".toList])

def applied (name : String) (value : Text) : Text := name.toList ++ '(' :: value ++ [')']

def maybe {α : Type} (inspect : α -> Text) : Option α -> Text
  | some value => applied "Some" (inspect value)
  | none => "None".toList

def set (texts : List Text) : Text :=
  '\x7b' :: Text.join ", ".toList (texts.map Text.inQuotes) ++ ['\x7d']

def bool (value : Bool) : Text := if value then "true".toList else "false".toList

def paths (paths : Flow.Paths) : Text :=
  record "FlowPaths" [
    ("callback", Text.inQuotes paths.callback), ("login", Text.inQuotes paths.login),
    ("logout", Text.inQuotes paths.logout), ("handled", set paths.handled)]

def keys (keys : Session.Keys) : Text :=
  record "SessionKeys" [
    ("identity", Text.inQuotes keys.identity), ("email", Text.inQuotes keys.email),
    ("token", Text.inQuotes keys.token)]

def settings (settings : Session.Settings) : Text :=
  record "SessionConfig" [
    ("cookie_name", Text.inQuotes settings.cookieName),
    ("duration_minutes", Text.ofInt settings.durationMinutes),
    ("secure_cookies", bool settings.secureCookies),
    ("cleanup_interval_seconds", Text.ofNat settings.cleanupIntervalSeconds),
    ("keys", keys settings.keys)]

/-- The administrators, which stand behind a lock. -/
def admins (admins : Admins) : Text :=
  record "AdminRegistry" [
    ("admins", openRecord "Mutex" [("data", set admins.emails), ("poisoned", bool false)])]

/-- The reader of addresses from documents, of which nothing is shown. -/
def extractor : Text := openRecord "IdentityExtractor" []

def sessionId (id : SessionId) : Text := applied "SessionId" (applied "Ulid" (Text.ofNat id.bits))

end Inspection

namespace Server

open Inspection

def inspected (server : Server) : Text :=
  openRecord "AuthServer" [
    ("configured", bool server.login.isSome),
    ("paths", maybe (fun login => Inspection.paths login.paths) server.login),
    ("session", Inspection.settings server.settings),
    ("admins", Inspection.admins server.admins)]

def View.inspected (view : View) : Text :=
  openRecord "AuthView" [("session", maybe sessionId view.session)]

end Server
end LoginGate
