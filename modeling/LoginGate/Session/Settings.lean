import LoginGate.Session.Identity

/-!
Contract: how a server keeps its sessions.

Owns: the cookie's name, life time and attributes, the interval of clean-ups, the names of the keys,
and their reader from JSON.

Does not own: settings from an environment (`Settings`), and the cookie itself (`Http.Cookie`).
-/

namespace LoginGate.Session

structure Settings where
  cookieName : Text := "session".toList
  /-- The life time of a session in minutes. A negative one ends before it begins. -/
  durationMinutes : Int := 12 * 60
  /-- Whether the cookie is only sent over an encrypted connection. -/
  secureCookies : Bool := true
  cleanupIntervalSeconds : Nat := 300
  keys : Keys := {}
deriving DecidableEq, Repr

namespace Settings

structure Draft where
  cookieName : Option Text := none
  durationMinutes : Option Int := none
  secureCookies : Option Bool := none
  cleanupIntervalSeconds : Option Nat := none
  keys : Option Keys := none

def Draft.finish (draft : Draft) : Settings :=
  let defaults : Settings := {}
  { cookieName := draft.cookieName.getD defaults.cookieName
    durationMinutes := draft.durationMinutes.getD defaults.durationMinutes
    secureCookies := draft.secureCookies.getD defaults.secureCookies
    cleanupIntervalSeconds := draft.cleanupIntervalSeconds.getD defaults.cleanupIntervalSeconds
    keys := draft.keys.getD defaults.keys }

def layout : Json.Layout Draft Settings where
  name := "SessionConfig".toList
  slots := [
    .of "cookie_name" false Json.readText (·.cookieName) ({ · with cookieName := some · }),
    .of "duration_minutes" false Json.readSigned (·.durationMinutes)
      ({ · with durationMinutes := some · }),
    .of "secure_cookies" false Json.readBool (·.secureCookies)
      ({ · with secureCookies := some · }),
    .of "cleanup_interval_seconds" false Json.readUnsigned (·.cleanupIntervalSeconds)
      ({ · with cleanupIntervalSeconds := some · }),
    .of "keys" false Keys.layout.read (·.keys) ({ · with keys := some · })]
  empty := {}
  finish := fun draft => .ok draft.finish

def parse (bytes : Bytes) : Except Json.ReadError Settings :=
  Json.readWholeText layout.read bytes

end Settings
end LoginGate.Session
