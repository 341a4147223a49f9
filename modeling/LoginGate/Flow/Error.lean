import LoginGate.Http.Status
import LoginGate.Text.Numeral

/-!
Contract: why a login is not completed, and why a server cannot be set up.

Owns: the causes, their wording, and the status that a failed login is answered with.
Does not own: the page that shows a failure (`Page.Error`).
-/

namespace LoginGate

inductive Flow.Error where
  | notConfigured
  | missingSession
  | wrongState
  | exchangeFailed (details : Text)
  | userinfoFailed (status : Nat) (details : Text)
  | userinfoUnreadable (details : Text)
deriving DecidableEq, Repr

namespace Flow.Error

def message : Flow.Error -> Text
  | .notConfigured => "oauth2 not configured".toList
  | .missingSession => "oauth2 missing session".toList
  | .wrongState => "oauth2 wrong state".toList
  | .exchangeFailed details => "oauth2 token exchange failed: ".toList ++ details
  | .userinfoFailed status details =>
    "oauth2 userinfo request failed with status ".toList ++ Text.ofNat status ++
      ": ".toList ++ details
  | .userinfoUnreadable details => "oauth2 userinfo decode failed: ".toList ++ details

/-- The number that a failure is reported with; a status of the provider is passed on. -/
def code : Flow.Error -> Nat
  | .notConfigured | .exchangeFailed _ | .userinfoUnreadable _ => 500
  | .missingSession | .wrongState => 400
  | .userinfoFailed status _ => status

/-- The status that a failure is answered with. A number that is no status counts as a bad
gateway. -/
def status (error : Flow.Error) : Nat := if Http.isStatus error.code then error.code else 502

end Flow.Error

inductive SetupError where
  | invalidConfig (details : Text)
  | httpClient (details : Text)
deriving DecidableEq, Repr

def SetupError.message : SetupError -> Text
  | .invalidConfig details => "invalid oauth2 configuration: ".toList ++ details
  | .httpClient details => "failed to build http client: ".toList ++ details

end LoginGate
