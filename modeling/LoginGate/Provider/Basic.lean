import LoginGate.Text.Classes

/-!
Contract: what the login flow needs of an identity provider.

Owns:
- tokens and answers about a user;
- the two failures of a provider, their wording and their printed report;
- the provider as three functions, so that any provider can take part in a login.

Does not own: providers that are reached over a network (`Provider.Remote`).
-/

namespace LoginGate

structure ProviderToken where
  accessToken : Text
  tokenType : Text
  refreshToken : Option Text := none
  /-- For how many nanoseconds the token is good, if that is known. -/
  expiresIn : Option Nat := none
deriving DecidableEq, Repr

/-- An answer about a user, whatever its status. -/
structure Userinfo where
  status : Nat
  body : Bytes
deriving DecidableEq, Repr

inductive ProviderError where
  | tokenExchange (details : Text)
  | userinfo (details : Text)
deriving DecidableEq, Repr

namespace ProviderError

def message : ProviderError -> Text
  | .tokenExchange details => "token exchange failed: ".toList ++ details
  | .userinfo details => "userinfo request failed: ".toList ++ details

/-- The lines of a text. A carriage return before a line end belongs to it. -/
def lines (text : Text) : List Text :=
  let parts := Text.split '\n' text
  (parts.dropLast.map fun line => (Text.beforeSuffix? ['\r'] line).getD line) ++
    parts.drop (parts.length - 1)

def reportOrigin : Text := "\x7blocation\x7d".toList

/-- The printed report of a failure: its message with a bullet, further lines of it behind a bar,
and its origin. White space at the end of the message is dropped. -/
def report (error : ProviderError) : Text :=
  let message := Text.trimEnd Text.isWhitespace error.message
  "\n ● ".toList ++ Text.join "\n │ ".toList (lines message) ++
    "\n ╰ ".toList ++ reportOrigin ++ ['\n']

end ProviderError

structure Provider where
  /-- Where the browser is sent with a state. -/
  authorizationUrl : Text -> Text
  /-- Exchanges a code for a token. -/
  exchangeCode : Text -> Except ProviderError ProviderToken
  /-- Asks about the user who owns an access token. -/
  fetchUserinfo : Text -> Except ProviderError Userinfo

end LoginGate
