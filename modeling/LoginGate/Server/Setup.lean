import LoginGate.Config
import LoginGate.Server.Basic

/-!
Contract: servers from configurations.

Owns: the order in which a configuration is checked and used, and what can be wrong with it.
Does not own: providers (`Provider.Remote`), and the settings of sessions (`Session.Settings`).
-/

namespace LoginGate.Server

inductive SetupFailure where
  | refused (error : SetupError)
  | broken (fault : Fault)
deriving DecidableEq, Repr

def Login.ofConfig (connect : Config -> Except SetupError Provider) (config : Config) :
    Except SetupError Login := do
  let invalid (error : ConfigError) : SetupError := .invalidConfig error.message
  config.validate.mapError invalid
  let redirectUrl <- config.effectiveRedirectUrl.mapError invalid
  return { provider := <- connect config, paths := Flow.Paths.ofRedirectUrl redirectUrl }

def storeFor (settings : Session.Settings) : Except Fault Store :=
  match Span.ofMinutes? settings.durationMinutes with
  | some lifetime => .ok { lifetime }
  | none => .error .lifetimeTooLong

/-- A server from a configuration, if there is one, with sessions of its own unless it is given
some. -/
def ofConfig (config : Option Config) (connect : Config -> Except SetupError Provider)
    (settings : Session.Settings) (store : Option Store) : Except SetupFailure Server := do
  let login <- (config.mapM (Login.ofConfig connect)).mapError .refused
  let store <- match store with
    | some store => pure store
    | none => (storeFor settings).mapError .broken
  return { login, settings, store }

end LoginGate.Server
