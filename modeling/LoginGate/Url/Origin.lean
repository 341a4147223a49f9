import LoginGate.Url.Parser

/-!
Contract: replacing the origin of a URL by that of another.

Owns: the replacement of scheme, host and port, each of which a URL may refuse.
Does not own: paths, queries and fragments, which every replacement keeps.
-/

namespace LoginGate.Url

/-- Whether a URL takes a scheme: schemes with and without a default port do not mix, a special
scheme needs a host, and `file` is never taken by a URL that has an authority. -/
def takesScheme (url : Url) (scheme : Text) : Bool :=
  isSpecialScheme scheme == isSpecialScheme url.scheme &&
    !(isFileScheme scheme && url.authority.isSome) &&
    (url.host?.isSome || !isSpecialScheme scheme)

def Authority.withoutDefaultPort (scheme : Text) (authority : Authority) : Authority :=
  { authority with port := authority.port.bind (writtenPort scheme) }

/-- Replaces the scheme if the URL takes it. A port that becomes the default is dropped. -/
def withScheme (url : Url) (scheme : Text) : Url :=
  if takesScheme url scheme then
    { url with
      scheme
      authority :=
        if url.host?.isSome && !isFileScheme scheme then
          url.authority.map (Authority.withoutDefaultPort scheme)
        else url.authority }
  else url

def withHost (url : Url) (host : Text) : Except ParseError Url := do
  if url.path matches .verbatim _ then throw .hostForVerbatimPath
  let host <- if isSpecialScheme url.scheme then specialHost host else verbatimHost host
  let authority : Authority :=
    match url.authority with
    | some authority => { authority with host }
    | none => { username := [], password := [], host, port := none }
  return { url with authority := some authority }

/-- Replaces the port. A URL without a host and a file URL have none. -/
def withPort (url : Url) (port : Option Nat) : Url :=
  if url.host?.isNone || isFileScheme url.scheme then url
  else
    { url with
      authority := url.authority.map fun authority =>
        { authority with port := port.bind (writtenPort url.scheme) } }

/-- Replaces scheme, host and port by those of another URL, as far as the URL takes them. The port
is only replaced together with the host. -/
def withOriginOf (url origin : Url) : Url :=
  let url := withScheme url origin.scheme
  match origin.host? with
  | none => url
  | some host =>
    match withHost url host.text with
    | .ok url => withPort url (origin.authority.bind (·.port))
    | .error _ => url

end LoginGate.Url
