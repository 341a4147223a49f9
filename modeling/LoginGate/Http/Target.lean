import LoginGate.Text.Classes
import LoginGate.Text.Utf8

/-!
Contract: the target of a request, as it stands in the request line.

Owns: the four forms of a target, the characters that may stand in them, and the wording of what is
wrong with one.

Does not own: what a target names on a server (`Server.Routes`), and URLs as browsers read them
(`Url`).

A target is stricter than a URL: nothing is trimmed, repaired or percent-encoded.
-/

namespace LoginGate.Http

inductive TargetError where
  | tooLong
  | empty
  | character
  | authority
  | format
  | schemeTooLong
deriving DecidableEq, Repr

def TargetError.message : TargetError -> Text
  | .tooLong => "uri too long".toList
  | .empty => "empty string".toList
  | .character => "invalid uri character".toList
  | .authority => "invalid authority".toList
  | .format => "invalid format".toList
  | .schemeTooLong => "scheme too long".toList

/-- A target. A path alone has no authority; an authority alone has no path. -/
structure Target where
  scheme : Option Text := none
  authority : Option Text := none
  /-- The path before the question mark. -/
  path : Text
  /-- What follows the question mark. -/
  query : Option Text := none
deriving DecidableEq, Repr

namespace Target

/-! ## Path and query -/

/-- A character that may stand in a target at all: no blank and no control of ASCII. -/
def isVisible (c : Char) : Bool := 0x21 ≤ c.toNat && c.toNat != 0x7F

/-- A character that may stand in a path: visible, and no angle bracket or backquote. -/
def isPathChar (c : Char) : Bool :=
  isVisible c && c != '?' && c != '#' && c != '<' && c != '>' && c != '\x60'

/-- A character that may stand in a query: visible, and no angle bracket or quote. -/
def isQueryChar (c : Char) : Bool :=
  isVisible c && c != '#' && c != '<' && c != '>' && c != '"'

/-- Path and query of the end of a target. A fragment is dropped, whatever it holds. -/
def pathAndQuery (text : Text) : Except TargetError (Text × Option Text) :=
  let (path, rest) := Text.breakAt (fun c => c == '?' || c == '#') text
  if ! path.all isPathChar then .error .character
  else
    match rest with
    | '?' :: rest =>
      let (query, _) := Text.breakAt (· == '#') rest
      if query.all isQueryChar then .ok (path, some query) else .error .character
    | _ => .ok (path, none)

/-! ## Authority -/

def isAuthorityChar (c : Char) : Bool :=
  Text.isAlphanumeric c || "!$&'()*+,-.:;=@[]_~".toList.contains c

/-- What has been seen of an authority: colons and a percent sign since the last at sign or closing
bracket, and the brackets. -/
structure AuthorityScan where
  colons : Nat := 0
  percent : Bool := false
  opened : Bool := false
  closed : Bool := false
  last : Option Char := none

/-- The colons of an address in brackets, and one more before a port. -/
def maxColons : Nat := 8

def scanAuthority (scan : AuthorityScan) (c : Char) : Except TargetError AuthorityScan :=
  let scan := { scan with last := some c }
  if c = '%' then .ok { scan with percent := true }
  else if !isAuthorityChar c then .error .character
  else if c = ':' then
    if scan.colons < maxColons then .ok { scan with colons := scan.colons + 1 }
    else .error .authority
  else if c = '[' then
    if scan.percent || scan.opened then .error .authority else .ok { scan with opened := true }
  else if c = ']' then
    if !scan.opened || scan.closed then .error .authority
    else .ok { scan with closed := true, colons := 0, percent := false }
  else if c = '@' then .ok { scan with colons := 0, percent := false }
  else .ok scan

/-- Accepts an authority: brackets in pairs, at most one colon before the port, and percent signs
only before an at sign or inside brackets. -/
def checkAuthority (authority : Text) : Except TargetError Unit := do
  let scan <- authority.foldlM scanAuthority {}
  if scan.opened != scan.closed || 1 < scan.colons || scan.last == some '@' || scan.percent then
    throw .authority

def cutAuthority (text : Text) : Except TargetError (Text × Text) := do
  let (authority, rest) := Text.breakAt (fun c => c == '/' || c == '?' || c == '#') text
  checkAuthority authority
  return (authority, rest)

/-! ## Scheme -/

def isSchemeChar (c : Char) : Bool :=
  Text.isAlphanumeric c || c == '+' || c == '-' || c == '.'

def maxScheme : Nat := 64

/-- The scheme before `://` and the rest behind it. Scheme and rest are not both empty. -/
def cutScheme? (text : Text) : Except TargetError (Option (Text × Text)) :=
  let (scheme, rest) := Text.breakAt (! isSchemeChar ·) text
  match Text.afterPrefix? "://".toList rest with
  | none => .ok none
  | some rest =>
    if scheme.isEmpty && rest.isEmpty then .ok none
    else if maxScheme < scheme.length then .error .schemeTooLong
    else .ok (some (scheme, rest))

/-! ## Targets -/

def maxLength : Nat := 65534

/-- Reads a target: a path, a star, an authority alone, or scheme and authority with a path. -/
def parse (text : Text) : Except TargetError Target := do
  if maxLength < (Utf8.encode text).length then throw .tooLong
  if text.isEmpty then throw .empty
  if text = ['*'] then return { path := ['*'] }
  if text.head? = some '/' then
    let (path, query) <- pathAndQuery text
    return { path, query }
  match <- cutScheme? text with
  | none =>
    let (authority, rest) <- cutAuthority text
    if !rest.isEmpty then throw (if text.length = 1 then .character else .format)
    return { authority := some authority, path := [] }
  | some (scheme, rest) =>
    if rest.isEmpty then throw .empty
    let (authority, rest) <- cutAuthority rest
    if authority.isEmpty then throw .format
    let (path, query) <- pathAndQuery rest
    return { scheme := some scheme, authority := some authority, path, query }

/-- Path and query as they were written; the root when there is neither. -/
def written (target : Target) : Text :=
  match target.query with
  | some query => target.path ++ '?' :: query
  | none => if target.path.isEmpty then ['/'] else target.path

/-- The path that a server looks up. An authority alone has none; it is the root behind a scheme or
before a query. -/
def lookupPath (target : Target) : Text :=
  if target.path.isEmpty && (target.scheme.isSome || target.query.isSome) then ['/']
  else target.path

end Target
end LoginGate.Http
