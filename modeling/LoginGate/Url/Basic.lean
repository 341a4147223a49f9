import LoginGate.Text.Numeral

/-!
Contract: a parsed URL and the text that it is written as.

Owns:
- hosts, authorities, paths and the record of a URL's parts;
- the special schemes and their default ports;
- the serializer, and the part of it from the path to the query.

Does not own: reading (`Url.Parser`), changing an origin (`Url.Origin`) or form pairs (`Url.Form`).
-/

namespace LoginGate

/-- A host: a name, or an address given by its number or its eight 16-bit pieces. -/
inductive Url.Host where
  | name (text : Text)
  | ipv4 (address : Nat)
  | ipv6 (pieces : List Nat)
deriving DecidableEq, Repr

structure Url.Authority where
  username : Text
  password : Text
  host : Url.Host
  port : Option Nat
deriving DecidableEq, Repr

/-- A hierarchical path as its segments, or the verbatim path of a scheme without a hierarchy. -/
inductive Url.Path where
  | segments (list : List Text)
  | verbatim (text : Text)
deriving DecidableEq, Repr

/-- The parts of an absolute URL, each already percent-encoded. -/
structure Url where
  scheme : Text
  authority : Option Url.Authority
  path : Url.Path
  query : Option Text
  fragment : Option Text
deriving DecidableEq, Repr

namespace Url

/-! ## Schemes -/

def defaultPort? (scheme : Text) : Option Nat :=
  if scheme = "http".toList || scheme = "ws".toList then some 80
  else if scheme = "https".toList || scheme = "wss".toList then some 443
  else if scheme = "ftp".toList then some 21
  else none

def isFileScheme (scheme : Text) : Bool := scheme == "file".toList

/-- The schemes whose URLs always have an authority and a rooted path. -/
def isSpecialScheme (scheme : Text) : Bool :=
  (defaultPort? scheme).isSome || isFileScheme scheme

/-! ## Hosts -/

def ipv4Text (address : Nat) : Text :=
  Text.join ['.'] ([24, 16, 8, 0].map fun shift => Text.ofNat (address / Nat.pow 2 shift % 256))

def leadingZeros (pieces : List Nat) : Nat := (pieces.takeWhile (· == 0)).length

/-- The longer of two runs, given by position and length; the first run has at least two zeros. -/
def longerRun : (best : Option (Nat × Nat)) -> (run : Nat × Nat) -> Option (Nat × Nat)
  | none, run => if 2 ≤ run.2 then some run else none
  | some best, run => if best.2 < run.2 then some run else some best

/-- The first of the longest runs of at least two zero pieces, as its position and length. -/
def longestZeroRun? (pieces : List Nat) : Option (Nat × Nat) :=
  ((List.range pieces.length).map fun i => (i, leadingZeros (pieces.drop i))).foldl longerRun none

/-- Pieces in hexadecimal between colons, the longest run of zeros written as `::`. -/
def ipv6Text (pieces : List Nat) : Text :=
  let colons (part : List Nat) : Text := Text.join [':'] (part.map Text.hexOfNat)
  match longestZeroRun? pieces with
  | none => colons pieces
  | some (start, length) =>
    colons (pieces.take start) ++ "::".toList ++ colons (pieces.drop (start + length))

def Host.text : Host -> Text
  | .name text => text
  | .ipv4 address => ipv4Text address
  | .ipv6 pieces => '[' :: ipv6Text pieces ++ [']']

/-! ## Parts -/

/-- A path as it stands in a URL: each segment after a slash, or the verbatim text. -/
def Path.text : Path -> Text
  | .segments list => list.flatMap ('/' :: ·)
  | .verbatim text => text

def host? (url : Url) : Option Host :=
  url.authority.bind fun authority =>
    if authority.host = .name [] then none else some authority.host

def pathText (url : Url) : Text := url.path.text

def marked (mark : Char) : Option Text -> Text
  | none => []
  | some text => mark :: text

def pathAndQuery (url : Url) : Text := url.pathText ++ marked '?' url.query

/-- User name and password before their `@`; nothing when both are empty. -/
def Authority.userInfo (authority : Authority) : Text :=
  if authority.username.isEmpty && authority.password.isEmpty then []
  else
    authority.username ++
      (if authority.password.isEmpty then [] else ':' :: authority.password) ++ ['@']

def Authority.text (authority : Authority) : Text :=
  authority.userInfo ++ authority.host.text ++ marked ':' (authority.port.map Text.ofNat)

/-- The text between scheme and path. Without an authority, a path that starts with two slashes is
kept apart from one by `/.`. -/
def authorityText (url : Url) : Text :=
  match url.authority with
  | some authority => "//".toList ++ authority.text
  | none =>
    match url.path with
    | .segments ([] :: _ :: _) => "/.".toList
    | _ => []

def text (url : Url) : Text :=
  url.scheme ++ ':' :: url.authorityText ++ url.pathAndQuery ++ marked '#' url.fragment

end Url
end LoginGate
