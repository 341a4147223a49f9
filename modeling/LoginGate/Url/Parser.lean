import LoginGate.Url.Address
import LoginGate.Url.Basic
import LoginGate.Url.Domain
import LoginGate.Url.Percent

/-!
Contract: reading an absolute URL.

Owns:
- the causes for which a text is no absolute URL, and their wording;
- the readers of hosts, ports, user information and paths.

Does not own: relative references; a text without a scheme is refused. The text is first trimmed of
controls and spaces, and tabs and line ends are dropped everywhere. Fragment and query can then be
cut off before anything else is read, since every other part ends at `#` and `?`.
-/

namespace LoginGate.Url

inductive ParseError where
  | emptyHost
  | internationalDomain
  | port
  | ipv4
  | ipv6
  | domainCharacter
  | relativeWithoutBase
  /-- A host was given to a URL whose path is verbatim text. -/
  | hostForVerbatimPath
deriving DecidableEq, Repr

def ParseError.message : ParseError -> Text
  | .emptyHost => "empty host".toList
  | .internationalDomain => "invalid international domain name".toList
  | .port => "invalid port number".toList
  | .ipv4 => "invalid IPv4 address".toList
  | .ipv6 => "invalid IPv6 address".toList
  | .domainCharacter => "invalid domain character".toList
  | .relativeWithoutBase => "relative URL without a base".toList
  | .hostForVerbatimPath => "a cannot-be-a-base URL doesn’t have a host to set".toList

/-! ## Scheme -/

def isSchemeChar (c : Char) : Bool := Text.isAlphanumeric c || c == '+' || c == '-' || c == '.'

/-- The lower-cased scheme before the first colon, and the rest. -/
def scheme? (input : Text) : Option (Text × Text) :=
  match Text.cut ':' input with
  | some (first :: name, rest) =>
    if Text.isLetter first && name.all isSchemeChar then
      some (Text.toAsciiLower (first :: name), rest)
    else none
  | _ => none

/-! ## Host -/

def bracketedHost (inner : Text) : Except ParseError Host :=
  match inner.getLast? with
  | some ']' =>
    match ipv6? inner.dropLast with
    | some pieces => .ok (.ipv6 pieces)
    | none => .error .ipv6
  | _ => .error .ipv6

/-- A host of a special scheme: percent-decoded, in ASCII form, and read as an address when it ends
in a number. -/
def specialHost (text : Text) : Except ParseError Host :=
  match text with
  | '[' :: inner => bracketedHost inner
  | _ =>
    match (Utf8.decode? (Percent.decode (Utf8.encode text))).bind asciiDomain? with
    | none => .error .internationalDomain
    | some [] => .error .emptyHost
    | some domain =>
      if endsInNumber domain then
        match ipv4? domain with
        | some address => .ok (.ipv4 address)
        | none => .error .ipv4
      else .ok (.name domain)

def isForbiddenInHost (c : Char) : Bool :=
  "\x00\t\n\r #/:<>?@[\\]^|".toList.contains c

/-- A host of any other scheme, which is kept as it is. -/
def verbatimHost (text : Text) : Except ParseError Host :=
  match text with
  | '[' :: inner => bracketedHost inner
  | _ =>
    if text.any isForbiddenInHost then .error .domainCharacter
    else .ok (.name (Percent.encode Percent.controls text))

/-! ## Authority -/

/-- The host text before the first colon outside brackets, and the rest from that colon on. -/
def cutHost : (inBrackets : Bool) -> Text -> Text × Text
  | _, [] => ([], [])
  | inBrackets, c :: rest =>
    if c = ':' ∧ inBrackets = false then ([], c :: rest)
    else
      let inBrackets := if c = '[' then true else if c = ']' then false else inBrackets
      let (host, after) := cutHost inBrackets rest
      (c :: host, after)

/-- A port that is not the default of its scheme. -/
def writtenPort (scheme : Text) (port : Nat) : Option Nat :=
  if defaultPort? scheme = some port then none else some port

/-- Reads a port. What follows its digits must be nothing or, as the first character of the path, a
backslash. -/
def readPort (scheme digits : Text) : Except ParseError (Option Nat × Text) :=
  let (number, rest) := Text.breakAt (! Text.isDigit ·) digits
  let port := (Text.toNat? 10 number)
  if (port.map (decide <| · ≤ 65535)).getD true && (rest.isEmpty || rest.head? == some '\\') then
    .ok (port.bind (writtenPort scheme), rest)
  else .error .port

/-- User name and password before the last `@` of an authority. -/
def readUserInfo (info : Text) : Text × Text :=
  let (name, password) := (Text.cut ':' info).getD (info, [])
  (Percent.encode Percent.userInfo name, Percent.encode Percent.userInfo password)

/-- Reads an authority. `followed` says that something stands behind it: then an `@` with nothing
before and after it is an error of its own. Also gives what belongs to the path already. -/
def readAuthority (scheme : Text) (followed : Bool) (text : Text) :
    Except ParseError (Authority × Text) := do
  let (info, hostAndPort) := (Text.cutLast '@' text).getD ([], text)
  if text.head? = some '@' ∧ info = [] ∧ hostAndPort = [] ∧ followed then
    throw .emptyHost
  let (username, password) := readUserInfo info
  let (hostText, portText) := cutHost false hostAndPort
  if hostText.isEmpty && isSpecialScheme scheme then throw .emptyHost
  let host <- if isSpecialScheme scheme then specialHost hostText else verbatimHost hostText
  if host = .name [] ∧ portText ≠ [] then throw .emptyHost
  let (port, rest) <- readPort scheme (portText.drop 1)
  if host = .name [] ∧ (username ≠ [] ∨ password ≠ []) then throw .emptyHost
  return ({ username, password, host, port }, rest)

/-! ## Path -/

/-- `%2e` in either letter case is a dot in a segment that names a directory. -/
def isDotOrEncoded (text : Text) : Bool :=
  text == ['.'] || Text.equalIgnoringCase text "%2e".toList

def isSingleDot (segment : Text) : Bool := isDotOrEncoded segment

def isDoubleDot (segment : Text) : Bool :=
  (isDotOrEncoded (segment.take 1) && isDotOrEncoded (segment.drop 1)) ||
    (isDotOrEncoded (segment.take 3) && isDotOrEncoded (segment.drop 3))

/-- A letter and a colon or bar: a drive at the start of a file path. -/
def isDriveLetter : Text -> Bool
  | [letter, mark] => Text.isLetter letter && (mark == ':' || mark == '|')
  | _ => false

/-- Drops the last segment of a path that is given backwards, but not the drive of a file path. -/
def parentOf (file : Bool) (path : List Text) : List Text :=
  match path with
  | [only] => if file && isDriveLetter only then path else []
  | _ => path.drop 1

/-- Adds a segment to a path that is given backwards. Dots move in the tree; at the end they leave
an empty segment. -/
def addSegment (file : Bool) (path : List Text) (segment : Text) (isLast : Bool) : List Text :=
  if isDoubleDot segment then
    if isLast then [] :: parentOf file path else parentOf file path
  else if isSingleDot segment then
    if isLast then [] :: path else path
  else
    match segment, file && path.isEmpty && isDriveLetter segment with
    | letter :: _, true => [[letter, ':']]
    | _, _ => Percent.encode Percent.path segment :: path

def addSegments (file : Bool) : (path : List Text) -> List Text -> List Text
  | path, [] => path
  | path, [segment] => addSegment file path segment true
  | path, segment :: rest => addSegments file (addSegment file path segment false) rest

def pathOf (file : Bool) (segments : List Text) : List Text :=
  (addSegments file [] segments).reverse

def isPathSeparator (special : Bool) (c : Char) : Bool := c == '/' || (special && c == '\\')

/-- The segments of a path that stands behind an authority. A special URL always has one. -/
def readPath (scheme text : Text) : List Text :=
  let separator := isPathSeparator (isSpecialScheme scheme)
  match text with
  | [] => if isSpecialScheme scheme then [[]] else []
  | c :: rest =>
    pathOf (isFileScheme scheme) (Text.splitAny separator (if separator c then rest else text))

/-! ## The whole -/

/-- A file path has no empty segments at its start. -/
def withoutLeadingEmpty (path : List Text) : List Text :=
  match path.dropWhile List.isEmpty with
  | [] => [[]]
  | path => path

/-- The authority of a file URL: a host that is not `localhost`, if any. -/
def fileAuthority (hostText : Text) : Except ParseError Authority := do
  let host <- if hostText.isEmpty then pure (Host.name []) else specialHost hostText
  let host := if host = .name "localhost".toList then .name [] else host
  return { username := [], password := [], host, port := none }

/-- Host and path of a file URL from behind its scheme. A drive is the beginning of a path, not a
host. -/
def cutFile (text : Text) : Text × Text :=
  let separator := isPathSeparator true
  match text with
  | a :: b :: rest =>
    if separator a && separator b then
      let (host, path) := Text.breakAt separator rest
      if isDriveLetter host then ([], rest) else (host, path)
    else ([], text)
  | _ => ([], text)

def readFile (text : Text) : Except ParseError (Authority × Path) := do
  let (hostText, pathText) := cutFile text
  let authority <- fileAuthority hostText
  return (authority, .segments (withoutLeadingEmpty (readPath "file".toList pathText)))

def readHierarchy (scheme : Text) (followed : Bool) (text : Text) :
    Except ParseError (Authority × Path) := do
  let (authorityText, pathText) := Text.breakAt (isPathSeparator (isSpecialScheme scheme)) text
  let (authority, rest) <- readAuthority scheme (followed || !pathText.isEmpty) authorityText
  return (authority, .segments (readPath scheme (rest ++ pathText)))

def readBody (scheme : Text) (followed : Bool) (text : Text) :
    Except ParseError (Option Authority × Path) := do
  if isFileScheme scheme then
    let (authority, path) <- readFile text
    return (some authority, path)
  else if isSpecialScheme scheme then
    let (authority, path) <-
      readHierarchy scheme followed (text.dropWhile (isPathSeparator true))
    return (some authority, path)
  else
    match text with
    | '/' :: '/' :: rest =>
      let (authority, path) <- readHierarchy scheme followed rest
      return (some authority, path)
    | '/' :: _ => return (none, .segments (readPath scheme text))
    | _ => return (none, .verbatim (Percent.encode Percent.controls text))

def cutMarked (mark : Char) (text : Text) : Text × Option Text :=
  match Text.cut mark text with
  | some (before, after) => (before, some after)
  | none => (text, none)

/-- The text without controls and spaces at its ends, and without tabs and line ends anywhere. -/
def clean (input : Text) : Text :=
  (Text.trim Text.isC0ControlOrSpace input).filter (! Text.isTabOrNewline ·)

def readClean (text : Text) : Except ParseError Url := do
  match scheme? text with
  | none => throw .relativeWithoutBase
  | some (scheme, rest) =>
    let (rest, fragment) := cutMarked '#' rest
    let (body, query) := cutMarked '?' rest
    let (authority, path) <- readBody scheme (query.isSome || fragment.isSome) body
    let queryClass := if isSpecialScheme scheme then Percent.specialQuery else Percent.query
    return {
      scheme, authority, path
      query := query.map (Percent.encode queryClass)
      fragment := fragment.map (Percent.encode Percent.fragment) }

def parse (input : Text) : Except ParseError Url := readClean (clean input)

end LoginGate.Url
