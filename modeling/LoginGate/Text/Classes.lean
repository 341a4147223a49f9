import LoginGate.Text.Basic

/-!
Contract: the character classes of the formats in this library.

Owns:
- Unicode white space and control characters;
- the ASCII letters, digits and case map, which leave all other characters alone.

Does not own: lower-casing outside ASCII (`Unicode.Lowercase`).
-/

namespace LoginGate.Text

/-- Unicode property White_Space. -/
def isWhitespace (c : Char) : Bool :=
  let n := c.toNat
  (0x09 ≤ n && n ≤ 0x0D) || n == 0x20 || n == 0x85 || n == 0xA0 || n == 0x1680 ||
    (0x2000 ≤ n && n ≤ 0x200A) || n == 0x2028 || n == 0x2029 || n == 0x202F ||
    n == 0x205F || n == 0x3000

/-- Unicode general category Cc. -/
def isControl (c : Char) : Bool :=
  let n := c.toNat
  n ≤ 0x1F || (0x7F ≤ n && n ≤ 0x9F)

/-- A C0 control or the space: what a URL parser drops at both ends. -/
def isC0ControlOrSpace (c : Char) : Bool := c.toNat ≤ 0x20

def isTabOrNewline (c : Char) : Bool := c == '\t' || c == '\n' || c == '\r'

def isDigit (c : Char) : Bool := '0' ≤ c && c ≤ '9'

def isLetter (c : Char) : Bool := ('a' ≤ c && c ≤ 'z') || ('A' ≤ c && c ≤ 'Z')

def isAlphanumeric (c : Char) : Bool := isLetter c || isDigit c

/-- The value of a digit in a base of at most 36, in either letter case. -/
def digitValue? (base : Nat) (c : Char) : Option Nat :=
  let value :=
    if isDigit c then c.toNat - '0'.toNat
    else if 'a' ≤ c && c ≤ 'z' then c.toNat - 'a'.toNat + 10
    else if 'A' ≤ c && c ≤ 'Z' then c.toNat - 'A'.toNat + 10
    else base
  if value < base then some value else none

def asciiLower (c : Char) : Char :=
  if 'A' ≤ c && c ≤ 'Z' then Char.ofNat (c.toNat + 32) else c

def asciiUpper (c : Char) : Char :=
  if 'a' ≤ c && c ≤ 'z' then Char.ofNat (c.toNat - 32) else c

def toAsciiLower (text : Text) : Text := text.map asciiLower

def equalIgnoringCase (left right : Text) : Bool := toAsciiLower left == toAsciiLower right

def trimBlank (text : Text) : Text := trim isWhitespace text

/-- A text that is empty or all white space. -/
def isBlank (text : Text) : Bool := text.all isWhitespace

/-- The entries of a list between commas: the parts that are not blank, trimmed. -/
def entries (text : Text) : List Text :=
  ((split ',' text).map trimBlank).filter (! ·.isEmpty)

end LoginGate.Text
