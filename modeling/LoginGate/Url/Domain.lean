import LoginGate.Text.Utf8
import LoginGate.Unicode.Compose
import LoginGate.Unicode.Direction
import LoginGate.Unicode.DomainFold
import LoginGate.Unicode.Joining
import LoginGate.Url.Punycode

/-!
Contract: the ASCII form of a domain name.

Owns: folding and composing, the division into labels, the encoding of labels that are not ASCII,
the checks on labels that come encoded, the rule on mixed writing directions, and the ASCII
characters that no domain name holds.

Does not own: percent-decoding, addresses and ports (`Url.Parser`).
-/

namespace LoginGate.Url

def isForbiddenInDomain (c : Char) : Bool :=
  c.toNat ≤ 0x20 || c.toNat == 0x7F || "%#/:<>?@[\\]^|".toList.contains c

def encodedMark : Text := "xn--".toList

/-- A label outside ASCII that may be encoded: composed, made of label characters and of join
controls where these fit, and not begun by a combining mark. -/
def isEncodableLabel (label : Text) : Bool :=
  label.all (fun c => c.toNat < 128 || Unicode.isJoinControl c || Unicode.isLabelChar c) &&
    Unicode.joinControlsFit label &&
    !(label.head?.map Unicode.isMark).getD false &&
    Unicode.normalizeComposed label == label

/-- The plain form of one folded label. An encoded label must decode to a label that needs its
encoding and could have been encoded itself. -/
def plainLabel? (label : Text) : Option Text :=
  match Text.afterPrefix? encodedMark label with
  | some encoded => do
    let decoded <- Punycode.decode? encoded
    if decoded.all (·.toNat < 128) || !isEncodableLabel decoded
        || Punycode.encode decoded != encoded then none
    else some decoded
  | none => if label.all (·.toNat < 128) || isEncodableLabel label then some label else none

def asciiLabel (label : Text) : Text :=
  if label.all (·.toNat < 128) then label else encodedMark ++ Punycode.encode label

/-! ## Mixed writing directions -/

def isFromRight (label : Text) : Bool :=
  label.any fun c =>
    128 ≤ c.toNat && [Unicode.Direction.right, .arabicNumber].contains (Unicode.direction c)

/-- Whether a label holds only classes of `held`, and its last one before any marks is in `last`. -/
def keepsTo (held last : List Unicode.Direction) (label : List Unicode.Direction) : Bool :=
  label.all held.contains &&
    ((label.reverse.dropWhile (· == .mark)).head?.map last.contains).getD false

/-- The rule on one label beside labels written from the right: the first character sets the
direction, the others keep to it, and the two kinds of numbers do not meet in a label written from
the right. The empty label passes. -/
def hasOneDirection (label : Text) : Bool :=
  let classes := label.map Unicode.direction
  match classes with
  | [] => true
  | .left :: _ => keepsTo [.left, .europeanNumber, .neutral, .mark] [.left, .europeanNumber] classes
  | .right :: _ =>
    keepsTo [.right, .arabicNumber, .europeanNumber, .neutral, .mark]
        [.right, .arabicNumber, .europeanNumber] classes &&
      !(classes.contains .arabicNumber && classes.contains .europeanNumber)
  | _ => false

/-! ## Whole names -/

def asciiDomain? (name : Text) : Option Text := do
  let folded := name.flatMap Unicode.foldForDomain
  let composed :=
    if folded.all (·.toNat < 128) then folded else Unicode.normalizeComposed folded
  let labels <- (Text.split '.' composed).mapM plainLabel?
  let ascii := Text.join ['.'] (labels.map asciiLabel)
  if (labels.any isFromRight && !labels.all hasOneDirection)
      || ascii.any isForbiddenInDomain then none
  else some ascii

end LoginGate.Url
