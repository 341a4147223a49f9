import LoginGate.Text.Numeral
import LoginGate.Text.Utf8

/-!
Contract: percent-encoding over UTF-8.

Owns:
- encoding of the characters of a class, every other character kept;
- the classes that the parts of a URL use, each a superset of the controls;
- decoding, which keeps a percent sign that no two hexadecimal digits follow.

Does not own: form encoding, where `+` stands for a space (`Url.Form`).
-/

namespace LoginGate.Percent

def encodeByte (byte : UInt8) : Text := '%' :: Text.upperHexByte byte

def encode (encoded : Char -> Bool) (text : Text) : Text :=
  text.flatMap fun c => if encoded c then (Utf8.encodeChar c).flatMap encodeByte else [c]

/-! ## Classes -/

/-- C0 controls, DEL and everything outside ASCII. -/
def controls (c : Char) : Bool := c.toNat < 0x20 || 0x7F ≤ c.toNat

def fragment (c : Char) : Bool := controls c || " \"<>`".toList.contains c

def query (c : Char) : Bool := controls c || " \"#<>".toList.contains c

def specialQuery (c : Char) : Bool := query c || c == '\''

def path (c : Char) : Bool := fragment c || "#?\x7b\x7d".toList.contains c

def userInfo (c : Char) : Bool := path c || "/:;=@[\\]^|".toList.contains c

/-! ## Decoding -/

def hexByte? (high low : UInt8) : Option UInt8 := do
  let h <- Text.digitValue? 16 (Char.ofNat high.toNat)
  let l <- Text.digitValue? 16 (Char.ofNat low.toNat)
  return UInt8.ofNat (h * 16 + l)

/-- Replaces each `%` with two hexadecimal digits by the byte they name. -/
def decode : Bytes -> Bytes
  | [] => []
  | first :: rest =>
    if first = 0x25 then
      match rest with
      | high :: low :: rest' =>
        match hexByte? high low with
        | some byte => byte :: decode rest'
        | none => first :: decode (high :: low :: rest')
      | rest => first :: rest
    else first :: decode rest

end LoginGate.Percent
