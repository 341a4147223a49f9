import LoginGate.Text.Basic

/-!
Contract: bytes as digits of base 64.

Owns: the two alphabets and the grouping of bytes, with or without padding at the end.
Does not own: what is written that way (`Provider.Wire`, `Flow.State`).
-/

namespace LoginGate.Base64

/-- The characters that the two alphabets share, in the order of their values. -/
def shared : Text :=
  "ABCDEFGHIJKLMNOPQRSTUVWXYZabcdefghijklmnopqrstuvwxyz0123456789".toList

def standard : Text := shared ++ ['+', '/']

/-- The digits of the alphabet that needs no escape in a URL. -/
def urlSafe : Text := shared ++ ['-', '_']

def digit (alphabet : Text) (n : Nat) : Char := alphabet.getD (n % 64) 'A'

/-- Three bytes are four digits; one or two bytes at the end are two or three. -/
def digits (alphabet : Text) : Bytes -> Text
  | a :: b :: c :: rest =>
    let n := a.toNat * 65536 + b.toNat * 256 + c.toNat
    digit alphabet (n / 262144) :: digit alphabet (n / 4096) :: digit alphabet (n / 64) ::
      digit alphabet n :: digits alphabet rest
  | [a, b] =>
    let n := a.toNat * 1024 + b.toNat * 4
    [digit alphabet (n / 4096), digit alphabet (n / 64), digit alphabet n]
  | [a] => [digit alphabet (a.toNat / 4), digit alphabet (a.toNat * 16)]
  | [] => []

def padded (text : Text) : Text :=
  text ++ List.replicate ((4 - text.length % 4) % 4) '='

end LoginGate.Base64
