import LoginGate.Text.Numeral

/-!
Contract: numeric host addresses.

Owns:
- the IPv4 reader, with one to four parts in octal, decimal or hexadecimal;
- the rule that a name must be read as IPv4 because its last part is a number;
- the IPv6 reader, with one compressed run and an IPv4 tail.

Does not own: how addresses are written (`Url.Basic`).
-/

namespace LoginGate.Url

/-! ## IPv4 -/

/-- Reads one part of an IPv4 address: hexadecimal after `0x`, octal after another leading zero,
else decimal. `0x` alone is zero. -/
def ipv4Part? (part : Text) : Option Nat :=
  match part with
  | [] => none
  | '0' :: 'x' :: digits | '0' :: 'X' :: digits => Text.digitsValue? 16 digits
  | '0' :: digit :: digits => Text.digitsValue? 8 (digit :: digits)
  | digits => Text.digitsValue? 10 digits

/-- The parts of a name between dots, without the empty one after a final dot. -/
def dottedParts (name : Text) : List Text :=
  let parts := Text.split '.' name
  if parts.getLast? = some [] then parts.dropLast else parts

/-- A name whose last part is a number can only be an IPv4 address. -/
def endsInNumber (name : Text) : Bool :=
  match (dottedParts name).getLast? with
  | none => false
  | some last => (!last.isEmpty && last.all Text.isDigit) || (ipv4Part? last).isSome

/-- Reads an IPv4 address; the last part fills all the bytes that the others leave. -/
def ipv4? (name : Text) : Option Nat := do
  let numbers <- (dottedParts name).mapM ipv4Part?
  let last <- numbers.getLast?
  let leading := numbers.dropLast
  if leading.length ≤ 3 && leading.all (· ≤ 255) && last < Nat.pow 256 (4 - leading.length) then
    let high := leading.foldl (fun value part => value * 256 + part) 0
    return high * Nat.pow 256 (4 - leading.length) + last
  else none

/-! ## IPv6 -/

def ipv6Piece? (digits : Text) : Option Nat :=
  if digits.length ≤ 4 then Text.toNat? 16 digits else none

def strictByte? (digits : Text) : Option Nat := do
  let value <- if digits.all Text.isDigit then Text.toNat? 10 digits else none
  if value ≤ 255 && (digits.length == 1 || digits.head? != some '0') then some value else none

def ipv4Pieces? (text : Text) : Option (List Nat) := do
  match <- (Text.split '.' text).mapM strictByte? with
  | [a, b, c, d] => some [a * 256 + b, c * 256 + d]
  | _ => none

/-- Pieces between colons; the last may be an IPv4 address and then counts as two. -/
def ipv6Group? : List Text -> Option (List Nat)
  | [] => some []
  | [last] =>
    if last.contains '.' then ipv4Pieces? last else (ipv6Piece? last).map ([·])
  | part :: parts => do
    let piece <- ipv6Piece? part
    let pieces <- ipv6Group? parts
    return piece :: pieces

def cutDoubleColon : Text -> Option (Text × Text)
  | [] => none
  | ':' :: ':' :: rest => some ([], rest)
  | c :: rest => (cutDoubleColon rest).map fun (before, after) => (c :: before, after)

def ipv6Side? (side : Text) : Option (List Nat) :=
  if side.isEmpty then some [] else ipv6Group? (Text.split ':' side)

/-- Reads the eight pieces of an IPv6 address; `::` stands for at least one zero piece, and an
IPv4 tail is read only at the end. -/
def ipv6? (text : Text) : Option (List Nat) :=
  match cutDoubleColon text with
  | none => do
    let pieces <- ipv6Side? text
    if pieces.length = 8 then some pieces else none
  | some (before, after) => do
    let left <- if before.contains '.' then none else ipv6Side? before
    let right <- ipv6Side? after
    if left.length + right.length ≤ 7 then
      some (left ++ List.replicate (8 - left.length - right.length) 0 ++ right)
    else none

end LoginGate.Url
