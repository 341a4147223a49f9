import LoginGate.Text.Basic

/-!
Contract: UTF-8 as bytes of text.

Owns:
- the encoding of a text;
- the division of any bytes into characters and maximal invalid pieces;
- the strict and the replacing decoder, both views of that division.

Does not own: any format written in those bytes.
-/

namespace LoginGate.Utf8

def encodeChar (c : Char) : Bytes := String.utf8EncodeChar c

def encode (text : Text) : Bytes := text.flatMap encodeChar

inductive Piece where
  /-- A well-formed character. -/
  | char (c : Char)
  /-- The longest beginning of a character that does not go on, or a byte that begins none. -/
  | invalid (bytes : Bytes)
deriving DecidableEq, Repr

/-- Reads continuation bytes. Only the first of them has a range of its own: it
excludes overlong forms, surrogates and numbers above the last code point. -/
def continuation : (missing : Nat) -> (low high : UInt8) -> (value : Nat) -> Bytes ->
    Option Nat × Bytes × Bytes
  | 0, _, _, value, rest => (some value, [], rest)
  | _ + 1, _, _, _, [] => (none, [], [])
  | missing + 1, low, high, value, byte :: rest =>
    if low ≤ byte ∧ byte ≤ high then
      let (found, used, rest) :=
        continuation missing 0x80 0xBF (value * 64 + (byte.toNat - 0x80)) rest
      (found, byte :: used, rest)
    else (none, [], byte :: rest)

/-- Reading continuation bytes never lengthens the rest. -/
theorem length_continuation_le (missing : Nat) (low high : UInt8) (value : Nat) (bytes : Bytes) :
    (continuation missing low high value bytes).2.2.length ≤ bytes.length := by
  fun_induction continuation missing low high value bytes <;> grind

/-- What a first byte announces: how many bytes follow, the range of the first of them, and the
bits it brings itself. -/
def lead? (byte : UInt8) : Option (Nat × UInt8 × UInt8 × Nat) :=
  if byte < 0x80 then some (0, 0, 0, byte.toNat)
  else if 0xC2 ≤ byte ∧ byte ≤ 0xDF then some (1, 0x80, 0xBF, byte.toNat - 0xC0)
  else if byte = 0xE0 then some (2, 0xA0, 0xBF, 0)
  else if byte = 0xED then some (2, 0x80, 0x9F, 0xD)
  else if 0xE1 ≤ byte ∧ byte ≤ 0xEF then some (2, 0x80, 0xBF, byte.toNat - 0xE0)
  else if byte = 0xF0 then some (3, 0x90, 0xBF, 0)
  else if 0xF1 ≤ byte ∧ byte ≤ 0xF3 then some (3, 0x80, 0xBF, byte.toNat - 0xF0)
  else if byte = 0xF4 then some (3, 0x80, 0x8F, 4)
  else none

def pieces : Bytes -> List Piece
  | [] => []
  | byte :: rest =>
    match lead? byte with
    | none => .invalid [byte] :: pieces rest
    | some (missing, low, high, value) =>
      let continued := continuation missing low high value rest
      let piece :=
        match continued.1 with
        | some scalar => Piece.char (Char.ofNat scalar)
        | none => .invalid (byte :: continued.2.1)
      piece :: pieces continued.2.2
termination_by bytes => bytes.length
decreasing_by
  · simp
  · have := length_continuation_le missing low high value rest
    simp only [List.length_cons]
    omega

def replacement : Char := Char.ofNat 0xFFFD

/-- Decodes any bytes; each invalid piece becomes one replacement character. -/
def decodeLossy (bytes : Bytes) : Text :=
  (pieces bytes).map fun
    | .char c => c
    | .invalid _ => replacement

def decode? (bytes : Bytes) : Option Text :=
  (pieces bytes).mapM fun
    | .char c => some c
    | .invalid _ => none

def Piece.size : Piece -> Nat
  | .char c => (encodeChar c).length
  | .invalid bytes => bytes.length

/-- How many bytes stand before the first invalid piece. -/
def validLength (bytes : Bytes) : Nat :=
  (((pieces bytes).takeWhile fun
    | .char _ => true
    | .invalid _ => false).map Piece.size).foldl (· + ·) 0

end LoginGate.Utf8
