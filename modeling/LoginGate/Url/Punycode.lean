import LoginGate.Text.Numeral

/-!
Contract: Punycode, the form of a label of any characters as letters, digits and hyphens.

Owns: the encoder and the decoder with the parameters of internationalized domain names.
Does not own: the mark `xn--`, or which labels may be encoded (`Url.Domain`).
-/

namespace LoginGate.Punycode

def adaptedBias (delta points : Nat) (first : Bool) : Nat :=
  let delta := if first then delta / 700 else delta / 2
  let delta := delta + delta / points
  scale delta 0
where
  /-- Divides by 35 until the delta is small, counting 36 each time. -/
  scale (delta bias : Nat) : Nat :=
    if 455 < delta then scale (delta / 35) (bias + 36)
    else bias + 36 * delta / (delta + 38)
  termination_by delta
  decreasing_by omega

def threshold (position bias : Nat) : Nat := min 26 (max 1 (position - bias))

def digit (value : Nat) : Char :=
  if value < 26 then Char.ofNat ('a'.toNat + value) else Char.ofNat ('0'.toNat + (value - 26))

def digitValue? (c : Char) : Option Nat :=
  if Text.isDigit c then some (c.toNat - '0'.toNat + 26)
  else if Text.isLetter c then some ((Text.asciiLower c).toNat - 'a'.toNat)
  else none

/-! ## Encoding -/

/-- A delta as digits of mixed weight, least significant first. -/
def encodeDelta (delta position bias : Nat) : Text :=
  let limit := threshold position bias
  if limit ≤ delta then
    digit (limit + (delta - limit) % (36 - limit)) ::
      encodeDelta ((delta - limit) / (36 - limit)) (position + 36) bias
  else [digit delta]
termination_by delta
decreasing_by
  rename_i reached
  have positive : 1 ≤ threshold position bias := by unfold threshold; omega
  exact Nat.lt_of_le_of_lt (Nat.div_le_self _ _) (by omega)

structure Encoder where
  /-- The code point that is being inserted. -/
  point : Nat := 128
  delta : Nat := 0
  bias : Nat := 72
  /-- How many characters are written already. -/
  handled : Nat
  output : Text
deriving Repr

/-- Passes one character of the label while `point` is being inserted. -/
def Encoder.pass (basic : Nat) (encoder : Encoder) (c : Char) : Encoder :=
  if c.toNat < encoder.point then { encoder with delta := encoder.delta + 1 }
  else if c.toNat = encoder.point then
    { encoder with
      output := encoder.output ++ encodeDelta encoder.delta 36 encoder.bias
      bias := adaptedBias encoder.delta (encoder.handled + 1) (encoder.handled == basic)
      delta := 0
      handled := encoder.handled + 1 }
  else encoder

def Encoder.insertPoint (label : Text) (basic : Nat) (encoder : Encoder) (point : Nat) : Encoder :=
  let skipped := (point - encoder.point) * (encoder.handled + 1)
  let encoder := { encoder with delta := encoder.delta + skipped, point := point }
  let encoder := label.foldl (Encoder.pass basic) encoder
  { encoder with delta := encoder.delta + 1, point := point + 1 }

/-- The encoded form of a label: its ASCII characters, a hyphen if there are any, and the digits
that say where the other characters stand. -/
def encode (label : Text) : Text :=
  let basic := label.filter fun c => c.toNat < 128
  let points := (((label.filter fun c => 128 ≤ c.toNat).map Char.toNat).mergeSort).eraseDups
  let start : Encoder :=
    { handled := basic.length, output := if basic.isEmpty then [] else basic ++ ['-'] }
  (points.foldl (Encoder.insertPoint label basic.length) start).output

/-! ## Decoding -/

/-- The progress of a decoder, between two digits. -/
structure Decoder where
  point : Nat := 128
  index : Nat := 0
  bias : Nat := 72
  /-- The index at which the current delta began. -/
  start : Nat := 0
  weight : Nat := 1
  position : Nat := 36
  output : Text
deriving Repr

/-- Inserts the character that an index names; the code points go up after each round through the
text. -/
def Decoder.insert (decoder : Decoder) (index : Nat) : Option Decoder :=
  let length := decoder.output.length + 1
  let point := decoder.point + index / length
  let place := index % length
  if Nat.isValidChar point then
    some {
      point, index := place + 1
      bias := adaptedBias (index - decoder.start) length (decoder.start == 0)
      start := place + 1
      output := decoder.output.take place ++ Char.ofNat point :: decoder.output.drop place }
  else none

/-- Reads one digit; the last digit of a delta inserts a character. -/
def Decoder.read (decoder : Decoder) (c : Char) : Option Decoder := do
  let value <- digitValue? c
  let index := decoder.index + value * decoder.weight
  let limit := threshold decoder.position decoder.bias
  if value < limit then decoder.insert index
  else
    return { decoder with
      index, weight := decoder.weight * (36 - limit), position := decoder.position + 36 }

/-- Reads an encoded label; `none` when digits are missing, foreign, or name no character. -/
def decode? (encoded : Text) : Option Text := do
  let (basic, digits) := (Text.cutLast '-' encoded).getD ([], encoded)
  let finished <- digits.foldlM Decoder.read { output := basic : Decoder }
  if finished.position = 36 then some finished.output else none

end LoginGate.Punycode
