import LoginGate.Decimal.Shortest

/-!
Contract: JSON values whose objects keep the order of their keys.

Owns:
- numbers and values;
- look-up, insertion and removal in the fields of an object;
- the compact text of a value.

Does not own: reading (`Json.Reader`) and the records read from objects (`Json.Record`).
-/

namespace LoginGate

/-- A number of a JSON text: exact when it is an integer of 64 bits with or without sign, else the
nearest floating-point number. -/
inductive Json.Number where
  | integer (value : Int)
  | float (value : Double)
deriving DecidableEq, Repr

/-- A JSON value. The fields of an object have distinct keys, in order of first appearance. -/
inductive Json where
  | null
  | bool (value : Bool)
  | number (value : Json.Number)
  | string (text : Text)
  | array (items : List Json)
  | object (fields : List (Text × Json))
deriving Repr

namespace Json

abbrev Fields := List (Text × Json)

/-! ## Fields -/

def lookup (key : Text) : Fields -> Option Json
  | [] => none
  | (k, value) :: rest => if k = key then some value else lookup key rest

/-- Sets a key: a key that is there keeps its place, a new one is added at the end. -/
def insert (key : Text) (value : Json) : Fields -> Fields
  | [] => [(key, value)]
  | (k, old) :: rest =>
    if k = key then (k, value) :: rest else (k, old) :: insert key value rest

def erase (key : Text) (fields : Fields) : Fields := fields.filter (·.1 ≠ key)

def text? : Json -> Option Text
  | .string text => some text
  | _ => none

/-! ## Numbers as text -/

/-- Digits with a point: `whole` of them before it, filled up with zeros on either side. -/
def positional (digits : Text) (exponent : Int) : Text :=
  if exponent < 0 then
    "0.".toList ++ List.replicate (-exponent - 1).toNat '0' ++ digits
  else
    let whole := exponent.toNat + 1
    let fraction := digits.drop whole
    digits.take whole ++ List.replicate (whole - digits.length) '0' ++
      '.' :: (if fraction.isEmpty then ['0'] else fraction)

/-- Digits with an exponent of ten that has a sign and at least two digits. -/
def scientific (digits : Text) (exponent : Int) : Text :=
  let fraction := digits.drop 1
  digits.take 1 ++ (if fraction.isEmpty then [] else '.' :: fraction) ++
    'e' :: (if exponent < 0 then '-' else '+') :: Text.padZeros 2 (Text.ofNat exponent.natAbs)

/-- The shortest text of a floating-point number, positional from `10 ^ -5` to below `10 ^ 16`. -/
def floatText (x : Double) : Text :=
  let unsigned :=
    if x.isZero then "0.0".toList
    else
      let { digits, exponent } := Decimal.shortest x
      if -5 ≤ exponent ∧ exponent ≤ 15 then positional digits exponent
      else scientific digits exponent
  if x.negative then '-' :: unsigned else unsigned

def Number.text : Number -> Text
  | .integer value => Text.ofInt value
  | .float value => floatText value

/-! ## Values as text -/

def escapeChar (c : Char) : Text :=
  if c = '"' then "\\\"".toList
  else if c = '\\' then "\\\\".toList
  else if c.toNat = 8 then "\\b".toList
  else if c = '\t' then "\\t".toList
  else if c = '\n' then "\\n".toList
  else if c.toNat = 12 then "\\f".toList
  else if c = '\r' then "\\r".toList
  else if c.toNat < 0x20 then "\\u".toList ++ Text.padZeros 4 (Text.hexOfNat c.toNat)
  else [c]

def quoted (text : Text) : Text := '"' :: text.flatMap escapeChar ++ ['"']

mutual

def render : Json -> Text
  | .null => "null".toList
  | .bool true => "true".toList
  | .bool false => "false".toList
  | .number value => value.text
  | .string text => quoted text
  | .array items => '[' :: renderItems items ++ [']']
  | .object fields => '{' :: renderFields fields ++ ['}']

def renderItems : List Json -> Text
  | [] => []
  | [item] => render item
  | item :: items => render item ++ ',' :: renderItems items

def renderFields : List (Text × Json) -> Text
  | [] => []
  | [(key, value)] => quoted key ++ ':' :: render value
  | (key, value) :: fields => quoted key ++ ':' :: render value ++ ',' :: renderFields fields

end

end Json
end LoginGate
