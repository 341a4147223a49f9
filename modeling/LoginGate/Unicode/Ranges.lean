import LoginGate.Text.Numeral

/-!
Contract: Unicode tables and how they are looked up.

Owns:
- sets of code points, as ranges;
- maps from code points to lists of code points;
- code points written as hexadecimal numbers.

Does not own: the tables themselves, which stand in the modules named for their property.
-/

namespace LoginGate.Unicode

/-- Reads a hexadecimal number; a text that is none counts as zero. -/
def codePoint (digits : Text) : Nat := (Text.toNat? 16 digits).getD 0

/-- Membership in a set of ranges, with both ends of each included. -/
def covers (ranges : List (Nat × Nat)) (n : Nat) : Bool :=
  ranges.any fun (first, last) => first ≤ n && n ≤ last

/-- An entry of a map: every `step`-th code point from `first` to `last`. The image of `first` is
`images`; when that is a single code point, it moves along with the argument. -/
structure Entry where
  first : Nat
  last : Nat
  step : Nat
  images : List Nat
deriving DecidableEq, Repr

def images? (entries : List Entry) (n : Nat) : Option (List Nat) :=
  (entries.find? fun entry =>
    entry.first ≤ n && n ≤ entry.last && (n - entry.first) % entry.step == 0).map fun entry =>
      match entry.images with
      | [image] => [image + (n - entry.first)]
      | images => images

end LoginGate.Unicode
