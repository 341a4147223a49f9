import LoginGate.Environment.Scalar

/-!
Contract: environment variables as a tree of settings.

Owns:
- the path that the name of a variable spells;
- setting the value at a path, which makes the tables and lists on its way.

Does not own: what a setting must be (`Environment.Reader`).
-/

namespace LoginGate.Environment

/-- A setting: nothing, one value, or further settings by name or by position. -/
inductive Setting where
  | unset
  | scalar (value : Scalar)
  | table (entries : List (Text × Setting))
  | list (items : List Setting)
deriving Repr

inductive Step where
  | entry (name : Text)
  /-- A position in a list, from its end when negative. -/
  | item (position : Int)
deriving DecidableEq, Repr

/-! ## Paths -/

def isNameChar (c : Char) : Bool := Text.isAlphanumeric c || c == '_' || c == '-'

/-- Two underscores in the name of a variable lead to an entry. -/
def dotted : Text -> Text
  | '_' :: '_' :: rest => '.' :: dotted rest
  | c :: rest => c :: dotted rest
  | [] => []

/-- A position between brackets, which blanks may surround; a number of 64 bits. -/
def position? (text : Text) : Option Int := do
  let text := Text.trim (fun c => c == ' ' || c == '\t') text
  let (negative, digits) :=
    match text with
    | '-' :: digits => (true, digits)
    | _ => (false, text)
  let magnitude <- Text.toNat? 10 digits
  let position : Int := if negative then -(magnitude : Int) else magnitude
  if Word.minSigned64 ≤ position ∧ position ≤ Word.maxSigned64 then some position else none

def steps? (text : Text) : Option (List Step) :=
  match text with
  | [] => some []
  | '.' :: rest =>
    let name := rest.takeWhile isNameChar
    if name.isEmpty then none
    else (steps? (rest.dropWhile isNameChar)).map (.entry name :: ·)
  | '[' :: rest =>
    match _found : Text.cut ']' rest with
    | none => none
    | some (inner, rest) => do
      let position <- position? inner
      return .item position :: (<- steps? rest)
  | _ => none
termination_by text.length
decreasing_by
  · have := (List.dropWhile_suffix (l := rest) isNameChar).length_le
    simp only [List.length_cons]
    omega
  · have shape := (Text.cut_eq_some_iff.1 _found).1
    simp only [shape, List.length_cons, List.length_append]
    omega

def path? (name : Text) : Option (List Step) := steps? ('.' :: dotted (Unicode.toLower name))

/-! ## Setting a value -/

def Setting.items : Setting -> List Setting
  | .list items => items
  | _ => []

def Setting.entries : Setting -> List (Text × Setting)
  | .table entries => entries
  | _ => []

def lookup (name : Text) (entries : List (Text × Setting)) : Option Setting :=
  (entries.find? (·.1 = name)).map (·.2)

def replace (name : Text) (setting : Setting) :
    List (Text × Setting) -> List (Text × Setting)
  | [] => [(name, setting)]
  | (other, old) :: rest =>
    if other = name then (name, setting) :: rest else (other, old) :: replace name setting rest

/-- Makes room for a position: the items with that position, and its number from the start. -/
def withRoom (items : List Setting) (position : Int) : List Setting × Nat :=
  let count : Int := items.length
  if 0 ≤ position then
    (items ++ List.replicate (position.toNat + 1 - items.length) .unset, position.toNat)
  else if 0 ≤ count + position then (items, (count + position).toNat)
  else (List.replicate (-(count + position)).toNat .unset ++ items, 0)

/-- Sets the value at the end of a path. What stands in the way is replaced. -/
def Setting.set (value : Scalar) : List Step -> Setting -> Setting
  | [], _ => .scalar value
  | .entry name :: steps, old =>
    let below := (lookup name old.entries).getD .unset
    .table (replace name (Setting.set value steps below) old.entries)
  | .item position :: steps, old =>
    let (items, index) := withRoom old.items position
    .list (items.set index (Setting.set value steps (items.getD index .unset)))

/-- The settings of an environment. A variable whose name is no path sets nothing; of two with one
path the later counts. -/
def ofVariables (entries : List (Text × Text)) : Setting :=
  entries.foldl (fun tree (name, value) =>
    match path? name with
    | some steps => tree.set (.ofText value) steps
    | none => tree) (.table [])

end LoginGate.Environment
