import LoginGate.Json.Literal

/-!
Contract: reading JSON texts.

Owns:
- the loops over the elements of an array and the fields of an object;
- the reader of a value and of an object, with a limit on nesting;
- the reader that skips a value without keeping it.

Does not own: records with known keys (`Json.Record`).

A loop gets as fuel the number of unread bytes, and every turn reads at least one of them; so the
fuel never runs out.
-/

namespace LoginGate.Json

/-- Reads the letters of a keyword behind its first one. -/
def readKeyword : Text -> Cursor -> Except ReadError Cursor
  | [], cursor => .ok cursor
  | letter :: letters, cursor =>
    match cursor.peek with
    | none => .error (cursor.errorHere .endInValue)
    | some c =>
      if c = letter then readKeyword letters cursor.advance
      else .error (cursor.errorNext .expectedIdent)

/-! ## Loops -/

/-- Finds the next item before a closing bracket: `none` at the bracket, else the cursor where the
item starts. -/
def nextItem (closing : Char) (ended : Cause) (start : Char -> Cursor -> Except ReadError Cursor)
    (cursor : Cursor) : Except ReadError (Option Cursor) :=
  let cursor := cursor.skipBlank
  match cursor.peek with
  | none => .error (cursor.errorNext ended)
  | some c => if c = closing then .ok none else (start c cursor).map some

section NextItem

variable {closing : Char} {ended : Cause} {start : Char -> Cursor -> Except ReadError Cursor}
  {cursor : Cursor}

theorem nextItem_eq_none_iff :
    nextItem closing ended start cursor = .ok none ↔ cursor.skipBlank.peek = some closing := by
  unfold nextItem
  dsimp only
  cases cursor.skipBlank.peek with
  | none => simp
  | some c =>
    by_cases closes : c = closing
    · simp [closes]
    · simp only [closes, if_false]
      cases start c cursor.skipBlank <;> simp [closes, Except.map]

theorem nextItem_eq_some_iff {next : Cursor} :
    nextItem closing ended start cursor = .ok (some next) ↔
      ∃ c, cursor.skipBlank.peek = some c ∧ c ≠ closing ∧ start c cursor.skipBlank = .ok next := by
  unfold nextItem
  dsimp only
  cases cursor.skipBlank.peek with
  | none => simp
  | some c =>
    by_cases closes : c = closing
    · simp [closes]
    · simp only [closes, if_false]
      cases started : start c cursor.skipBlank <;> simp [closes, started, Except.map]

end NextItem

/-- An element starts at once when it is the first, else behind a comma. -/
def elementStart (first : Bool) (c : Char) (cursor : Cursor) : Except ReadError Cursor :=
  if first then .ok cursor
  else if c = ',' then
    let next := cursor.advance.skipBlank
    match next.peek with
    | some ']' => .error (next.errorNext .trailingComma)
    | some _ => .ok next
    | none => .error (next.errorNext .endInValue)
  else .error (cursor.errorNext .expectedListComma)

def nextElement (first : Bool) : Cursor -> Except ReadError (Option Cursor) :=
  nextItem ']' .endInList (elementStart first)

/-- A key starts like an element and is read from behind its opening quote. -/
def keyStart (first : Bool) (c : Char) (cursor : Cursor) : Except ReadError Cursor :=
  if !first && c != ',' then .error (cursor.errorNext .expectedObjectComma)
  else
    let key := if first then cursor else cursor.advance.skipBlank
    match key.peek with
    | some '"' => .ok key.advance
    | some '\x7d' => .error (key.errorNext .trailingComma)
    | some _ => .error (key.errorNext .keyNotString)
    | none => .error (key.errorNext .endInValue)

def nextKey (first : Bool) : Cursor -> Except ReadError (Option Cursor) :=
  nextItem '\x7d' .endInObject (keyStart first)

def readColon (cursor : Cursor) : Except ReadError Cursor :=
  let cursor := cursor.skipBlank
  match cursor.peek with
  | some ':' => .ok cursor.advance
  | some _ => .error (cursor.errorNext .expectedColon)
  | none => .error (cursor.errorNext .endInObject)

/-- Reads the elements of an array up to its closing bracket, which stays unread. -/
def readElements {α : Type} (readOne : Cursor -> Except ReadError (α × Cursor)) :
    (fuel : Nat) -> (first : Bool) -> Cursor -> Except ReadError (List α × Cursor)
  | 0, _, cursor => .error (cursor.errorNext .endInList)
  | fuel + 1, first, cursor => do
    match <- nextElement first cursor with
    | none => return ([], cursor.skipBlank)
    | some cursor =>
      let (one, cursor) <- readOne cursor
      let (more, cursor) <- readElements readOne fuel false cursor
      return (one :: more, cursor)

def readFields (readOne : Cursor -> Except ReadError (Json × Cursor)) :
    (fuel : Nat) -> (first : Bool) -> Fields -> Cursor -> Except ReadError (Fields × Cursor)
  | 0, _, _, cursor => .error (cursor.errorNext .endInObject)
  | fuel + 1, first, fields, cursor => do
    match <- nextKey first cursor with
    | none => return (fields, cursor.skipBlank)
    | some cursor =>
      let (key, cursor) <- readString cursor
      let cursor <- readColon cursor
      let (value, cursor) <- readOne cursor
      readFields readOne fuel false (insert key value fields) cursor

/-! ## Values -/

def nestingLimit : Nat := 127

/-- Reads a value that may hold a number of further levels. -/
def readValue (nesting : Nat) (cursor : Cursor) : Except ReadError (Json × Cursor) :=
  let cursor := cursor.skipBlank
  match cursor.peek with
  | none => .error (cursor.errorNext .endInValue)
  | some 'n' => do return (.null, <- readKeyword "ull".toList cursor.advance)
  | some 't' => do return (.bool true, <- readKeyword "rue".toList cursor.advance)
  | some 'f' => do return (.bool false, <- readKeyword "alse".toList cursor.advance)
  | some '"' => do
    let (text, cursor) <- readString cursor.advance
    return (.string text, cursor)
  | some '[' =>
    match nesting with
    | 0 => .error (cursor.errorNext .tooDeep)
    | inner + 1 => do
      let (items, cursor) <-
        readElements (readValue inner) (cursor.rest.length + 1) true cursor.advance
      return (.array items, cursor.advance)
  | some '\x7b' =>
    match nesting with
    | 0 => .error (cursor.errorNext .tooDeep)
    | inner + 1 => do
      let (fields, cursor) <-
        readFields (readValue inner) (cursor.rest.length + 1) true [] cursor.advance
      return (.object fields, cursor.advance)
  | some c =>
    if c = '-' ∨ Text.isDigit c then do
      let (value, cursor) <- readNumber cursor
      return (.number value, cursor)
    else .error (cursor.errorNext .expectedValue)

/-- Runs a reader on a whole text; only blanks may follow. -/
def readWholeText {α : Type} (read : Cursor -> Except ReadError (α × Cursor)) (bytes : Bytes) :
    Except ReadError α := do
  let (value, cursor) <- read (Cursor.start bytes)
  let cursor := cursor.skipBlank
  if cursor.rest.isEmpty then return value else throw (cursor.errorNext .trailingCharacters)

def parse (bytes : Bytes) : Except ReadError Json :=
  readWholeText (readValue nestingLimit) bytes

/-! ## Skipping -/

/-- Skips a string from behind its opening quote. Escapes are checked, but surrogates and the
encoding are not. -/
def skipString (fuel : Nat) (cursor : Cursor) : Except ReadError Cursor :=
  match fuel with
  | 0 => .error (cursor.errorHere .endInString)
  | fuel + 1 =>
    match cursor.peek with
    | none => .error (cursor.errorHere .endInString)
    | some '"' => .ok cursor.advance
    | some '\\' =>
      let escaped := cursor.advance
      match escaped.peek with
      | none => .error (escaped.errorHere .endInString)
      | some 'u' =>
        match fourHex escaped.advance.rest with
        | .ok _ => skipString fuel (escaped.advance.advanceBy 4)
        | .error (cause, offset) => .error ((escaped.advance.advanceBy offset).errorHere cause)
      | some c =>
        if "\"\\/bfnrt".toList.contains c then skipString fuel escaped.advance
        else .error (escaped.errorNext .invalidEscape)
    | some c =>
      if c.toNat < 0x20 then .error (cursor.errorNext .controlInString)
      else skipString fuel cursor.advance

def skipNumber (cursor : Cursor) : Except ReadError Cursor := do
  let start := if cursor.peek = some '-' then cursor.advance else cursor
  if start.peek.isNone then throw (start.errorHere .invalidNumber)
  let (_, cursor) <- readWhole start
  let (_, cursor) <-
    if cursor.peek = some '.' then
      let (digits, after) := readDigits cursor.advance
      if digits.isEmpty then throw (after.errorNext .invalidNumber) else pure (digits, after)
    else pure ([], cursor)
  if cursor.peek = some 'e' ∨ cursor.peek = some 'E' then
    let signed := cursor.advance
    let digitsAt :=
      if signed.peek = some '+' ∨ signed.peek = some '-' then signed.advance else signed
    let (digits, after) := readDigits digitsAt
    if digits.isEmpty then throw (digitsAt.errorNext .invalidNumber) else return after
  else return cursor

/-- Skips a value of any nesting. Elements are separated by commas as in a value that is kept; a
comma too many is reported as a missing value or key. -/
def skipValue (fuel : Nat) (cursor : Cursor) : Except ReadError Cursor :=
  match fuel with
  | 0 => .error (cursor.errorNext .endInValue)
  | fuel + 1 =>
    let cursor := cursor.skipBlank
    match cursor.peek with
    | none => .error (cursor.errorNext .endInValue)
    | some 'n' => readKeyword "ull".toList cursor.advance
    | some 't' => readKeyword "rue".toList cursor.advance
    | some 'f' => readKeyword "alse".toList cursor.advance
    | some '"' => skipString (cursor.rest.length + 1) cursor.advance
    | some '[' =>
      let inside := cursor.advance.skipBlank
      match inside.peek with
      | none => .error (inside.errorNext .endInList)
      | some ']' => .ok inside.advance
      | some _ => skipItems fuel inside
    | some '\x7b' =>
      let inside := cursor.advance.skipBlank
      match inside.peek with
      | none => .error (inside.errorNext .endInObject)
      | some '\x7d' => .ok inside.advance
      | some _ => skipFields fuel inside
    | some c =>
      if c = '-' ∨ Text.isDigit c then skipNumber cursor
      else .error (cursor.errorNext .expectedValue)
where
  /-- Skips the elements of an array from the first on, and its closing bracket. -/
  skipItems (fuel : Nat) (cursor : Cursor) : Except ReadError Cursor :=
    match fuel with
    | 0 => .error (cursor.errorNext .endInList)
    | fuel + 1 => do
      let cursor := (<- skipValue fuel cursor).skipBlank
      match cursor.peek with
      | some ',' => skipItems fuel cursor.advance
      | some ']' => return cursor.advance
      | some _ => throw (cursor.errorNext .expectedListComma)
      | none => throw (cursor.errorNext .endInList)
  /-- Skips the fields of an object from the first on, and its closing brace. -/
  skipFields (fuel : Nat) (cursor : Cursor) : Except ReadError Cursor :=
    match fuel with
    | 0 => .error (cursor.errorNext .endInObject)
    | fuel + 1 => do
      let key := cursor.skipBlank
      match key.peek with
      | some '"' =>
        let colon := (<- skipString (key.rest.length + 1) key.advance)
        let cursor := (<- skipValue fuel (<- readColon colon)).skipBlank
        match cursor.peek with
        | some ',' => skipFields fuel cursor.advance
        | some '\x7d' => return cursor.advance
        | some _ => throw (cursor.errorNext .expectedObjectComma)
        | none => throw (cursor.errorNext .endInObject)
      | some _ => throw (key.errorNext .keyNotString)
      | none => throw (key.errorNext .endInObject)

end LoginGate.Json
