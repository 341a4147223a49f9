/-!
Contract: text as a list of characters, and the cuts that every reader of a
small format needs: at a separator, at an affix, and at both ends by a
character class.

Owns:
- the type `Text` and its cutting and trimming functions;
- the laws that say that a cut loses nothing.

Does not own: which characters count as blank (`Text.Classes`), bytes
(`Text.Utf8`), or any format built from these cuts.
-/

namespace LoginGate

/-- Text is a list of characters, so that each rule is a rule on lists. -/
abbrev Text := List Char

abbrev Bytes := List UInt8

namespace Text

/-! ## Trimming -/

def trimStart (dropped : Char -> Bool) (text : Text) : Text :=
  text.dropWhile dropped

def trimEnd (dropped : Char -> Bool) (text : Text) : Text :=
  (text.reverse.dropWhile dropped).reverse

def trim (dropped : Char -> Bool) (text : Text) : Text :=
  trimEnd dropped (trimStart dropped text)

/-! ## Cutting at a separator -/

/-- Splits at the first occurrence of a separator, which belongs to neither part. -/
def cut (separator : Char) : Text -> Option (Text × Text)
  | [] => none
  | c :: rest =>
    if c = separator then some ([], rest)
    else (cut separator rest).map fun (before, after) => (c :: before, after)

/-- Splits at the last occurrence of a separator, which belongs to neither part. -/
def cutLast (separator : Char) (text : Text) : Option (Text × Text) :=
  (cut separator text.reverse).map fun (before, after) => (after.reverse, before.reverse)

/-- The text before the first character of a class, and the text from it on. -/
def breakAt (stop : Char -> Bool) (text : Text) : Text × Text :=
  (text.takeWhile (! stop ·), text.dropWhile (! stop ·))

/-- The parts between the occurrences of a class of separators; never empty. -/
def splitAny (separator : Char -> Bool) : Text -> List Text
  | [] => [[]]
  | c :: rest =>
    if separator c then [] :: splitAny separator rest
    else
      match splitAny separator rest with
      | [] => [[c]]
      | part :: parts => (c :: part) :: parts

def split (separator : Char) : Text -> List Text :=
  splitAny (· == separator)

/-! ## Affixes -/

def afterPrefix? : (beginning text : Text) -> Option Text
  | [], text => some text
  | _ :: _, [] => none
  | b :: beginning, c :: text => if b = c then afterPrefix? beginning text else none

def beforeSuffix? (ending text : Text) : Option Text :=
  (afterPrefix? ending.reverse text.reverse).map List.reverse

def join (separator : Text) : List Text -> Text
  | [] => []
  | [part] => part
  | part :: parts => part ++ separator ++ join separator parts

/-! ## Small laws -/

/-- Cutting loses only the separator, and the part before it holds none. -/
theorem cut_eq_some_iff {separator : Char} {text before after : Text} :
    cut separator text = some (before, after) ↔
      text = before ++ separator :: after ∧ separator ∉ before := by
  induction text generalizing before after with
  | nil => simp [cut]
  | cons c rest inductionHypothesis =>
    by_cases atSeparator : c = separator
    · subst atSeparator
      cases before with
      | nil => simp [cut]
      | cons d before => simp [cut]; grind
    · cases before with
      | nil => simp [cut, atSeparator]
      | cons d before =>
        simp only [cut, atSeparator, if_false, Option.map_eq_some_iff, Prod.exists, Prod.mk.injEq]
        constructor
        · rintro ⟨x, y, found, equal, rfl⟩
          obtain ⟨rfl, notMem⟩ := inductionHypothesis.1 found
          simp only [List.cons.injEq] at equal
          obtain ⟨rfl, rfl⟩ := equal
          exact ⟨rfl, by simp only [List.mem_cons, not_or]; exact ⟨Ne.symm atSeparator, notMem⟩⟩
        · rintro ⟨equal, notMem⟩
          simp only [List.cons_append, List.cons.injEq] at equal
          obtain ⟨rfl, rfl⟩ := equal
          refine ⟨before, after, inductionHypothesis.2 ⟨rfl, ?_⟩, rfl, rfl⟩
          exact fun member => notMem (List.mem_cons_of_mem _ member)

/-- A text has no cut exactly when it does not hold the separator. -/
theorem cut_eq_none_iff {separator : Char} {text : Text} :
    cut separator text = none ↔ separator ∉ text := by
  induction text with
  | nil => simp [cut]
  | cons c rest inductionHypothesis =>
    by_cases atSeparator : c = separator
    · simp [cut, atSeparator]
    · simp [cut, atSeparator, inductionHypothesis, Ne.symm atSeparator]

/-- So does cutting at the last occurrence, and the part behind it holds none. -/
theorem cutLast_eq_some_iff {separator : Char} {text before after : Text} :
    cutLast separator text = some (before, after) ↔
      text = before ++ separator :: after ∧ separator ∉ after := by
  simp only [cutLast, Option.map_eq_some_iff, Prod.exists, Prod.mk.injEq, cut_eq_some_iff]
  constructor
  · rintro ⟨reversedAfter, reversedBefore, ⟨shape, missing⟩, rfl, rfl⟩
    have restored := congrArg List.reverse shape
    exact ⟨by simpa using restored, by simpa using missing⟩
  · rintro ⟨rfl, missing⟩
    exact ⟨after.reverse, before.reverse, ⟨by simp, by simpa using missing⟩, by simp, by simp⟩

/-- Removing a beginning is undone by putting it back. -/
theorem afterPrefix?_eq_some_iff {beginning text rest : Text} :
    afterPrefix? beginning text = some rest ↔ text = beginning ++ rest := by
  fun_induction afterPrefix? beginning text with
  | case1 text => simp
  | case2 => simp
  | case3 b beginning text inductionHypothesis => simp [inductionHypothesis]
  | case4 b beginning c text different => simp [Ne.symm different]

/-- Removing an ending is undone by putting it back. -/
theorem beforeSuffix?_eq_some_iff {ending text rest : Text} :
    beforeSuffix? ending text = some rest ↔ text = rest ++ ending := by
  simp only [beforeSuffix?, Option.map_eq_some_iff, afterPrefix?_eq_some_iff]
  constructor
  · rintro ⟨reversed, equal, rfl⟩
    have := congrArg List.reverse equal
    simpa using this
  · rintro rfl
    exact ⟨rest.reverse, by simp, by simp⟩

/-- Splitting gives at least one part. -/
theorem splitAny_ne_nil (separator : Char -> Bool) (text : Text) :
    splitAny separator text ≠ [] := by
  fun_cases splitAny separator text <;> simp

end Text
end LoginGate
