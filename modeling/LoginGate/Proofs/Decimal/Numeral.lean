import LoginGate.Decimal.Plain
import LoginGate.Proofs.Text.Numeral

/-!
Contract: which texts are read as numbers.

Owns: the grammar of numbers with a sign, a point and an exponent, and the law that exactly the
texts of this grammar are read.

Does not own: how numbers are written (`Decimal.Canonical`), and which of them are integers
(`Environment.Spelling`).
-/

namespace LoginGate

namespace Text

/-- Digits end before what begins with no digit. -/
theorem breakAt_digits {digits rest : Text} (allDigits : ∀ c ∈ digits, isDigit c = true)
    (stops : ∀ c, rest.head? = some c -> isDigit c = false) :
    breakAt (! isDigit ·) (digits ++ rest) = (digits, rest) := by
  have stopped : rest.takeWhile isDigit = [] ∧ rest.dropWhile isDigit = rest := by
    cases rest with
    | nil => exact ⟨rfl, rfl⟩
    | cons c rest =>
      have other : ¬ isDigit c = true := by simp [stops c rfl]
      exact ⟨List.takeWhile_cons_of_neg other, List.dropWhile_cons_of_neg other⟩
  simp only [breakAt, Bool.not_not]
  rw [List.takeWhile_append_of_pos allDigits, List.dropWhile_append_of_pos allDigits, stopped.1,
    stopped.2, List.append_nil]

/-- Every text is digits and a rest that begins with no digit. -/
theorem exists_digits (text : Text) :
    ∃ digits rest, text = digits ++ rest ∧ (∀ c ∈ digits, isDigit c = true) ∧
      ∀ c, rest.head? = some c -> isDigit c = false := by
  refine ⟨text.takeWhile isDigit, text.dropWhile isDigit, List.takeWhile_append_dropWhile.symm,
    List.all_eq_true.1 List.all_takeWhile, ?_⟩
  intro c first
  have outside := List.head?_dropWhile_not isDigit text
  rw [first] at outside
  simpa using outside

theorem toNat?_ten_isSome_iff {digits : Text} :
    (toNat? 10 digits).isSome = true ↔ IsDigits digits := by
  rw [Option.isSome_iff_exists]
  simp only [toNat?_ten_eq_some_iff]
  exact ⟨fun ⟨_, allDigits, _⟩ => allDigits, fun allDigits => ⟨_, allDigits, rfl⟩⟩

end Text

namespace Decimal

open Text (IsDigits isDigit)

/-! ## Signs -/

def IsSign (sign : Text) : Prop := sign = [] ∨ sign = ['+'] ∨ sign = ['-']

namespace Extended

/-- What a sign is cut off from begins with no sign. -/
def Unsigned (text : Text) : Prop := text.head? ≠ some '+' ∧ text.head? ≠ some '-'

theorem cutSign_append {sign rest : Text} (isSign : IsSign sign) (bare : Unsigned rest) :
    cutSign (sign ++ rest) = (decide (sign = ['-']), rest) := by
  rcases isSign with rfl | rfl | rfl
  · rw [List.nil_append]
    unfold cutSign
    split
    · exact absurd rfl bare.2
    · exact absurd rfl bare.1
    · rfl
  · rfl
  · rfl

theorem exists_cutSign (text : Text) :
    ∃ sign, IsSign sign ∧ text = sign ++ (cutSign text).2 ∧
      (cutSign text).1 = decide (sign = ['-']) := by
  unfold cutSign
  split
  · exact ⟨['-'], .inr (.inr rfl), rfl, rfl⟩
  · exact ⟨['+'], .inr (.inl rfl), rfl, rfl⟩
  · exact ⟨[], .inl rfl, rfl, rfl⟩

theorem unsigned_of_isDigits {digits : Text} (allDigits : IsDigits digits) : Unsigned digits := by
  have digit : ∀ c, digits.head? = some c -> isDigit c = true :=
    fun c first => allDigits.2 c (List.mem_of_head? first)
  constructor
  · intro first
    exact absurd (digit _ first) (by decide)
  · intro first
    exact absurd (digit _ first) (by decide)

/-! ## Exponents -/

def IsExponent (text : Text) : Prop :=
  text = [] ∨ ∃ e sign digits, (e = 'e' ∨ e = 'E') ∧ IsSign sign ∧ IsDigits digits ∧
    text = e :: (sign ++ digits)

theorem asciiLower_eq_e_iff {c : Char} : Text.asciiLower c = 'e' ↔ c = 'e' ∨ c = 'E' := by
  unfold Text.asciiLower
  split
  · rename_i capital
    rw [Bool.and_eq_true, decide_eq_true_eq, decide_eq_true_eq] at capital
    have bounds : 65 ≤ c.toNat ∧ c.toNat ≤ 90 := capital
    have small : 'e'.toNat = 101 := rfl
    have large : 'E'.toNat = 69 := rfl
    have valid : (c.toNat + 32).isValidChar := .inl (by omega)
    have image : (Char.ofNat (c.toNat + 32)).toNat = c.toNat + 32 := by
      rw [Char.ofNat, dif_pos valid]
      rfl
    rw [← Char.toNat_inj, ← Char.toNat_inj, ← Char.toNat_inj, image]
    omega
  · rename_i other
    refine ⟨.inl, ?_⟩
    rintro (rfl | rfl)
    · rfl
    · exact absurd rfl other

theorem exponent?_isSome_iff {text : Text} : (exponent? text).isSome = true ↔ IsExponent text := by
  cases text with
  | nil => exact ⟨fun _ => .inl rfl, fun _ => rfl⟩
  | cons e rest =>
    obtain ⟨sign, isSign, shape, -⟩ := exists_cutSign rest
    have readable : (exponent? (e :: rest)).isSome = true ↔
        (e = 'e' ∨ e = 'E') ∧ IsDigits (cutSign rest).2 := by
      rw [← asciiLower_eq_e_iff, ← Text.toNat?_ten_isSome_iff, exponent?]
      by_cases letter : Text.asciiLower e = 'e'
      · simp [letter]
      · simp [letter]
    rw [readable]
    constructor
    · rintro ⟨letter, allDigits⟩
      exact .inr ⟨e, sign, (cutSign rest).2, letter, isSign, allDigits, by rw [← shape]⟩
    · rintro (empty | ⟨f, sign, digits, letter, isSign, allDigits, whole⟩)
      · cases empty
      · cases whole
        rw [cutSign_append isSign (unsigned_of_isDigits allDigits)]
        exact ⟨letter, allDigits⟩

/-- An exponent does not go on with digits or a point. -/
theorem IsExponent.not_digit {text : Text} (exponent : IsExponent text) {c : Char}
    (first : text.head? = some c) : isDigit c = false ∧ c ≠ '.' := by
  rcases exponent with rfl | ⟨e, sign, digits, rfl | rfl, -, -, rfl⟩
  · cases first
  · cases first
    decide
  · cases first
    decide

/-! ## Numbers -/

/-- Digits with a point before, within or after them or without one, and an exponent. -/
def IsMagnitude (text : Text) : Prop :=
  ∃ whole fraction exponent, (∀ c ∈ whole ++ fraction, isDigit c = true) ∧ whole ++ fraction ≠ [] ∧
    IsExponent exponent ∧
    (text = whole ++ '.' :: (fraction ++ exponent) ∨ fraction = [] ∧ text = whole ++ exponent)

def names : List Text := ["inf".toList, "infinity".toList, "nan".toList]

/-- A text that is read as a number: a sign, and then a name in any letter case or digits. -/
def IsNumeral (text : Text) : Prop :=
  ∃ sign rest, IsSign sign ∧ text = sign ++ rest ∧
    (Text.toAsciiLower rest ∈ names ∨ IsMagnitude rest)

private theorem unsigned?_pointed (negative : Bool) {whole fraction exponent : Text}
    (allWhole : ∀ c ∈ whole, isDigit c = true) (allFraction : ∀ c ∈ fraction, isDigit c = true)
    (stops : ∀ c, exponent.head? = some c -> isDigit c = false) :
    (unsigned? negative (whole ++ '.' :: (fraction ++ exponent))).isSome = true ↔
      whole ++ fraction ≠ [] ∧ IsExponent exponent := by
  have point : ∀ c, ('.' :: (fraction ++ exponent)).head? = some c -> isDigit c = false := by
    intro c first
    cases first
    rfl
  simp only [unsigned?, Text.breakAt_digits allWhole point, Text.breakAt_digits allFraction stops]
  rw [← exponent?_isSome_iff]
  cases whole <;> cases fraction <;> simp

private theorem unsigned?_whole (negative : Bool) {whole exponent : Text}
    (allWhole : ∀ c ∈ whole, isDigit c = true)
    (stops : ∀ c, exponent.head? = some c -> isDigit c = false ∧ c ≠ '.') :
    (unsigned? negative (whole ++ exponent)).isSome = true ↔
      whole ≠ [] ∧ IsExponent exponent := by
  rw [unsigned?, Text.breakAt_digits allWhole (fun c first => (stops c first).1)]
  dsimp only
  rw [← exponent?_isSome_iff]
  split
  · exact absurd rfl (stops '.' rfl).2
  · cases whole <;> simp

theorem unsigned?_isSome_iff {negative : Bool} {text : Text} :
    (unsigned? negative text).isSome = true ↔ IsMagnitude text := by
  constructor
  · intro isRead
    obtain ⟨whole, rest, rfl, allWhole, stops⟩ := Text.exists_digits text
    by_cases point : rest.head? = some '.'
    · obtain ⟨after, rfl⟩ := List.head?_eq_some_iff.1 point
      obtain ⟨fraction, exponent, rfl, allFraction, ends⟩ := Text.exists_digits after
      obtain ⟨notEmpty, isExponent⟩ := (unsigned?_pointed negative allWhole allFraction ends).1 isRead
      refine ⟨whole, fraction, exponent, ?_, notEmpty, isExponent, .inl rfl⟩
      exact List.forall_mem_append.2 ⟨allWhole, allFraction⟩
    · have stopsAll : ∀ c, rest.head? = some c -> isDigit c = false ∧ c ≠ '.' := by
        rintro c first
        refine ⟨stops c first, ?_⟩
        rintro rfl
        exact point first
      obtain ⟨notEmpty, isExponent⟩ := (unsigned?_whole negative allWhole stopsAll).1 isRead
      exact ⟨whole, [], rest, by simpa using allWhole, by simpa using notEmpty, isExponent,
        .inr ⟨rfl, rfl⟩⟩
  · rintro ⟨whole, fraction, exponent, allDigits, notEmpty, isExponent, rfl | ⟨rfl, rfl⟩⟩
    · obtain ⟨allWhole, allFraction⟩ := List.forall_mem_append.1 allDigits
      rw [unsigned?_pointed negative allWhole allFraction fun c first =>
        (isExponent.not_digit first).1]
      exact ⟨notEmpty, isExponent⟩
    · rw [List.append_nil] at allDigits notEmpty
      rw [unsigned?_whole negative allDigits fun c first => isExponent.not_digit first]
      exact ⟨notEmpty, isExponent⟩

private theorem unsigned_of_isMagnitude {text : Text} (magnitude : IsMagnitude text) :
    Unsigned text := by
  obtain ⟨whole, fraction, exponent, allDigits, notEmpty, -, shape⟩ := magnitude
  have first : ∀ c, text.head? = some c -> isDigit c = true ∨ c = '.' := by
    intro c starts
    cases whole with
    | cons d rest =>
      have begins : d = c := by
        rcases shape with rfl | ⟨rfl, rfl⟩ <;> exact Option.some.inj starts
      exact .inl (begins ▸ allDigits d (by simp))
    | nil =>
      rcases shape with rfl | ⟨rfl, rfl⟩
      · exact .inr (Option.some.inj starts).symm
      · exact absurd rfl notEmpty
  constructor
  · intro starts
    exact absurd (first _ starts) (by decide)
  · intro starts
    exact absurd (first _ starts) (by decide)

private theorem unsigned_of_mem_names {text : Text} (member : Text.toAsciiLower text ∈ names) :
    Unsigned text := by
  have first : ∀ name ∈ names, name.head? ≠ some '+' ∧ name.head? ≠ some '-' := by decide
  have lowered := first _ member
  cases text with
  | nil => exact ⟨by simp, by simp⟩
  | cons c rest =>
    constructor
    · intro starts
      cases starts
      exact lowered.1 rfl
    · intro starts
      cases starts
      exact lowered.2 rfl

/-- A sign is ignored when a text is told from a number. -/
theorem read?_isSome_iff_behind_sign {text : Text} :
    (read? text).isSome = true ↔
      Text.toAsciiLower (cutSign text).2 ∈ names ∨ IsMagnitude (cutSign text).2 := by
  have named (name : Text) : name ∈ names ↔
      (name = "inf".toList ∨ name = "infinity".toList) ∨ name = "nan".toList := by
    rw [names, List.mem_cons, List.mem_cons, List.mem_singleton, or_assoc]
  rw [named, ← @unsigned?_isSome_iff (cutSign text).1]
  unfold read?
  dsimp only
  split
  · rename_i infinite
    exact ⟨fun _ => .inl (.inl infinite), fun _ => rfl⟩
  · rename_i notInfinite
    split
    · rename_i notANumber
      exact ⟨fun _ => .inl (.inr notANumber), fun _ => rfl⟩
    · rename_i other
      rw [or_iff_right (not_or.2 ⟨notInfinite, other⟩)]

theorem read?_isSome_iff {text : Text} : (read? text).isSome = true ↔ IsNumeral text := by
  rw [read?_isSome_iff_behind_sign]
  constructor
  · intro behind
    obtain ⟨sign, isSign, shape, -⟩ := exists_cutSign text
    exact ⟨sign, (cutSign text).2, isSign, shape, behind⟩
  · rintro ⟨sign, rest, isSign, rfl, behind⟩
    have bare : Unsigned rest := behind.elim unsigned_of_mem_names unsigned_of_isMagnitude
    rw [cutSign_append isSign bare]
    exact behind

end Extended
end Decimal
end LoginGate
