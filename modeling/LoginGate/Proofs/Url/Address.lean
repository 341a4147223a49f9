import LoginGate.Proofs.Text.Numeral
import LoginGate.Proofs.Text.Split
import LoginGate.Proofs.Text.Utf8
import LoginGate.Url.Address
import LoginGate.Url.Basic

/-!
Contract: numeric host addresses are read back from the text that they are written as.

Owns:
- digits in any base up to 16, read back as their number;
- IPv4 addresses of 32 bits and IPv6 addresses of eight pieces;
- the bounds of the addresses that the readers give.

Does not own: the brackets around an IPv6 address (`Proofs.Url.Reread`).
-/

namespace LoginGate

/-! ## Digits -/

namespace Text

private theorem digitValue?_digitChar {base value : Nat} (small : value < base)
    (bounded : base ≤ 16) :
    digitValue? base value.digitChar = some value := by
  have every : ∀ value, value < 16 -> ∀ base, base < 17 -> value < base ->
      digitValue? base value.digitChar = some value := by
    decide
  exact every value (by omega) base (by omega) small

/-- The digits of a number are read back as the number. -/
theorem digitsValue?_toDigits {base : Nat} (atLeast : 1 < base) (bounded : base ≤ 16) (n : Nat) :
    digitsValue? base (Nat.toDigits base n) = some n := by
  induction n using Nat.strongRecOn with
  | ind n inductionHypothesis =>
    by_cases small : n < base
    · rw [Nat.toDigits_of_lt_base small]
      simp [digitsValue?, digitValue?_digitChar small bounded]
    · have quotient := inductionHypothesis (n / base) (Nat.div_lt_self (by omega) atLeast)
      have rest : n % base < base := Nat.mod_lt n (by omega)
      have whole : n / base * base + n % base = n := Nat.div_add_mod' n base
      unfold digitsValue? at quotient ⊢
      rw [Nat.toDigits_of_base_le atLeast (by omega), List.foldlM_append, quotient]
      simp [digitValue?_digitChar rest bounded, whole]

theorem toNat?_toDigits {base : Nat} (atLeast : 1 < base) (bounded : base ≤ 16) (n : Nat) :
    toNat? base (Nat.toDigits base n) = some n := by
  unfold toNat?
  rw [if_neg (by simp), digitsValue?_toDigits atLeast bounded]

private theorem exists_digit_of_mem_toDigits {base n : Nat} (atLeast : 1 < base) {c : Char}
    (member : c ∈ Nat.toDigits base n) : ∃ value < base, c = value.digitChar := by
  induction n using Nat.strongRecOn with
  | ind n inductionHypothesis =>
    by_cases small : n < base
    · rw [Nat.toDigits_of_lt_base small] at member
      exact ⟨n, small, List.mem_singleton.1 member⟩
    · rw [Nat.toDigits_of_base_le atLeast (by omega), List.mem_append] at member
      rcases member with before | last
      · exact inductionHypothesis (n / base) (Nat.div_lt_self (by omega) atLeast) before
      · exact ⟨n % base, Nat.mod_lt n (by omega), List.mem_singleton.1 last⟩

def IsHexDigit (c : Char) : Prop := 48 ≤ c.toNat ∧ c.toNat ≤ 57 ∨ 97 ≤ c.toNat ∧ c.toNat ≤ 102

theorem isHexDigit_of_mem_hexOfNat {n : Nat} {c : Char} (member : c ∈ hexOfNat n) :
    IsHexDigit c := by
  obtain ⟨value, small, rfl⟩ := exists_digit_of_mem_toDigits (by decide) member
  have every : ∀ value, value < 16 -> 48 ≤ value.digitChar.toNat ∧ value.digitChar.toNat ≤ 57 ∨
      97 ≤ value.digitChar.toNat ∧ value.digitChar.toNat ≤ 102 := by
    decide
  exact every value small

/-- Digits name a number below the power of the base that their count names. -/
theorem lt_pow_of_digitsValue? {base : Nat} {digits : Text} {n : Nat}
    (read : digitsValue? base digits = some n) : n < Nat.pow base digits.length := by
  have general : ∀ (digits : Text) (start : Nat), digits.foldlM
      (fun value c => (digitValue? base c).map (value * base + ·)) start = some n ->
      n < (start + 1) * Nat.pow base digits.length := by
    intro digits
    induction digits with
    | nil =>
      intro start read
      cases read
      exact Nat.lt_of_lt_of_eq (Nat.lt_succ_self _) (Nat.mul_one _).symm
    | cons c rest inductionHypothesis =>
      intro start read
      rw [List.foldlM_cons] at read
      simp only [Option.bind_eq_bind, Option.bind_eq_some_iff, Option.map_eq_some_iff] at read
      obtain ⟨_, ⟨value, digit, rfl⟩, readRest⟩ := read
      have small : value < base := by
        unfold digitValue? at digit
        dsimp only at digit
        rw [Option.ite_none_right_eq_some, Option.some.injEq] at digit
        exact digit.2 ▸ digit.1
      refine Nat.lt_of_lt_of_le (inductionHypothesis _ readRest) ?_
      have more : Nat.pow base (rest.length + 1) = Nat.pow base rest.length * base := rfl
      rw [List.length_cons, more, Nat.mul_comm (Nat.pow base rest.length), ← Nat.mul_assoc]
      apply Nat.mul_le_mul_right
      rw [Nat.add_mul]
      omega
  have below := general digits 0 read
  rwa [Nat.zero_add, Nat.one_mul] at below

end Text

namespace Url

/-! ## IPv4 -/

private theorem ipv4Part?_ofNat (n : Nat) : ipv4Part? (Text.ofNat n) = some n := by
  have whole := Text.isWhole_ofNat n
  have value : Text.digitsValue? 10 (Text.ofNat n) = some n :=
    Text.digitsValue?_toDigits (by decide) (by decide) n
  unfold ipv4Part?
  split
  · rename_i empty
    exact absurd empty whole.1.1
  · rename_i digits begins
    rw [begins] at whole
    exact absurd (whole.2 rfl) (by simp)
  · rename_i digits begins
    rw [begins] at whole
    exact absurd (whole.2 rfl) (by simp)
  · rename_i digit digits begins
    rw [begins] at whole
    exact absurd (whole.2 rfl) (by simp)
  · exact value

def ipv4Bytes (address : Nat) : List Nat :=
  [24, 16, 8, 0].map fun shift => address / Nat.pow 2 shift % 256

private theorem dot_not_mem_ofNat (n : Nat) : '.' ∉ Text.ofNat n := by
  intro member
  exact absurd ((Text.isWhole_ofNat n).1.2 '.' member) (by decide)

theorem split_ipv4Text (address : Nat) :
    Text.split '.' (ipv4Text address) = (ipv4Bytes address).map Text.ofNat := by
  have joined : ipv4Text address = Text.join ['.'] ((ipv4Bytes address).map Text.ofNat) := rfl
  rw [joined]
  refine Text.split_join (by simp [ipv4Bytes]) ?_
  intro part member
  obtain ⟨n, -, rfl⟩ := List.mem_map.1 member
  exact dot_not_mem_ofNat n

private theorem dottedParts_ipv4Text (address : Nat) :
    dottedParts (ipv4Text address) = (ipv4Bytes address).map Text.ofNat := by
  unfold dottedParts
  dsimp only
  rw [split_ipv4Text, if_neg]
  intro last
  have empty : Text.ofNat (address / Nat.pow 2 0 % 256) = [] := Option.some.inj last
  exact (Text.isWhole_ofNat _).1.1 empty

theorem endsInNumber_ipv4Text (address : Nat) : endsInNumber (ipv4Text address) = true := by
  have last : ((ipv4Bytes address).map Text.ofNat).getLast? =
      some (Text.ofNat (address / Nat.pow 2 0 % 256)) := rfl
  unfold endsInNumber
  rw [dottedParts_ipv4Text, last]
  simp [ipv4Part?_ofNat]

theorem ipv4Text_ne_nil (address : Nat) : ipv4Text address ≠ [] := by
  intro empty
  have ends := endsInNumber_ipv4Text address
  rw [empty] at ends
  cases ends

/-- An address of 32 bits is read back from its text. -/
theorem ipv4?_ipv4Text {address : Nat} (bounded : address < 0x100000000) :
    ipv4? (ipv4Text address) = some address := by
  have numbers : ((ipv4Bytes address).map Text.ofNat).mapM ipv4Part? = some (ipv4Bytes address) := by
    simp [ipv4Bytes, ipv4Part?_ofNat]
  unfold ipv4?
  rw [dottedParts_ipv4Text, numbers]
  have bytes : ipv4Bytes address =
      [address / 16777216 % 256, address / 65536 % 256, address / 256 % 256, address % 256] := by
    simp [ipv4Bytes]
  rw [bytes]
  simp only [Option.bind_eq_bind, Option.bind_some, List.getLast?_cons_cons, List.getLast?_singleton,
    List.dropLast_cons_cons, List.dropLast_singleton, List.length_cons, List.length_nil,
    List.all_cons, List.all_nil, List.foldl_cons, List.foldl_nil, Nat.reduceAdd, Nat.reduceLeDiff,
    Nat.reduceSub, Nat.pow_eq, Nat.pow_one, Bool.and_eq_true, decide_eq_true_eq,
    Option.ite_none_right_eq_some, Option.pure_def, Option.some.injEq, true_and, and_true]
  omega

theorem lt_of_ipv4? {name : Text} {address : Nat} (read : ipv4? name = some address) :
    address < 0x100000000 := by
  unfold ipv4? at read
  simp only [Option.bind_eq_bind, Option.bind_eq_some_iff] at read
  obtain ⟨numbers, -, last, -, checked⟩ := read
  rw [Option.ite_none_right_eq_some] at checked
  obtain ⟨passes, same⟩ := checked
  have same := Option.some.inj same
  simp only [Bool.and_eq_true, decide_eq_true_eq, List.all_eq_true] at passes
  obtain ⟨⟨few, bytes⟩, small⟩ := passes
  rcases leading : numbers.dropLast with _ | ⟨a, _ | ⟨b, _ | ⟨c, _ | ⟨d, rest⟩⟩⟩⟩
  all_goals
    simp only [leading, List.mem_cons, List.not_mem_nil, or_false, forall_eq_or_imp, forall_eq,
      List.foldl_cons, List.foldl_nil, List.length_cons, List.length_nil, Nat.reduceAdd,
      Nat.reduceSub, Nat.pow_eq, Nat.reducePow, Nat.pow_one, Nat.zero_mul, Nat.zero_add]
      at few bytes same small
    omega

/-! ## IPv6 -/

def IsIpv6 (pieces : List Nat) : Prop := pieces.length = 8 ∧ ∀ piece ∈ pieces, piece < 65536

private theorem ipv6Piece?_hexOfNat {piece : Nat} (small : piece < 65536) :
    ipv6Piece? (Text.hexOfNat piece) = some piece := by
  have short : (Text.hexOfNat piece).length ≤ 4 :=
    (Nat.length_toDigits_le_iff (by decide) (by decide)).2 small
  unfold ipv6Piece?
  rw [if_pos short]
  exact Text.toNat?_toDigits (by decide) (by decide) piece

private theorem not_mem_hexOfNat {c : Char} (noDigit : ¬ Text.IsHexDigit c) (n : Nat) :
    c ∉ Text.hexOfNat n :=
  fun member => noDigit (Text.isHexDigit_of_mem_hexOfNat member)

private theorem ipv6Group?_map_hexOfNat {pieces : List Nat}
    (small : ∀ piece ∈ pieces, piece < 65536) :
    ipv6Group? (pieces.map Text.hexOfNat) = some pieces := by
  induction pieces with
  | nil => rfl
  | cons piece rest inductionHypothesis =>
    rw [List.forall_mem_cons] at small
    cases rest with
    | nil =>
      have noDot : '.' ∉ Text.hexOfNat piece :=
        not_mem_hexOfNat (by unfold Text.IsHexDigit; decide) piece
      simp [ipv6Group?, ipv6Piece?_hexOfNat small.1, noDot]
    | cons next rest =>
      have later := inductionHypothesis small.2
      rw [List.map_cons] at later
      rw [List.map_cons, List.map_cons, ipv6Group?, ipv6Piece?_hexOfNat small.1, later]
      · rfl
      · rintro ⟨⟩

def colons (pieces : List Nat) : Text := Text.join [':'] (pieces.map Text.hexOfNat)

private theorem ipv6Side?_colons {pieces : List Nat} (small : ∀ piece ∈ pieces, piece < 65536) :
    ipv6Side? (colons pieces) = some pieces := by
  cases pieces with
  | nil => rfl
  | cons piece rest =>
    have parts : Text.split ':' (colons (piece :: rest)) = (piece :: rest).map Text.hexOfNat := by
      refine Text.split_join (by simp) ?_
      intro part member
      obtain ⟨n, -, rfl⟩ := List.mem_map.1 member
      exact not_mem_hexOfNat (by unfold Text.IsHexDigit; decide) n
    have filled : (colons (piece :: rest)).isEmpty = false := by
      rw [Bool.eq_false_iff, Ne, List.isEmpty_iff]
      intro empty
      have parted := parts
      rw [empty] at parted
      have first : ([] : Text) = Text.hexOfNat piece := (List.cons.inj parted).1
      exact Nat.toDigits_ne_nil first.symm
    unfold ipv6Side?
    rw [filled, parts]
    exact ipv6Group?_map_hexOfNat small

private theorem cutDoubleColon_append {part : Text} (missing : ':' ∉ part) (rest : Text) :
    cutDoubleColon (part ++ rest) =
      (cutDoubleColon rest).map fun (before, after) => (part ++ before, after) := by
  induction part with
  | nil => simp
  | cons c part inductionHypothesis =>
    rw [List.mem_cons, not_or] at missing
    rw [List.cons_append, cutDoubleColon, inductionHypothesis missing.2, Option.map_map]
    · rfl
    · intro others begins
      exact absurd begins.symm missing.1

/-- Between the pieces there is no double colon, and none begins at the last of them. -/
theorem cutDoubleColon_colons_append (pieces : List Nat) (rest : Text) :
    cutDoubleColon (colons pieces ++ rest) =
      (cutDoubleColon rest).map fun (before, after) => (colons pieces ++ before, after) := by
  have noColon : ∀ n, ':' ∉ Text.hexOfNat n :=
    not_mem_hexOfNat (by unfold Text.IsHexDigit; decide)
  induction pieces with
  | nil => simp [colons, Text.join]
  | cons piece others inductionHypothesis =>
    cases others with
    | nil => exact cutDoubleColon_append (noColon piece) rest
    | cons next others =>
      have shape : colons (piece :: next :: others) =
          Text.hexOfNat piece ++ ':' :: colons (next :: others) := by
        simp [colons, Text.join]
      obtain ⟨c, digits, digit⟩ : ∃ c digits, Text.hexOfNat next = c :: digits :=
        List.exists_cons_of_ne_nil Nat.toDigits_ne_nil
      have begins : ∃ behind, colons (next :: others) = c :: behind := by
        cases others with
        | nil => exact ⟨digits, digit⟩
        | cons third others =>
          exact ⟨digits ++ ':' :: colons (third :: others), by simp [colons, Text.join, digit]⟩
      obtain ⟨behind, head⟩ := begins
      have notColon : c ≠ ':' := by
        rintro rfl
        exact noColon next (digit ▸ List.mem_cons_self)
      rw [shape, List.append_assoc, List.cons_append, cutDoubleColon_append (noColon piece), head,
        List.cons_append, cutDoubleColon, ← List.cons_append, ← head, inductionHypothesis]
      · cases cutDoubleColon rest <;> simp
      · intro after _ same
        exact absurd (List.cons.inj same).1 notColon

/-- The run that is left out is a run of at least two zeros. -/
theorem of_longestZeroRun? {pieces : List Nat} {start length : Nat}
    (found : longestZeroRun? pieces = some (start, length)) :
    2 ≤ length ∧ pieces = pieces.take start ++ List.replicate length 0 ++
      pieces.drop (start + length) := by
  have kept : ∀ (runs : List (Nat × Nat)) (best : Option (Nat × Nat)) (run : Nat × Nat),
      (∀ run ∈ runs, run.2 = leadingZeros (pieces.drop run.1)) ->
      (∀ run, best = some run -> 2 ≤ run.2 ∧ run.2 = leadingZeros (pieces.drop run.1)) ->
      runs.foldl longerRun best = some run ->
      2 ≤ run.2 ∧ run.2 = leadingZeros (pieces.drop run.1) := by
    intro runs
    induction runs with
    | nil =>
      intro best run _ invariant finished
      exact invariant run finished
    | cons first rest inductionHypothesis =>
      intro best run measured invariant finished
      rw [List.forall_mem_cons] at measured
      refine inductionHypothesis _ run measured.2 ?_ finished
      intro next chosen
      cases best with
      | none =>
        rw [longerRun, Option.ite_none_right_eq_some] at chosen
        cases chosen.2
        exact ⟨chosen.1, measured.1⟩
      | some before =>
        rw [longerRun] at chosen
        split at chosen
        · rename_i longer
          cases chosen
          exact ⟨Nat.le_trans (invariant before rfl).1 (Nat.le_of_lt longer), measured.1⟩
        · rw [← Option.some.inj chosen]
          exact invariant before rfl
  obtain ⟨long, measured⟩ := kept _ none (start, length)
    (fun run member => by
      obtain ⟨i, -, rfl⟩ := List.mem_map.1 member
      rfl)
    (fun run empty => by cases empty) found
  dsimp only at long measured
  refine ⟨long, ?_⟩
  have zeros : (pieces.drop start).takeWhile (· == 0) = List.replicate length 0 := by
    rw [List.eq_replicate_iff]
    refine ⟨measured.symm, fun piece member => ?_⟩
    simpa using List.all_eq_true.1 List.all_takeWhile piece member
  have divided : pieces.drop start = List.replicate length 0 ++ pieces.drop (start + length) := by
    have whole := List.takeWhile_append_dropWhile (p := (· == 0)) (l := pieces.drop start)
    have behind : (pieces.drop start).dropWhile (· == 0) = pieces.drop (start + length) := by
      have skip : ∀ left right : List Nat, (left ++ right).drop left.length = right :=
        fun _ _ => List.drop_left
      have past := skip ((pieces.drop start).takeWhile (· == 0))
        ((pieces.drop start).dropWhile (· == 0))
      rw [whole] at past
      rw [← past, List.drop_drop, measured, leadingZeros]
    rw [zeros, behind] at whole
    exact whole.symm
  rw [List.append_assoc, ← divided, List.take_append_drop]

/-- An address of eight pieces is read back from its text. -/
theorem ipv6?_ipv6Text {pieces : List Nat} (isIpv6 : IsIpv6 pieces) :
    ipv6? (ipv6Text pieces) = some pieces := by
  obtain ⟨count, small⟩ := isIpv6
  unfold ipv6Text
  dsimp only
  split
  · have uncut : cutDoubleColon (colons pieces) = none := by
      have cut := cutDoubleColon_colons_append pieces []
      rwa [List.append_nil] at cut
    have read := ipv6Side?_colons small
    unfold colons at uncut read
    unfold ipv6?
    simp [uncut, read, count]
  · rename_i start length found
    obtain ⟨long, shape⟩ := of_longestZeroRun? found
    have cut : cutDoubleColon (colons (pieces.take start) ++ "::".toList ++
        colons (pieces.drop (start + length))) =
          some (colons (pieces.take start), colons (pieces.drop (start + length))) := by
      rw [List.append_assoc, cutDoubleColon_colons_append]
      simp [cutDoubleColon]
    have left : ipv6Side? (colons (pieces.take start)) = some (pieces.take start) :=
      ipv6Side?_colons fun piece member => small piece (List.mem_of_mem_take member)
    have right : ipv6Side? (colons (pieces.drop (start + length))) =
        some (pieces.drop (start + length)) :=
      ipv6Side?_colons fun piece member => small piece (List.mem_of_mem_drop member)
    have noDot : '.' ∉ colons (pieces.take start) := by
      intro member
      rcases Text.exists_mem_of_mem_join member with colon | ⟨part, listed, inPart⟩
      · exact absurd (List.mem_singleton.1 colon) (by decide)
      · obtain ⟨piece, -, rfl⟩ := List.mem_map.1 listed
        exact not_mem_hexOfNat (by unfold Text.IsHexDigit; decide) piece inPart
    have lengths := congrArg List.length shape
    simp only [List.length_append, List.length_replicate] at lengths
    have middle : 8 - (pieces.take start).length - (pieces.drop (start + length)).length = length := by
      omega
    unfold colons at cut left right noDot
    unfold ipv6?
    rw [cut]
    simp only [List.contains_eq_mem, noDot, decide_false, Bool.false_eq_true, if_false, left, right,
      Option.bind_eq_bind, Option.bind_some, middle, ← shape]
    exact if_pos (by omega)

private theorem lt_of_strictByte? {digits : Text} {value : Nat}
    (read : strictByte? digits = some value) :
    value ≤ 255 := by
  unfold strictByte? at read
  split at read
  · simp only [Option.bind_eq_bind, Option.bind_eq_some_iff, Option.ite_none_right_eq_some,
      Bool.and_eq_true, decide_eq_true_eq] at read
    obtain ⟨found, -, passes, same⟩ := read
    rw [← Option.some.inj same]
    exact passes.1
  · cases read

private theorem lt_of_ipv4Pieces? {text : Text} {pieces : List Nat}
    (read : ipv4Pieces? text = some pieces) :
    ∀ piece ∈ pieces, piece < 65536 := by
  unfold ipv4Pieces? at read
  simp only [Option.bind_eq_bind, Option.bind_eq_some_iff] at read
  obtain ⟨bytes, mapped, read⟩ := read
  have small : ∀ byte ∈ bytes, byte ≤ 255 := by
    intro byte member
    obtain ⟨part, -, found⟩ := exists_source_of_mapM_eq_some mapped member
    exact lt_of_strictByte? found
  split at read
  · cases read
    simp only [List.mem_cons, List.not_mem_nil, or_false, forall_eq_or_imp, forall_eq] at small ⊢
    omega
  · cases read

private theorem lt_of_ipv6Piece? {digits : Text} {piece : Nat}
    (read : ipv6Piece? digits = some piece) :
    piece < 65536 := by
  unfold ipv6Piece? Text.toNat? at read
  simp only [Option.ite_none_right_eq_some, Option.ite_none_left_eq_some] at read
  obtain ⟨short, -, value⟩ := read
  have below := Text.lt_pow_of_digitsValue? value
  have most : Nat.pow 16 digits.length ≤ Nat.pow 16 4 := Nat.pow_le_pow_right (by decide) short
  exact Nat.lt_of_lt_of_le below most

private theorem lt_of_ipv6Group? {parts : List Text} {pieces : List Nat}
    (read : ipv6Group? parts = some pieces) : ∀ piece ∈ pieces, piece < 65536 := by
  fun_induction ipv6Group? parts generalizing pieces with
  | case1 =>
    cases read
    simp
  | case2 last dotted => exact lt_of_ipv4Pieces? read
  | case3 last plain =>
    obtain ⟨piece, found, rfl⟩ := Option.map_eq_some_iff.1 read
    intro other member
    rw [List.mem_singleton.1 member]
    exact lt_of_ipv6Piece? found
  | case4 part parts _ inductionHypothesis =>
    simp only [Option.bind_eq_bind, Option.bind_eq_some_iff] at read
    obtain ⟨piece, first, others, rest, same⟩ := read
    cases same
    intro other member
    rcases List.mem_cons.1 member with rfl | later
    · exact lt_of_ipv6Piece? first
    · exact inductionHypothesis rest other later

private theorem lt_of_ipv6Side? {side : Text} {pieces : List Nat}
    (read : ipv6Side? side = some pieces) :
    ∀ piece ∈ pieces, piece < 65536 := by
  unfold ipv6Side? at read
  split at read
  · cases read
    simp
  · exact lt_of_ipv6Group? read

theorem isIpv6_of_ipv6? {text : Text} {pieces : List Nat} (read : ipv6? text = some pieces) :
    IsIpv6 pieces := by
  unfold ipv6? at read
  split at read
  · simp only [Option.bind_eq_bind, Option.bind_eq_some_iff, Option.ite_none_right_eq_some] at read
    obtain ⟨found, side, count, same⟩ := read
    cases same
    exact ⟨count, lt_of_ipv6Side? side⟩
  · split at read
    · cases read
    simp only [Option.bind_eq_bind, Option.bind_eq_some_iff, Option.ite_none_right_eq_some] at read
    obtain ⟨left, before, right, after, short, same⟩ := read
    cases same
    refine ⟨by simp; omega, ?_⟩
    intro piece member
    simp only [List.mem_append] at member
    rcases member with (inLeft | zero) | inRight
    · exact lt_of_ipv6Side? before piece inLeft
    · rw [List.eq_of_mem_replicate zero]
      decide
    · exact lt_of_ipv6Side? after piece inRight

end Url
end LoginGate
