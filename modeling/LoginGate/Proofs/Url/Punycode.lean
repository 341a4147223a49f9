import LoginGate.Proofs.Text.Classes
import LoginGate.Url.Punycode

/-!
Contract: decoding an encoded label gives the label back.

Owns:
- digits and their values;
- the relation between an encoder and a decoder that has read what the encoder wrote;
- the law that the decoder ends with the label, and what characters an encoded label has.

Does not own: which labels are encoded (`Proofs.Url.Domain`).

Encoder and decoder go through the same places: a place is a code point and a position in the text so
far, and a delta is the distance between the places of two insertions. What is kept from step to step
is that the delta of the encoder leads from the last place of the decoder to the current one.
-/

namespace LoginGate.Punycode

/-! ## Digits -/

def IsDigit (c : Char) : Prop := 97 ≤ c.toNat ∧ c.toNat ≤ 122 ∨ 48 ≤ c.toNat ∧ c.toNat ≤ 57

private theorem digit_spec {value : Nat} (small : value < 36) :
    IsDigit (digit value) ∧ digitValue? (digit value) = some value := by
  have every : ∀ value, value < 36 ->
      (97 ≤ (digit value).toNat ∧ (digit value).toNat ≤ 122 ∨
        48 ≤ (digit value).toNat ∧ (digit value).toNat ≤ 57) ∧
      digitValue? (digit value) = some value := by
    decide
  exact every value small

private theorem threshold_bounds (position bias : Nat) :
    1 ≤ threshold position bias ∧ threshold position bias ≤ 26 := by
  unfold threshold
  omega

private theorem isDigit_of_mem_encodeDelta (delta position bias : Nat) :
    ∀ c ∈ encodeDelta delta position bias, IsDigit c := by
  fun_induction encodeDelta delta position bias with
  | case1 delta position limit reached inductionHypothesis =>
    have limited : 1 ≤ limit ∧ limit ≤ 26 := threshold_bounds position bias
    have rest := Nat.mod_lt (delta - limit) (show 0 < 36 - limit by omega)
    intro c member
    rcases List.mem_cons.1 member with rfl | later
    · exact (digit_spec (by omega)).1
    · exact inductionHypothesis c later
  | case2 delta position limit below =>
    have limited : 1 ≤ limit ∧ limit ≤ 26 := threshold_bounds position bias
    intro c member
    rw [List.mem_singleton.1 member]
    exact (digit_spec (by omega)).1

/-- The digits of a delta add up to it. -/
theorem foldlM_read_encodeDelta (delta position bias : Nat) (decoder : Decoder)
    (samePosition : decoder.position = position) (sameBias : decoder.bias = bias) :
    (encodeDelta delta position bias).foldlM Decoder.read decoder =
      decoder.insert (decoder.index + delta * decoder.weight) := by
  fun_induction encodeDelta delta position bias generalizing decoder with
  | case1 delta position limit reached inductionHypothesis =>
    have limited : 1 ≤ limit ∧ limit ≤ 26 := threshold_bounds position bias
    have small := Nat.mod_lt (delta - limit) (show 0 < 36 - limit by omega)
    have sum : limit + (delta - limit) % (36 - limit) +
        (delta - limit) / (36 - limit) * (36 - limit) = delta := by
      have divided := Nat.mod_add_div (delta - limit) (36 - limit)
      rw [Nat.mul_comm] at divided
      omega
    have read : decoder.read (digit (limit + (delta - limit) % (36 - limit))) =
        some { decoder with
          index := decoder.index + (limit + (delta - limit) % (36 - limit)) * decoder.weight
          weight := decoder.weight * (36 - limit), position := decoder.position + 36 } := by
      unfold Decoder.read
      rw [(digit_spec (by omega)).2, samePosition, sameBias]
      exact if_neg (by omega)
    have whole : decoder.index + (limit + (delta - limit) % (36 - limit)) * decoder.weight +
        (delta - limit) / (36 - limit) * (decoder.weight * (36 - limit)) =
          decoder.index + delta * decoder.weight := by
      conv => rhs; rw [← sum, Nat.add_mul]
      rw [Nat.add_assoc, Nat.mul_comm decoder.weight, ← Nat.mul_assoc]
    have others := inductionHypothesis
      { decoder with
        index := decoder.index + (limit + (delta - limit) % (36 - limit)) * decoder.weight
        weight := decoder.weight * (36 - limit), position := decoder.position + 36 }
      (congrArg (· + 36) samePosition) sameBias
    dsimp only at others
    rw [List.foldlM_cons, read, Option.bind_eq_bind, Option.bind_some, others, whole]
    rfl
  | case2 delta position limit below =>
    have limited : 1 ≤ limit ∧ limit ≤ 26 := threshold_bounds position bias
    have read : decoder.read (digit delta) =
        decoder.insert (decoder.index + delta * decoder.weight) := by
      unfold Decoder.read
      rw [(digit_spec (by omega)).2, samePosition, sameBias]
      exact if_pos (by omega)
    rw [List.foldlM_cons, read, Option.bind_eq_bind]
    cases decoder.insert (decoder.index + delta * decoder.weight) <;> rfl

/-! ## Encoder and decoder side by side -/

/-- From one state to the next, the encoder writes digits that take the decoder along. -/
def Follows (encoder after : Encoder) (decoder next : Decoder) : Prop :=
  ∃ digits, after.output = encoder.output ++ digits ∧ (∀ c ∈ digits, IsDigit c) ∧
    digits.foldlM Decoder.read decoder = some next

theorem Follows.of_output_eq {encoder after : Encoder} (same : after.output = encoder.output)
    (decoder : Decoder) : Follows encoder after decoder decoder :=
  ⟨[], by simp [same], by simp, rfl⟩

theorem Follows.trans {first second third : Encoder} {before between after : Decoder}
    (left : Follows first second before between) (right : Follows second third between after) :
    Follows first third before after := by
  obtain ⟨digits, written, areDigits, read⟩ := left
  obtain ⟨others, continued, alsoDigits, readOn⟩ := right
  refine ⟨digits ++ others, by rw [continued, written, List.append_assoc],
    List.forall_mem_append.2 ⟨areDigits, alsoDigits⟩, ?_⟩
  rw [List.foldlM_append, read]
  exact readOn

/-- Where encoder and decoder stand while a code point is inserted into a label of which `passed` has
been passed and `rest` has not. -/
structure Tracks (basic : Nat) (passed rest : Text) (encoder : Encoder) (decoder : Decoder) : Prop where
  output : decoder.output = passed.filter (·.toNat ≤ encoder.point) ++
    rest.filter (·.toNat < encoder.point)
  handled : encoder.handled = decoder.output.length
  bias : decoder.bias = encoder.bias
  atLeast : basic ≤ encoder.handled
  fresh : encoder.handled = basic ↔ decoder.start = 0
  start : decoder.start = decoder.index
  between : decoder.weight = 1 ∧ decoder.position = 36
  point : decoder.point ≤ encoder.point
  /-- The delta leads from the place of the decoder to the current one. -/
  place : encoder.delta + decoder.index =
    (encoder.point - decoder.point) * (encoder.handled + 1) +
      (passed.filter (·.toNat ≤ encoder.point)).length

/-- A character of the code point is inserted where it stands in the label. -/
theorem Tracks.insert {basic : Nat} {passed rest : Text} {encoder : Encoder} {decoder : Decoder}
    {c : Char} (tracks : Tracks basic passed (c :: rest) encoder decoder)
    (here : c.toNat = encoder.point) :
    ∃ next, decoder.insert (decoder.index + encoder.delta * decoder.weight) = some next ∧
      Tracks basic (passed ++ [c]) rest (encoder.pass basic c) next := by
  have index : decoder.index + encoder.delta * decoder.weight =
      (encoder.point - decoder.point) * (decoder.output.length + 1) +
        (passed.filter (·.toNat ≤ encoder.point)).length := by
    rw [tracks.between.1, Nat.mul_one, Nat.add_comm, tracks.place, tracks.handled]
  have inside : (passed.filter (·.toNat ≤ encoder.point)).length < decoder.output.length + 1 := by
    rw [tracks.output, List.length_append]
    omega
  have point : decoder.point + (decoder.index + encoder.delta * decoder.weight) /
      (decoder.output.length + 1) = encoder.point := by
    rw [index, Nat.add_comm (_ * _), Nat.add_mul_div_right _ _ (Nat.succ_pos _),
      Nat.div_eq_of_lt inside]
    have below := tracks.point
    omega
  have place : (decoder.index + encoder.delta * decoder.weight) % (decoder.output.length + 1) =
      (passed.filter (·.toNat ≤ encoder.point)).length := by
    rw [index, Nat.add_comm (_ * _), Nat.add_mul_mod_self_right, Nat.mod_eq_of_lt inside]
  have valid : Nat.isValidChar encoder.point := here ▸ c.valid
  have restored : Char.ofNat encoder.point = c := by
    rw [← here]
    exact Char.ofNat_toNat c
  have passedOn : encoder.pass basic c =
      { encoder with
        output := encoder.output ++ encodeDelta encoder.delta 36 encoder.bias
        bias := adaptedBias encoder.delta (encoder.handled + 1) (encoder.handled == basic)
        delta := 0
        handled := encoder.handled + 1 } := by
    unfold Encoder.pass
    rw [if_neg (by omega), if_pos here]
  unfold Decoder.insert
  dsimp only
  rw [point, place, if_pos valid, restored]
  refine ⟨_, rfl, ?_⟩
  have notBelow : (c :: rest).filter (·.toNat < encoder.point) =
      rest.filter (·.toNat < encoder.point) :=
    List.filter_cons_of_neg (by simp only [decide_eq_true_eq]; omega)
  have taken : (passed ++ [c]).filter (·.toNat ≤ encoder.point) =
      passed.filter (·.toNat ≤ encoder.point) ++ [c] := by
    rw [List.filter_append, List.filter_cons_of_pos (by simp only [decide_eq_true_eq]; omega)]
    rfl
  have output := tracks.output
  rw [notBelow] at output
  have fresh : (encoder.handled == basic) = (decoder.start == 0) := by
    rw [Bool.eq_iff_iff, beq_iff_eq, beq_iff_eq]
    exact tracks.fresh
  have distance : decoder.index + encoder.delta * decoder.weight - decoder.start = encoder.delta := by
    rw [tracks.start, tracks.between.1]
    omega
  rw [passedOn]
  constructor
  case output => simp [taken, output]
  case handled =>
    simp only [tracks.handled, List.length_append, List.length_cons, List.length_take,
      List.length_drop]
    omega
  case bias => simp only [distance, tracks.handled, ← fresh]
  case atLeast => exact Nat.le_succ_of_le tracks.atLeast
  case fresh =>
    have atLeast := tracks.atLeast
    simp only [Nat.add_one_ne_zero, iff_false]
    omega
  case start => rfl
  case between => exact ⟨rfl, rfl⟩
  case point => exact Nat.le_refl _
  case place => simp [taken]

/-- One character of the label keeps encoder and decoder side by side. -/
theorem Tracks.pass {basic : Nat} {passed rest : Text} {encoder : Encoder} {decoder : Decoder}
    {c : Char} (tracks : Tracks basic passed (c :: rest) encoder decoder) :
    ∃ next, Follows encoder (encoder.pass basic c) decoder next ∧
      Tracks basic (passed ++ [c]) rest (encoder.pass basic c) next := by
  rcases Nat.lt_trichotomy c.toNat encoder.point with below | here | above
  · have skipped : encoder.pass basic c = { encoder with delta := encoder.delta + 1 } := by
      unfold Encoder.pass
      rw [if_pos below]
    refine ⟨decoder, .of_output_eq (by rw [skipped]) decoder, ?_⟩
    have place := tracks.place
    rw [skipped]
    exact {
      output := by simp [tracks.output, List.filter_append, below, Nat.le_of_lt below]
      handled := tracks.handled, bias := tracks.bias, atLeast := tracks.atLeast
      fresh := tracks.fresh, start := tracks.start, between := tracks.between
      point := tracks.point
      place := by
        simp only [List.filter_append, List.length_append]
        rw [List.filter_cons_of_pos (by simp only [decide_eq_true_eq]; omega)]
        simp only [List.filter_nil, List.length_cons, List.length_nil]
        omega }
  · obtain ⟨next, inserted, tracksNext⟩ := tracks.insert here
    refine ⟨next, ⟨encodeDelta encoder.delta 36 encoder.bias, ?_, ?_, ?_⟩, tracksNext⟩
    · unfold Encoder.pass
      rw [if_neg (by omega), if_pos here]
    · exact isDigit_of_mem_encodeDelta _ _ _
    · rw [foldlM_read_encodeDelta _ _ _ _ tracks.between.2 tracks.bias]
      exact inserted
  · have left : encoder.pass basic c = encoder := by
      unfold Encoder.pass
      rw [if_neg (by omega), if_neg (by omega)]
    refine ⟨decoder, .of_output_eq (by rw [left]) decoder, ?_⟩
    have notBelow : ¬ c.toNat ≤ encoder.point ∧ ¬ c.toNat < encoder.point := by omega
    rw [left]
    exact {
      output := by simp [tracks.output, List.filter_append, notBelow]
      handled := tracks.handled, bias := tracks.bias, atLeast := tracks.atLeast
      fresh := tracks.fresh, start := tracks.start, between := tracks.between
      point := tracks.point
      place := by simp [tracks.place, List.filter_append, notBelow] }

theorem Tracks.foldl {basic : Nat} {passed rest : Text} {encoder : Encoder} {decoder : Decoder}
    (tracks : Tracks basic passed rest encoder decoder) :
    ∃ next, Follows encoder (rest.foldl (Encoder.pass basic) encoder) decoder next ∧
      Tracks basic (passed ++ rest) [] (rest.foldl (Encoder.pass basic) encoder) next := by
  induction rest generalizing passed encoder decoder with
  | nil => exact ⟨decoder, .of_output_eq rfl decoder, by simpa using tracks⟩
  | cons c rest inductionHypothesis =>
    obtain ⟨next, follows, tracksNext⟩ := tracks.pass
    obtain ⟨last, followsOn, tracksLast⟩ := inductionHypothesis tracksNext
    refine ⟨last, follows.trans followsOn, ?_⟩
    rw [List.append_assoc] at tracksLast
    exact tracksLast

private theorem point_foldl_pass (basic : Nat) (text : Text) (encoder : Encoder) :
    (text.foldl (Encoder.pass basic) encoder).point = encoder.point := by
  induction text generalizing encoder with
  | nil => rfl
  | cons c rest inductionHypothesis =>
    rw [List.foldl_cons, inductionHypothesis]
    unfold Encoder.pass
    split
    · rfl
    · split <;> rfl

/-- All occurrences of a code point are inserted, if the label has no character between the point
that the encoder has reached and this one. -/
theorem Tracks.insertPoint {basic : Nat} {label : Text} {encoder : Encoder} {decoder : Decoder}
    (tracks : Tracks basic [] label encoder decoder) {point : Nat} (upwards : encoder.point ≤ point)
    (gap : ∀ c ∈ label, c.toNat < encoder.point ∨ point ≤ c.toNat) :
    ∃ next, Follows encoder (encoder.insertPoint label basic point) decoder next ∧
      Tracks basic [] label (encoder.insertPoint label basic point) next := by
  have below := tracks.point
  have moved : Tracks basic [] label
      { encoder with
        delta := encoder.delta + (point - encoder.point) * (encoder.handled + 1), point := point }
      decoder := {
    output := by
      rw [tracks.output]
      refine congrArg ([] ++ ·) (List.filter_congr ?_)
      intro c member
      have apart := gap c member
      rw [decide_eq_decide]
      show c.toNat < encoder.point ↔ c.toNat < point
      omega
    handled := tracks.handled, bias := tracks.bias, atLeast := tracks.atLeast
    fresh := tracks.fresh, start := tracks.start, between := tracks.between
    point := Nat.le_trans below upwards
    place := by
      have place := tracks.place
      have whole : point - decoder.point =
          (point - encoder.point) + (encoder.point - decoder.point) := by omega
      simp only [List.filter_nil, List.length_nil] at place ⊢
      rw [whole, Nat.add_mul]
      omega }
  obtain ⟨next, follows, tracksNext⟩ := moved.foldl
  have reached := point_foldl_pass basic label
    { encoder with
      delta := encoder.delta + (point - encoder.point) * (encoder.handled + 1), point := point }
  refine ⟨next, follows, ?_⟩
  unfold Encoder.insertPoint
  dsimp only
  generalize label.foldl (Encoder.pass basic)
    { encoder with
      delta := encoder.delta + (point - encoder.point) * (encoder.handled + 1), point := point } =
      after at tracksNext reached
  dsimp only at reached
  have output := tracksNext.output
  have place := tracksNext.place
  have pointNext := tracksNext.point
  rw [reached] at output place pointNext
  simp only [List.nil_append, List.filter_nil, List.append_nil] at output place
  exact {
    output := by
      rw [output]
      refine (List.filter_congr ?_).trans (List.nil_append _).symm
      intro c _
      rw [decide_eq_decide]
      exact Nat.lt_succ_iff.symm
    handled := tracksNext.handled, bias := tracksNext.bias, atLeast := tracksNext.atLeast
    fresh := tracksNext.fresh, start := tracksNext.start, between := tracksNext.between
    point := Nat.le_succ_of_le pointNext
    place := by
      have whole : point + 1 - next.point = (point - next.point) + 1 := by omega
      have handled := tracksNext.handled
      rw [output] at handled
      simp only [List.filter_nil, List.length_nil]
      rw [whole, Nat.add_mul]
      omega }

/-- From the points in order, every character of the label is inserted. -/
theorem Tracks.foldl_insertPoint {basic : Nat} {label : Text} {encoder : Encoder} {decoder : Decoder}
    (tracks : Tracks basic [] label encoder decoder) {points : List Nat}
    (ascending : points.Pairwise (· < ·)) (reached : ∀ point ∈ points, encoder.point ≤ point)
    (complete : ∀ c ∈ label, c.toNat < encoder.point ∨ c.toNat ∈ points) :
    ∃ next, Follows encoder (points.foldl (Encoder.insertPoint label basic) encoder) decoder next ∧
      next.output = label ∧ next.position = 36 := by
  induction points generalizing encoder decoder with
  | nil =>
    refine ⟨decoder, .of_output_eq rfl decoder, ?_, tracks.between.2⟩
    have all : ∀ c ∈ label, decide (c.toNat < encoder.point) = true := by
      intro c member
      simpa using complete c member
    rw [tracks.output, List.filter_eq_self.2 all]
    rfl
  | cons point rest inductionHypothesis =>
    rw [List.pairwise_cons] at ascending
    have gap : ∀ c ∈ label, c.toNat < encoder.point ∨ point ≤ c.toNat := by
      intro c member
      rcases complete c member with before | listed
      · exact .inl before
      · rcases List.mem_cons.1 listed with same | later
        · exact .inr (Nat.le_of_eq same.symm)
        · exact .inr (Nat.le_of_lt (ascending.1 _ later))
    have next : (encoder.insertPoint label basic point).point = point + 1 := rfl
    obtain ⟨between, follows, tracksNext⟩ :=
      tracks.insertPoint (reached point List.mem_cons_self) gap
    obtain ⟨last, followsOn, done⟩ := inductionHypothesis tracksNext ascending.2
      (fun other member => by
        rw [next]
        exact ascending.1 other member)
      (fun c member => by
        rw [next]
        rcases complete c member with before | listed
        · have first := reached point List.mem_cons_self
          exact .inl (by omega)
        · rcases List.mem_cons.1 listed with same | later
          · exact .inl (by omega)
          · exact .inr later)
    exact ⟨last, follows.trans followsOn, done⟩

/-! ## Whole labels -/

private theorem pairwise_eraseDups {points : List Nat} (sorted : points.Pairwise (· ≤ ·)) :
    points.eraseDups.Pairwise (· < ·) := by
  induction size : points.length using Nat.strongRecOn generalizing points with
  | ind size inductionHypothesis =>
    subst size
    cases points with
    | nil => exact List.Pairwise.nil
    | cons point rest =>
      rw [List.pairwise_cons] at sorted
      rw [List.eraseDups_cons, List.pairwise_cons]
      constructor
      · intro other member
        have filtered := List.mem_filter.1 (List.mem_eraseDups.1 member)
        have least := sorted.1 other filtered.1
        have different : other ≠ point := by simpa using filtered.2
        omega
      · refine inductionHypothesis _ ?_ (sorted.2.filter _) rfl
        exact Nat.lt_succ_of_le (List.length_filter_le _ _)

/-- The ASCII characters of a label, which stand at the beginning of its encoded form. -/
def basicOf (label : Text) : Text := label.filter fun c => c.toNat < 128

/-- An encoded label begins with its ASCII characters. The rest are digits, and a decoder that reads
them ends with the label. -/
theorem exists_encode_eq (label : Text) :
    ∃ digits, ∃ decoder : Decoder,
      encode label =
        (if (basicOf label).isEmpty then [] else basicOf label ++ ['-']) ++ digits ∧
      (∀ c ∈ digits, IsDigit c) ∧
      digits.foldlM Decoder.read { output := basicOf label } = some decoder ∧
      decoder.output = label ∧ decoder.position = 36 := by
  have tracks : Tracks (basicOf label).length [] label
      { handled := (basicOf label).length
        output := if (basicOf label).isEmpty then [] else basicOf label ++ ['-'] }
      { output := basicOf label } := {
    output := rfl, handled := rfl, bias := rfl, atLeast := Nat.le_refl _
    fresh := ⟨fun _ => rfl, fun _ => rfl⟩
    start := rfl, between := ⟨rfl, rfl⟩, point := Nat.le_refl _, place := by simp }
  let points := (((label.filter fun c => 128 ≤ c.toNat).map Char.toNat).mergeSort).eraseDups
  have ascending : points.Pairwise (· < ·) := by
    apply pairwise_eraseDups
    have transitive : ∀ a b c : Nat, decide (a ≤ b) = true -> decide (b ≤ c) = true ->
        decide (a ≤ c) = true := by
      simp only [decide_eq_true_eq]
      exact fun _ _ _ => Nat.le_trans
    have total : ∀ a b : Nat, (decide (a ≤ b) || decide (b ≤ a)) = true := by
      simpa using Nat.le_total
    have sorted := List.pairwise_mergeSort transitive total
      ((label.filter fun c => 128 ≤ c.toNat).map Char.toNat)
    exact sorted.imp fun le => by simpa using le
  have members : ∀ n, n ∈ points ↔ ∃ c ∈ label, 128 ≤ c.toNat ∧ c.toNat = n := by
    intro n
    rw [List.mem_eraseDups, List.mem_mergeSort]
    simp [and_assoc]
  obtain ⟨decoder, ⟨digits, written, areDigits, read⟩, output, position⟩ :=
    tracks.foldl_insertPoint ascending
      (fun point member => by
        obtain ⟨c, -, outside, rfl⟩ := (members point).1 member
        exact outside)
      (fun c member => by
        rcases Nat.lt_or_ge c.toNat 128 with ascii | outside
        · exact .inl ascii
        · exact .inr ((members _).2 ⟨c, member, outside, rfl⟩))
  exact ⟨digits, decoder, written, areDigits, read, output, position⟩

private theorem not_mem_of_isDigit {digits : Text} (areDigits : ∀ c ∈ digits, IsDigit c) :
    '-' ∉ digits := by
  intro member
  have code : '-'.toNat = 45 := rfl
  have digit := areDigits '-' member
  unfold IsDigit at digit
  omega

/-- **Decoding an encoded label gives the label back.** -/
theorem decode?_encode (label : Text) : decode? (encode label) = some label := by
  obtain ⟨digits, decoder, written, areDigits, read, output, position⟩ := exists_encode_eq label
  have divided : (Text.cutLast '-' (encode label)).getD ([], encode label) =
      (basicOf label, digits) := by
    have noHyphen := not_mem_of_isDigit areDigits
    rw [written]
    split
    · rename_i empty
      have uncut : Text.cutLast '-' digits = none := by
        unfold Text.cutLast
        rw [Text.cut_eq_none_iff.2 (by simpa using noHyphen)]
        rfl
      rw [List.nil_append, uncut, List.isEmpty_iff.1 empty]
      rfl
    · have cut : Text.cutLast '-' (basicOf label ++ ['-'] ++ digits) = some (basicOf label, digits) :=
        Text.cutLast_eq_some_iff.2 ⟨by simp, noHyphen⟩
      rw [cut]
      rfl
  unfold decode?
  rw [divided]
  simp only [read, Option.bind_eq_bind, Option.bind_some, position, if_true, output]

/-- The characters of an encoded label are its ASCII characters, hyphens and digits. -/
theorem cases_of_mem_encode {label : Text} {c : Char} (member : c ∈ encode label) :
    (c ∈ label ∧ c.toNat < 128) ∨ c = '-' ∨ IsDigit c := by
  obtain ⟨digits, -, written, areDigits, -⟩ := exists_encode_eq label
  rw [written] at member
  rcases List.mem_append.1 member with basic | digit
  · split at basic
    · cases basic
    · rcases List.mem_append.1 basic with inLabel | hyphen
      · exact .inl (by simpa [basicOf] using inLabel)
      · exact .inr (.inl (List.mem_singleton.1 hyphen))
  · exact .inr (.inr (areDigits c digit))

theorem mem_encode {label : Text} {c : Char} (member : c ∈ label) (ascii : c.toNat < 128) :
    c ∈ encode label := by
  obtain ⟨digits, -, written, -⟩ := exists_encode_eq label
  have basic : c ∈ basicOf label := by
    simpa [basicOf] using ⟨member, ascii⟩
  rw [written, if_neg (by simpa using List.ne_nil_of_mem basic)]
  simp [basic]

theorem ascii_encode (label : Text) : ∀ c ∈ encode label, c.toNat < 128 := by
  intro c member
  rcases cases_of_mem_encode member with ⟨-, ascii⟩ | rfl | digit
  · exact ascii
  · decide
  · unfold IsDigit at digit
    omega

end LoginGate.Punycode
