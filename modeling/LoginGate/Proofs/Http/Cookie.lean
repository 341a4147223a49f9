import LoginGate.Http.Cookie
import LoginGate.Proofs.Text.Trim
import LoginGate.Proofs.Url.Percent
import LoginGate.Proofs.Url.Printable

/-!
Contract: a cookie that a response sets is read from the request that sends it back.

Owns:
- percent-encoding of a class of characters, undone by the decoder;
- what stands in an encoded name or value;
- the round trip of a cookie among others in one header.

Does not own: the session that a cookie names (`Server.Admission`).
-/

namespace LoginGate

namespace Percent

/-- Decoding undoes the encoding of a class that has the percent sign and all that is not ASCII. -/
theorem decode_encode {encoded : Char -> Bool} (percent : encoded '%' = true)
    (outside : ∀ c, 0x80 ≤ c.toNat -> encoded c = true) (text : Text) :
    decode (Utf8.encode (encode encoded text)) = Utf8.encode text := by
  induction text with
  | nil => rfl
  | cons c rest inductionHypothesis =>
    rw [encode, List.flatMap_cons, ← encode, Utf8.encode, List.flatMap_append, ← Utf8.encode,
      ← Utf8.encode]
    have whole : Utf8.encode (c :: rest) = Utf8.encodeChar c ++ Utf8.encode rest :=
      List.flatMap_cons
    rw [whole]
    split
    · rw [decode_encodeBytes, inductionHypothesis]
    · rename_i kept
      have small : c.toNat < 0x80 := Nat.lt_of_not_le fun large => kept (outside c large)
      have byteNe : UInt8.ofNat c.toNat ≠ 0x25 := by
        intro same
        have number := congrArg UInt8.toNat same
        rw [UInt8.toNat_ofNat', Nat.mod_eq_of_lt (by omega)] at number
        have isPercent : c = '%' := by
          rw [← Char.ofNat_toNat c, number]
          rfl
        exact kept (isPercent ▸ percent)
      rw [Utf8.encode, List.flatMap_singleton, Utf8.encodeChar_of_lt small, List.singleton_append,
        decode_cons_of_ne byteNe, inductionHypothesis]
      rfl

private theorem userInfo_of_controls {c : Char} (control : controls c = true) :
    userInfo c = true := by
  simp [userInfo, path_of_controls control]

private theorem userInfo_of_isWhitespace {c : Char} (blank : Text.isWhitespace c = true) :
    userInfo c = true := by
  by_cases space : c = ' '
  · subst space
    rfl
  · apply userInfo_of_controls
    have number : c.toNat ≠ 0x20 := by
      intro same
      apply space
      rw [← Char.ofNat_toNat c, same]
    unfold Text.isWhitespace at blank
    unfold controls
    simp only [Bool.or_eq_true, Bool.and_eq_true, decide_eq_true_eq, beq_iff_eq] at blank ⊢
    omega

end Percent

namespace Http

/-! ## Encoded names and values -/

namespace Cookie

/-- Nothing that could be taken for a separator or blank stands in an encoded name or value. -/
theorem avoids_encode (text : Text) :
    (Percent.encode isEncoded text).Avoids Percent.userInfo :=
  Percent.avoids_encode (by decide) (fun c inside => by simp [isEncoded, inside]) text

private theorem trimBlank_encode (text : Text) :
    Text.trimBlank (Percent.encode isEncoded text) = Percent.encode isEncoded text := by
  have unblank : ∀ c ∈ Percent.encode isEncoded text, Text.isWhitespace c = false := by
    intro c member
    rw [← Bool.not_eq_true]
    intro blank
    have avoided := avoids_encode text c member
    rw [Percent.userInfo_of_isWhitespace blank] at avoided
    cases avoided
  exact Text.Trimmed.trimBlank_eq {
    first := fun c starts => unblank c (List.mem_of_head? starts)
    last := fun c ends => unblank c (List.mem_of_getLast? ends) }

theorem decode?_encode (text : Text) :
    CookieJar.decode? (Percent.encode isEncoded text) = some text := by
  have outside : ∀ c : Char, 0x80 ≤ c.toNat -> isEncoded c = true := by
    intro c large
    have control : Percent.controls c = true := by
      unfold Percent.controls
      simp only [Bool.or_eq_true, decide_eq_true_eq]
      omega
    simp [isEncoded, Percent.userInfo_of_controls control]
  unfold CookieJar.decode?
  rw [Percent.decode_encode (by decide) outside, Utf8.decode?_encode]

private theorem not_mem_encode {c : Char} (separates : Percent.userInfo c = true) (text : Text) :
    c ∉ Percent.encode isEncoded text := by
  intro member
  have avoided := avoids_encode text c member
  rw [separates] at avoided
  cases avoided

private theorem cases_of_mem_pairText {cookie : Cookie} {c : Char} (member : c ∈ cookie.pairText) :
    Percent.userInfo c = false ∨ c = '=' := by
  rcases List.mem_append.1 member with inName | inRest
  · exact .inl (avoids_encode cookie.name c inName)
  · rcases List.mem_cons.1 inRest with same | inValue
    · exact .inr same
    · exact .inl (avoids_encode cookie.value c inValue)

private theorem visible_of_mem_pairText {cookie : Cookie} {c : Char}
    (member : c ∈ cookie.pairText) : 0x20 ≤ c.toNat ∧ c.toNat < 0x7F := by
  rcases cases_of_mem_pairText member with plain | rfl
  · have uncontrolled : Percent.controls c = false := by
      rw [← Bool.not_eq_true]
      intro control
      rw [Percent.userInfo_of_controls control] at plain
      cases plain
    unfold Percent.controls at uncontrolled
    simp only [Bool.or_eq_false_iff, decide_eq_false_iff_not] at uncontrolled
    omega
  · decide

private theorem semicolon_not_mem_pairText (cookie : Cookie) : ';' ∉ cookie.pairText := by
  intro member
  rcases cases_of_mem_pairText member with plain | same
  · cases plain
  · exact absurd same (by decide)

/-- A cookie is read from its name and value. -/
theorem readPair?_pairText {cookie : Cookie} (named : cookie.name ≠ []) :
    CookieJar.readPair? cookie.pairText = some (cookie.name, cookie.value) := by
  have cut : Text.cut '=' cookie.pairText =
      some (Percent.encode isEncoded cookie.name, Percent.encode isEncoded cookie.value) :=
    Text.cut_eq_some_iff.2 ⟨rfl, not_mem_encode (by decide) cookie.name⟩
  have filled : Percent.encode isEncoded cookie.name ≠ [] := by
    intro empty
    have long := Percent.length_le_length_encode isEncoded cookie.name
    rw [empty] at long
    exact named (List.eq_nil_of_length_eq_zero (Nat.le_zero.1 long))
  unfold CookieJar.readPair?
  simp [cut, trimBlank_encode, filled, decode?_encode]

end Cookie

/-! ## Headers -/

/-- The part of the value of a `Set-Cookie` header that is sent back. -/
def Cookie.returned (setCookie : Text) : Text := setCookie.takeWhile (· ≠ ';')

theorem Cookie.returned_header (cookie : Cookie) :
    returned cookie.header.value = cookie.pairText := by
  have shape : cookie.header.value =
      cookie.pairText ++ ';' :: ' ' :: Text.join "; ".toList cookie.attributes := by
    obtain ⟨first, rest, same⟩ : ∃ first rest, cookie.attributes = first :: rest := ⟨_, _, rfl⟩
    show Text.join "; ".toList (cookie.pairText :: cookie.attributes) = _
    rw [same, Text.join, List.append_assoc]
    · rfl
    · exact List.cons_ne_nil first rest
  have before : ∀ c ∈ cookie.pairText, decide (c ≠ ';') = true := by
    intro c member
    rw [decide_eq_true_eq]
    rintro rfl
    exact cookie.semicolon_not_mem_pairText member
  unfold returned
  rw [shape, List.takeWhile_append_of_pos before, List.takeWhile_cons_of_neg (by decide),
    List.append_nil]

namespace CookieJar

private theorem readPair?_blank_cons (text : Text) : readPair? (' ' :: text) = readPair? text := by
  have trimmed (name : Text) : Text.trimBlank (' ' :: name) = Text.trimBlank name := rfl
  have cut : Text.cut '=' (' ' :: text) =
      (Text.cut '=' text).map fun parts => (' ' :: parts.1, parts.2) := rfl
  unfold readPair?
  rw [cut]
  cases Text.cut '=' text with
  | none => rfl
  | some parts => simp [trimmed]

private theorem readValue_blank_cons (text : Text) : readValue (' ' :: text) = readValue text := by
  unfold readValue Text.split
  rw [Text.splitAny, if_neg (by decide)]
  cases parts : Text.splitAny (· == ';') text with
  | nil => exact absurd parts (Text.splitAny_ne_nil _ text)
  | cons part rest =>
    dsimp only
    rw [List.filterMap_cons, List.filterMap_cons, readPair?_blank_cons]

/-- A header is read cookie by cookie. -/
theorem readValue_join {parts : List Text} (whole : ∀ part ∈ parts, ';' ∉ part) :
    readValue (Text.join "; ".toList parts) = parts.filterMap readPair? := by
  induction parts with
  | nil => rfl
  | cons part rest inductionHypothesis =>
    have first := whole part List.mem_cons_self
    have others := inductionHypothesis fun other member =>
      whole other (List.mem_cons_of_mem _ member)
    cases rest with
    | nil =>
      unfold readValue
      rw [Text.join, Text.split_of_not_mem first]
    | cons next rest =>
      have shape : Text.join "; ".toList (part :: next :: rest) =
          part ++ ';' :: ' ' :: Text.join "; ".toList (next :: rest) := by
        simp [Text.join]
      unfold readValue at others ⊢
      rw [shape, Text.split_append_cons first, List.filterMap_cons, List.filterMap_cons, ← others]
      have blank := readValue_blank_cons (Text.join "; ".toList (next :: rest))
      unfold readValue at blank
      rw [blank]

/-- One cookie among others is found under its name, wherever it stands. -/
theorem get?_append_cons {name value : Text} {before after : List (Text × Text)}
    (others : ∀ pair ∈ before ++ after, pair.1 ≠ name) :
    get? { cookies := before ++ (name, value) :: after } name = some value := by
  have skipped (pairs : List (Text × Text)) (apart : ∀ pair ∈ pairs, pair.1 ≠ name) :
      pairs.filter (·.1 = name) = [] := by
    rw [List.filter_eq_nil_iff]
    simpa using apart
  unfold get?
  rw [List.filter_append, List.filter_cons_of_pos (by simp),
    skipped before fun pair member => others pair (List.mem_append_left _ member),
    skipped after fun pair member => others pair (List.mem_append_right _ member)]
  rfl

/-- A header of visible parts is text. -/
theorem asciiValue?_join {parts : List Text}
    (visible : ∀ part ∈ parts, ∀ c ∈ part, 0x20 ≤ c.toNat ∧ c.toNat < 0x7F) :
    Request.asciiValue? (Text.join "; ".toList parts) = some (Text.join "; ".toList parts) := by
  unfold Request.asciiValue?
  rw [if_pos]
  rw [List.all_eq_true]
  intro c member
  simp only [Bool.or_eq_true, Bool.and_eq_true, decide_eq_true_eq]
  right
  rcases Text.exists_mem_of_mem_join member with inSeparator | ⟨part, listed, inPart⟩
  · have separator : "; ".toList = [';', ' '] := rfl
    rw [separator] at inSeparator
    rcases List.mem_cons.1 inSeparator with rfl | blank
    · decide
    · rw [List.mem_singleton.1 blank]
      decide
  · exact visible part listed c inPart

structure IsOther (name part : Text) : Prop where
  visible : ∀ c ∈ part, 0x20 ≤ c.toNat ∧ c.toNat < 0x7F
  whole : ';' ∉ part
  other : ∀ pair, readPair? part = some pair -> pair.1 ≠ name

/-- A request sends back what a `Set-Cookie` header set, alone or among cookies of other names. -/
def Returns (request : Request) (name setCookie : Text) : Prop :=
  ∃ before after : List Text,
    request.values "cookie" =
      [Text.join "; ".toList (before ++ Cookie.returned setCookie :: after)] ∧
    ∀ part ∈ before ++ after, IsOther name part

/-- A cookie that is sent back is found. -/
theorem get?_of_returns {request : Request} {cookie : Cookie} (named : cookie.name ≠ [])
    (returns : Returns request cookie.name cookie.header.value) :
    (ofRequest request).get? cookie.name = some cookie.value := by
  obtain ⟨before, after, sent, others⟩ := returns
  rw [Cookie.returned_header] at sent
  have each {P : Text -> Prop} (own : P cookie.pairText)
      (other : ∀ part, IsOther cookie.name part -> P part) :
      ∀ part ∈ before ++ cookie.pairText :: after, P part := by
    intro part listed
    rcases List.mem_append.1 listed with inBefore | inRest
    · exact other part (others part (List.mem_append_left _ inBefore))
    · rcases List.mem_cons.1 inRest with rfl | inAfter
      · exact own
      · exact other part (others part (List.mem_append_right _ inAfter))
  have visible := each (fun c => cookie.visible_of_mem_pairText) fun part isOther => isOther.visible
  have whole := each cookie.semicolon_not_mem_pairText fun part isOther => isOther.whole
  have text := asciiValue?_join visible
  have jar : ofRequest request =
      { cookies := before.filterMap readPair? ++
          (cookie.name, cookie.value) :: after.filterMap readPair? } := by
    unfold ofRequest
    rw [sent, List.filterMap_cons_some text, List.filterMap_nil, List.flatMap_singleton,
      readValue_join whole, List.filterMap_append,
      List.filterMap_cons_some (Cookie.readPair?_pairText named)]
  rw [jar]
  refine get?_append_cons fun pair member => ?_
  rw [← List.filterMap_append, List.mem_filterMap] at member
  obtain ⟨part, listed, read⟩ := member
  exact (others part listed).other pair read

end CookieJar

end Http
end LoginGate
