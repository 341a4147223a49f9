import Mathlib.Data.List.Basic
import Mathlib.Data.List.TakeWhile
import LoginGate.Proofs.Text.Classes
import LoginGate.Proofs.Text.Trim
import LoginGate.Proofs.Url.Host
import LoginGate.Redirect.HostName

/-!
Contract: the comparison form of the hosts that requests and URLs name.

Owns:
- names, ports, and names in lower case without dots at their end;
- the comparison form of a name and of an address in brackets, with or without a port;
- the spellings of the host of a URL, and the law that all of them have the comparison form of that
  host.

Does not own: what is done with a URL whose host is the same (`Redirect.SameHost`).

The host of a request and the host of a URL are written differently, and one function reads both.
Where a text begins with a bracket it goes its own way, so the laws here stand once for names, among
which are the IPv4 addresses, and once for IPv6 addresses.
-/

namespace LoginGate

/-! ## Lower case -/

namespace Text

/-- Lower-casing gives a character that is no letter only in place of itself. -/
theorem asciiLower_eq_iff {c d : Char} (noLetter : isLetter d = false) :
    asciiLower c = d ↔ c = d := by
  by_cases capital : 'A' ≤ c ∧ c ≤ 'Z'
  · have bounds : 65 ≤ c.toNat ∧ c.toNat ≤ 90 := capital
    have every : ∀ c : Char, c.toNat < 128 -> 65 ≤ c.toNat ∧ c.toNat ≤ 90 ->
        isLetter c = true ∧ isLetter (asciiLower c) = true :=
      forall_ascii (by decide +kernel)
    have letters := every c (by omega) bounds
    constructor
    · rintro rfl
      rw [letters.2] at noLetter
      cases noLetter
    · rintro rfl
      rw [letters.1] at noLetter
      cases noLetter
  · unfold asciiLower
    rw [if_neg (by simpa using capital)]

private theorem isLetter_of_isWhitespace {c : Char} (blank : isWhitespace c = true) :
    isLetter c = false := by
  apply Bool.eq_false_iff.2
  intro letter
  have range := isLetter_iff.1 letter
  simp only [isWhitespace, Bool.or_eq_true, Bool.and_eq_true, decide_eq_true_eq, beq_iff_eq] at blank
  omega

private theorem isWhitespace_asciiLower (c : Char) :
    isWhitespace (asciiLower c) = isWhitespace c := by
  cases blank : isWhitespace c with
  | true => rw [(asciiLower_eq_iff (isLetter_of_isWhitespace blank)).2 rfl, blank]
  | false =>
    apply Bool.eq_false_iff.2
    intro lowered
    have same := (asciiLower_eq_iff (isLetter_of_isWhitespace lowered)).1 rfl
    rw [← same, blank] at lowered
    cases lowered

/-- Lower-casing and trimming do not concern each other. -/
theorem trimBlank_toAsciiLower (text : Text) :
    trimBlank (toAsciiLower text) = toAsciiLower (trimBlank text) := by
  have blanks : isWhitespace ∘ asciiLower = isWhitespace := funext isWhitespace_asciiLower
  unfold trimBlank trim trimStart trimEnd toAsciiLower
  rw [List.dropWhile_map, blanks, ← List.map_reverse, List.dropWhile_map, blanks, List.map_reverse]

end Text

namespace HostName

/-- The comparison form is the same for all letter cases. -/
theorem normalize_congr {text other : Text}
    (same : Text.toAsciiLower text = Text.toAsciiLower other) : normalize text = normalize other := by
  unfold normalize
  rw [← Text.trimBlank_toAsciiLower, ← Text.trimBlank_toAsciiLower, same]

/-! ## Parts -/

/-- A name: a text without colons, opening brackets and white space. -/
def IsName (text : Text) : Prop :=
  ∀ c ∈ text, c ≠ ':' ∧ c ≠ '[' ∧ Text.isWhitespace c = false

instance (text : Text) : Decidable (IsName text) :=
  List.decidableBAll (fun c => c ≠ ':' ∧ c ≠ '[' ∧ Text.isWhitespace c = false) text

def IsPort (text : Text) : Prop :=
  text = [] ∨ ∃ digits, text = ':' :: digits ∧ ∀ c ∈ digits, Text.isDigit c = true

/-- A name in lower case without dots at its end. -/
def bare (name : Text) : Text := Text.trimEnd (· == '.') (Text.toAsciiLower name)

private theorem bare_append_dots (name : Text) {dots : Text} (allDots : ∀ c ∈ dots, c = '.') :
    bare (name ++ dots) = bare name := by
  have dropped : ∀ c ∈ (Text.toAsciiLower dots).reverse, (c == '.') = true := by
    intro c member
    obtain ⟨dot, inDots, rfl⟩ := List.mem_map.1 (List.mem_reverse.1 member)
    rw [allDots dot inDots]
    decide
  have lowered : Text.toAsciiLower (name ++ dots) = Text.toAsciiLower name ++ Text.toAsciiLower dots :=
    List.map_append
  unfold bare Text.trimEnd
  rw [lowered, List.reverse_append, List.dropWhile_append_of_pos dropped]

theorem bare_eq_nil_iff {name : Text} : bare name = [] ↔ ∀ c ∈ name, c = '.' := by
  have dot {c : Char} : Text.asciiLower c = '.' ↔ c = '.' := Text.asciiLower_eq_iff (by decide)
  unfold bare Text.trimEnd Text.toAsciiLower
  rw [List.reverse_eq_nil_iff, List.dropWhile_eq_nil_iff]
  simp [dot]

/-- A character of a port is a colon or a digit. -/
theorem IsPort.cases {port : Text} (isPort : IsPort port) {c : Char} (member : c ∈ port) :
    c.toNat = 58 ∨ 48 ≤ c.toNat ∧ c.toNat ≤ 57 := by
  rcases isPort with rfl | ⟨digits, rfl, allDigits⟩
  · cases member
  · rcases List.mem_cons.1 member with rfl | digit
    · exact .inl rfl
    · exact .inr (Text.isDigit_iff.1 (allDigits c digit))

theorem IsPort.solid {port : Text} (isPort : IsPort port) :
    ∀ c ∈ port, Text.isWhitespace c = false := by
  intro c member
  have range := isPort.cases member
  apply Bool.eq_false_iff.2
  intro blank
  simp only [Text.isWhitespace, Bool.or_eq_true, Bool.and_eq_true, decide_eq_true_eq,
    beq_iff_eq] at blank
  omega

theorem IsPort.lowered {port : Text} (isPort : IsPort port) : Text.toAsciiLower port = port := by
  have kept : ∀ c ∈ port, Text.asciiLower c = c := by
    intro c member
    have range := isPort.cases member
    refine (Text.asciiLower_eq_iff (Bool.eq_false_iff.2 ?_)).2 rfl
    intro letter
    have letters := Text.isLetter_iff.1 letter
    omega
  exact (List.map_congr_left kept).trans (List.map_id port)

/-! ## Names and addresses -/

/-- What is left of a text without a bracket at its start when its port is taken off. -/
theorem withoutPort?_append {name port : Text} (noColon : ':' ∉ name)
    (noBracket : '[' ∉ name) (isPort : IsPort port) :
    (withoutPort? (name ++ port)).getD (name ++ port) = name := by
  have portless : (name ++ port).head? ≠ some '[' := by
    intro first
    rcases List.mem_append.1 (List.mem_of_head? first) with inName | inPort
    · exact noBracket inName
    · have range := isPort.cases inPort
      revert range
      decide
  unfold withoutPort?
  split
  · rename_i bracketed whole
    rw [whole] at portless
    exact absurd rfl portless
  · rcases isPort with rfl | ⟨digits, rfl, allDigits⟩
    · rw [List.append_nil, Text.cut_eq_none_iff.2 noColon]
      rfl
    · have noOther : ':' ∉ digits := by
        intro member
        exact absurd (allDigits ':' member) (by decide)
      rw [Text.cut_eq_some_iff.2 ⟨rfl, noColon⟩]
      simp [noOther]

/-- **The comparison form of a name** is the name in lower case without dots at its end; a port does
not count. -/
theorem normalize_name {name port : Text} (isName : IsName name) (isPort : IsPort port) :
    normalize (name ++ port) = bare name := by
  have solid : ∀ c ∈ name ++ port, Text.isWhitespace c = false := by
    intro c member
    rcases List.mem_append.1 member with inName | inPort
    · exact (isName c inName).2.2
    · exact isPort.solid c inPort
  have trimmed : Text.Trimmed (name ++ port) :=
    ⟨fun c first => solid c (List.mem_of_head? first),
      fun c last => solid c (List.mem_of_getLast? last)⟩
  have lowered : Text.toAsciiLower (name ++ port) = Text.toAsciiLower name ++ port := by
    rw [← isPort.lowered, Text.toAsciiLower, List.map_append, ← Text.toAsciiLower,
      ← Text.toAsciiLower, isPort.lowered, isPort.lowered]
  have stays {d : Char} (noLetter : Text.isLetter d = false) (outside : d ∉ name) :
      d ∉ Text.toAsciiLower name := by
    intro member
    obtain ⟨c, inName, same⟩ := List.mem_map.1 member
    rw [(Text.asciiLower_eq_iff noLetter).1 same] at inName
    exact outside inName
  have noColon := stays (d := ':') (by decide) fun member => (isName _ member).1 rfl
  have noBracket := stays (d := '[') (by decide) fun member => (isName _ member).2.1 rfl
  unfold normalize
  dsimp only
  rw [trimmed.trimBlank_eq, lowered, withoutPort?_append noColon noBracket isPort]
  rfl

/-- The comparison form of an address in brackets is what stands between them; a port does not
count. -/
theorem normalize_bracketed {inner port : Text} (noBracket : ']' ∉ inner) (isPort : IsPort port) :
    normalize ('[' :: inner ++ ']' :: port) = bare inner := by
  have trimmed : Text.Trimmed ('[' :: inner ++ ']' :: port) := by
    constructor
    · intro c first
      cases first
      decide
    · intro c last
      rw [List.getLast?_append_of_ne_nil _ (List.cons_ne_nil _ _)] at last
      rcases List.mem_cons.1 (List.mem_of_getLast? last) with rfl | inPort
      · decide
      · exact isPort.solid c inPort
  have lowered : Text.toAsciiLower ('[' :: inner ++ ']' :: port) =
      '[' :: (Text.toAsciiLower inner ++ ']' :: port) := by
    have port := isPort.lowered
    unfold Text.toAsciiLower at port ⊢
    simp only [List.cons_append, List.map_cons, List.map_append, port]
    rfl
  have noneLowered : ']' ∉ Text.toAsciiLower inner := by
    intro member
    obtain ⟨c, inInner, same⟩ := List.mem_map.1 member
    rw [(Text.asciiLower_eq_iff (by decide)).1 same] at inInner
    exact noBracket inInner
  have behind : (port.isEmpty || port.head? == some ':') = true := by
    rcases isPort with rfl | ⟨digits, rfl, -⟩ <;> rfl
  unfold normalize
  dsimp only
  rw [trimmed.trimBlank_eq, lowered, withoutPort?, Text.cut_eq_some_iff.2 ⟨rfl, noneLowered⟩]
  simp only [behind, if_true, Option.getD_some]
  rfl

/-! ## Hosts of URLs -/

/-- White space is the space or a control. -/
theorem controls_of_isWhitespace {c : Char} (blank : Text.isWhitespace c = true)
    (notSpace : c ≠ ' ') : Percent.controls c = true := by
  have number : c.toNat ≠ 0x20 := fun same => notSpace (Char.ext (UInt32.toNat_inj.1 same))
  simp only [Text.isWhitespace, Bool.or_eq_true, Bool.and_eq_true, decide_eq_true_eq,
    beq_iff_eq] at blank
  simp only [Percent.controls, Bool.or_eq_true, decide_eq_true_eq]
  omega

/-- The host of a URL is a name, if it is no IPv6 address. -/
theorem isName_text {host : Url.Host} (written : host.Written)
    (named : ∀ pieces, host ≠ .ipv6 pieces) : IsName host.text := by
  cases written with
  | @name text allowed printable =>
    have forbidden : ":[ ".toList.all Url.isForbiddenInHost = true := by decide
    intro c member
    have plain := allowed c member
    have different : ∀ d ∈ ":[ ".toList, c ≠ d := by
      rintro d listed rfl
      rw [List.all_eq_true.1 forbidden c listed] at plain
      cases plain
    refine ⟨different ':' (by decide), different '[' (by decide), Bool.eq_false_iff.2 ?_⟩
    intro blank
    have control := controls_of_isWhitespace blank (different ' ' (by decide))
    rw [printable c member] at control
    cases control
  | @ipv4 address bounded =>
    intro c member
    rcases Url.cases_of_mem_ipv4Text member with rfl | digit
    · decide
    · have every : ∀ c : Char, c.toNat < 128 -> Text.isDigit c = true ->
          c ≠ ':' ∧ c ≠ '[' ∧ Text.isWhitespace c = false :=
        Text.forall_ascii (by decide +kernel)
      have range := Text.isDigit_iff.1 digit
      exact every c (by omega) digit
  | ipv6 isIpv6 => exact absurd rfl (named _)

private theorem bracket_not_mem_ipv6Text (pieces : List Nat) : ']' ∉ Url.ipv6Text pieces := by
  intro member
  rcases Url.cases_of_mem_ipv6Text member with colon | digit
  · exact absurd colon (by decide)
  · unfold Text.IsHexDigit at digit
    revert digit
    decide

private theorem colon_mem_ipv6Text {pieces : List Nat} (isIpv6 : Url.IsIpv6 pieces) :
    ':' ∈ Url.ipv6Text pieces := by
  unfold Url.ipv6Text
  dsimp only
  split
  · match pieces, isIpv6.1 with
    | first :: second :: rest, _ => simp [Text.join]
  · simp

/-- A character that is no dot and no letter is not lost in lower case. -/
theorem mem_bare_iff {c : Char} (noLetter : Text.isLetter c = false) (noDot : c ≠ '.')
    {text : Text} : c ∈ bare text ↔ c ∈ text := by
  have lowered : c ∈ Text.toAsciiLower text ↔ c ∈ text := by
    unfold Text.toAsciiLower
    simp [Text.asciiLower_eq_iff noLetter]
  rw [← lowered]
  constructor
  · intro member
    exact (Text.trimEnd_prefix _ _).subset member
  · intro member
    obtain ⟨before, after, shape⟩ := List.append_of_mem member
    unfold bare
    rw [shape, Text.trimEnd_append_cons (by simpa using noDot)]
    exact List.mem_append_right _ List.mem_cons_self

/-- The comparison form of the host of a URL is made from its text, or from what stands between its
brackets. -/
theorem normalize_text {host : Url.Host} (written : host.Written) :
    IsName host.text ∧ normalize host.text = bare host.text ∨
      ∃ pieces, host = .ipv6 pieces ∧ Url.IsIpv6 pieces ∧
        normalize host.text = bare (Url.ipv6Text pieces) := by
  by_cases named : ∀ pieces, host ≠ .ipv6 pieces
  · have isName := isName_text written named
    have own := normalize_name isName (.inl rfl)
    rw [List.append_nil] at own
    exact .inl ⟨isName, own⟩
  · cases written with
    | name allowed printable => simp at named
    | ipv4 bounded => simp at named
    | @ipv6 pieces isIpv6 =>
      exact .inr ⟨pieces, rfl, isIpv6,
        normalize_bracketed (bracket_not_mem_ipv6Text pieces) (.inl rfl)⟩

/-- Only hosts that are nothing but dots have no comparison form. -/
theorem normalize_text_eq_nil_iff {host : Url.Host} (written : host.Written) :
    normalize host.text = [] ↔ ∀ c ∈ host.text, c = '.' := by
  rcases normalize_text written with ⟨-, own⟩ | ⟨pieces, rfl, isIpv6, inner⟩
  · rw [own, bare_eq_nil_iff]
  · rw [inner, bare_eq_nil_iff]
    refine iff_of_false (fun allDots => ?_) (fun allDots => ?_)
    · exact absurd (allDots ':' (colon_mem_ipv6Text isIpv6)) (by decide)
    · exact absurd (allDots '[' List.mem_cons_self) (by decide)

/-- A name has the comparison form of the host of a URL exactly if both are the same in lower case
without dots at their end. -/
theorem bare_eq_normalize_iff {name : Text} (isName : IsName name) {host : Url.Host}
    (written : host.Written) : bare name = normalize host.text ↔ bare name = bare host.text := by
  rcases normalize_text written with ⟨-, own⟩ | ⟨pieces, rfl, isIpv6, inner⟩
  · rw [own]
  · -- An address holds a colon inside and a bracket around, of which a name has neither.
    have missing {c : Char} (noLetter : Text.isLetter c = false) (noDot : c ≠ '.')
        (outside : c ∉ name) {text : Text} (inside : c ∈ text) : bare name ≠ bare text := by
      intro same
      rw [← mem_bare_iff noLetter noDot, ← same, mem_bare_iff noLetter noDot] at inside
      exact outside inside
    have noColon : ':' ∉ name := fun member => (isName _ member).1 rfl
    have noBracket : '[' ∉ name := fun member => (isName _ member).2.1 rfl
    rw [inner]
    exact iff_of_false
      (missing (by decide) (by decide) noColon (colon_mem_ipv6Text isIpv6))
      (missing (by decide) (by decide) noBracket List.mem_cons_self)

/-! ## Spellings -/

/-- A spelling of a host: its text in any letter case, with a port or without one, and with any
number of dots behind a name. -/
inductive Spells (host : Url.Host) : Text -> Prop where
  | name {spelled dots port : Text} (named : ∀ pieces, host ≠ .ipv6 pieces)
    (same : Text.toAsciiLower spelled = Text.toAsciiLower host.text)
    (allDots : ∀ c ∈ dots, c = '.') (isPort : IsPort port) : Spells host (spelled ++ dots ++ port)
  | address {pieces : List Nat} {spelled port : Text} (isAddress : host = .ipv6 pieces)
    (same : Text.toAsciiLower spelled = Text.toAsciiLower host.text) (isPort : IsPort port) :
    Spells host (spelled ++ port)

/-- **All spellings of a host have its comparison form.** -/
theorem Spells.normalize_eq {host : Url.Host} {text : Text} (spells : Spells host text)
    (written : host.Written) : normalize text = normalize host.text := by
  have respelled {spelled : Text}
      (same : Text.toAsciiLower spelled = Text.toAsciiLower host.text) (behind : Text) :
      normalize (spelled ++ behind) = normalize (host.text ++ behind) := by
    apply normalize_congr
    unfold Text.toAsciiLower at same ⊢
    rw [List.map_append, same, List.map_append]
  cases spells with
  | @name spelled dots port named same allDots isPort =>
    have isName := isName_text written named
    have dotted : IsName (host.text ++ dots) := by
      intro c member
      rcases List.mem_append.1 member with inText | inDots
      · exact isName c inText
      · rw [allDots c inDots]
        decide
    have own := normalize_name isName (.inl rfl)
    rw [List.append_nil] at own
    rw [List.append_assoc, respelled same, ← List.append_assoc, normalize_name dotted isPort,
      bare_append_dots host.text allDots, own]
  | @address pieces spelled port isAddress same isPort =>
    have noBracket := bracket_not_mem_ipv6Text pieces
    rw [respelled same]
    subst isAddress
    have shape : (Url.Host.ipv6 pieces).text ++ port =
        '[' :: Url.ipv6Text pieces ++ ']' :: port := by
      simp [Url.Host.text]
    rw [shape, normalize_bracketed noBracket isPort]
    exact (normalize_bracketed noBracket (.inl rfl)).symm

end HostName
end LoginGate
