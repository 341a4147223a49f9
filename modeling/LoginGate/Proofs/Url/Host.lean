import LoginGate.Proofs.Url.Address
import LoginGate.Proofs.Url.Ascii
import LoginGate.Proofs.Url.Percent
import LoginGate.Proofs.Url.Printable

/-!
Contract: a host is read back from the text that it is written as.

Owns:
- what hosts look like, whichever reader gave them;
- the law for the hosts of special schemes and the one for all others;
- the end of a host before a port.

Does not own: authorities (`Proofs.Url.Reread`).
-/

namespace LoginGate.Url

/-- A host as the readers give it: a name that no reader would cut, or an address within bounds. -/
inductive Host.Written : Host -> Prop where
  | name {text : Text} (allowed : text.Avoids isForbiddenInHost) (printable : text.Printable) :
      Written (.name text)
  | ipv4 {address : Nat} (bounded : address < 0x100000000) : Written (.ipv4 address)
  | ipv6 {pieces : List Nat} (isIpv6 : IsIpv6 pieces) : Written (.ipv6 pieces)

/-! ## Addresses -/

private theorem exists_of_bracketedHost {inner : Text} {host : Host}
    (read : bracketedHost inner = .ok host) : ∃ pieces, IsIpv6 pieces ∧ host = .ipv6 pieces := by
  unfold bracketedHost at read
  split at read
  · split at read
    · rename_i pieces found
      cases read
      exact ⟨pieces, isIpv6_of_ipv6? found, rfl⟩
    · cases read
  · cases read

private theorem bracketedHost_ipv6Text {pieces : List Nat} (isIpv6 : IsIpv6 pieces) :
    bracketedHost (ipv6Text pieces ++ [']']) = .ok (.ipv6 pieces) := by
  unfold bracketedHost
  rw [List.getLast?_concat, List.dropLast_concat]
  simp only [ipv6?_ipv6Text isIpv6]

/-- A character of an IPv4 address. -/
theorem cases_of_mem_ipv4Text {address : Nat} {c : Char} (member : c ∈ ipv4Text address) :
    c = '.' ∨ Text.isDigit c = true := by
  rcases Text.exists_mem_of_mem_join member with dot | ⟨part, listed, inPart⟩
  · exact .inl (List.mem_singleton.1 dot)
  · obtain ⟨shift, -, rfl⟩ := List.mem_map.1 listed
    exact .inr ((Text.isWhole_ofNat _).1.2 c inPart)

private theorem cases_of_mem_colons {pieces : List Nat} {c : Char} (member : c ∈ colons pieces) :
    c = ':' ∨ Text.IsHexDigit c := by
  rcases Text.exists_mem_of_mem_join member with colon | ⟨part, listed, inPart⟩
  · exact .inl (List.mem_singleton.1 colon)
  · obtain ⟨piece, -, rfl⟩ := List.mem_map.1 listed
    exact .inr (Text.isHexDigit_of_mem_hexOfNat inPart)

theorem cases_of_mem_ipv6Text {pieces : List Nat} {c : Char} (member : c ∈ ipv6Text pieces) :
    c = ':' ∨ Text.IsHexDigit c := by
  unfold ipv6Text at member
  dsimp only at member
  split at member
  · exact cases_of_mem_colons member
  · simp only [List.mem_append] at member
    rcases member with (before | double) | after
    · exact cases_of_mem_colons before
    · have listed : c ∈ [':', ':'] := double
      exact .inl (by simpa using listed)
    · exact cases_of_mem_colons after

/-! ## Characters -/

/-- The characters at which the end of an authority or of its user information is looked for, with
blanks and controls. -/
def endsAuthority (c : Char) : Bool := Percent.controls c || " /\\?#@".toList.contains c

theorem endsAuthority_of_range {c : Char}
    (range : c = '.' ∨ c = ':' ∨ c = '[' ∨ c = ']' ∨ 48 ≤ c.toNat ∧ c.toNat ≤ 57 ∨
      97 ≤ c.toNat ∧ c.toNat ≤ 102) : endsAuthority c = false := by
  have every : ∀ c : Char, c.toNat < 128 -> 48 ≤ c.toNat ∧ c.toNat ≤ 57 ∨
      97 ≤ c.toNat ∧ c.toNat ≤ 102 -> endsAuthority c = false :=
    Text.forall_ascii (by decide +kernel)
  rcases range with rfl | rfl | rfl | rfl | range
  · decide
  · decide
  · decide
  · decide
  · exact every c (by omega) range

/-- The text of a host ends no authority. -/
theorem Host.Written.avoids {host : Host} (written : host.Written) :
    host.text.Avoids endsAuthority := by
  intro c member
  cases written with
  | name allowed printable =>
    have forbidden : (" /\\?#@".toList.all isForbiddenInHost) = true := by decide
    have notListed : c ∉ " /\\?#@".toList := by
      intro listed
      have refused := List.all_eq_true.1 forbidden c listed
      rw [allowed c member] at refused
      cases refused
    unfold endsAuthority
    rw [printable c member, Bool.false_or, List.contains_eq_mem, decide_eq_false notListed]
  | ipv4 bounded =>
    apply endsAuthority_of_range
    rcases cases_of_mem_ipv4Text member with dot | digit
    · exact .inl dot
    · have range := Text.isDigit_iff.1 digit
      omega
  | ipv6 isIpv6 =>
    apply endsAuthority_of_range
    rcases List.mem_cons.1 member with opening | inside
    · exact .inr (.inr (.inl opening))
    · rcases List.mem_append.1 inside with inner | closing
      · rcases cases_of_mem_ipv6Text inner with colon | digit
        · exact .inr (.inl colon)
        · unfold Text.IsHexDigit at digit
          omega
      · exact .inr (.inr (.inr (.inl (List.mem_singleton.1 closing))))

/-! ## Names -/

private theorem isForbiddenInHost_eq_false {c : Char} (allowed : isForbiddenInDomain c = false) :
    isForbiddenInHost c = false := by
  have covered : ("\x00\t\n\r #/:<>?@[\\]^|".toList.all isForbiddenInDomain) = true := by decide
  apply Bool.eq_false_iff.2
  intro forbidden
  have listed : c ∈ "\x00\t\n\r #/:<>?@[\\]^|".toList := by
    simpa [isForbiddenInHost] using forbidden
  rw [List.all_eq_true.1 covered c listed] at allowed
  cases allowed

section Ascii

variable {name domain : Text} (folded : asciiDomain? name = some domain)
include folded

private theorem written_of_asciiDomain? : Host.Written (.name domain) := by
  obtain ⟨-, allowed, ascii⟩ := asciiDomain?_idempotent folded
  have avoids := Text.avoids_of_any_eq_false allowed
  refine .name (fun c member => isForbiddenInHost_eq_false (avoids c member)) ?_
  intro c member
  have small := ascii c member
  have notForbidden := avoids c member
  simp only [isForbiddenInDomain, Bool.or_eq_false_iff, decide_eq_false_iff_not,
    beq_eq_false_iff_ne] at notForbidden
  simp only [Percent.controls, Bool.or_eq_false_iff, decide_eq_false_iff_not]
  omega

/-- The ASCII form of a name is decoded and folded to itself. -/
theorem decoded_of_asciiDomain? :
    (Utf8.decode? (Percent.decode (Utf8.encode domain))).bind asciiDomain? = some domain := by
  obtain ⟨again, allowed, ascii⟩ := asciiDomain?_idempotent folded
  have noPercent : (0x25 : UInt8) ∉ Utf8.encode domain := by
    intro member
    obtain ⟨c, inDomain, written⟩ := List.mem_flatMap.1 member
    have small := ascii c inDomain
    rw [Utf8.encodeChar_of_lt small, List.mem_singleton] at written
    have number := congrArg UInt8.toNat written
    rw [UInt8.toNat_ofNat', Nat.mod_eq_of_lt (by omega)] at number
    have percent : c = '%' := by rw [← Char.ofNat_toNat c, ← number]; rfl
    rw [percent] at inDomain
    exact absurd (Text.avoids_of_any_eq_false allowed '%' inDomain) (by decide)
  rw [Percent.decode_eq_self noPercent, Utf8.decode?_encode]
  exact again

variable (filled : domain ≠ [])
include filled

private theorem specialHost_of_asciiDomain? : specialHost domain =
    if endsInNumber domain then
      (ipv4? domain).elim (.error .ipv4) fun address => .ok (.ipv4 address)
    else .ok (.name domain) := by
  have decoded := decoded_of_asciiDomain? folded
  unfold specialHost
  split
  · have allowed := (asciiDomain?_idempotent folded).2.1
    exact absurd (Text.avoids_of_any_eq_false allowed '[' List.mem_cons_self) (by decide)
  · split
    · rename_i missing
      rw [missing] at decoded
      cases decoded
    · rename_i empty
      rw [empty] at decoded
      exact absurd (Option.some.inj decoded).symm filled
    · rename_i found _ same
      rw [same] at decoded
      rw [Option.some.inj decoded]
      cases ipv4? domain <;> rfl

end Ascii

/-! ## IPv4 addresses as names -/

private theorem plainLabel?_ofNat (n : Nat) : plainLabel? (Text.ofNat n) = some (Text.ofNat n) ∧
    asciiLabel (Text.ofNat n) = Text.ofNat n ∧ isFromRight (Text.ofNat n) = false := by
  have small : ∀ c ∈ Text.ofNat n, c.toNat < 128 := by
    intro c member
    have range := Text.isDigit_iff.1 ((Text.isWhole_ofNat n).1.2 c member)
    omega
  have ascii : (Text.ofNat n).all (·.toNat < 128) = true := by
    simpa using small
  have unmarked : Text.afterPrefix? encodedMark (Text.ofNat n) = none := by
    apply Option.eq_none_iff_forall_ne_some.2
    intro rest cutOff
    have begins := Text.afterPrefix?_eq_some_iff.1 cutOff
    have first : 'x' ∈ Text.ofNat n := by
      rw [begins]
      exact List.mem_cons_self
    exact absurd ((Text.isWhole_ofNat n).1.2 'x' first) (by decide)
  refine ⟨?_, ?_, ?_⟩
  · unfold plainLabel?
    rw [unmarked]
    simp only [ascii, Bool.true_or, if_true]
  · unfold asciiLabel
    rw [ascii, if_pos rfl]
  · apply List.any_eq_false.2
    intro c member
    have below := small c member
    simp only [Bool.and_eq_true, decide_eq_true_eq, not_and]
    omega

/-- The text of an IPv4 address is a domain name as it stands. -/
theorem asciiDomain?_ipv4Text (address : Nat) :
    asciiDomain? (ipv4Text address) = some (ipv4Text address) := by
  have folded : ∀ c ∈ ipv4Text address, c.toNat < 128 ∧ ¬ (65 ≤ c.toNat ∧ c.toNat ≤ 90) := by
    intro c member
    rcases cases_of_mem_ipv4Text member with rfl | digit
    · decide
    · have range := Text.isDigit_iff.1 digit
      omega
  have allowed : (ipv4Text address).any isForbiddenInDomain = false := by
    apply List.any_eq_false.2
    intro c member
    have every : ∀ c : Char, c.toNat < 128 -> Text.isDigit c = true ->
        isForbiddenInDomain c = false :=
      Text.forall_ascii (by decide +kernel)
    rcases cases_of_mem_ipv4Text member with rfl | digit
    · decide
    · have range := Text.isDigit_iff.1 digit
      simp [every c (by omega) digit]
  have plain : ((ipv4Bytes address).map Text.ofNat).mapM plainLabel? =
      some ((ipv4Bytes address).map Text.ofNat) := by
    simp [ipv4Bytes, plainLabel?_ofNat]
  have ascii : ((ipv4Bytes address).map Text.ofNat).map asciiLabel =
      (ipv4Bytes address).map Text.ofNat := by
    simp [ipv4Bytes, plainLabel?_ofNat]
  have leftwards : ((ipv4Bytes address).map Text.ofNat).any isFromRight = false := by
    simp [ipv4Bytes, plainLabel?_ofNat]
  have joined : Text.join ['.'] ((ipv4Bytes address).map Text.ofNat) = ipv4Text address := rfl
  rw [asciiDomain?_of_folded folded, split_ipv4Text, plain]
  simp only [Option.bind_eq_bind, Option.bind_some, ascii, leftwards, joined, allowed,
    Bool.false_and, Bool.or_self, Bool.false_eq_true, if_false]

/-! ## Hosts of special schemes -/

/-- **A host of a special scheme is read back.** -/
theorem specialHost_text {text : Text} {host : Host} (read : specialHost text = .ok host) :
    host.Written ∧ host ≠ .name [] ∧ specialHost host.text = .ok host := by
  unfold specialHost at read
  split at read
  · obtain ⟨pieces, isIpv6, rfl⟩ := exists_of_bracketedHost read
    exact ⟨.ipv6 isIpv6, by simp, bracketedHost_ipv6Text isIpv6⟩
  split at read
  · cases read
  · cases read
  · rename_i domain filled decoded
    obtain ⟨name, -, folded⟩ := Option.bind_eq_some_iff.1 decoded
    split at read
    · split at read
      · rename_i address found
        cases read
        have bounded := lt_of_ipv4? found
        have nonempty := ipv4Text_ne_nil address
        refine ⟨.ipv4 bounded, by simp, ?_⟩
        unfold Host.text
        rw [specialHost_of_asciiDomain? (asciiDomain?_ipv4Text address) nonempty,
          endsInNumber_ipv4Text, ipv4?_ipv4Text bounded]
        rfl
      · cases read
    · rename_i named
      cases read
      have nonempty : domain ≠ [] := fun empty => filled empty
      refine ⟨written_of_asciiDomain? folded, by simpa using nonempty, ?_⟩
      unfold Host.text
      rw [specialHost_of_asciiDomain? folded nonempty, if_neg named]

/-! ## Other hosts -/

/-- **A host of any other scheme is read back.** -/
theorem verbatimHost_text {text : Text} {host : Host} (read : verbatimHost text = .ok host) :
    host.Written ∧ (host = .name [] -> text = []) ∧ verbatimHost host.text = .ok host := by
  unfold verbatimHost at read
  split at read
  · obtain ⟨pieces, isIpv6, rfl⟩ := exists_of_bracketedHost read
    exact ⟨.ipv6 isIpv6, by simp, bracketedHost_ipv6Text isIpv6⟩
  split at read
  · cases read
  · rename_i allowed
    cases read
    have avoids : (Percent.encode Percent.controls text).Avoids isForbiddenInHost := by
      refine Percent.avoids_encode_of_kept (by decide) fun c member _ => ?_
      exact Text.avoids_of_any_eq_false (by simpa using allowed) c member
    have printable : (Percent.encode Percent.controls text).Printable :=
      Percent.printable_encode (fun _ control => control) text
    refine ⟨.name avoids printable, ?_, ?_⟩
    · intro empty
      have short := Percent.length_le_length_encode Percent.controls text
      rw [Host.name.inj empty] at short
      exact List.eq_nil_of_length_eq_zero (Nat.le_zero.1 short)
    · unfold verbatimHost Host.text
      split
      · exact absurd (avoids '[' (by simp_all)) (by decide)
      · have none : (Percent.encode Percent.controls text).any isForbiddenInHost = false := by
          simpa using fun c member => avoids c member
        rw [none, if_neg Bool.false_ne_true, Percent.encode_eq_self printable]

end LoginGate.Url
