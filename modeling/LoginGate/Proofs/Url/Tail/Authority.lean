import LoginGate.Proofs.Text.Numeral
import LoginGate.Proofs.Url.Domain
import LoginGate.Proofs.Url.Printable
import LoginGate.Proofs.Url.Tail.Path

/-!
Contract: an authority with white space outside ASCII behind it is no authority, or one with another
host.

Owns:
- hosts with a tail: those of special schemes and addresses refuse it, other names keep it;
- what an authority was read from;
- the law that a port leaves a tail to what follows it.

Does not own: where an authority ends (`Proofs.Url.Tail.Whole`).
-/

namespace LoginGate.Url

/-! ## Hosts -/

section Hosts

variable {tail : Text} (isTail : BlankTail tail)
include isTail

private theorem bracketedHost_append (inner : Text) :
    bracketedHost (inner ++ tail) = .error .ipv6 := by
  unfold bracketedHost
  split
  · rename_i closed
    obtain ⟨before, c, shape, blank, -⟩ := isTail.last
    rw [shape, ← List.append_assoc, List.getLast?_concat] at closed
    cases closed
    exact absurd blank (by decide)
  · rfl

/-- White space is left in the host by percent-decoding, and no domain name holds it. -/
theorem exists_specialHost_append_eq_error (text : Text) :
    ∃ cause, specialHost (text ++ tail) = .error cause := by
  obtain ⟨before, c, shape, blank, outside⟩ := isTail.last
  have refused : (Utf8.decode? (Percent.decode (Utf8.encode (text ++ tail)))).bind asciiDomain? =
      none := by
    have high : ∀ byte ∈ Utf8.encodeChar c, 0x80 ≤ byte := Utf8.forall_mem_encodeChar outside
    have bytes : Percent.decode (Utf8.encode (text ++ tail)) =
        Percent.decode (Utf8.encode (text ++ before)) ++ Utf8.encodeChar c := by
      have written : Utf8.encode (text ++ tail) =
          Utf8.encode (text ++ before) ++ Utf8.encodeChar c := by
        rw [shape]
        simp [Utf8.encode]
      rw [written, Percent.decode_append high]
    rw [bytes]
    cases decoded : Utf8.decode?
        (Percent.decode (Utf8.encode (text ++ before)) ++ Utf8.encodeChar c) with
    | none => rfl
    | some name =>
      have member := Utf8.mem_of_decode? decoded (Utf8.mem_pieces_append _ c)
      exact asciiDomain?_eq_none_of_isWhitespace member blank
  by_cases bracket : ∃ inner, text = '[' :: inner
  · obtain ⟨inner, rfl⟩ := bracket
    exact ⟨.ipv6, bracketedHost_append isTail inner⟩
  · unfold specialHost
    split
    · rename_i inner begins
      exact absurd begins (isTail.not_begins (by decide) (fun _ same => bracket ⟨_, same⟩) inner)
    · rw [refused]
      exact ⟨_, rfl⟩

/-- A host that is kept as it is takes the tail, unless it is an address. -/
theorem verbatimHost_append_ne {text : Text} {host : Host} (read : verbatimHost text = .ok host) :
    verbatimHost (text ++ tail) ≠ .ok host := by
  have named : ∀ {text host}, (∀ inner, text ≠ '[' :: inner) -> verbatimHost text = .ok host ->
      host = .name (Percent.encode Percent.controls text) := by
    intro text host outer read
    unfold verbatimHost at read
    split at read
    · rename_i inner
      exact absurd rfl (outer inner)
    · split at read
      · cases read
      · exact (Except.ok.inj read).symm
  intro readMore
  by_cases bracket : ∃ inner, text = '[' :: inner
  · obtain ⟨inner, rfl⟩ := bracket
    have refused : verbatimHost ('[' :: inner ++ tail) = .error .ipv6 :=
      bracketedHost_append isTail inner
    rw [refused] at readMore
    cases readMore
  · have outer : ∀ inner, text ≠ '[' :: inner := fun inner same => bracket ⟨inner, same⟩
    have alone := named outer read
    have together := named (fun inner => isTail.not_begins (by decide) outer inner) readMore
    rw [alone, Host.name.injEq] at together
    exact Percent.encode_append_ne isTail.ne_nil _ _ together.symm

end Hosts

/-! ## Authorities -/

theorem exists_of_readAuthority {scheme text rest : Text} {followed : Bool} {authority : Authority}
    (read : readAuthority scheme followed text = .ok (authority, rest)) :
    ∃ host port,
      cutHost false ((Text.cutLast '@' text).getD ([], text)).2 = (host, port) ∧
      (if isSpecialScheme scheme then specialHost host else verbatimHost host) =
        .ok authority.host ∧
      readPort scheme (port.drop 1) = .ok (authority.port, rest) := by
  refine ⟨_, _, rfl, ?_⟩
  unfold readAuthority at read
  dsimp only at read ⊢
  split at read
  · cases read
  split at read
  · cases read
  split at read
  all_goals
    rename_i kind
    obtain ⟨host, hostRead, afterHost⟩ := of_bind_eq_ok read
    split at afterHost
    · cases afterHost
    obtain ⟨⟨port, behind⟩, portRead, afterPort⟩ := of_bind_eq_ok afterHost
    dsimp only at afterPort
    split at afterPort
    · cases afterPort
    cases afterPort
    exact ⟨by simpa [kind] using hostRead, portRead⟩

private theorem rest_of_readPort {scheme digits rest : Text} {port : Option Nat}
    (read : readPort scheme digits = .ok (port, rest)) :
    rest = (Text.breakAt (! Text.isDigit ·) digits).2 := by
  unfold readPort at read
  dsimp only at read
  split at read
  · cases read
    rfl
  · cases read

section Authorities

variable {tail : Text} (isTail : BlankTail tail)
include isTail

private theorem rest_of_readPort_append {scheme digits rest restMore : Text}
    {port more : Option Nat} (read : readPort scheme digits = .ok (port, rest))
    (readMore : readPort scheme (digits ++ tail) = .ok (more, restMore)) :
    restMore = rest ++ tail := by
  rw [rest_of_readPort read, rest_of_readPort readMore]
  obtain ⟨c, behind, rfl, -⟩ := isTail.exists_cons
  apply Text.breakAt_append_of_stop
  rw [Bool.not_eq_true']
  apply Bool.eq_false_iff.2
  intro digit
  have value := Text.isDigit_iff.1 digit
  rcases isTail.blank c List.mem_cons_self with control | blank
  · simp only [Text.isC0ControlOrSpace, decide_eq_true_eq] at control
    omega
  · simp only [Text.isWhitespace, Bool.or_eq_true, Bool.and_eq_true, decide_eq_true_eq,
      beq_iff_eq] at blank
    omega

private theorem cutHost_eq_self (inBrackets : Bool) : cutHost inBrackets tail = (tail, []) := by
  have general : ∀ rest : Text, ':' ∉ rest -> ∀ inBrackets, cutHost inBrackets rest = (rest, []) := by
    intro rest missing
    induction rest with
    | nil => exact fun _ => rfl
    | cons c rest inductionHypothesis =>
      intro inBrackets
      rw [List.mem_cons, not_or] at missing
      rw [cutHost, if_neg fun colon => missing.1 colon.1.symm]
      dsimp only
      rw [inductionHypothesis missing.2]
  exact general tail (isTail.not_mem (by decide)) inBrackets

/-- A tail joins the port, or the host if there is no port. -/
theorem cutHost_append {inBrackets : Bool} {text host port : Text}
    (divided : cutHost inBrackets text = (host, port)) :
    cutHost inBrackets (text ++ tail) =
      if port = [] then (host ++ tail, []) else (host, port ++ tail) := by
  induction text generalizing inBrackets host with
  | nil =>
    cases divided
    exact cutHost_eq_self isTail inBrackets
  | cons c rest inductionHypothesis =>
    rw [cutHost] at divided
    rw [List.cons_append, cutHost]
    split at divided
    · rename_i colon
      cases divided
      rw [if_pos colon]
      rfl
    · rename_i inside
      obtain ⟨rfl, behind⟩ := Prod.mk.inj divided
      rw [if_neg inside]
      dsimp only
      rw [inductionHypothesis (Prod.ext rfl behind)]
      split <;> rfl

/-- An authority with a tail has another host, or it leaves the tail to the path. -/
theorem readAuthority_append {scheme text rest restMore : Text} {followed : Bool}
    {authority more : Authority} (read : readAuthority scheme followed text = .ok (authority, rest))
    (readMore : readAuthority scheme followed (text ++ tail) = .ok (more, restMore)) :
    more.host ≠ authority.host ∨ restMore = rest ++ tail := by
  obtain ⟨host, port, divided, hostRead, portRead⟩ := exists_of_readAuthority read
  obtain ⟨hostMore, portMore, dividedMore, hostReadMore, portReadMore⟩ :=
    exists_of_readAuthority readMore
  have joined : ((Text.cutLast '@' (text ++ tail)).getD ([], text ++ tail)).2 =
      ((Text.cutLast '@' text).getD ([], text)).2 ++ tail := by
    rw [Text.cutLast_append (isTail.not_mem (by decide))]
    cases Text.cutLast '@' text <;> rfl
  rw [joined, cutHost_append isTail divided] at dividedMore
  cases port with
  | nil =>
    left
    intro sameHost
    obtain ⟨rfl, -⟩ := Prod.mk.inj dividedMore
    rw [sameHost] at hostReadMore
    split at hostReadMore
    · obtain ⟨cause, refused⟩ := exists_specialHost_append_eq_error isTail host
      rw [refused] at hostReadMore
      cases hostReadMore
    · rename_i notSpecial
      rw [if_neg notSpecial] at hostRead
      exact verbatimHost_append_ne isTail hostRead hostReadMore
  | cons mark digits =>
    right
    cases dividedMore
    exact rest_of_readPort_append isTail portRead portReadMore

end Authorities

end LoginGate.Url
