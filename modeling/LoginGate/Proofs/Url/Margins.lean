import LoginGate.Proofs.Url.Clean
import LoginGate.Proofs.Url.Tail.Whole

/-!
Contract: when a text is read as the URL that it is without the white space around it.

Owns:
- texts whose white space at both ends is ASCII;
- the law that exactly these may be trimmed or not before they are read as a URL.

Does not own: who trims a text before it reads it (`Config`) and who does not (`Provider.Remote`).
-/

namespace LoginGate

/-! ## The white space around a text -/

namespace Text

/-- Whether the white space at both ends of a text is ASCII. -/
def hasAsciiMargins (text : Text) : Bool :=
  (text.takeWhile isWhitespace).all (·.toNat < 128) &&
    (text.reverse.takeWhile isWhitespace).all (·.toNat < 128)

theorem hasAsciiMargins_iff {left core right : Text} (leftBlank : ∀ c ∈ left, isWhitespace c = true)
    (rightBlank : ∀ c ∈ right, isWhitespace c = true) (trimmed : Trimmed core) (filled : core ≠ []) :
    hasAsciiMargins (left ++ core ++ right) = true ↔
      (∀ c ∈ left, c.toNat < 128) ∧ ∀ c ∈ right, c.toNat < 128 := by
  have stops : ∀ {core behind : Text}, core ≠ [] ->
      (∀ c, core.head? = some c -> isWhitespace c = false) ->
      (core ++ behind).takeWhile isWhitespace = [] := by
    intro core behind filled first
    obtain ⟨c, rest, rfl⟩ := List.exists_cons_of_ne_nil filled
    exact List.takeWhile_cons_of_neg (by simp [first c rfl])
  have front : (left ++ core ++ right).takeWhile isWhitespace = left := by
    rw [List.append_assoc, List.takeWhile_append_of_pos leftBlank, stops filled trimmed.first,
      List.append_nil]
  have back : (left ++ core ++ right).reverse.takeWhile isWhitespace = right.reverse := by
    have ends : ∀ c, core.reverse.head? = some c -> isWhitespace c = false := by
      rw [List.head?_reverse]
      exact trimmed.last
    rw [List.reverse_append, List.reverse_append,
      List.takeWhile_append_of_pos (fun c member => rightBlank c (List.mem_reverse.1 member)),
      stops (by simpa using filled) ends, List.append_nil]
  unfold hasAsciiMargins
  rw [front, back]
  simp

end Text

/-! ## Reading with and without it -/

namespace Url

private theorem clean_ne_nil_of_parse {text : Text} {url : Url} (parsed : parse text = .ok url) :
    clean text ≠ [] := by
  intro nothing
  unfold parse at parsed
  rw [nothing] at parsed
  cases parsed

private theorem ne_nil_of_parse {text : Text} {url : Url} (parsed : parse text = .ok url) :
    text ≠ [] := by
  rintro rfl
  cases parsed

theorem parse_of_hasAsciiMargins {text : Text} {url : Url}
    (parsed : parse (Text.trimBlank text) = .ok url) (ascii : text.hasAsciiMargins = true) :
    parse text = .ok url := by
  have filled := ne_nil_of_parse parsed
  obtain ⟨left, right, shape, leftBlank, rightBlank⟩ := Text.exists_margins text
  rw [shape, Text.hasAsciiMargins_iff leftBlank rightBlank (Text.trimmed_trimBlank text) filled]
    at ascii
  rw [← parsed]
  conv => lhs; rw [shape]
  exact parse_append
    (fun c member => (Text.isC0ControlOrSpace_iff_of_isWhitespace (leftBlank c member)).2
      (ascii.1 c member))
    (fun c member => (Text.isC0ControlOrSpace_iff_of_isWhitespace (rightBlank c member)).2
      (ascii.2 c member)) _

/-- White space that the parser keeps is outside ASCII, and so it is no letter. -/
theorem not_letter_of_kept {c : Char} (blank : Text.isWhitespace c = true)
    (kept : Text.isC0ControlOrSpace c = false) : 128 ≤ c.toNat ∧ Text.isLetter c = false := by
  have outside : 128 ≤ c.toNat := by
    apply Nat.le_of_not_lt
    intro ascii
    rw [(Text.isC0ControlOrSpace_iff_of_isWhitespace blank).2 ascii] at kept
    cases kept
  refine ⟨outside, Bool.eq_false_iff.2 fun letter => ?_⟩
  have range := Text.isLetter_iff.1 letter
  omega

/-- Blanks that are not all ASCII have a first that the parser keeps. -/
theorem exists_first_kept {blanks : Text} (blank : ∀ c ∈ blanks, Text.isWhitespace c = true)
    (foreign : ¬ ∀ c ∈ blanks, c.toNat < 128) :
    ∃ before c behind, blanks = before ++ c :: behind ∧
      (∀ d ∈ before, Text.isC0ControlOrSpace d = true) ∧ Text.isC0ControlOrSpace c = false := by
  have found : (blanks.find? (! Text.isC0ControlOrSpace ·)).isSome = true := by
    rw [List.find?_isSome]
    apply Classical.byContradiction
    intro none
    apply foreign
    intro c member
    rw [← Text.isC0ControlOrSpace_iff_of_isWhitespace (blank c member)]
    exact Classical.byContradiction fun kept => none ⟨c, member, by simpa using kept⟩
  obtain ⟨c, first⟩ := Option.isSome_iff_exists.1 found
  obtain ⟨kept, before, behind, shape, drops⟩ := List.find?_eq_some_iff_append.1 first
  exact ⟨before, c, behind, shape, by simpa using drops, by simpa using kept⟩

/-- White space outside ASCII before a text leaves no URL. -/
theorem parse_of_foreign_start {left : Text} (blank : ∀ c ∈ left, Text.isWhitespace c = true)
    (foreign : ¬ ∀ c ∈ left, c.toNat < 128) (rest : Text) :
    parse (left ++ rest) = .error .relativeWithoutBase := by
  obtain ⟨before, c, behind, rfl, drops, kept⟩ := exists_first_kept blank foreign
  have trimmed := parse_append drops (List.forall_mem_nil _) (c :: behind ++ rest)
  rw [List.append_nil, ← List.append_assoc] at trimmed
  rw [trimmed]
  exact parse_cons_of_not_letter kept (not_letter_of_kept (blank c (by simp)) kept).2 _

/-- White space outside ASCII behind a text is a tail of what is read. -/
theorem exists_tail_of_foreign_end {core right : Text}
    (blank : ∀ c ∈ right, Text.isWhitespace c = true) (foreign : ¬ ∀ c ∈ right, c.toNat < 128)
    (filled : clean core ≠ []) :
    ∃ tail, BlankTail tail ∧ parse (core ++ right) = readClean (clean core ++ tail) := by
  obtain ⟨behind, c, before, shape, drops, kept⟩ := exists_first_kept
    (fun c member => blank c (List.mem_reverse.1 member))
    (fun ascii => foreign fun c member => ascii c (List.mem_reverse.2 member))
  have divided : right = before.reverse ++ [c] ++ behind.reverse := by
    rw [← List.reverse_reverse right, shape]
    simp
  obtain ⟨dropped, controls, cleaned⟩ := exists_clean_append filled before.reverse kept
  have cBlank : Text.isWhitespace c = true := blank c (by simp [divided])
  refine ⟨(dropped ++ before.reverse).filter (! Text.isTabOrNewline ·) ++ [c],
    ⟨?_, _, c, rfl, cBlank, (not_letter_of_kept cBlank kept).1⟩, ?_⟩
  · intro d member
    rcases List.mem_append.1 member with inner | last
    · rcases List.mem_append.1 (List.mem_filter.1 inner).1 with control | between
      · exact .inl (controls d control)
      · exact .inr (blank d (by rw [divided]; simp [List.mem_reverse.1 between]))
    · rw [List.mem_singleton.1 last]
      exact .inr cBlank
  · have trimmed := parse_append (List.forall_mem_nil _)
      (fun d member => drops d (List.mem_reverse.1 member)) (core ++ before.reverse ++ [c])
    rw [divided, ← cleaned]
    simpa [parse] using trimmed

/-- **With white space outside ASCII around it, a text is another URL or none**: the difference is
not one of credentials or ports. -/
theorem hasAsciiMargins_of_agrees {text : Text} {url found : Url}
    (parsed : parse (Text.trimBlank text) = .ok url) (read : parse text = .ok found)
    (agrees : found.Agrees url) : text.hasAsciiMargins = true := by
  obtain ⟨left, right, shape, leftBlank, rightBlank⟩ := Text.exists_margins text
  have leftAscii : ∀ c ∈ left, c.toNat < 128 := by
    apply Classical.byContradiction
    intro foreign
    rw [shape, List.append_assoc, parse_of_foreign_start leftBlank foreign] at read
    cases read
  have trimmed := parse_append
    (fun c member => (Text.isC0ControlOrSpace_iff_of_isWhitespace (leftBlank c member)).2
      (leftAscii c member)) (List.forall_mem_nil _) (Text.trimBlank text ++ right)
  rw [List.append_nil, ← List.append_assoc, ← shape, read] at trimmed
  have rightAscii : ∀ c ∈ right, c.toNat < 128 := by
    apply Classical.byContradiction
    intro foreign
    obtain ⟨tail, isTail, behind⟩ :=
      exists_tail_of_foreign_end rightBlank foreign (clean_ne_nil_of_parse parsed)
    rw [behind] at trimmed
    exact readClean_append_not_agrees isTail parsed trimmed.symm agrees
  rw [shape, Text.hasAsciiMargins_iff leftBlank rightBlank (Text.trimmed_trimBlank text)
    (ne_nil_of_parse parsed)]
  exact ⟨leftAscii, rightAscii⟩

/-- A text is the URL that it is without the white space around it exactly if this white space is
ASCII. -/
theorem parse_eq_ok_iff_hasAsciiMargins {text : Text} {url : Url}
    (parsed : parse (Text.trimBlank text) = .ok url) :
    parse text = .ok url ↔ text.hasAsciiMargins = true :=
  ⟨fun read => hasAsciiMargins_of_agrees parsed read ⟨rfl, rfl, rfl, rfl⟩,
    parse_of_hasAsciiMargins parsed⟩

end Url
end LoginGate
