import LoginGate.Proofs.Mailbox.Alike
import LoginGate.Proofs.Text.Trim

/-!
Contract: which normal forms of addresses are stable.

Owns:
- texts that are alike under trimming and under the removal of comments;
- what is left when comments are dropped, and what of an address the reader drops;
- the law that says when the normal form of a normal form is the same.

Does not own: the comparison of addresses with those of administrators (`Admins`).

The reader drops comments around angle brackets, but not those inside them. What stands inside may
therefore be an address with a comment at an end, and the next pass drops that one too.
-/

namespace LoginGate.Mailbox

/-! ## Trimmed texts -/

theorem Alike.trimmed {left right : Text} (alike : Alike left right) (trimmed : left.Trimmed) :
    right.Trimmed := by
  constructor
  · intro c starts
    cases blank : Text.isWhitespace c with
    | false => rfl
    | true =>
      have leftStarts := (alike.head?_eq_some_iff (isMark_of_isWhitespace blank)).2 starts
      rw [← blank]
      exact trimmed.first c leftStarts
  · intro c ends
    cases blank : Text.isWhitespace c with
    | false => rfl
    | true =>
      have leftEnds := (alike.getLast?_eq_some_iff (isMark_of_isWhitespace blank)).2 ends
      rw [← blank]
      exact trimmed.last c leftEnds

/-! ## Comments -/

/-- A text without a comment at either end. -/
structure Bare (text : Text) : Prop where
  first : text.head? ≠ some '('
  last : text.getLast? ≠ some ')'

theorem Alike.bare_iff {left right : Text} (alike : Alike left right) :
    Bare left ↔ Bare right := by
  have opening := alike.head?_eq_some_iff (c := '(') (by decide)
  have closing := alike.getLast?_eq_some_iff (c := ')') (by decide)
  constructor
  · rintro ⟨first, last⟩
    exact ⟨fun same => first (opening.2 same), fun same => last (closing.2 same)⟩
  · rintro ⟨first, last⟩
    exact ⟨fun same => first (opening.1 same), fun same => last (closing.1 same)⟩

/-- Groups are dropped from the front until none is there. -/
theorem dropGroups?_eq_some {opening closing : Char} {text rest : Text}
    (dropped : dropGroups? opening closing text = some rest) :
    rest <:+ text ∧ rest.head? ≠ some opening := by
  fun_induction dropGroups? opening closing text with
  | case1 =>
    cases dropped
    exact ⟨List.suffix_rfl, by simp⟩
  | case2 => cases dropped
  | case3 others before after found inductionHypothesis =>
    obtain ⟨suffix, starts⟩ := inductionHypothesis dropped
    obtain ⟨rfl, -⟩ := Text.cut_eq_some_iff.1 found
    have inAfter : Text.trimStart Text.isWhitespace after <:+ after := List.dropWhile_suffix _
    have inOthers : after <:+ before ++ closing :: after :=
      (List.suffix_cons closing after).trans (List.suffix_append before _)
    exact ⟨((suffix.trans inAfter).trans inOthers).trans (List.suffix_cons opening _), starts⟩
  | case4 c others different =>
    cases dropped
    exact ⟨List.suffix_rfl, fun same => different (Option.some.inj same)⟩

/-- Without its comments a text is bare, and it has no new characters. -/
theorem bare_of_withoutComments? {text rest : Text}
    (uncommented : withoutComments? text = some rest) : Bare rest ∧ rest ⊆ text := by
  obtain ⟨reversed, fromEnd, fromStart⟩ := Option.bind_eq_some_iff.1 uncommented
  obtain ⟨endSuffix, ends⟩ := dropGroups?_eq_some fromEnd
  obtain ⟨startSuffix, starts⟩ := dropGroups?_eq_some fromStart
  refine ⟨⟨starts, ?_⟩, ?_⟩
  · intro same
    obtain ⟨before, whole⟩ := startSuffix
    have lastOfWhole : reversed.reverse.getLast? = some ')' := by
      rw [← whole, List.getLast?_append, same]
      rfl
    rw [List.getLast?_reverse] at lastOfWhole
    exact ends lastOfWhole
  · intro c member
    have inReversed := List.mem_reverse.1 (startSuffix.subset member)
    exact List.mem_reverse.1 (endSuffix.subset inReversed)

theorem withoutComments?_of_bare {text : Text} (bare : Bare text) :
    withoutComments? text = some text := by
  have ends : text.reverse.head? ≠ some ')' := by
    rw [List.head?_reverse]
    exact bare.last
  unfold withoutComments?
  rw [dropGroups?_of_head?_ne ends]
  show dropGroups? '(' ')' text.reverse.reverse = some text
  rw [List.reverse_reverse, dropGroups?_of_head?_ne bare.first]

/-! ## Reading an address again -/

theorem isAddress_of_parse? {text address : Text} (found : parse? text = some address) :
    isAddress address = true := by
  obtain ⟨uncommented, -, rest⟩ := Option.bind_eq_some_iff.1 found
  obtain ⟨inner, -, last⟩ := Option.bind_eq_some_iff.1 rest
  split at last
  · cases last
    assumption
  · cases last

private theorem not_isForbidden_of_mem {address : Text} (valid : isAddress address = true)
    {c : Char} (member : c ∈ address) : isForbidden c = false := by
  unfold isAddress at valid
  split at valid
  · cases valid
  · simp only [Bool.and_eq_true, Bool.not_eq_true', List.any_eq_false] at valid
    simpa using valid.2 c member

theorem trimmed_of_isAddress {address : Text} (valid : isAddress address = true) :
    address.Trimmed := by
  have solid : ∀ c ∈ address, Text.isWhitespace c = false := by
    intro c member
    have allowed := not_isForbidden_of_mem valid member
    unfold isForbidden at allowed
    simp only [Bool.or_eq_false_iff] at allowed
    exact allowed.1.1.1.1.1
  constructor
  · intro c starts
    exact solid c (List.mem_of_head? starts)
  · intro c ends
    exact solid c (List.mem_of_getLast? ends)

/-- A text that holds no closing angle bracket is not taken apart. -/
theorem bracketed?_of_not_mem {text : Text} (missing : '>' ∉ text) :
    bracketed? text = some text := by
  unfold bracketed?
  cases cut : Text.beforeSuffix? ['>'] text with
  | none => rfl
  | some inner =>
    obtain rfl := Text.beforeSuffix?_eq_some_iff.1 cut
    exact absurd (by simp) missing

/-- Reading an address drops its comments and does nothing else. -/
theorem parse?_of_isAddress {address : Text} (valid : isAddress address = true) :
    parse? address = (withoutComments? address).filter isAddress := by
  have unbracketed : ∀ rest, withoutComments? address = some rest ->
      bracketed? rest = some rest := by
    intro rest uncommented
    apply bracketed?_of_not_mem
    intro member
    have inAddress := (bare_of_withoutComments? uncommented).2 member
    exact absurd (not_isForbidden_of_mem valid inAddress) (by decide)
  unfold parse?
  rw [(trimmed_of_isAddress valid).trimBlank_eq]
  cases uncommented : withoutComments? address with
  | none => rfl
  | some rest =>
    show (bracketed? rest).bind _ = _
    rw [unbracketed rest uncommented]
    rfl

private theorem bare_of_parse?_address {address inner : Text} (valid : isAddress address = true)
    (found : parse? address = some inner) : Bare inner := by
  rw [parse?_of_isAddress valid] at found
  exact (bare_of_withoutComments? (Option.filter_eq_some_iff.1 found).1).1

private theorem parse?_of_bare {address : Text} (valid : isAddress address = true)
    (bare : Bare address) :
    parse? address = some address := by
  rw [parse?_of_isAddress valid, withoutComments?_of_bare bare, Option.filter_some, if_pos valid]

theorem parse?_trimBlank (text : Text) : parse? (Text.trimBlank text) = parse? text := by
  unfold parse?
  rw [(Text.trimmed_trimBlank text).trimBlank_eq]

/-! ## Normal forms -/

theorem normalize_of_parse? {text address : Text} (found : parse? text = some address) :
    normalize text = Unicode.toLower address := by
  unfold normalize
  rw [found, Option.getD_some,
    (trimmed_of_isAddress (isAddress_of_parse? found)).trimBlank_eq]

theorem normalize_of_none {text : Text} (missing : parse? text = none) :
    normalize text = Unicode.toLower (Text.trimBlank text) := by
  unfold normalize
  rw [missing, Option.getD_none]

/-- The lower case of a trimmed text that is no mailbox is its own normal form. -/
theorem normalize_toLower_of_none {text : Text} (trimmed : text.Trimmed)
    (missing : parse? text = none) :
    normalize (Unicode.toLower text) = Unicode.toLower text := by
  have alike := alike_toLower text
  have stillMissing : parse? (Unicode.toLower text) = none := by
    have same := isSome_eq_of_rel alike.parse?
    rw [missing] at same
    exact Option.isNone_iff_eq_none.1 (by simpa using same.symm)
  rw [normalize_of_none stillMissing, (alike.trimmed trimmed).trimBlank_eq,
    Unicode.toLower_toLower]

/-- So is the lower case of an address without comments. -/
theorem normalize_toLower_of_bare {address : Text} (valid : isAddress address = true)
    (bare : Bare address) :
    normalize (Unicode.toLower address) = Unicode.toLower address := by
  have alike := alike_toLower address
  have stillValid : isAddress (Unicode.toLower address) = true := by
    rw [← alike.isAddress_eq]
    exact valid
  have found := parse?_of_bare stillValid (alike.bare_iff.1 bare)
  rw [normalize_of_parse? found, Unicode.toLower_toLower]

/-- With comments at its ends it is not, if an address remains without them. -/
theorem normalize_toLower_of_not_bare {address inner : Text} (valid : isAddress address = true)
    (commented : ¬ Bare address) (remains : parse? address = some inner) :
    ∃ stripped, isAddress stripped = true ∧ Bare stripped ∧
      normalize (Unicode.toLower address) = Unicode.toLower stripped ∧
      Unicode.toLower stripped ≠ Unicode.toLower address := by
  have alike := alike_toLower address
  have stillValid : isAddress (Unicode.toLower address) = true := by
    rw [← alike.isAddress_eq]
    exact valid
  have stillRemains : (parse? (Unicode.toLower address)).isSome = true := by
    rw [← isSome_eq_of_rel alike.parse?, remains]
    rfl
  obtain ⟨stripped, found⟩ := Option.isSome_iff_exists.1 stillRemains
  have bare := bare_of_parse?_address stillValid found
  refine ⟨stripped, isAddress_of_parse? found, bare, normalize_of_parse? found, ?_⟩
  intro same
  have bareLower := (alike_toLower stripped).bare_iff.1 bare
  rw [same] at bareLower
  exact commented (alike.bare_iff.2 bareLower)

/-- **When the normal form of a normal form is the same.** It is, unless the text has an address
with a comment at an end which is still an address without it. A second pass drops such comments,
and a third one changes nothing. -/
theorem normalize_normalize_eq_iff (text : Text) :
    (normalize (normalize text) = normalize text ↔
      ∀ address, parse? text = some address -> Bare address ∨ parse? address = none) ∧
    normalize (normalize (normalize text)) = normalize (normalize text) := by
  cases found : parse? text with
  | none =>
    have stable : normalize (normalize text) = normalize text := by
      rw [normalize_of_none found]
      apply normalize_toLower_of_none (Text.trimmed_trimBlank text)
      rw [parse?_trimBlank]
      exact found
    refine ⟨?_, by rw [stable, stable]⟩
    simp [stable]
  | some address =>
    have valid := isAddress_of_parse? found
    rw [normalize_of_parse? found]
    by_cases bare : Bare address
    · have stable := normalize_toLower_of_bare valid bare
      refine ⟨?_, by rw [stable, stable]⟩
      simp [stable, bare]
    · cases remains : parse? address with
      | none =>
        have stable := normalize_toLower_of_none (trimmed_of_isAddress valid) remains
        refine ⟨?_, by rw [stable, stable]⟩
        simp [stable, remains]
      | some inner =>
        obtain ⟨stripped, strippedValid, strippedBare, again, changed⟩ :=
          normalize_toLower_of_not_bare valid bare remains
        rw [again, normalize_toLower_of_bare strippedValid strippedBare]
        refine ⟨?_, rfl⟩
        simp [changed, bare, remains]

/-- A comment inside angle brackets outlives the first pass. -/
theorem normalize_normalize_ne_of_inner_comment :
    normalize (normalize "<(c)a@b.com>".toList) ≠ normalize "<(c)a@b.com>".toList := by
  have found : parse? "<(c)a@b.com>".toList = some "(c)a@b.com".toList := by
    have trimmed : Text.trimBlank "<(c)a@b.com>".toList = "<(c)a@b.com>".toList := by decide
    unfold parse?
    rw [trimmed, withoutComments?_of_bare ⟨by decide, by decide⟩]
    decide
  have valid := isAddress_of_parse? found
  have remains : parse? "(c)a@b.com".toList = some "a@b.com".toList := by
    have uncommented : withoutComments? "(c)a@b.com".toList = some "a@b.com".toList := by
      unfold withoutComments?
      rw [dropGroups?_of_head?_ne (by decide)]
      show dropGroups? '(' ')' ('(' :: "c)a@b.com".toList) = _
      rw [dropGroups?_of_opening]
      have uncommented : "a@b.com".toList.head? ≠ some '(' := by decide
      exact dropGroups?_of_head?_ne uncommented
    rw [parse?_of_isAddress valid, uncommented]
    decide
  have commented : ¬ Bare "(c)a@b.com".toList := fun bare => bare.first (by decide)
  obtain ⟨stripped, -, -, again, changed⟩ :=
    normalize_toLower_of_not_bare valid commented remains
  rw [normalize_of_parse? found, again]
  exact changed

end LoginGate.Mailbox
