import LoginGate.Proofs.Url.Host
import LoginGate.Proofs.Url.Tail.Whole
import LoginGate.Url.Origin

/-!
Contract: what every URL has that was parsed, also after its origin was replaced.

Owns:
- sound schemes, authorities and URLs;
- the law that the parser gives sound URLs only;
- the law that replacing an origin keeps a URL sound.

Does not own: what soundness is good for (`Proofs.Url.Reread`).

A URL is a record of texts, most combinations of which were never parsed: a port without a host, a
special scheme without an authority. Soundness says which combinations occur, once for all readers
of a URL's text.
-/

namespace LoginGate.Url

/-! ## Sound parts -/

def IsScheme (scheme : Text) : Prop :=
  ∃ first name, scheme = first :: name ∧ Text.isLetter first = true ∧
    name.all isSchemeChar = true ∧ Text.toAsciiLower scheme = scheme

def readHost (scheme text : Text) : Except ParseError Host :=
  if isSpecialScheme scheme then specialHost text else verbatimHost text

structure Authority.Sound (scheme : Text) (authority : Authority) : Prop where
  username : authority.username.Avoids Percent.userInfo
  password : authority.password.Avoids Percent.userInfo
  written : authority.host.Written
  host : authority.host ≠ .name [] -> readHost scheme authority.host.text = .ok authority.host
  port : ∀ port, authority.port = some port -> port ≤ 65535
  /-- Without a host there is nothing else, and a file has nothing but its host. -/
  bare : authority.host = .name [] ∨ isFileScheme scheme = true ->
    authority.username = [] ∧ authority.password = [] ∧ authority.port = none
  hosted : isSpecialScheme scheme = true -> isFileScheme scheme = false -> authority.host ≠ .name []

/-- A URL as the parser gives it. -/
structure Sound (url : Url) : Prop where
  scheme : IsScheme url.scheme
  authority : ∀ authority, url.authority = some authority ->
    authority.Sound url.scheme ∧ ∃ list, url.path = .segments list
  hosted : isSpecialScheme url.scheme = true -> url.authority ≠ none
  path : url.path.Plain
  segments : ∀ list, url.path = .segments list -> ∀ segment ∈ list, '/' ∉ segment
  query : ∀ query, url.query = some query -> query.Printable
  fragment : ∀ fragment, url.fragment = some fragment -> fragment.Printable

theorem isSpecialScheme_of_file {scheme : Text} (file : isFileScheme scheme = true) :
    isSpecialScheme scheme = true := by
  unfold isSpecialScheme
  rw [file, Bool.or_true]

theorem Host.Written.text_ne_nil {host : Host} (written : host.Written) (filled : host ≠ .name []) :
    host.text ≠ [] := by
  cases written with
  | @name text allowed printable => exact fun empty => filled (congrArg Host.name empty)
  | @ipv4 address bounded => exact ipv4Text_ne_nil address
  | ipv6 isIpv6 => exact List.cons_ne_nil _ _

private theorem written_empty : Host.Written (.name []) := .name Text.avoids_nil Text.avoids_nil

/-- What the reader for a scheme gives is a host that it reads back. -/
theorem readHost_text {scheme text : Text} {host : Host} (read : readHost scheme text = .ok host) :
    host.Written ∧ readHost scheme host.text = .ok host ∧
      (host = .name [] -> isSpecialScheme scheme = false ∧ text = []) := by
  unfold readHost at read ⊢
  split at read
  · rename_i special
    obtain ⟨written, filled, again⟩ := specialHost_text read
    rw [if_pos special]
    exact ⟨written, again, fun empty => absurd empty filled⟩
  · rename_i other
    obtain ⟨written, empty, again⟩ := verbatimHost_text read
    rw [if_neg other]
    exact ⟨written, again, fun same => ⟨by simpa using other, empty same⟩⟩

/-! ## What the parser gives -/

/-- Lower case is a scheme character again, and a letter if it was one. -/
theorem asciiLower_of_isSchemeChar {c : Char} (allowed : isSchemeChar c = true) :
    isSchemeChar (Text.asciiLower c) = true ∧
      (Text.isLetter c = true -> Text.isLetter (Text.asciiLower c) = true) ∧
      Text.asciiLower (Text.asciiLower c) = Text.asciiLower c := by
  have every : ∀ c : Char, c.toNat < 128 -> isSchemeChar c = true ->
      isSchemeChar (Text.asciiLower c) = true ∧
        (Text.isLetter c = true -> Text.isLetter (Text.asciiLower c) = true) ∧
        Text.asciiLower (Text.asciiLower c) = Text.asciiLower c :=
    Text.forall_ascii (by decide +kernel)
  have small : c.toNat < 128 := by
    simp only [isSchemeChar, Text.isAlphanumeric, Bool.or_eq_true, beq_iff_eq] at allowed
    rcases allowed with (((letter | digit) | rfl) | rfl) | rfl
    · have range := Text.isLetter_iff.1 letter
      omega
    · have range := Text.isDigit_iff.1 digit
      omega
    all_goals decide
  exact every c small allowed

private theorem isScheme_of_scheme? {text scheme rest : Text}
    (found : scheme? text = some (scheme, rest)) :
    IsScheme scheme := by
  unfold scheme? at found
  split at found
  · rename_i first name behind cut
    rw [Option.ite_none_right_eq_some, Bool.and_eq_true] at found
    obtain ⟨⟨isLetter, allowed⟩, same⟩ := found
    cases same
    have firstAllowed : isSchemeChar first = true := by
      simp [isSchemeChar, Text.isAlphanumeric, isLetter]
    refine ⟨_, _, rfl, (asciiLower_of_isSchemeChar firstAllowed).2.1 isLetter, ?_, ?_⟩
    · rw [List.all_eq_true] at allowed ⊢
      intro c member
      obtain ⟨source, inName, rfl⟩ := List.mem_map.1 member
      exact (asciiLower_of_isSchemeChar (allowed source inName)).1
    · unfold Text.toAsciiLower
      rw [List.map_map]
      refine List.map_congr_left fun c member => ?_
      have inScheme : isSchemeChar c = true := by
        rcases List.mem_cons.1 member with rfl | later
        · exact firstAllowed
        · exact List.all_eq_true.1 allowed c later
      exact (asciiLower_of_isSchemeChar inScheme).2.2
  · cases found

private theorem avoids_userInfo (text : Text) :
    (Percent.encode Percent.userInfo text).Avoids Percent.userInfo :=
  Percent.avoids_encode (by decide) (fun _ => id) text

private theorem le_of_bind_writtenPort {scheme : Text} {port : Option Nat}
    (bounded : ∀ n, port = some n -> n ≤ 65535) :
    ∀ n, port.bind (writtenPort scheme) = some n -> n ≤ 65535 := by
  intro n kept
  obtain ⟨number, value, written⟩ := Option.bind_eq_some_iff.1 kept
  unfold writtenPort at written
  rw [Option.ite_none_left_eq_some] at written
  cases written.2
  exact bounded n value

private theorem le_of_readPort {scheme digits rest : Text} {port : Option Nat}
    (read : readPort scheme digits = .ok (port, rest)) : ∀ n, port = some n -> n ≤ 65535 := by
  unfold readPort at read
  dsimp only at read
  split at read
  · rename_i passes
    cases read
    apply le_of_bind_writtenPort
    intro n value
    simp only [Bool.and_eq_true] at passes
    rw [value] at passes
    simpa using passes.1
  · cases read

private theorem sound_of_readAuthority {scheme text rest : Text} {followed : Bool}
    {authority : Authority} (notFile : isFileScheme scheme = false)
    (read : readAuthority scheme followed text = .ok (authority, rest)) : authority.Sound scheme := by
  unfold readAuthority at read
  dsimp only at read
  split at read
  · cases read
  split at read
  · cases read
  rename_i notMissing
  have parts : ∃ hostText portText info, ∃ host,
      readHost scheme hostText = .ok host ∧
      (hostText.isEmpty && isSpecialScheme scheme) = false ∧
      (host = .name [] -> portText = []) ∧
      readPort scheme (portText.drop 1) = .ok (authority.port, rest) ∧
      (host = .name [] -> (readUserInfo info).1 = [] ∧ (readUserInfo info).2 = []) ∧
      authority.host = host ∧ authority.username = (readUserInfo info).1 ∧
      authority.password = (readUserInfo info).2 := by
    split at read
    all_goals
      rename_i kind
      obtain ⟨host, hostRead, afterHost⟩ := of_bind_eq_ok read
      split at afterHost
      · cases afterHost
      rename_i ported
      obtain ⟨⟨port, behind⟩, portRead, afterPort⟩ := of_bind_eq_ok afterHost
      dsimp only at afterPort
      split at afterPort
      · cases afterPort
      rename_i owned
      cases afterPort
      refine ⟨_, _, _, host, by simpa [readHost, kind] using hostRead, by simpa using notMissing, ?_,
        portRead, ?_, rfl, rfl, rfl⟩
      · exact fun empty => by simpa [empty] using ported
      · exact fun empty => by simpa [empty] using owned
  obtain ⟨hostText, portText, info, host, hostRead, notMissing, ported, portRead, owned, rfl,
    username, password⟩ := parts
  obtain ⟨written, again, emptyText⟩ := readHost_text hostRead
  refine {
    username := username ▸ avoids_userInfo _, password := password ▸ avoids_userInfo _
    written := written, host := fun _ => again, port := le_of_readPort portRead
    bare := ?_, hosted := ?_ }
  · rintro (empty | file)
    · refine ⟨by rw [username, (owned empty).1], by rw [password, (owned empty).2], ?_⟩
      rw [ported empty] at portRead
      have none : readPort scheme (([] : Text).drop 1) = .ok (none, []) := rfl
      rw [none] at portRead
      exact (Prod.mk.inj (Except.ok.inj portRead)).1.symm
    · rw [notFile] at file
      cases file
  · intro special _ empty
    have other := (emptyText empty).1
    rw [special] at other
    cases other

private theorem sound_of_fileAuthority {hostText : Text} {authority : Authority}
    (read : fileAuthority hostText = .ok authority) : authority.Sound "file".toList := by
  have none : ∀ {host : Host}, host.Written ->
      (host ≠ .name [] -> readHost "file".toList host.text = .ok host) ->
      Authority.Sound "file".toList { username := [], password := [], host, port := none } :=
    fun written again => {
      username := Text.avoids_nil, password := Text.avoids_nil, written := written, host := again
      port := by rintro _ ⟨⟩
      bare := fun _ => ⟨rfl, rfl, rfl⟩
      hosted := fun _ notFile => absurd notFile (by decide) }
  unfold fileAuthority at read
  split at read
  · cases read
    exact none written_empty fun filled => absurd rfl filled
  · obtain ⟨host, hostRead, finished⟩ := of_bind_eq_ok read
    cases finished
    obtain ⟨written, -, again⟩ := specialHost_text hostRead
    split
    · exact none written_empty fun filled => absurd rfl filled
    · exact none written fun _ => again

private theorem slash_not_mem_withoutLeadingEmpty {path : List Text}
    (missing : ∀ segment ∈ path, '/' ∉ segment) :
    ∀ segment ∈ withoutLeadingEmpty path, '/' ∉ segment := by
  unfold withoutLeadingEmpty
  split
  · simp
  · rename_i kept _
    exact fun segment member => missing segment (List.dropWhile_subset _ member)

private theorem sound_of_readHierarchy {scheme text : Text} {followed : Bool}
    {parts : Authority × Path} (notFile : isFileScheme scheme = false)
    (read : readHierarchy scheme followed text = .ok parts) :
    parts.1.Sound scheme ∧
      ∃ list, parts.2 = .segments list ∧ ∀ segment ∈ list, '/' ∉ segment := by
  obtain ⟨_, _, rest, -, authorityRead, path⟩ := exists_of_readHierarchy read
  exact ⟨sound_of_readAuthority notFile authorityRead, _, path,
    fun _ member => slash_not_mem_readPath member⟩

private theorem sound_of_readBody {scheme text : Text} {followed : Bool}
    {parts : Option Authority × Path} (read : readBody scheme followed text = .ok parts) :
    (∀ authority, parts.1 = some authority ->
      authority.Sound scheme ∧ ∃ list, parts.2 = .segments list) ∧
    (isSpecialScheme scheme = true -> parts.1 ≠ none) ∧
    ∀ list, parts.2 = .segments list -> ∀ segment ∈ list, '/' ∉ segment := by
  have hierarchy : isFileScheme scheme = false -> ∀ {text found},
      readHierarchy scheme followed text = .ok found -> parts = (some found.1, found.2) ->
      (∀ authority, parts.1 = some authority ->
        authority.Sound scheme ∧ ∃ list, parts.2 = .segments list) ∧
      (isSpecialScheme scheme = true -> parts.1 ≠ none) ∧
      ∀ list, parts.2 = .segments list -> ∀ segment ∈ list, '/' ∉ segment := by
    rintro notFile text found foundRead rfl
    obtain ⟨sound, list, path, missing⟩ := sound_of_readHierarchy notFile foundRead
    refine ⟨?_, fun _ => Option.some_ne_none _, ?_⟩
    · intro authority same
      cases same
      exact ⟨sound, list, path⟩
    · intro other same
      rw [path] at same
      cases same
      exact missing
  unfold readBody at read
  split at read
  · rename_i file
    obtain ⟨⟨found, path⟩, fileRead, finished⟩ := of_bind_eq_ok read
    cases finished
    obtain ⟨host, pathText, -, authorityRead, pathRead⟩ := exists_of_readFile fileRead
    have isFile : scheme = "file".toList := by simpa [isFileScheme] using file
    refine ⟨?_, fun _ => Option.some_ne_none _, ?_⟩
    · intro authority same
      cases same
      exact ⟨isFile ▸ sound_of_fileAuthority authorityRead, _, pathRead⟩
    · intro list same
      rw [pathRead] at same
      cases same
      exact slash_not_mem_withoutLeadingEmpty fun _ member => slash_not_mem_readPath member
  rename_i other
  have notFile : isFileScheme scheme = false := by simpa using other
  split at read
  · obtain ⟨found, foundRead, finished⟩ := of_bind_eq_ok read
    exact hierarchy notFile foundRead (Except.ok.inj finished).symm
  rename_i notSpecial
  split at read
  · obtain ⟨found, foundRead, finished⟩ := of_bind_eq_ok read
    exact hierarchy notFile foundRead (Except.ok.inj finished).symm
  · cases read
    refine ⟨by rintro _ ⟨⟩, fun special => absurd special notSpecial, ?_⟩
    intro list same
    cases same
    exact fun _ member => slash_not_mem_readPath member
  · cases read
    exact ⟨by rintro _ ⟨⟩, fun special => absurd special notSpecial, by rintro _ ⟨⟩⟩

/-- **The parser gives sound URLs only.** -/
theorem sound_of_parse {text : Text} {url : Url} (parsed : parse text = .ok url) : url.Sound := by
  obtain ⟨rest, front, body, query, fragment, found, -, -, bodyRead, -, fragmentRead⟩ :=
    exists_of_readClean parsed
  obtain ⟨authority, hosted, segments⟩ := sound_of_readBody bodyRead
  refine {
    scheme := isScheme_of_scheme? found, authority := authority, hosted := hosted
    path := (plain_of_parse parsed).1, segments := segments
    query := (plain_of_parse parsed).2, fragment := ?_ }
  intro part same
  rw [fragmentRead] at same
  obtain ⟨source, -, rfl⟩ := Option.map_eq_some_iff.1 same
  exact Percent.printable_encode (fun _ control => by simp [Percent.fragment, control]) source

/-! ## Replacing the origin -/

/-- Another scheme of the same kind and another port. -/
theorem Authority.Sound.replace {scheme other : Text} {authority : Authority}
    (sound : authority.Sound scheme) (sameKind : isSpecialScheme other = isSpecialScheme scheme)
    (notFile : isFileScheme other = false)
    (hosted : isSpecialScheme other = true -> authority.host ≠ .name []) {port : Option Nat}
    (bounded : ∀ n, port = some n -> n ≤ 65535) (bare : authority.host = .name [] -> port = none) :
    ({ authority with port } : Authority).Sound other where
  username := sound.username
  password := sound.password
  written := sound.written
  host filled := by
    have again := sound.host filled
    unfold readHost at again ⊢
    rwa [sameKind]
  port := bounded
  bare := by
    rintro (empty | file)
    · exact ⟨(sound.bare (.inl empty)).1, (sound.bare (.inl empty)).2.1, bare empty⟩
    · rw [notFile] at file
      cases file
  hosted special _ := hosted special

theorem host?_ne_none_iff {url : Url} :
    url.host?.isSome = true ↔ ∃ authority, url.authority = some authority ∧
      authority.host ≠ .name [] := by
  unfold host?
  cases url.authority with
  | none => simp
  | some authority =>
    rw [Option.bind_some]
    split
    · rename_i empty
      simp [empty]
    · rename_i filled
      simp [filled]

section Origin

variable {url : Url} (sound : url.Sound)
include sound

theorem Sound.withScheme {scheme : Text} (isScheme : IsScheme scheme) :
    (url.withScheme scheme).Sound := by
  unfold Url.withScheme
  split
  · rename_i takes
    simp only [takesScheme, Bool.and_eq_true, beq_iff_eq, Bool.not_eq_true', Bool.or_eq_true]
      at takes
    obtain ⟨⟨sameKind, noFile⟩, hosted⟩ := takes
    refine {
      scheme := isScheme, authority := ?_, hosted := ?_, path := sound.path
      segments := sound.segments, query := sound.query, fragment := sound.fragment }
    · intro authority same
      obtain ⟨before, known, shape⟩ : ∃ before, url.authority = some before ∧
          ∃ port, authority = { before with port } ∧ (port = before.port ∨
            port = before.port.bind (writtenPort scheme)) := by
        dsimp only at same
        split at same
        · obtain ⟨before, known, rfl⟩ := Option.map_eq_some_iff.1 same
          exact ⟨before, known, _, rfl, .inr rfl⟩
        · exact ⟨authority, same, _, rfl, .inl rfl⟩
      obtain ⟨port, rfl, changed⟩ := shape
      obtain ⟨soundBefore, path⟩ := sound.authority before known
      have notFile : isFileScheme scheme = false := by simpa [known] using noFile
      refine ⟨soundBefore.replace sameKind notFile ?_ ?_ ?_, path⟩
      · intro special
        have some : url.host?.isSome = true := by simpa [special] using hosted
        obtain ⟨owner, owned, filled⟩ := host?_ne_none_iff.1 some
        rw [known] at owned
        cases owned
        exact filled
      · rcases changed with rfl | rfl
        · exact soundBefore.port
        · exact le_of_bind_writtenPort soundBefore.port
      · intro empty
        have missing := (soundBefore.bare (.inl empty)).2.2
        rcases changed with rfl | rfl
        · exact missing
        · rw [missing]
          rfl
    · intro special
      have present := sound.hosted (sameKind ▸ special)
      dsimp only
      split
      · simpa using present
      · exact present
  · exact sound

theorem Sound.withHost {text : Text} {replaced : Url} (filled : text ≠ [])
    (replaces : url.withHost text = .ok replaced) : replaced.Sound := by
  unfold Url.withHost at replaces
  cases shape : url.path with
  | verbatim other =>
    rw [shape] at replaces
    cases replaces
  | segments list =>
    have read : ∃ host, readHost url.scheme text = .ok host ∧
        replaced = { url with
          authority := some ((url.authority.map ({ · with host })).getD
            { username := [], password := [], host, port := none }) } := by
      rw [shape] at replaces
      unfold readHost
      cases special : isSpecialScheme url.scheme
      all_goals
        rw [special] at replaces
        obtain ⟨host, hostRead, finished⟩ := of_bind_eq_ok replaces
        refine ⟨host, hostRead, ?_⟩
        cases known : url.authority
        all_goals
          rw [known] at finished
          exact (Except.ok.inj finished).symm.trans (by rw [← shape]; rfl)
    obtain ⟨host, hostRead, rfl⟩ := read
    obtain ⟨written, again, empty⟩ := readHost_text hostRead
    have notEmpty : host ≠ .name [] := fun same => filled (empty same).2
    refine {
      scheme := sound.scheme, authority := ?_, hosted := fun _ => Option.some_ne_none _
      path := sound.path, segments := sound.segments, query := sound.query
      fragment := sound.fragment }
    intro authority same
    refine ⟨?_, list, shape⟩
    cases same
    cases known : url.authority with
    | none => exact {
        username := Text.avoids_nil, password := Text.avoids_nil, written := written
        host := fun _ => again, port := by rintro _ ⟨⟩, bare := fun _ => ⟨rfl, rfl, rfl⟩
        hosted := fun _ _ => notEmpty }
    | some before =>
      have soundBefore := (sound.authority before known).1
      exact {
        username := soundBefore.username, password := soundBefore.password, written := written
        host := fun _ => again, port := soundBefore.port
        bare := fun reason => soundBefore.bare (.inr (reason.resolve_left notEmpty))
        hosted := fun _ _ => notEmpty }

theorem Sound.withPort {port : Option Nat} (bounded : ∀ n, port = some n -> n ≤ 65535) :
    (url.withPort port).Sound := by
  unfold Url.withPort
  split
  · exact sound
  · rename_i takes
    simp only [Bool.or_eq_true, not_or, Bool.not_eq_true] at takes
    obtain ⟨hosted, notFile⟩ := takes
    obtain ⟨before, known, filled⟩ := host?_ne_none_iff.1 (by simpa using hosted)
    obtain ⟨soundBefore, path⟩ := sound.authority before known
    refine {
      scheme := sound.scheme, authority := ?_, hosted := by simpa using sound.hosted
      path := sound.path, segments := sound.segments, query := sound.query
      fragment := sound.fragment }
    intro authority same
    dsimp only at same
    rw [known] at same
    cases same
    exact ⟨soundBefore.replace rfl notFile (fun _ => filled) (le_of_bind_writtenPort bounded)
      fun empty => absurd empty filled, path⟩

/-- **Replacing the origin keeps a URL sound.** -/
theorem Sound.withOriginOf {origin : Url} (soundOrigin : origin.Sound) :
    (url.withOriginOf origin).Sound := by
  have schemed := sound.withScheme soundOrigin.scheme
  unfold Url.withOriginOf
  dsimp only
  split
  · exact schemed
  · rename_i host found
    obtain ⟨authority, same, hosted⟩ := Option.bind_eq_some_iff.1 found
    rw [Option.ite_none_left_eq_some, Option.some.injEq] at hosted
    obtain ⟨filled, rfl⟩ := hosted
    have origin := (soundOrigin.authority authority same).1
    split
    · rename_i replaced replaces
      refine (schemed.withHost (origin.written.text_ne_nil filled) replaces).withPort ?_
      intro n known
      rw [same] at known
      exact origin.port n known
    · exact schemed

end Origin

end LoginGate.Url
