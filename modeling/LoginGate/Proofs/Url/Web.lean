import LoginGate.Proofs.Url.Form
import LoginGate.Proofs.Url.Reread

/-!
Contract: a URL of the web is read back from its text, part by part.

Owns:
- the URLs of the web;
- the segments that a path keeps as they are, and paths read from their text;
- URLs whose parts the parser leaves as they are, and the law that it gives only these, also when
  pairs are added to them;
- the law that such a URL is what its text is read as.

Does not own: other schemes, whose URLs can be read again as well (`Proofs.Url.Reread`).

The crux is the path. A segment is looked at before it is encoded, so encoding must not turn it into
the name of a directory. It does not, because the code that spells a dot is that of the dot itself,
which a path does not encode.
-/

namespace LoginGate

namespace Url

/-- A URL that browsers fetch pages from. -/
def IsWeb (url : Url) : Prop := url.scheme = "http".toList ∨ url.scheme = "https".toList

theorem IsWeb.special {url : Url} (web : url.IsWeb) :
    isSpecialScheme url.scheme = true ∧ isFileScheme url.scheme = false := by
  rcases web with http | https
  · rw [http]
    decide
  · rw [https]
    decide

/-! ## Segments -/

/-- A segment that a path keeps as it is: it separates and encodes nothing and names no directory. -/
structure IsKept (segment : Text) : Prop where
  encoded : segment.Avoids Percent.path
  whole : segment.Avoids (isPathSeparator true)
  stands : namesDirectory segment = false

/-- The code of a byte is no part of a directory's name, unless the byte is a dot. -/
theorem not_infix_of_ne_dot {byte : UInt8} (notDot : byte ≠ 0x2E) :
    ∀ spelling ∈ directorySpellings,
      ¬ Text.toAsciiLower (Percent.encodeByte byte) <:+: spelling := by
  have every : ∀ byte : UInt8, byte ≠ 0x2E -> ∀ spelling ∈ directorySpellings,
      ¬ Text.toAsciiLower (Percent.encodeByte byte) <:+: spelling :=
    Utf8.forall_byte (by decide +kernel)
  exact every byte notDot

private theorem exists_ne_dot {c : Char} (encoded : Percent.path c = true) :
    ∃ byte ∈ Utf8.encodeChar c, byte ≠ 0x2E := by
  by_cases small : c.toNat < 0x80
  · rw [Utf8.encodeChar_of_lt small]
    refine ⟨_, List.mem_singleton_self _, ?_⟩
    intro dot
    have number := congrArg UInt8.toNat dot
    rw [UInt8.toNat_ofNat', Nat.mod_eq_of_lt (by omega)] at number
    have isDot : c = '.' := by rw [← Char.ofNat_toNat c, number]; rfl
    rw [isDot] at encoded
    exact absurd encoded (by decide)
  · obtain ⟨first, rest, shape, -⟩ := Utf8.exists_encodeChar_eq c
    have member : first ∈ Utf8.encodeChar c := by simp [shape]
    have high := Utf8.forall_mem_encodeChar (Nat.not_lt.1 small) first member
    exact ⟨first, member, fun dot => absurd (dot ▸ high) (by decide)⟩

/-- A text that is the name of a directory once it is encoded has nothing to be encoded. -/
theorem avoids_of_namesDirectory_encode {text : Text}
    (names : namesDirectory (Percent.encode Percent.path text) = true) :
    text.Avoids Percent.path := by
  intro c member
  apply Bool.eq_false_iff.2
  intro encoded
  obtain ⟨byte, inCode, notDot⟩ := exists_ne_dot encoded
  have inCharacter : Percent.encodeByte byte <:+:
      (Utf8.encodeChar c).flatMap Percent.encodeByte :=
    List.infix_of_mem_flatten (List.mem_map_of_mem inCode)
  have inText : (Utf8.encodeChar c).flatMap Percent.encodeByte <:+:
      Percent.encode Percent.path text := by
    apply List.infix_of_mem_flatten
    exact List.mem_map.2 ⟨c, member, if_pos encoded⟩
  have lowered := (inCharacter.trans inText).map Text.asciiLower
  exact not_infix_of_ne_dot notDot _ (lower_mem_directorySpellings names) lowered

/-- Encoding does not make the name of a directory. -/
theorem namesDirectory_encode {text : Text} (stands : namesDirectory text = false) :
    namesDirectory (Percent.encode Percent.path text) = false := by
  apply Bool.eq_false_iff.2
  intro names
  rw [Percent.encode_eq_self (avoids_of_namesDirectory_encode names), stands] at names
  cases names

private theorem isKept_of_mem_readPath {scheme text : Text}
    (special : isSpecialScheme scheme = true) :
    ∀ segment ∈ readPath scheme text, IsKept segment := by
  have stands : ∀ segment ∈ readPath scheme text, namesDirectory segment = false := by
    refine forall_mem_readPath (by decide) ?_ fun part _ => namesDirectory_encode
    intro letter _
    have colon : ':' ∈ [letter, ':'] := List.mem_cons_of_mem _ List.mem_cons_self
    exact namesDirectory_of_mem colon (by decide) (by decide)
  intro segment member
  have whole := not_separator_readPath segment member
  rw [special] at whole
  exact ⟨plain_readPath scheme text segment member, whole, stands segment member⟩

/-! ## Paths -/

private theorem addSegment_last_ne_nil (file : Bool) (path : List Text) (segment : Text) :
    addSegment file path segment true ≠ [] := by
  unfold addSegment
  rw [if_pos rfl, if_pos rfl]
  split
  · exact List.cons_ne_nil _ _
  · split
    · exact List.cons_ne_nil _ _
    · split <;> exact List.cons_ne_nil _ _

/-- A special URL has a segment at least. -/
theorem readPath_ne_nil {scheme : Text} (special : isSpecialScheme scheme = true) (text : Text) :
    readPath scheme text ≠ [] := by
  have some : ∀ file separator body, pathOf file (Text.splitAny separator body) ≠ [] := by
    intro file separator body
    have whole := List.dropLast_concat_getLast (Text.splitAny_ne_nil separator body)
    obtain ⟨before, added⟩ := addSegments_concat file [] (Text.splitAny separator body).dropLast
    rw [← whole, pathOf, added, ne_eq, List.reverse_eq_nil_iff]
    exact addSegment_last_ne_nil file before _
  unfold readPath
  split
  · rw [if_pos special]
    exact List.cons_ne_nil _ _
  · exact some _ _ _

private theorem addSegment_of_isKept {segment : Text} (kept : IsKept segment) (path : List Text)
    (isLast : Bool) : addSegment false path segment isLast = segment :: path := by
  have stands := kept.stands
  unfold namesDirectory at stands
  rw [Bool.or_eq_false_iff] at stands
  unfold addSegment
  rw [stands.1, stands.2]
  simp [Percent.encode_eq_self kept.encoded]

private theorem addSegments_of_isKept {segments : List Text}
    (kept : ∀ segment ∈ segments, IsKept segment)
    (path : List Text) : addSegments false path segments = segments.reverse ++ path := by
  fun_induction addSegments false path segments with
  | case1 => rfl
  | case2 path segment => exact addSegment_of_isKept (kept segment List.mem_cons_self) path true
  | case3 path segment rest _ inductionHypothesis =>
    rw [List.forall_mem_cons] at kept
    rw [inductionHypothesis kept.2, addSegment_of_isKept kept.1]
    simp

theorem Path.text_segments {segments : List Text} (filled : segments ≠ []) :
    (Path.segments segments).text = '/' :: Text.join ['/'] segments := by
  unfold Path.text
  induction segments with
  | nil => exact absurd rfl filled
  | cons segment rest inductionHypothesis =>
    cases rest with
    | nil => simp [Text.join]
    | cons next others =>
      have later := inductionHypothesis (List.cons_ne_nil next others)
      have joined : Text.join ['/'] (segment :: next :: others) =
          segment ++ '/' :: Text.join ['/'] (next :: others) := List.append_assoc _ _ _
      dsimp only at later ⊢
      rw [List.flatMap_cons, later, joined, List.cons_append]

/-- **A path is read from its text.** -/
theorem readPath_text {scheme : Text} (special : isSpecialScheme scheme = true)
    (notFile : isFileScheme scheme = false) {segments : List Text} (filled : segments ≠ [])
    (kept : ∀ segment ∈ segments, IsKept segment) :
    readPath scheme (Path.segments segments).text = segments := by
  have parts : Text.splitAny (isPathSeparator true) (Text.join ['/'] segments) = segments :=
    Text.splitAny_join (by decide) filled fun segment member => (kept segment member).whole
  rw [Path.text_segments filled]
  unfold readPath
  dsimp only
  rw [special, notFile, if_pos (by decide), parts, pathOf, addSegments_of_isKept kept,
    List.append_nil, List.reverse_reverse]

/-! ## Queries and fragments -/

private theorem map_encode_eq_self {encoded : Char -> Bool} {part : Option Text}
    (avoids : ∀ text, part = some text -> text.Avoids encoded) :
    part.map (Percent.encode encoded) = part := by
  cases part with
  | none => rfl
  | some text => exact congrArg some (Percent.encode_eq_self (avoids text rfl))

/-- Encoded pairs are a query that nothing is encoded in once more. -/
theorem avoids_encode_pairs (pairs : Form.Pairs) :
    (Form.encode pairs).Avoids Percent.specialQuery := by
  have plain : ∀ c, Form.isPlain c = true ∨ c = '+' ∨ c = '%' ->
      Percent.specialQuery c = false := by
    have every : ∀ c : Char, c.toNat < 128 -> Form.isPlain c = true ->
        Percent.specialQuery c = false :=
      Text.forall_ascii (by decide +kernel)
    rintro c (isPlain | rfl | rfl)
    · exact every c (Form.isPlain_bounds isPlain).1 isPlain
    all_goals decide
  intro c member
  rcases Text.exists_mem_of_mem_join member with separator | ⟨part, listed, inPart⟩
  · rw [List.mem_singleton.1 separator]
    decide
  · obtain ⟨pair, -, rfl⟩ := List.mem_map.1 listed
    rcases List.mem_append.1 inPart with inName | behind
    · exact plain c (Form.isPlain_of_mem_encodeText inName)
    · rcases List.mem_cons.1 behind with rfl | inValue
      · decide
      · exact plain c (Form.isPlain_of_mem_encodeText inValue)

private theorem cutMarked_append_marked {mark : Char} {front : Text} (missing : mark ∉ front)
    (part : Option Text) : cutMarked mark (front ++ marked mark part) = (front, part) := by
  have alone : cutMarked mark (marked mark part) = ([], part) := by
    cases part with
    | none => rfl
    | some text =>
      have cut : Text.cut mark (mark :: text) = some ([], text) := if_pos rfl
      unfold marked cutMarked
      rw [cut]
  rw [cutMarked_append_of_not_mem missing, alone, List.append_nil]

/-! ## Whole URLs -/

/-- A port that was read is not the default one. -/
theorem written_of_readPort {scheme digits rest : Text} {port : Option Nat}
    (read : readPort scheme digits = .ok (port, rest)) : port.bind (writtenPort scheme) = port := by
  have once : ∀ port : Option Nat, (port.bind (writtenPort scheme)).bind (writtenPort scheme) =
      port.bind (writtenPort scheme) := by
    intro port
    cases port with
    | none => rfl
    | some n =>
      rw [Option.bind_some]
      unfold writtenPort
      split
      · rfl
      · rename_i notDefault
        exact if_neg notDefault
  unfold readPort at read
  dsimp only at read
  split at read
  · cases read
    exact once _
  · cases read

/-- A URL of the web none of whose parts the parser would change. -/
structure IsCanonical (url : Url) : Prop where
  web : url.IsWeb
  sound : url.Sound
  port : ∀ authority, url.authority = some authority ->
    authority.port.bind (writtenPort url.scheme) = authority.port
  path : ∃ segments, url.path = .segments segments ∧ segments ≠ [] ∧
    ∀ segment ∈ segments, IsKept segment
  query : ∀ query, url.query = some query -> query.Avoids Percent.specialQuery
  fragment : ∀ fragment, url.fragment = some fragment -> fragment.Avoids Percent.fragment

/-- **The parser gives URLs of the web only in the form that it leaves as it is.** -/
theorem IsWeb.canonical {text : Text} {url : Url} (parsed : parse text = .ok url)
    (web : url.IsWeb) : url.IsCanonical := by
  obtain ⟨special, notFile⟩ := web.special
  obtain ⟨rest, front, body, query, fragment, -, -, -, bodyRead, queryRead, fragmentRead⟩ :=
    exists_of_readClean parsed
  unfold readBody at bodyRead
  rw [if_neg (by simp [notFile]), if_pos special] at bodyRead
  obtain ⟨parts, hierarchyRead, finished⟩ := of_bind_eq_ok bodyRead
  obtain ⟨sameAuthority, samePath⟩ := Prod.mk.inj (Except.ok.inj finished)
  obtain ⟨authorityText, pathText, behind, -, authorityRead, path⟩ :=
    exists_of_readHierarchy hierarchyRead
  refine {
    web := web, sound := sound_of_parse parsed, port := ?_, path := ?_, query := ?_
    fragment := ?_ }
  · intro authority known
    obtain ⟨_, _, -, -, portRead⟩ := exists_of_readAuthority authorityRead
    rw [← sameAuthority, Option.some.injEq] at known
    rw [← known]
    exact written_of_readPort portRead
  · exact ⟨_, samePath.symm.trans path, readPath_ne_nil special _, isKept_of_mem_readPath special⟩
  · intro query known
    rw [queryRead, if_pos special] at known
    obtain ⟨source, -, rfl⟩ := Option.map_eq_some_iff.1 known
    exact Percent.avoids_encode (by decide) (fun _ => id) source
  · intro fragment known
    rw [fragmentRead] at known
    obtain ⟨source, -, rfl⟩ := Option.map_eq_some_iff.1 known
    exact Percent.avoids_encode (by decide) (fun _ => id) source

namespace IsCanonical

variable {url : Url} (canonical : url.IsCanonical)
include canonical

/-- Another query that a special URL keeps as it is. -/
theorem withQuery {query : Text} (avoids : query.Avoids Percent.specialQuery) :
    ({ url with query := some query } : Url).IsCanonical where
  web := canonical.web
  sound := {
    scheme := canonical.sound.scheme, authority := canonical.sound.authority
    hosted := canonical.sound.hosted, path := canonical.sound.path
    segments := canonical.sound.segments, fragment := canonical.sound.fragment
    query := by
      rintro _ ⟨⟩
      exact avoids.mono fun _ => Percent.specialQuery_of_controls }
  port := canonical.port
  path := canonical.path
  query := by
    rintro _ ⟨⟩
    exact avoids
  fragment := canonical.fragment

theorem withPairs (pairs : Form.Pairs) : (url.withPairs pairs).IsCanonical := by
  apply canonical.withQuery
  split
  · exact avoids_encode_pairs pairs
  · exact avoids_encode_pairs pairs
  · rename_i query _ given
    exact Text.avoids_append (canonical.query query given)
      (Text.avoids_cons (by decide) (avoids_encode_pairs pairs))

theorem exists_authority :
    ∃ authority, url.authority = some authority ∧ authority.Sound url.scheme := by
  obtain ⟨authority, known⟩ :=
    Option.ne_none_iff_exists'.1 (canonical.sound.hosted canonical.web.special.1)
  exact ⟨authority, known, (canonical.sound.authority authority known).1⟩

theorem avoids_pathText : url.pathText.Avoids Percent.path := by
  obtain ⟨segments, path, -, kept⟩ := canonical.path
  unfold Url.pathText
  rw [path]
  exact avoids_segments fun segment member => (kept segment member).encoded

/-- The text holds no controls and spaces. -/
theorem solid_text : url.text.Avoids Text.isC0ControlOrSpace := by
  have covers : ∀ {encoded : Char -> Bool}, encoded ' ' = true ->
      (∀ c, Percent.controls c = true -> encoded c = true) ->
      ∀ c, Text.isC0ControlOrSpace c = true -> encoded c = true := by
    intro encoded space controls c blank
    simp only [Text.isC0ControlOrSpace, decide_eq_true_eq] at blank
    by_cases isSpace : c.toNat = 0x20
    · have same : c = ' ' := by rw [← Char.ofNat_toNat c, isSpace]
      rw [same, space]
    · apply controls
      simp only [Percent.controls, Bool.or_eq_true, decide_eq_true_eq]
      omega
  obtain ⟨authority, known, sound⟩ := canonical.exists_authority
  have shape : url.text = url.scheme ++ [':'] ++ ("//".toList ++ authority.text) ++
      (url.pathText ++ marked '?' url.query ++ marked '#' url.fragment) := by
    simp [Url.text, authorityText, pathAndQuery, known]
  rw [shape]
  refine Text.avoids_append (Text.avoids_append canonical.sound.scheme.kept.1 ?_)
    (Text.avoids_append (Text.avoids_append ?path ?query) ?fragment)
  · exact Text.avoids_append (Text.avoids_of_any_eq_false (by decide)) sound.kept.1
  case path =>
    exact canonical.avoids_pathText.mono (covers (by decide) fun _ => Percent.path_of_controls)
  case query =>
    refine avoids_marked (by decide) fun query given => (canonical.query query given).mono ?_
    exact covers (by decide) fun _ => Percent.specialQuery_of_controls
  case fragment =>
    refine avoids_marked (by decide) fun text given => (canonical.fragment text given).mono ?_
    exact covers (by decide) fun c control => by simp [Percent.fragment, control]

/-- Authority and path end before a query and a fragment. -/
theorem not_mem_front {authority : Authority} {mark : Char} (encoded : Percent.path mark = true)
    (notSlash : mark ≠ '/') (outside : mark ∉ authority.text) :
    mark ∉ '/' :: '/' :: (authority.text ++ url.pathText) := by
  have notInPath : mark ∉ url.pathText := by
    intro inPath
    rw [canonical.avoids_pathText mark inPath] at encoded
    cases encoded
  simp [notSlash, outside, notInPath]

/-- Authority and path are read from what stands before a query and a fragment. -/
theorem readBody_front {authority : Authority} (known : url.authority = some authority)
    (sound : authority.Sound url.scheme) (followed : Bool) :
    readBody url.scheme followed ('/' :: '/' :: (authority.text ++ url.pathText)) =
      .ok (url.authority, url.path) := by
  obtain ⟨special, notFile⟩ := canonical.web.special
  obtain ⟨segments, path, filled, kept⟩ := canonical.path
  have shape : url.pathText = (Path.segments segments).text := by
    unfold Url.pathText
    rw [path]
  have rooted : url.pathText = [] ∨ ∃ behind, url.pathText = '/' :: behind := by
    rw [shape, Path.text_segments filled]
    exact .inr ⟨_, rfl⟩
  rw [readBody_text_of_special sound special notFile followed rooted,
    canonical.port authority known, shape, readPath_text special notFile filled kept, known, path]

/-- **A URL of the web is what its text is read as.** -/
theorem parse_text : parse url.text = .ok url := by
  obtain ⟨authority, known, sound⟩ := canonical.exists_authority
  obtain ⟨-, -, noHash, noQuestion⟩ := sound.kept
  have shape : url.text = url.scheme ++ ':' :: ('/' :: '/' :: (authority.text ++ url.pathText) ++
      marked '?' url.query ++ marked '#' url.fragment) := by
    simp [Url.text, authorityText, pathAndQuery, known]
  have queryFrom := canonical.not_mem_front (by decide) (by decide) noQuestion
  have fragmentFrom : '#' ∉ '/' :: '/' :: (authority.text ++ url.pathText) ++
      marked '?' url.query := by
    have avoids : (marked '?' url.query).Avoids Percent.specialQuery :=
      avoids_marked (by decide) canonical.query
    rw [List.mem_append, not_or]
    exact ⟨canonical.not_mem_front (by decide) (by decide) noHash,
      fun member => absurd (avoids '#' member) (by decide)⟩
  unfold parse readClean
  rw [clean_eq_self canonical.solid_text, shape, scheme?_append_colon canonical.sound.scheme]
  dsimp only
  rw [cutMarked_append_marked fragmentFrom]
  dsimp only
  rw [cutMarked_append_marked queryFrom]
  dsimp only
  rw [canonical.readBody_front known sound, if_pos canonical.web.special.1,
    map_encode_eq_self canonical.query, map_encode_eq_self canonical.fragment]
  rfl

end IsCanonical

end Url
end LoginGate
