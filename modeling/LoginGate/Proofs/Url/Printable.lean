import LoginGate.Proofs.Except
import LoginGate.Proofs.Text.Classes
import LoginGate.Proofs.Text.Split
import LoginGate.Proofs.Url.Directory
import LoginGate.Proofs.Url.Percent

/-!
Contract: path and query of a parsed URL hold no characters that had to be encoded there.

Owns:
- texts that avoid a class of characters, and those that avoid the controls;
- percent-encoding as their source;
- the law that each reader of a path gives segments that avoid what a path encodes, up to the parser
  of whole URLs.

Does not own: what a redirect makes of a path (`Redirect.LocalPath`).

Nothing is asked of the input: whatever stands in it, each segment and the query go through the
encoder of a class that covers the controls.
-/

namespace LoginGate

def Text.Avoids (excluded : Char -> Bool) (text : Text) : Prop := ∀ c ∈ text, excluded c = false

def Text.Printable (text : Text) : Prop := text.Avoids Percent.controls

section Avoids

variable {excluded : Char -> Bool}

theorem Text.avoids_nil : Text.Avoids excluded [] :=
  fun _ member => absurd member List.not_mem_nil

theorem Text.avoids_cons {c : Char} {text : Text} (first : excluded c = false)
    (rest : text.Avoids excluded) : Text.Avoids excluded (c :: text) := by
  intro other member
  rcases List.mem_cons.1 member with rfl | inRest
  · exact first
  · exact rest other inRest

theorem Text.avoids_of_any_eq_false {text : Text} (none : text.any excluded = false) :
    text.Avoids excluded := by
  intro c member
  simpa using List.any_eq_false.1 none c member

theorem Text.avoids_append {first second : Text} (left : first.Avoids excluded)
    (right : second.Avoids excluded) : Text.Avoids excluded (first ++ second) := by
  intro c member
  rcases List.mem_append.1 member with inFirst | inSecond
  · exact left c inFirst
  · exact right c inSecond

theorem Text.Avoids.mono {fewer : Char -> Bool} {text : Text} (avoids : text.Avoids excluded)
    (covers : ∀ c, fewer c = true -> excluded c = true) : text.Avoids fewer := by
  intro c member
  apply Bool.eq_false_iff.2
  intro inside
  exact Bool.eq_false_iff.1 (avoids c member) (covers c inside)

end Avoids

/-! ## Encoding -/

namespace Percent

theorem path_of_controls {c : Char} (control : controls c = true) : path c = true := by
  simp [path, fragment, control]

private theorem query_of_controls {c : Char} (control : controls c = true) : query c = true := by
  simp [query, control]

theorem specialQuery_of_controls {c : Char} (control : controls c = true) :
    specialQuery c = true := by
  simp [specialQuery, query_of_controls control]

/-- An encoded text is written in the characters of encoded bytes and those that are kept. -/
theorem avoids_encode_of_kept {excluded encoded : Char -> Bool}
    (outside : escapeChars.any excluded = false) {text : Text}
    (kept : ∀ c ∈ text, encoded c = false -> excluded c = false) :
    (encode encoded text).Avoids excluded := by
  intro c member
  obtain ⟨source, inText, written⟩ := List.mem_flatMap.1 member
  split at written
  · obtain ⟨byte, -, inByte⟩ := List.mem_flatMap.1 written
    exact Text.avoids_of_any_eq_false outside c (mem_escapeChars inByte)
  · rename_i notEncoded
    rw [List.mem_singleton.1 written]
    exact kept source inText (by simpa using notEncoded)

/-- What is encoded by a class avoids the part of it that no encoded byte is written in. -/
theorem avoids_encode {excluded encoded : Char -> Bool}
    (outside : escapeChars.any excluded = false)
    (covers : ∀ c, excluded c = true -> encoded c = true) (text : Text) :
    (encode encoded text).Avoids excluded := by
  apply avoids_encode_of_kept outside
  intro c _ notEncoded
  apply Bool.eq_false_iff.2
  intro inside
  rw [covers c inside] at notEncoded
  cases notEncoded

/-- What avoids a class is not changed by encoding it. -/
theorem encode_eq_self {encoded : Char -> Bool} {text : Text} (avoids : text.Avoids encoded) :
    encode encoded text = text := by
  have single : (text.map fun c => if encoded c then (Utf8.encodeChar c).flatMap encodeByte else [c]) =
      text.map fun c => [c] :=
    List.map_congr_left fun c member => if_neg (by simp [avoids c member])
  unfold encode
  rw [List.flatMap_def, single, ← List.flatMap_def, List.flatMap_singleton']

theorem printable_encode {encoded : Char -> Bool}
    (covers : ∀ c, controls c = true -> encoded c = true) (text : Text) :
    (encode encoded text).Printable :=
  avoids_encode (by decide) covers text

end Percent

namespace Url

/-! ## Segments -/

def PlainSegments (segments : List Text) : Prop :=
  ∀ segment ∈ segments, segment.Avoids Percent.path

theorem PlainSegments.subset {segments others : List Text}
    (plain : PlainSegments segments) (subset : others ⊆ segments) : PlainSegments others :=
  fun segment member => plain segment (subset member)

private theorem path_of_isLetter {c : Char} (letter : Text.isLetter c = true) :
    Percent.path c = false := by
  have range := Text.isLetter_iff.1 letter
  have every : ∀ c : Char, c.toNat < 128 -> Text.isLetter c = true -> Percent.path c = false :=
    Text.forall_ascii (by decide +kernel)
  exact every c (by omega) letter

section Segments

variable {P : Text -> Prop}

private theorem forall_mem_parentOf {file : Bool} {path : List Text}
    (all : ∀ segment ∈ path, P segment) :
    ∀ segment ∈ parentOf file path, P segment := by
  unfold parentOf
  split
  · split
    · exact all
    · exact List.forall_mem_nil _
  · exact fun segment member => all segment (List.drop_subset 1 _ member)

variable (empty : P []) (drive : ∀ letter, Text.isLetter letter = true -> P [letter, ':'])
include empty drive

/-- What holds of empty segments, drives and encoded segments, unless they name a directory, holds of
a path that these make. -/
theorem forall_mem_addSegment {file : Bool} {path : List Text} (all : ∀ segment ∈ path, P segment)
    {added : Text}
    (encoded : namesDirectory added = false -> P (Percent.encode Percent.path added))
    (isLast : Bool) : ∀ segment ∈ addSegment file path added isLast, P segment := by
  have parent : ∀ segment ∈ parentOf file path, P segment := forall_mem_parentOf all
  unfold addSegment
  split
  · split
    · exact List.forall_mem_cons.2 ⟨empty, parent⟩
    · exact parent
  · split
    · split
      · exact List.forall_mem_cons.2 ⟨empty, all⟩
      · exact all
    · split
      · rename_i letter tail _ _ isDrive
        -- Only a drive letter is kept without being encoded.
        simp only [Bool.and_eq_true] at isDrive
        have isLetter : Text.isLetter letter = true := by
          have shape := isDrive.2
          unfold isDriveLetter at shape
          split at shape
          · rename_i same
            cases same
            simp only [Bool.and_eq_true] at shape
            exact shape.1
          · cases shape
        simpa using drive letter isLetter
      · rename_i segment _ _ notParent notSelf _
        have plain : namesDirectory segment = false := by simp [namesDirectory, notParent, notSelf]
        exact List.forall_mem_cons.2 ⟨encoded plain, all⟩

private theorem forall_mem_addSegments {file : Bool} {path : List Text}
    (all : ∀ segment ∈ path, P segment) {added : List Text}
    (encoded : ∀ segment ∈ added, namesDirectory segment = false ->
      P (Percent.encode Percent.path segment)) :
    ∀ segment ∈ addSegments file path added, P segment := by
  fun_induction addSegments file path added with
  | case1 => exact all
  | case2 path segment =>
    exact forall_mem_addSegment empty drive all (encoded segment List.mem_cons_self) true
  | case3 path segment rest _ inductionHypothesis =>
    rw [List.forall_mem_cons] at encoded
    exact inductionHypothesis (forall_mem_addSegment empty drive all encoded.1 false) encoded.2

theorem forall_mem_readPath {scheme text : Text}
    (encoded : ∀ part : Text, part.Avoids (isPathSeparator (isSpecialScheme scheme)) ->
      namesDirectory part = false -> P (Percent.encode Percent.path part)) :
    ∀ segment ∈ readPath scheme text, P segment := by
  unfold readPath
  dsimp only
  split
  · split
    · simpa using empty
    · exact List.forall_mem_nil _
  · intro segment member
    refine forall_mem_addSegments empty drive (List.forall_mem_nil _) ?_ segment
      (List.mem_reverse.1 member)
    exact fun part inParts => encoded part fun c member =>
      (Text.mem_of_mem_splitAny inParts c member).2

end Segments

theorem plain_readPath (scheme text : Text) : PlainSegments (readPath scheme text) := by
  refine forall_mem_readPath Text.avoids_nil ?_
    fun part _ _ => Percent.avoids_encode (by decide) (fun _ => id) part
  intro letter isLetter
  exact Text.avoids_cons (path_of_isLetter isLetter)
    (Text.avoids_cons (by decide) Text.avoids_nil)

/-- No segment holds a character that separates segments. -/
theorem not_separator_readPath {scheme text : Text} :
    ∀ segment ∈ readPath scheme text,
      segment.Avoids (isPathSeparator (isSpecialScheme scheme)) := by
  refine forall_mem_readPath Text.avoids_nil ?_ ?_
  · intro letter isLetter
    have kept : isPathSeparator (isSpecialScheme scheme) letter = false := by
      apply Bool.eq_false_iff.2
      intro separates
      simp only [isPathSeparator, Bool.or_eq_true, Bool.and_eq_true, beq_iff_eq] at separates
      rcases separates with rfl | ⟨-, rfl⟩ <;> cases isLetter
    exact Text.avoids_cons kept (Text.avoids_cons (by simp [isPathSeparator]) Text.avoids_nil)
  · intro part missing _
    refine Percent.avoids_encode_of_kept ?_ fun c member _ => missing c member
    cases isSpecialScheme scheme <;> decide

theorem slash_not_mem_readPath {scheme text segment : Text} (member : segment ∈ readPath scheme text) :
    '/' ∉ segment := by
  intro slash
  have kept := not_separator_readPath segment member '/' slash
  simp [isPathSeparator] at kept

/-! ## Paths -/

/-- A path as the parser gives it: encoded segments, or printable text that is not rooted. -/
def Path.Plain : Path -> Prop
  | .segments list => PlainSegments list
  | .verbatim text => text.Printable ∧ text.head? ≠ some '/'

theorem avoids_segments {segments : List Text} (plain : PlainSegments segments) :
    (Path.segments segments).text.Avoids Percent.path := by
  intro c member
  obtain ⟨segment, inPath, inSegment⟩ := List.mem_flatMap.1 member
  rcases List.mem_cons.1 inSegment with rfl | inText
  · decide
  · exact plain segment inPath c inText

theorem Path.Plain.printable {path : Path} (plain : path.Plain) : path.text.Printable := by
  cases path with
  | segments list => exact (avoids_segments plain).mono fun _ => Percent.path_of_controls
  | verbatim text => exact plain.1

/-- A rooted path has segments, and so it holds nothing that a path encodes. -/
theorem Path.Plain.avoids {path : Path} (plain : path.Plain)
    (rooted : path.text.head? = some '/') : path.text.Avoids Percent.path := by
  cases path with
  | segments list => exact avoids_segments plain
  | verbatim text => exact absurd rooted plain.2

private theorem plain_withoutLeadingEmpty {path : List Text} (plain : PlainSegments path) :
    PlainSegments (withoutLeadingEmpty path) := by
  unfold withoutLeadingEmpty
  split
  · intro segment member
    rw [List.mem_singleton.1 member]
    exact Text.avoids_nil
  · exact plain.subset (List.dropWhile_subset _)

private theorem plain_of_readFile {text : Text} {authority : Authority} {path : Path}
    (read : readFile text = .ok (authority, path)) : path.Plain := by
  obtain ⟨host, -, finished⟩ := of_bind_eq_ok read
  cases finished
  exact plain_withoutLeadingEmpty (plain_readPath _ _)

private theorem plain_of_readHierarchy {scheme text : Text} {followed : Bool}
    {authority : Authority}
    {path : Path} (read : readHierarchy scheme followed text = .ok (authority, path)) :
    path.Plain := by
  obtain ⟨⟨found, rest⟩, -, finished⟩ := of_bind_eq_ok read
  cases finished
  exact plain_readPath _ _

/-- Encoding keeps the first character, or puts a percent sign in its place. -/
theorem head?_encode_ne_slash {encoded : Char -> Bool} {text : Text}
    (unrooted : text.head? ≠ some '/') :
    (Percent.encode encoded text).head? ≠ some '/' := by
  cases text with
  | nil => simp [Percent.encode]
  | cons c rest =>
    have different : c ≠ '/' := fun same => unrooted (congrArg some same)
    unfold Percent.encode
    rw [List.flatMap_cons]
    split
    · have written : Utf8.encodeChar c ≠ [] := String.utf8EncodeChar_ne_nil
      obtain ⟨byte, bytes, shape⟩ := List.exists_cons_of_ne_nil written
      rw [shape]
      simp [Percent.encodeByte]
    · simpa using different

private theorem plain_of_readBody {scheme text : Text} {followed : Bool}
    {authority : Option Authority} {path : Path}
    (read : readBody scheme followed text = .ok (authority, path)) : path.Plain := by
  unfold readBody at read
  split at read
  · obtain ⟨⟨found, filePath⟩, parts, finished⟩ := of_bind_eq_ok read
    cases finished
    exact plain_of_readFile parts
  split at read
  · obtain ⟨⟨found, specialPath⟩, parts, finished⟩ := of_bind_eq_ok read
    cases finished
    exact plain_of_readHierarchy parts
  split at read
  · obtain ⟨⟨found, otherPath⟩, parts, finished⟩ := of_bind_eq_ok read
    cases finished
    exact plain_of_readHierarchy parts
  · cases read
    exact plain_readPath _ _
  · rename_i unrooted
    cases read
    refine ⟨Percent.printable_encode (fun _ control => control) _, ?_⟩
    apply head?_encode_ne_slash
    intro rooted
    obtain ⟨rest, rfl⟩ := List.head?_eq_some_iff.1 rooted
    exact unrooted rest rfl

/-! ## Whole URLs -/

theorem avoids_marked {excluded : Char -> Bool} {mark : Char} (plain : excluded mark = false)
    {text : Option Text} (avoids : ∀ part, text = some part -> part.Avoids excluded) :
    (marked mark text).Avoids excluded := by
  cases text with
  | none => exact Text.avoids_nil
  | some part => exact Text.avoids_cons plain (avoids part rfl)

/-- What a parsed URL consists of. -/
theorem plain_of_parse {input : Text} {url : Url} (parsed : Url.parse input = .ok url) :
    url.path.Plain ∧ ∀ query, url.query = some query -> query.Printable := by
  unfold parse readClean at parsed
  dsimp only at parsed
  split at parsed
  · cases parsed
  · obtain ⟨⟨authority, path⟩, read, finished⟩ := of_bind_eq_ok parsed
    cases finished
    refine ⟨plain_of_readBody read, ?_⟩
    intro query found
    obtain ⟨source, -, rfl⟩ := Option.map_eq_some_iff.1 found
    refine Percent.printable_encode ?_ source
    intro c control
    split
    · exact Percent.specialQuery_of_controls control
    · exact Percent.query_of_controls control

/-- Path and query of whatever was parsed are printable. -/
theorem printable_pathAndQuery {input : Text} {url : Url} (parsed : Url.parse input = .ok url) :
    url.pathAndQuery.Printable := by
  obtain ⟨path, query⟩ := plain_of_parse parsed
  exact Text.avoids_append path.printable (avoids_marked (by decide) query)

end Url
end LoginGate
