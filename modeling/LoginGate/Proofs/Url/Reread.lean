import LoginGate.Proofs.Url.Clean
import LoginGate.Proofs.Url.Sound

/-!
Contract: the text of a URL is a URL again.

Owns:
- authorities, read from the text that they are written as;
- what the parser finds in the text of a sound URL;
- the law that it finds a URL there.

Does not own: whether it is the same one, as it is for URLs of the web (`Proofs.Url.Web`). Paths are
resolved once more, and a file path may begin with a drive only then.
-/

namespace LoginGate

namespace Url

/-! ## Hosts and ports -/

private theorem cutHost_cons {inBrackets : Bool} {c : Char} (inside : c ≠ ':' ∨ inBrackets = true)
    (rest : Text) :
    cutHost inBrackets (c :: rest) =
      (c :: (cutHost (if c = '[' then true else if c = ']' then false else inBrackets) rest).1,
        (cutHost (if c = '[' then true else if c = ']' then false else inBrackets) rest).2) := by
  rw [cutHost, if_neg]
  rintro ⟨colon, outside⟩
  rcases inside with different | bracketed
  · exact different colon
  · rw [bracketed] at outside
    cases outside

/-- A name without colons and brackets belongs to the host. -/
theorem cutHost_append_of_name {name : Text} (plain : ∀ c ∈ name, c ≠ ':' ∧ c ≠ '[') (rest : Text) :
    cutHost false (name ++ rest) = (name ++ (cutHost false rest).1, (cutHost false rest).2) := by
  induction name with
  | nil => rfl
  | cons c name inductionHypothesis =>
    rw [List.forall_mem_cons] at plain
    have stays : (if c = '[' then true else if c = ']' then false else false) = false := by
      rw [if_neg plain.1.2, ite_self]
    rw [List.cons_append, cutHost_cons (.inl plain.1.1), stays, inductionHypothesis plain.2]
    rfl

/-- Inside brackets everything belongs to the host. -/
theorem cutHost_append_of_bracketed {inner : Text} (plain : ∀ c ∈ inner, c ≠ ']') (rest : Text) :
    cutHost true (inner ++ ']' :: rest) =
      (inner ++ ']' :: (cutHost false rest).1, (cutHost false rest).2) := by
  induction inner with
  | nil => exact cutHost_cons (.inl (by decide)) rest
  | cons c inner inductionHypothesis =>
    rw [List.forall_mem_cons] at plain
    have stays : (if c = '[' then true else if c = ']' then false else true) = true := by
      rw [if_neg plain.1, ite_self]
    rw [List.cons_append, cutHost_cons (.inr rfl), stays, inductionHypothesis plain.2]
    rfl

/-- The text of a host ends before the port. -/
theorem Host.Written.cutHost_text {host : Host} (written : host.Written) {port : Text}
    (isPort : port = [] ∨ ∃ digits, port = ':' :: digits) :
    cutHost false (host.text ++ port) = (host.text, port) := by
  have ended : cutHost false port = ([], port) := by
    rcases isPort with rfl | ⟨digits, rfl⟩
    · rfl
    · rw [cutHost, if_pos ⟨rfl, rfl⟩]
  cases written with
  | @name text allowed _ =>
    have plain : ∀ c ∈ text, c ≠ ':' ∧ c ≠ '[' := by
      intro c member
      have notForbidden := allowed c member
      constructor
      all_goals
        rintro rfl
        exact absurd notForbidden (by decide)
    unfold Host.text
    rw [cutHost_append_of_name plain, ended, List.append_nil]
  | @ipv4 address _ =>
    have plain : ∀ c ∈ ipv4Text address, c ≠ ':' ∧ c ≠ '[' := by
      intro c member
      rcases cases_of_mem_ipv4Text member with rfl | digit
      · decide
      · constructor
        all_goals
          rintro rfl
          exact absurd digit (by decide)
    unfold Host.text
    rw [cutHost_append_of_name plain, ended, List.append_nil]
  | @ipv6 pieces _ =>
    have plain : ∀ c ∈ ipv6Text pieces, c ≠ ']' := by
      intro c member
      rcases cases_of_mem_ipv6Text member with rfl | digit
      · decide
      · rintro rfl
        exact absurd digit (by unfold Text.IsHexDigit; decide)
    unfold Host.text
    rw [List.append_assoc, List.cons_append, cutHost_cons (.inl (by decide)), if_pos rfl,
      List.singleton_append, cutHost_append_of_bracketed plain, ended]
    rfl

private theorem readPort_ofNat (scheme : Text) {port : Option Nat}
    (bounded : ∀ n, port = some n -> n ≤ 65535) :
    readPort scheme ((marked ':' (port.map Text.ofNat)).drop 1) =
      .ok (port.bind (writtenPort scheme), []) := by
  cases port with
  | none => rfl
  | some n =>
    have small := bounded n rfl
    have digits := (Text.isWhole_ofNat n).1
    have broken : Text.breakAt (! Text.isDigit ·) (Text.ofNat n) = (Text.ofNat n, []) :=
      Text.breakAt_eq_self fun c member => by simp [digits.2 c member]
    have value : Text.toNat? 10 (Text.ofNat n) = some n :=
      Text.toNat?_toDigits (by decide) (by decide) n
    show readPort scheme (Text.ofNat n) = _
    unfold readPort
    simp [broken, value, small]

/-! ## Authorities -/

def Authority.location (authority : Authority) : Text :=
  authority.host.text ++ marked ':' (authority.port.map Text.ofNat)

theorem Authority.text_eq (authority : Authority) :
    authority.text = authority.userInfo ++ authority.location :=
  List.append_assoc _ _ _

namespace Authority.Sound

variable {scheme : Text} {authority : Authority} (sound : authority.Sound scheme)
include sound

private theorem avoids_location : authority.location.Avoids endsAuthority := by
  refine Text.avoids_append sound.written.avoids ?_
  cases authority.port with
  | none => exact Text.avoids_nil
  | some n =>
    refine Text.avoids_cons (by decide) fun c member => endsAuthority_of_range ?_
    have range := Text.isDigit_iff.1 ((Text.isWhole_ofNat n).1.2 c member)
    omega

/-- The user information is empty or ends at the last `@`. -/
theorem cutLast_text :
    (Text.cutLast '@' authority.text).getD ([], authority.text) =
        (authority.userInfo.dropLast, authority.location) ∧
      (authority.userInfo.dropLast = [] -> authority.userInfo = []) := by
  have bare : '@' ∉ authority.location :=
    fun member => absurd (sound.avoids_location '@' member) (by decide)
  rw [authority.text_eq]
  by_cases nothing : authority.username.isEmpty && authority.password.isEmpty
  · have unset : authority.userInfo = [] := if_pos nothing
    have uncut : Text.cutLast '@' authority.location = none := by
      unfold Text.cutLast
      rw [Text.cut_eq_none_iff.2 (by simpa using bare)]
      rfl
    rw [unset, List.nil_append, uncut]
    exact ⟨rfl, fun _ => rfl⟩
  · obtain ⟨info, filled, shape⟩ : ∃ info, info ≠ [] ∧ authority.userInfo = info ++ ['@'] := by
      refine ⟨authority.username ++
        (if authority.password.isEmpty then [] else ':' :: authority.password), ?_, if_neg nothing⟩
      intro empty
      rw [List.append_eq_nil_iff] at empty
      apply nothing
      rw [empty.1]
      by_cases unset : authority.password.isEmpty = true
      · rw [unset]
        rfl
      · rw [if_neg unset] at empty
        cases empty.2
    have cut : Text.cutLast '@' (info ++ ['@'] ++ authority.location) =
        some (info, authority.location) :=
      Text.cutLast_eq_some_iff.2 ⟨by simp, bare⟩
    rw [shape, cut, List.dropLast_concat]
    exact ⟨rfl, fun empty => absurd empty filled⟩

/-- User name and password are read from what stands before the `@`. -/
theorem readUserInfo_text :
    readUserInfo authority.userInfo.dropLast = (authority.username, authority.password) := by
  have noColon : ':' ∉ authority.username :=
    fun member => absurd (sound.username ':' member) (by decide)
  have name := Percent.encode_eq_self sound.username
  have word := Percent.encode_eq_self sound.password
  unfold readUserInfo Authority.userInfo
  cases password : authority.password with
  | nil =>
    have uncut : Text.cut ':' authority.username = none := Text.cut_eq_none_iff.2 noColon
    have before : (if authority.username.isEmpty && ([] : Text).isEmpty then []
        else authority.username ++ [] ++ ['@']).dropLast = authority.username := by
      cases authority.username with
      | nil => rfl
      | cons first others => rw [if_neg (by simp), List.append_nil, List.dropLast_concat]
    simp only [List.isEmpty_nil, if_true] at before ⊢
    rw [before, uncut]
    exact Prod.ext name rfl
  | cons c rest =>
    have cut : Text.cut ':' (authority.username ++ ':' :: c :: rest) =
        some (authority.username, c :: rest) := Text.cut_eq_some_iff.2 ⟨rfl, noColon⟩
    rw [password] at word
    simp only [List.isEmpty_cons, Bool.and_false, Bool.false_eq_true, if_false,
      List.dropLast_concat, cut, Option.getD_some, name, word]

/-- **An authority is read from its text.** Only its port may get lost, if it is the default one. -/
theorem readAuthority_text (notFile : isFileScheme scheme = false) (followed : Bool) :
    readAuthority scheme followed authority.text =
      .ok ({ authority with port := authority.port.bind (writtenPort scheme) }, []) := by
  obtain ⟨cut, empty⟩ := sound.cutLast_text
  have portRead := readPort_ofNat scheme sound.port
  have located : cutHost false authority.location =
      (authority.host.text, marked ':' (authority.port.map Text.ofNat)) := by
    refine sound.written.cutHost_text ?_
    cases authority.port with
    | none => exact .inl rfl
    | some n => exact .inr ⟨_, rfl⟩
  have notMissing : ¬ (authority.text.head? = some '@' ∧ authority.userInfo.dropLast = [] ∧
      authority.location = [] ∧ followed = true) := by
    rintro ⟨begins, info, nowhere, -⟩
    rw [authority.text_eq, empty info, nowhere] at begins
    cases begins
  have filled : (authority.host.text.isEmpty && isSpecialScheme scheme) = false := by
    cases special : isSpecialScheme scheme with
    | false => exact Bool.and_false _
    | true =>
      have hosted := sound.written.text_ne_nil (sound.hosted special notFile)
      simp [hosted]
  have host : readHost scheme authority.host.text = .ok authority.host := by
    by_cases hostless : authority.host = .name []
    · have other : isSpecialScheme scheme = false := by
        apply Bool.eq_false_iff.2
        intro special
        exact sound.hosted special notFile hostless
      unfold readHost
      rw [other, hostless]
      rfl
    · exact sound.host hostless
  have ported : ¬ (authority.host = .name [] ∧
      marked ':' (authority.port.map Text.ofNat) ≠ []) := by
    rintro ⟨hostless, present⟩
    rw [(sound.bare (.inl hostless)).2.2] at present
    exact present rfl
  have owned : ¬ (authority.host = .name [] ∧
      (authority.username ≠ [] ∨ authority.password ≠ [])) := by
    rintro ⟨hostless, present⟩
    obtain ⟨username, password, -⟩ := sound.bare (.inl hostless)
    exact present.elim (· username) (· password)
  unfold readHost at host
  unfold readAuthority
  dsimp only
  rw [cut]
  dsimp only
  rw [if_neg notMissing, sound.readUserInfo_text, located]
  dsimp only
  rw [filled, if_neg Bool.false_ne_true]
  split at host
  all_goals
    rename_i kind
    simp only [kind, if_true, Bool.false_eq_true, if_false, host, bind, Except.bind, if_neg ported,
      portRead, if_neg owned]
    rfl

/-- The text of an authority has no characters that end one. -/
theorem cases_of_mem_text {c : Char} (member : c ∈ authority.text) :
    c = '@' ∨ endsAuthority c = false := by
  have encoded : ∀ c, endsAuthority c = true -> Percent.userInfo c = true := by
    intro c ends
    simp only [endsAuthority, Bool.or_eq_true] at ends
    rcases ends with control | listed
    · simp [Percent.userInfo, Percent.path_of_controls control]
    · have every : (" /\\?#@".toList.all Percent.userInfo) = true := by decide
      exact List.all_eq_true.1 every c (by simpa using listed)
  rw [authority.text_eq, List.mem_append] at member
  rcases member with inInfo | inLocation
  · unfold Authority.userInfo at inInfo
    split at inInfo
    · cases inInfo
    · simp only [List.mem_append, List.mem_singleton] at inInfo
      rcases inInfo with (inName | inPassword) | mark
      · exact .inr (sound.username.mono encoded c inName)
      · split at inPassword
        · cases inPassword
        · rcases List.mem_cons.1 inPassword with rfl | inRest
          · exact .inr (by decide)
          · exact .inr (sound.password.mono encoded c inRest)
      · exact .inl mark
  · exact .inr (sound.avoids_location c inLocation)

private theorem not_separator_of_mem_text {c : Char} (member : c ∈ authority.text)
    (special : Bool) : isPathSeparator special c = false := by
  rcases sound.cases_of_mem_text member with rfl | plain
  · cases special <;> decide
  · apply Bool.eq_false_iff.2
    intro separates
    simp only [isPathSeparator, Bool.or_eq_true, Bool.and_eq_true, beq_iff_eq] at separates
    rcases separates with rfl | ⟨-, rfl⟩
    · exact absurd plain (by decide)
    · exact absurd plain (by decide)

private theorem text_eq_of_file (file : isFileScheme scheme = true) :
    authority.text = authority.host.text := by
  obtain ⟨username, password, port⟩ := sound.bare (.inr file)
  unfold Authority.text Authority.userInfo
  rw [username, password, port]
  simp [marked]

end Authority.Sound

/-! ## Marks -/

theorem cutMarked_append_of_not_mem {mark : Char} {front : Text} (missing : mark ∉ front)
    (rest : Text) :
    cutMarked mark (front ++ rest) = (front ++ (cutMarked mark rest).1, (cutMarked mark rest).2) := by
  unfold cutMarked
  cases found : Text.cut mark rest with
  | none =>
    have nowhere : Text.cut mark (front ++ rest) = none := by
      rw [Text.cut_eq_none_iff] at found ⊢
      simp [missing, found]
    rw [nowhere]
  | some parts =>
    obtain ⟨before, after⟩ := parts
    obtain ⟨shape, bare⟩ := Text.cut_eq_some_iff.1 found
    have behind : Text.cut mark (front ++ rest) = some (front ++ before, after) := by
      refine Text.cut_eq_some_iff.2 ⟨by rw [shape, List.append_assoc], ?_⟩
      simp [missing, bare]
    rw [behind]

private theorem cutMarked_prefix (mark : Char) (text : Text) :
    (∃ after, text = (cutMarked mark text).1 ++ after) ∧ mark ∉ (cutMarked mark text).1 := by
  unfold cutMarked
  cases found : Text.cut mark text with
  | none => exact ⟨⟨[], (List.append_nil _).symm⟩, Text.cut_eq_none_iff.1 found⟩
  | some parts =>
    obtain ⟨shape, bare⟩ := Text.cut_eq_some_iff.1 found
    exact ⟨⟨mark :: parts.2, shape⟩, bare⟩

def bodyOf (text : Text) : Text := (cutMarked '?' (cutMarked '#' text).1).1

private theorem bodyOf_append {front : Text} (missing : '#' ∉ front ∧ '?' ∉ front) (rest : Text) :
    bodyOf (front ++ rest) = front ++ bodyOf rest := by
  unfold bodyOf
  rw [cutMarked_append_of_not_mem missing.1, cutMarked_append_of_not_mem missing.2]

private theorem bodyOf_prefix (text : Text) :
    (∃ after, text = bodyOf text ++ after) ∧ '#' ∉ bodyOf text ∧ '?' ∉ bodyOf text := by
  obtain ⟨⟨fragment, whole⟩, noHash⟩ := cutMarked_prefix '#' text
  obtain ⟨⟨query, front⟩, noQuestion⟩ := cutMarked_prefix '?' (cutMarked '#' text).1
  refine ⟨⟨query ++ fragment, ?_⟩, ?_, noQuestion⟩
  · conv => lhs; rw [whole, front]
    rw [List.append_assoc]
    rfl
  · intro member
    apply noHash
    rw [front]
    exact List.mem_append_left _ member

/-- What stands behind an authority: a rooted path, a query or a fragment, or nothing. -/
def Follows (rest : Text) : Prop := ∀ c, rest.head? = some c -> c = '/' ∨ c = '?' ∨ c = '#'

theorem Follows.of_append {rest after : Text} (follows : Follows (rest ++ after)) :
    Follows rest := by
  intro c first
  apply follows c
  rw [List.head?_append, first]
  rfl

private theorem follows_marked (query fragment : Option Text) :
    ∀ c, (marked '?' query ++ marked '#' fragment).head? = some c -> c = '?' ∨ c = '#' := by
  intro c first
  cases query with
  | some query => exact .inl (Option.some.inj first).symm
  | none =>
    cases fragment with
    | some fragment => exact .inr (Option.some.inj first).symm
    | none => cases first

/-- The body behind an authority is a rooted path or nothing. -/
theorem Follows.bodyOf {rest : Text} (follows : Follows rest) :
    bodyOf rest = [] ∨ ∃ behind, bodyOf rest = '/' :: behind := by
  obtain ⟨⟨after, shape⟩, noHash, noQuestion⟩ := bodyOf_prefix rest
  rw [shape] at follows
  cases body : Url.bodyOf rest with
  | nil => exact .inl rfl
  | cons c behind =>
    right
    rw [body] at follows noHash noQuestion
    rcases follows c rfl with rfl | rfl | rfl
    · exact ⟨behind, rfl⟩
    · exact absurd List.mem_cons_self noQuestion
    · exact absurd List.mem_cons_self noHash

/-! ## Bodies -/

private theorem breakAt_text {scheme : Text} {authority : Authority}
    (sound : authority.Sound scheme)
    {path : Text} (rooted : path = [] ∨ ∃ behind, path = '/' :: behind) (special : Bool) :
    Text.breakAt (isPathSeparator special) (authority.text ++ path) = (authority.text, path) := by
  refine Text.breakAt_append_of_stops
    (fun c member => sound.not_separator_of_mem_text member special) ?_
  rcases rooted with rfl | ⟨behind, rfl⟩
  · exact .inl rfl
  · exact .inr ⟨'/', behind, rfl, rfl⟩

private theorem exists_readFile {scheme : Text} {authority : Authority}
    (sound : authority.Sound scheme) (file : isFileScheme scheme = true) {path : Text}
    (rooted : path = [] ∨ ∃ behind, path = '/' :: behind) :
    ∃ parts, readFile ('/' :: '/' :: (authority.text ++ path)) = .ok parts := by
  have hostRead : ∃ again, fileAuthority authority.text = .ok again := by
    rw [sound.text_eq_of_file file]
    unfold fileAuthority
    by_cases hostless : authority.host = .name []
    · rw [hostless]
      exact ⟨_, rfl⟩
    · have read := sound.host hostless
      have filled := sound.written.text_ne_nil hostless
      unfold readHost at read
      rw [if_pos (isSpecialScheme_of_file file)] at read
      simp only [List.isEmpty_iff, filled, if_false, read, bind, Except.bind]
      exact ⟨_, rfl⟩
  have divided : cutFile ('/' :: '/' :: (authority.text ++ path)) =
      if isDriveLetter authority.text then ([], authority.text ++ path)
      else (authority.text, path) := by
    have broken := breakAt_text sound rooted true
    unfold cutFile
    dsimp only
    rw [if_pos (by decide), broken]
  unfold readFile
  rw [divided]
  by_cases drive : isDriveLetter authority.text = true
  · rw [if_pos drive]
    exact ⟨_, rfl⟩
  · obtain ⟨again, read⟩ := hostRead
    rw [if_neg drive]
    simp only [read, bind, Except.bind]
    exact ⟨_, rfl⟩

private theorem readHierarchy_text {scheme : Text} {authority : Authority}
    (sound : authority.Sound scheme) (notFile : isFileScheme scheme = false) (followed : Bool)
    {path : Text} (rooted : path = [] ∨ ∃ behind, path = '/' :: behind) :
    readHierarchy scheme followed (authority.text ++ path) =
      .ok ({ authority with port := authority.port.bind (writtenPort scheme) },
        .segments (readPath scheme path)) := by
  have broken : Text.breakAt (isPathSeparator (isSpecialScheme scheme)) (authority.text ++ path) =
      (authority.text, path) :=
    breakAt_text sound rooted (isSpecialScheme scheme)
  have read := sound.readAuthority_text notFile (followed || !path.isEmpty)
  unfold readHierarchy
  rw [broken]
  simp only [read, bind, Except.bind]
  rfl

/-- Behind the scheme of a special URL, the slashes before the authority are passed over. -/
theorem readBody_text_of_special {scheme : Text} {authority : Authority}
    (sound : authority.Sound scheme) (special : isSpecialScheme scheme = true)
    (notFile : isFileScheme scheme = false) (followed : Bool)
    {path : Text} (rooted : path = [] ∨ ∃ behind, path = '/' :: behind) :
    readBody scheme followed ('/' :: '/' :: (authority.text ++ path)) =
      .ok (some { authority with port := authority.port.bind (writtenPort scheme) },
        .segments (readPath scheme path)) := by
  have begins : ('/' :: '/' :: (authority.text ++ path)).dropWhile (isPathSeparator true) =
      authority.text ++ path := by
    have filled : authority.text ≠ [] := by
      rw [authority.text_eq]
      unfold Authority.location
      have hosted := sound.written.text_ne_nil (sound.hosted special notFile)
      simp [hosted]
    obtain ⟨c, behind, shape⟩ := List.exists_cons_of_ne_nil filled
    have first : isPathSeparator true c = false :=
      sound.not_separator_of_mem_text (by simp [shape]) true
    rw [List.dropWhile_cons_of_pos (by decide), List.dropWhile_cons_of_pos (by decide), shape,
      List.cons_append, List.dropWhile_cons_of_neg (by simp [first])]
  unfold readBody
  rw [if_neg (by simp [notFile]), if_pos special, begins]
  simp only [readHierarchy_text sound notFile followed rooted, bind, Except.bind]
  rfl

/-- **The body of a URL with an authority is read.** -/
theorem exists_readBody_of_authority {scheme : Text} {authority : Authority}
    (sound : authority.Sound scheme) (followed : Bool) {path : Text}
    (rooted : path = [] ∨ ∃ behind, path = '/' :: behind) :
    ∃ parts, readBody scheme followed ('/' :: '/' :: (authority.text ++ path)) = .ok parts := by
  by_cases file : isFileScheme scheme = true
  · obtain ⟨parts, read⟩ := exists_readFile sound file rooted
    unfold readBody
    rw [if_pos file]
    simp only [read, bind, Except.bind]
    exact ⟨_, rfl⟩
  have notFile : isFileScheme scheme = false := by simpa using file
  by_cases special : isSpecialScheme scheme = true
  · exact ⟨_, readBody_text_of_special sound special notFile followed rooted⟩
  · unfold readBody
    rw [if_neg file, if_neg special]
    simp only [readHierarchy_text sound notFile followed rooted, bind, Except.bind]
    exact ⟨_, rfl⟩

/-- A body that begins with fewer than two slashes needs no authority. -/
theorem exists_readBody_of_rootless {scheme text : Text} (other : isSpecialScheme scheme = false)
    (rootless : ∀ rest, text ≠ '/' :: '/' :: rest) (followed : Bool) :
    ∃ parts, readBody scheme followed text = .ok parts := by
  have notFile : isFileScheme scheme = false := by
    apply Bool.eq_false_iff.2
    intro file
    rw [isSpecialScheme_of_file file] at other
    cases other
  unfold readBody
  rw [notFile, other]
  simp only [Bool.false_eq_true, if_false]
  split
  · exact absurd rfl (rootless _)
  · exact ⟨_, rfl⟩
  · exact ⟨_, rfl⟩

/-! ## Whole URLs -/

theorem scheme?_append_colon {scheme : Text} (isScheme : IsScheme scheme) (rest : Text) :
    scheme? (scheme ++ ':' :: rest) = some (scheme, rest) := by
  obtain ⟨first, name, rfl, isLetter, allowed, lowered⟩ := isScheme
  have noColon : ':' ∉ first :: name := by
    intro member
    rcases List.mem_cons.1 member with rfl | later
    · cases isLetter
    · exact absurd (List.all_eq_true.1 allowed ':' later) (by decide)
  have cut : Text.cut ':' (first :: name ++ ':' :: rest) = some (first :: name, rest) :=
    Text.cut_eq_some_iff.2 ⟨rfl, noColon⟩
  unfold scheme?
  rw [cut]
  simp only [isLetter, allowed, Bool.and_self, if_true, lowered]

/-- A text with a scheme and a body that can be read is a URL. -/
theorem exists_parse_of_body {text scheme rest : Text} (isScheme : IsScheme scheme)
    (cleaned : clean text = scheme ++ ':' :: rest)
    (body : ∀ followed, ∃ parts, readBody scheme followed (bodyOf rest) = .ok parts) :
    ∃ url, parse text = .ok url := by
  unfold parse
  rw [cleaned]
  unfold readClean
  rw [scheme?_append_colon isScheme]
  obtain ⟨parts, read⟩ := body
    ((cutMarked '?' (cutMarked '#' rest).1).2.isSome || (cutMarked '#' rest).2.isSome)
  unfold bodyOf at read
  simp only [read, bind, Except.bind]
  exact ⟨_, rfl⟩

/-- Cleaning a printable text drops no more than spaces from its end. -/
theorem exists_clean_append_eq {front rest : Text}
    (kept : front.Avoids Text.isC0ControlOrSpace) (filled : front ≠ [])
    (printable : (front ++ rest).Printable) :
    ∃ others after, clean (front ++ rest) = front ++ others ∧ rest = others ++ after := by
  obtain ⟨c, behind, rfl⟩ := List.exists_cons_of_ne_nil filled
  have started : Text.trimStart Text.isC0ControlOrSpace (c :: behind ++ rest) = c :: behind ++ rest :=
    List.dropWhile_cons_of_neg (by simp [kept c List.mem_cons_self])
  obtain ⟨after, shape, dropped⟩ :=
    Text.exists_trimEnd_append Text.isC0ControlOrSpace (c :: behind ++ rest)
  have unfiltered : clean (c :: behind ++ rest) =
      Text.trimEnd Text.isC0ControlOrSpace (c :: behind ++ rest) := by
    unfold clean Text.trim
    rw [started]
    apply List.filter_eq_self.2
    intro d member
    have inText : d ∈ c :: behind ++ rest := by
      rw [shape]
      exact List.mem_append_left _ member
    have notControl := printable d inText
    rw [Bool.not_eq_true']
    apply Bool.eq_false_iff.2
    intro blank
    simp only [Text.isTabOrNewline, Bool.or_eq_true, beq_iff_eq] at blank
    rcases blank with (rfl | rfl) | rfl
    all_goals exact absurd notControl (by decide)
  rw [unfiltered]
  rcases List.append_eq_append_iff.1 shape with ⟨others, trimmed, divided⟩ | ⟨surplus, front, divided⟩
  · exact ⟨others, after, trimmed, divided⟩
  · have none : surplus = [] := by
      apply List.eq_nil_iff_forall_not_mem.2
      intro d member
      have inFront : d ∈ c :: behind := by
        rw [front]
        exact List.mem_append_right _ member
      have control := dropped d (by simp [divided, member])
      rw [kept d inFront] at control
      cases control
    rw [none] at front divided
    exact ⟨[], rest, by simpa using front.symm, rfl⟩

theorem IsScheme.kept {scheme : Text} (isScheme : IsScheme scheme) :
    (scheme ++ [':']).Avoids Text.isC0ControlOrSpace ∧ (scheme ++ [':']).Printable := by
  obtain ⟨first, name, rfl, isLetter, allowed, -⟩ := isScheme
  have range : ∀ c ∈ first :: name ++ [':'], 0x20 < c.toNat ∧ c.toNat < 0x7F := by
    intro c member
    simp only [List.mem_append, List.mem_cons, List.not_mem_nil, or_false] at member
    have inScheme : isSchemeChar c = true ∨ c = ':' := by
      rcases member with (rfl | inName) | colon
      · simp [isSchemeChar, Text.isAlphanumeric, isLetter]
      · exact .inl (List.all_eq_true.1 allowed c inName)
      · exact .inr colon
    rcases inScheme with schemeChar | rfl
    · simp only [isSchemeChar, Text.isAlphanumeric, Bool.or_eq_true, beq_iff_eq] at schemeChar
      rcases schemeChar with (((letter | digit) | rfl) | rfl) | rfl
      · have bounds := Text.isLetter_iff.1 letter
        omega
      · have bounds := Text.isDigit_iff.1 digit
        omega
      all_goals decide
    · decide
  constructor
  · intro c member
    have bounds := range c member
    simp only [Text.isC0ControlOrSpace, decide_eq_false_iff_not]
    omega
  · intro c member
    have bounds := range c member
    simp only [Percent.controls, Bool.or_eq_false_iff, decide_eq_false_iff_not]
    omega

theorem Authority.Sound.kept {scheme : Text} {authority : Authority}
    (sound : authority.Sound scheme) :
    authority.text.Avoids Text.isC0ControlOrSpace ∧ authority.text.Printable ∧
      '#' ∉ authority.text ∧ '?' ∉ authority.text := by
  have plain : ∀ c ∈ authority.text, Text.isC0ControlOrSpace c = false ∧
      Percent.controls c = false ∧ c ≠ '#' ∧ c ≠ '?' := by
    intro c member
    rcases sound.cases_of_mem_text member with rfl | keeps
    · decide
    · simp only [endsAuthority, Bool.or_eq_false_iff] at keeps
      obtain ⟨notControl, notListed⟩ := keeps
      have different : c ≠ ' ' ∧ c ≠ '#' ∧ c ≠ '?' := by
        refine ⟨?_, ?_, ?_⟩
        all_goals
          rintro rfl
          exact absurd notListed (by decide)
      refine ⟨?_, notControl, different.2⟩
      have notSpace : c.toNat ≠ 0x20 := fun space =>
        different.1 (by rw [← Char.ofNat_toNat c, space])
      simp only [Percent.controls, Bool.or_eq_false_iff, decide_eq_false_iff_not] at notControl
      simp only [Text.isC0ControlOrSpace, decide_eq_false_iff_not]
      omega
  exact ⟨fun c member => (plain c member).1, fun c member => (plain c member).2.1,
    fun member => (plain '#' member).2.2.1 rfl, fun member => (plain '?' member).2.2.2 rfl⟩

namespace Sound

variable {url : Url} (sound : url.Sound)
include sound

private theorem printable_authorityText : url.authorityText.Printable := by
  unfold authorityText
  split
  · rename_i authority same
    have printable := (sound.authority authority same).1.kept.2.1
    exact Text.avoids_cons (by decide) (Text.avoids_cons (by decide) printable)
  · split
    · exact Text.avoids_of_any_eq_false (by decide)
    · exact Text.avoids_nil

/-- What a URL has behind its authority. -/
theorem printable_behind : (url.pathAndQuery ++ marked '#' url.fragment).Printable :=
  Text.avoids_append
    (Text.avoids_append sound.path.printable (avoids_marked (by decide) sound.query))
    (avoids_marked (by decide) sound.fragment)

private theorem exists_parse_text_of_authority {authority : Authority}
    (same : url.authority = some authority) : ∃ again, parse url.text = .ok again := by
  obtain ⟨soundAuthority, list, path⟩ := sound.authority authority same
  obtain ⟨kept, printable, noHash, noQuestion⟩ := soundAuthority.kept
  let front := url.scheme ++ [':'] ++ "//".toList ++ authority.text
  let rest := url.pathAndQuery ++ marked '#' url.fragment
  have shape : url.text = front ++ rest := by
    simp [front, rest, Url.text, authorityText, same]
  have keptFront : front.Avoids Text.isC0ControlOrSpace :=
    Text.avoids_append (Text.avoids_append sound.scheme.kept.1
      (Text.avoids_of_any_eq_false (by decide))) kept
  have printableFront : (front ++ rest).Printable :=
    Text.avoids_append (Text.avoids_append (Text.avoids_append sound.scheme.kept.2
      (Text.avoids_of_any_eq_false (by decide))) printable) sound.printable_behind
  obtain ⟨others, after, cleaned, divided⟩ :=
    exists_clean_append_eq keptFront (by simp [front]) printableFront
  have follows : Follows rest := by
    have behind := follows_marked url.query url.fragment
    cases list with
    | nil =>
      intro c first
      simp only [rest, pathAndQuery, pathText, path, Path.text, List.flatMap_nil, List.nil_append]
        at first
      exact .inr (behind c first)
    | cons segment list =>
      intro c first
      simp only [rest, pathAndQuery, pathText, path, Path.text, List.flatMap_cons,
        List.cons_append, List.head?_cons, Option.some.injEq] at first
      exact .inl first.symm
  rw [shape]
  have whole : clean (front ++ rest) =
      url.scheme ++ ':' :: ("//".toList ++ authority.text ++ others) := by
    rw [cleaned]
    simp [front]
  refine exists_parse_of_body sound.scheme whole ?_
  intro followed
  have body : bodyOf ("//".toList ++ authority.text ++ others) =
      '/' :: '/' :: (authority.text ++ bodyOf others) := by
    rw [bodyOf_append]
    · rfl
    · simp [noHash, noQuestion]
  rw [body]
  rw [divided] at follows
  exact exists_readBody_of_authority soundAuthority followed follows.of_append.bodyOf

/-- Without an authority, the text behind the scheme does not begin as if there were one. -/
theorem fewSlashes (rootless : url.authority = none) (tail : Text) :
    url.authorityText ++ (url.pathAndQuery ++ marked '#' url.fragment) ≠ '/' :: '/' :: tail := by
  intro same
  have behind := follows_marked url.query url.fragment
  have unrooted : ∀ text, marked '?' url.query ++ marked '#' url.fragment ≠ '/' :: text := by
    intro text rooted
    rw [rooted] at behind
    exact absurd (behind '/' rfl) (by decide)
  unfold authorityText pathAndQuery pathText at same
  rw [rootless] at same
  rcases path : url.path with (_ | ⟨_ | ⟨c, segment⟩, list⟩) | text
  · rw [path] at same
    exact unrooted _ same
  · rw [path] at same
    cases list with
    | nil => exact unrooted _ (List.cons.inj same).2
    | cons second list => exact absurd (List.cons.inj (List.cons.inj same).2).1 (by decide)
  · rw [path] at same
    have slash : c = '/' := (List.cons.inj (List.cons.inj same).2).1
    exact sound.segments _ path (c :: segment) List.mem_cons_self (slash ▸ List.mem_cons_self)
  · have plain := sound.path
    rw [path] at same plain
    cases text with
    | nil => exact unrooted _ same
    | cons c text =>
      have slash : c = '/' := (List.cons.inj same).1
      exact plain.2 (slash ▸ rfl)

private theorem exists_parse_text_of_none (rootless : url.authority = none) :
    ∃ again, parse url.text = .ok again := by
  have other : isSpecialScheme url.scheme = false :=
    Bool.eq_false_iff.2 fun special => sound.hosted special rootless
  let front := url.scheme ++ [':']
  let rest := url.authorityText ++ (url.pathAndQuery ++ marked '#' url.fragment)
  have shape : url.text = front ++ rest := by
    simp [front, rest, Url.text]
  have printableFront : (front ++ rest).Printable :=
    Text.avoids_append sound.scheme.kept.2
      (Text.avoids_append sound.printable_authorityText sound.printable_behind)
  obtain ⟨others, after, cleaned, divided⟩ :=
    exists_clean_append_eq sound.scheme.kept.1 (by simp) printableFront
  have fewSlashes := sound.fewSlashes rootless
  rw [shape]
  have whole : clean (front ++ rest) = url.scheme ++ ':' :: others := by
    rw [cleaned]
    simp
  refine exists_parse_of_body sound.scheme whole ?_
  apply exists_readBody_of_rootless other
  intro behind body
  obtain ⟨⟨tail, whole⟩, -⟩ := bodyOf_prefix others
  rw [whole, body] at divided
  exact fewSlashes _ divided

/-- **The text of a sound URL is a URL again.** -/
theorem exists_parse_text : ∃ again, parse url.text = .ok again := by
  cases same : url.authority with
  | some authority => exact sound.exists_parse_text_of_authority same
  | none => exact sound.exists_parse_text_of_none same

end Sound

end Url
end LoginGate
