import LoginGate.Proofs.Url.Tail.Authority

/-!
Contract: white space outside ASCII behind a URL is never overlooked.

Owns:
- what bodies and whole URLs were read from;
- how each reader of them treats a text with a tail, compared with the text alone;
- the law that a tail makes another URL of a text, or none.

Does not own: blanks that the parser drops (`Proofs.Url.Clean`).

No reader finds a delimiter in a tail, so both texts are cut at the same places and the tail joins
the last part of the text. Fragment, query and path encode it and grow; a port and a host of a
special scheme refuse it.
-/

namespace LoginGate.Url

/-! ## Bodies -/

theorem exists_of_readHierarchy {scheme text : Text} {followed : Bool} {parts : Authority × Path}
    (read : readHierarchy scheme followed text = .ok parts) :
    ∃ authorityText pathText rest,
      Text.breakAt (isPathSeparator (isSpecialScheme scheme)) text = (authorityText, pathText) ∧
      readAuthority scheme (followed || !pathText.isEmpty) authorityText = .ok (parts.1, rest) ∧
      parts.2 = .segments (readPath scheme (rest ++ pathText)) := by
  obtain ⟨⟨authority, rest⟩, authorityRead, finished⟩ := of_bind_eq_ok read
  cases finished
  exact ⟨_, _, rest, rfl, authorityRead, rfl⟩

theorem exists_of_readFile {text : Text} {parts : Authority × Path}
    (read : readFile text = .ok parts) :
    ∃ host path, cutFile text = (host, path) ∧ fileAuthority host = .ok parts.1 ∧
      parts.2 = .segments (withoutLeadingEmpty (readPath "file".toList path)) := by
  obtain ⟨authority, authorityRead, finished⟩ := of_bind_eq_ok read
  cases finished
  exact ⟨_, _, rfl, authorityRead, rfl⟩

section Bodies

variable {tail : Text} (isTail : BlankTail tail)
include isTail

private theorem readHierarchy_append_ne {scheme text : Text} {followed : Bool}
    {parts more : Authority × Path} (read : readHierarchy scheme followed text = .ok parts)
    (readMore : readHierarchy scheme followed (text ++ tail) = .ok more)
    (sameHost : more.1.host = parts.1.host) : more.2 ≠ parts.2 := by
  intro samePath
  obtain ⟨front, path, rest, divided, authorityRead, pathRead⟩ := exists_of_readHierarchy read
  obtain ⟨frontMore, pathMore, restMore, dividedMore, authorityReadMore, pathReadMore⟩ :=
    exists_of_readHierarchy readMore
  rw [samePath, pathRead, Path.segments.injEq] at pathReadMore
  cases path with
  | nil =>
    rw [Text.breakAt_append_of_eq_nil (fun c member => isTail.not_separator member _) divided]
      at dividedMore
    cases dividedMore
    rcases readAuthority_append isTail authorityRead authorityReadMore with other | left
    · exact other sameHost
    · rw [left, List.append_nil, List.append_nil] at pathReadMore
      exact readPath_append_ne isTail scheme rest pathReadMore.symm
  | cons c path =>
    rw [Text.breakAt_append_of_cons divided] at dividedMore
    cases dividedMore
    have same := (Prod.mk.inj (Except.ok.inj (authorityRead.symm.trans authorityReadMore))).2
    rw [← same, ← List.append_assoc] at pathReadMore
    exact readPath_append_ne isTail scheme _ pathReadMore.symm

private theorem cutFile_append {text host path : Text} (divided : cutFile text = (host, path)) :
    cutFile (text ++ tail) = (host, path ++ tail) ∨
      ∃ front, cutFile (text ++ tail) = (front ++ tail, []) := by
  obtain ⟨c, behind, rfl, bare⟩ := isTail.exists_cons
  match text with
  | [] =>
    cases divided
    left
    cases behind with
    | nil => rfl
    | cons d behind => simp [cutFile, bare]
  | [a] =>
    cases divided
    left
    simp [cutFile, bare]
  | a :: b :: rest =>
    unfold cutFile at divided ⊢
    simp only [List.cons_append]
    dsimp only at divided
    split at divided
    · rename_i slashes
      rw [if_pos slashes]
      cases cut : Text.breakAt (isPathSeparator true) rest with
      | mk front after =>
        rw [cut] at divided
        cases after with
        | nil =>
          have noDrive : isDriveLetter (front ++ c :: behind) = false := by
            obtain ⟨foreign, inTail, outside⟩ := isTail.exists_foreign
            exact isDriveLetter_of_mem (List.mem_append_right _ inTail) outside
          rw [Text.breakAt_append_of_eq_nil (fun d member => isTail.not_separator member _) cut]
          simp only [noDrive]
          exact .inr ⟨front, rfl⟩
        | cons mark after =>
          left
          rw [Text.breakAt_append_of_cons cut]
          dsimp only at divided ⊢
          split at divided
          · rename_i drive
            cases divided
            rw [if_pos drive]
          · rename_i noDrive
            cases divided
            rw [if_neg noDrive]
    · rename_i noSlashes
      cases divided
      left
      rw [if_neg noSlashes]
      rfl

private theorem readFile_append_ne {text : Text} {parts more : Authority × Path}
    (read : readFile text = .ok parts) (readMore : readFile (text ++ tail) = .ok more) :
    more.2 ≠ parts.2 := by
  intro samePath
  obtain ⟨host, path, divided, authorityRead, pathRead⟩ := exists_of_readFile read
  obtain ⟨hostMore, pathMore, dividedMore, authorityReadMore, pathReadMore⟩ :=
    exists_of_readFile readMore
  rcases cutFile_append isTail divided with keeps | ⟨front, takes⟩
  · rw [keeps] at dividedMore
    cases dividedMore
    rw [samePath, pathRead, Path.segments.injEq] at pathReadMore
    exact withoutLeadingEmpty_readPath_append_ne isTail _ path pathReadMore.symm
  · rw [takes] at dividedMore
    cases dividedMore
    obtain ⟨cause, refused⟩ := exists_specialHost_append_eq_error isTail front
    have filled : (front ++ tail).isEmpty = false := by
      simp [isTail.ne_nil]
    unfold fileAuthority at authorityReadMore
    rw [filled, refused] at authorityReadMore
    cases authorityReadMore

theorem dropWhile_append (text : Text) :
    (text ++ tail).dropWhile (isPathSeparator true) =
      text.dropWhile (isPathSeparator true) ++ tail := by
  obtain ⟨c, behind, rfl, bare⟩ := isTail.exists_cons
  rw [List.dropWhile_append]
  split
  · rename_i nothing
    rw [List.isEmpty_iff.1 nothing, List.dropWhile_cons_of_neg (by simp [bare])]
    rfl
  · rfl

private theorem readBody_append_ne {scheme text : Text} {followed : Bool}
    {parts more : Option Authority × Path} (read : readBody scheme followed text = .ok parts)
    (readMore : readBody scheme followed (text ++ tail) = .ok more)
    (sameHost : more.1.map (·.host) = parts.1.map (·.host)) : more.2 ≠ parts.2 := by
  unfold readBody at read readMore
  split at read
  · rename_i file
    rw [if_pos file] at readMore
    obtain ⟨⟨authority, path⟩, foundRead, finished⟩ := of_bind_eq_ok read
    obtain ⟨⟨other, otherPath⟩, otherRead, finishedMore⟩ := of_bind_eq_ok readMore
    cases finished
    cases finishedMore
    exact readFile_append_ne isTail foundRead otherRead
  rename_i notFile
  rw [if_neg notFile] at readMore
  split at read
  · rename_i special
    rw [if_pos special, dropWhile_append isTail] at readMore
    obtain ⟨⟨authority, path⟩, foundRead, finished⟩ := of_bind_eq_ok read
    obtain ⟨⟨other, otherPath⟩, otherRead, finishedMore⟩ := of_bind_eq_ok readMore
    cases finished
    cases finishedMore
    exact readHierarchy_append_ne isTail foundRead otherRead (Option.some.inj sameHost)
  rename_i notSpecial
  rw [if_neg notSpecial] at readMore
  split at read
  · rename_i rest
    obtain ⟨⟨authority, path⟩, foundRead, finished⟩ := of_bind_eq_ok read
    obtain ⟨⟨other, otherPath⟩, otherRead, finishedMore⟩ := of_bind_eq_ok readMore
    cases finished
    cases finishedMore
    exact readHierarchy_append_ne isTail foundRead otherRead (Option.some.inj sameHost)
  · rename_i rest single
    cases read
    split at readMore
    · rename_i inner begins
      exact absurd (List.cons.inj begins).2 (isTail.not_begins (by decide) single inner)
    · cases readMore
      intro samePath
      exact readPath_append_ne isTail scheme ('/' :: rest) (Path.segments.inj samePath)
    · rename_i unrooted
      exact absurd rfl (unrooted _)
  · rename_i unrooted
    cases read
    have stays : ∀ inner, text ++ tail ≠ '/' :: inner := isTail.not_begins (by decide) unrooted
    split at readMore
    · rename_i begins
      exact absurd begins (stays _)
    · rename_i begins
      exact absurd begins (stays _)
    · cases readMore
      intro samePath
      exact Percent.encode_append_ne isTail.ne_nil _ _ (Path.verbatim.inj samePath)

end Bodies

/-! ## The whole -/

theorem exists_of_readClean {text : Text} {url : Url} (read : readClean text = .ok url) :
    ∃ rest front body query fragment,
      scheme? text = some (url.scheme, rest) ∧
      cutMarked '#' rest = (front, fragment) ∧ cutMarked '?' front = (body, query) ∧
      readBody url.scheme (query.isSome || fragment.isSome) body = .ok (url.authority, url.path) ∧
      url.query = query.map (Percent.encode
        (if isSpecialScheme url.scheme then Percent.specialQuery else Percent.query)) ∧
      url.fragment = fragment.map (Percent.encode Percent.fragment) := by
  unfold readClean at read
  split at read
  · cases read
  · rename_i scheme rest found
    obtain ⟨⟨authority, path⟩, bodyRead, finished⟩ := of_bind_eq_ok read
    cases finished
    exact ⟨rest, _, _, _, _, found, rfl, rfl, bodyRead, rfl, rfl⟩

/-- URLs that differ in credentials and ports at most. -/
structure Agrees (left right : Url) : Prop where
  host : left.authority.map (·.host) = right.authority.map (·.host)
  path : left.path = right.path
  query : left.query = right.query
  fragment : left.fragment = right.fragment

section Whole

variable {tail : Text} (isTail : BlankTail tail)
include isTail

private theorem scheme?_append {text scheme rest : Text}
    (found : scheme? text = some (scheme, rest)) :
    scheme? (text ++ tail) = some (scheme, rest ++ tail) := by
  unfold scheme? at found ⊢
  rw [Text.cut_append (isTail.not_mem (by decide))]
  split at found
  · rename_i first name behind cut
    rw [cut]
    dsimp only [Option.map_some]
    split at found
    · rename_i isScheme
      cases found
      rw [if_pos isScheme]
    · cases found
  · cases found

/-- A tail joins what follows a mark, or what stands before its place. -/
theorem cutMarked_append {mark : Char}
    (visible : Text.isC0ControlOrSpace mark = false ∧ Text.isWhitespace mark = false)
    {text before : Text} {after : Option Text} (divided : cutMarked mark text = (before, after)) :
    cutMarked mark (text ++ tail) =
      after.elim (before ++ tail, none) fun after => (before, some (after ++ tail)) := by
  unfold cutMarked at divided ⊢
  rw [Text.cut_append (isTail.not_mem visible)]
  cases found : Text.cut mark text with
  | none =>
    rw [found] at divided
    cases divided
    rfl
  | some parts =>
    rw [found] at divided
    cases divided
    rfl

/-- **A tail makes another URL of a text, or none**, and the difference is not one of credentials or
ports. -/
theorem readClean_append_not_agrees {text : Text} {url more : Url} (read : readClean text = .ok url)
    (readMore : readClean (text ++ tail) = .ok more) : ¬ more.Agrees url := by
  rintro ⟨sameHost, samePath, sameQuery, sameFragment⟩
  obtain ⟨rest, front, body, query, fragment, found, fragmentCut, queryCut, bodyRead, queryRead,
    fragmentRead⟩ := exists_of_readClean read
  obtain ⟨restMore, frontMore, bodyMore, queryMore, fragmentMore, foundMore, fragmentCutMore,
    queryCutMore, bodyReadMore, queryReadMore, fragmentReadMore⟩ := exists_of_readClean readMore
  rw [scheme?_append isTail found, Option.some.injEq, Prod.mk.injEq] at foundMore
  obtain ⟨sameScheme, rfl⟩ := foundMore
  rw [← sameScheme] at bodyReadMore queryReadMore
  rw [cutMarked_append isTail (by decide) fragmentCut] at fragmentCutMore
  cases fragment with
  | some part =>
    cases fragmentCutMore
    rw [sameFragment, fragmentRead, Option.map_some, Option.map_some, Option.some.injEq]
      at fragmentReadMore
    exact Percent.encode_append_ne isTail.ne_nil _ _ fragmentReadMore.symm
  | none =>
    cases fragmentCutMore
    rw [cutMarked_append isTail (by decide) queryCut] at queryCutMore
    cases query with
    | some part =>
      cases queryCutMore
      rw [sameQuery, queryRead, Option.map_some, Option.map_some, Option.some.injEq]
        at queryReadMore
      exact Percent.encode_append_ne isTail.ne_nil _ _ queryReadMore.symm
    | none =>
      cases queryCutMore
      exact readBody_append_ne isTail bodyRead bodyReadMore sameHost samePath

end Whole
end LoginGate.Url
