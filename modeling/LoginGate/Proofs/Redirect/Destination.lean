import LoginGate.Proofs.Flow.Paths
import LoginGate.Proofs.Redirect.LocalPath

/-!
Contract: which path a redirect target leads to.

Owns:
- the path in a location, and locations that consist of a path with or without a query behind it;
- the path that a location points at on a host;
- the law that sanitizing keeps this path up to the slashes at its start, and whether something
  stands behind it;
- the law that says when cutting off the paths of the flow gets rid of such a path.

Does not own: which answers carry a target (`Server.Destination`).

Paths of the flow are cut off the end of the whole location, while a path ends before the query. The
cut therefore reaches the path only where nothing stands behind it.
-/

namespace LoginGate.Redirect

/-! ## Paths in locations -/

/-- The question mark or number sign that a path ends before. -/
def isPathEnd (c : Char) : Bool := c == '?' || c == '#'

def pathOf (location : Text) : Text := location.takeWhile (! isPathEnd ·)

/-- A location that consists of a path and, if it is marked, a query or fragment. -/
def Consists (path : Text) (marked : Bool) (location : Text) : Prop :=
  ∃ tail, location = path ++ tail ∧ (∀ c, tail.head? = some c -> isPathEnd c = true) ∧
    tail.isEmpty = !marked

private theorem path_of_isPathEnd {c : Char} (ends : isPathEnd c = true) :
    Percent.path c = true := by
  simp only [isPathEnd, Bool.or_eq_true, beq_iff_eq] at ends
  rcases ends with rfl | rfl <;> decide

private theorem path_of_isWhitespace {c : Char} (blank : Text.isWhitespace c = true) :
    Percent.path c = true := by
  by_cases space : c.toNat = 0x20
  · have same : c = ' ' := Char.ext (UInt32.toNat_inj.1 space)
    subst same
    decide
  · apply Percent.path_of_controls
    simp only [Text.isWhitespace, Bool.or_eq_true, Bool.and_eq_true, decide_eq_true_eq,
      beq_iff_eq] at blank
    simp only [Percent.controls, Bool.or_eq_true, decide_eq_true_eq]
    omega

private theorem path_of_isTabOrNewline {c : Char} (dropped : Text.isTabOrNewline c = true) :
    Percent.path c = true := by
  simp only [Text.isTabOrNewline, Bool.or_eq_true, beq_iff_eq] at dropped
  rcases dropped with (rfl | rfl) | rfl <;> decide

private theorem isPathEnd_kept {c : Char} (ends : isPathEnd c = true) :
    Text.isWhitespace c = false ∧ Text.isTabOrNewline c = false ∧ isSlash c = false := by
  simp only [isPathEnd, Bool.or_eq_true, beq_iff_eq] at ends
  rcases ends with rfl | rfl <;> decide

theorem pathOf_of_consists {path location : Text} {marked : Bool}
    (consists : Consists path marked location) (plain : path.Avoids Percent.path) :
    pathOf location = path := by
  obtain ⟨tail, rfl, ends, -⟩ := consists
  have unmarked : ∀ c ∈ path, (!isPathEnd c) = true := by
    intro c member
    have avoids := plain.mono (fun _ => path_of_isPathEnd) c member
    simp [avoids]
  unfold pathOf
  rw [List.takeWhile_append_of_pos unmarked]
  cases tail with
  | nil => simp
  | cons c rest => simp [ends c rfl]

/-! ## Operations on locations -/

section Operations

variable {path location : Text} {marked : Bool}

/-- What is dropped from a location is dropped from behind its path. -/
theorem Consists.filter (consists : Consists path marked location)
    (plain : path.Avoids Percent.path) :
    Consists path marked (location.filter (! Text.isTabOrNewline ·)) := by
  obtain ⟨tail, rfl, ends, empty⟩ := consists
  have kept : path.filter (! Text.isTabOrNewline ·) = path := by
    apply List.filter_eq_self.2
    intro c member
    have avoids := plain.mono (fun _ => path_of_isTabOrNewline) c member
    simp [avoids]
  refine ⟨tail.filter (! Text.isTabOrNewline ·), by rw [List.filter_append, kept], ?_⟩
  cases tail with
  | nil => exact ⟨ends, empty⟩
  | cons c rest =>
    have stays := (isPathEnd_kept (ends c rfl)).2.1
    rw [List.filter_cons_of_pos (by simp [stays])]
    exact ⟨fun d same => ends d same, empty⟩

theorem Consists.trimBlank (consists : Consists path marked location)
    (plain : path.Avoids Percent.path) (rooted : path.head? = some '/') :
    Consists path marked (Text.trimBlank location) := by
  obtain ⟨tail, rfl, ends, empty⟩ := consists
  have solid : ∀ c ∈ path, Text.isWhitespace c = false := by
    exact plain.mono fun _ => path_of_isWhitespace
  have started : Text.trimStart Text.isWhitespace (path ++ tail) = path ++ tail := by
    apply Text.trimStart_eq_self
    intro c starts
    rw [List.head?_append, rooted] at starts
    cases starts
    decide
  cases tail with
  | nil =>
    have trimmed : path.Trimmed := by
      constructor
      · intro c starts
        exact solid c (List.mem_of_head? starts)
      · intro c last
        exact solid c (List.mem_of_getLast? last)
    rw [List.append_nil, trimmed.trimBlank_eq]
    exact ⟨[], (List.append_nil path).symm, ends, empty⟩
  | cons c rest =>
    have stays := (isPathEnd_kept (ends c rfl)).1
    unfold Text.trimBlank Text.trim
    rw [started, Text.trimEnd_append_cons stays]
    exact ⟨_, rfl, fun d same => ends d same, empty⟩

/-- One slash in place of all slashes that a path starts with. -/
def collapse (path : Text) : Text := '/' :: path.dropWhile isSlash

/-- Slashes are dropped from a path only, if what stands behind it begins with none. -/
theorem collapse_append (path : Text) {tail : Text}
    (unrooted : ∀ c, tail.head? = some c -> isSlash c = false) :
    collapse (path ++ tail) = collapse path ++ tail := by
  have kept : tail.dropWhile isSlash = tail := Text.trimStart_eq_self unrooted
  unfold collapse
  rw [List.cons_append, List.dropWhile_append]
  split
  · rename_i nothing
    rw [List.isEmpty_iff.1 nothing, kept, List.nil_append]
  · rfl

theorem Consists.collapse (consists : Consists path marked location) :
    Consists (collapse path) marked ('/' :: location.dropWhile isSlash) := by
  obtain ⟨tail, rfl, ends, empty⟩ := consists
  exact ⟨tail, collapse_append path fun c starts => (isPathEnd_kept (ends c starts)).2.2, ends, empty⟩

end Operations

private theorem collapse_collapse (path : Text) : collapse (collapse path) = collapse path := by
  have settled : (path.dropWhile isSlash).dropWhile isSlash = path.dropWhile isSlash :=
    Text.trimStart_eq_self fun _ starts => Text.not_dropped_of_head?_trimStart starts
  unfold collapse
  rw [List.dropWhile_cons_of_pos (by decide), settled]

private theorem plain_collapse {path : Text} (plain : path.Avoids Percent.path) :
    (collapse path).Avoids Percent.path := by
  apply Text.avoids_cons (by decide)
  intro c member
  exact plain c (List.dropWhile_subset _ member)

/-! ## Sanitizing -/

/-- A location points at a path on a host, with or without something behind the path: it consists of
these, or it is a URL of the host. -/
inductive PointsAt (requestHost location : Text) : (path : Text) -> (marked : Bool) -> Prop where
  | own {path : Text} {marked : Bool} (consists : Consists path marked location) :
    PointsAt requestHost location path marked
  | sameHost {url : Url}
    (parsed : Url.parse (Text.trimBlank (location.filter (! Text.isTabOrNewline ·))) = .ok url)
    (same : sameHostPath? requestHost url = some url.pathAndQuery) :
    PointsAt requestHost location url.pathText url.query.isSome

private theorem consists_pathAndQuery (url : Url) :
    Consists url.pathText url.query.isSome url.pathAndQuery := by
  refine ⟨Url.marked '?' url.query, rfl, ?_, ?_⟩
  · intro c starts
    cases query : url.query with
    | none =>
      rw [query] at starts
      cases starts
    | some text =>
      rw [query] at starts
      cases starts
      decide
  · cases url.query <;> rfl

/-- What is kept of a location consists of the path that it points at. -/
theorem PointsAt.candidate {requestHost location path : Text} {marked : Bool}
    (points : PointsAt requestHost location path marked) (plain : path.Avoids Percent.path)
    (rooted : path.head? = some '/') :
    Consists path marked (Redirect.candidate requestHost location) := by
  cases points with
  | own consists =>
    have cleaned := (consists.filter plain).trimBlank plain rooted
    obtain ⟨tail, shape, ends, empty⟩ := cleaned
    have starts : (Text.trimBlank (location.filter (! Text.isTabOrNewline ·))).head? =
        some '/' := by
      rw [shape, List.head?_append, rooted]
      rfl
    have present : (Text.trimBlank (location.filter (! Text.isTabOrNewline ·))).isEmpty =
        false := by
      obtain ⟨rest, whole⟩ := List.head?_eq_some_iff.1 starts
      rw [whole]
      rfl
    unfold Redirect.candidate
    dsimp only
    rw [present, parse_of_rooted starts]
    exact ⟨tail, shape, ends, empty⟩
  | @sameHost url parsed same =>
    have present : (Text.trimBlank (location.filter (! Text.isTabOrNewline ·))).isEmpty =
        false := by
      rw [List.isEmpty_eq_false_iff]
      intro nothing
      rw [nothing] at parsed
      cases parsed
    unfold Redirect.candidate
    dsimp only
    rw [present, parsed]
    simp only [Bool.false_eq_true, if_false, same, Option.getD_some]
    exact consists_pathAndQuery url

/-- Sanitizing keeps the path that a location points at, up to the slashes at its start. -/
theorem PointsAt.sanitize {requestHost location path : Text} {marked : Bool}
    (points : PointsAt requestHost location path marked) (plain : path.Avoids Percent.path)
    (rooted : path.head? = some '/') :
    Consists (Redirect.collapse path) marked (Redirect.sanitize requestHost location) :=
  ((points.candidate plain rooted).trimBlank plain rooted).collapse

/-! ## Cutting off the paths of the flow -/

section Strip

variable {paths : Flow.Paths} (configured : paths.Configured)
include configured

/-- With something behind it, a path survives the cut. -/
theorem Consists.stripSuffix_of_marked {path location : Text}
    (consists : Consists path true location) :
    Consists path true (paths.stripSuffix location) := by
  obtain ⟨tail, whole, ends, empty⟩ := consists
  rcases paths.stripSuffix_cases location with ⟨kept, -⟩ | ⟨cut, member, head, shape, stripped⟩
  · rw [kept]
    exact ⟨tail, whole, ends, empty⟩
  · cases tail with
    | nil => cases empty
    | cons c rest =>
      have notInCut : c ∉ cut := by
        intro inCut
        have avoids := (configured.plain cut member).mono (fun _ => path_of_isPathEnd) c inCut
        rw [ends c rfl] at avoids
        cases avoids
      rcases List.append_eq_append_iff.1 (shape.symm.trans whole) with
        ⟨before, -, inCut⟩ | ⟨before, inHead, inTail⟩
      · rw [inCut] at notInCut
        exact absurd (List.mem_append_right _ List.mem_cons_self) notInCut
      · cases before with
        | nil =>
          rw [List.nil_append] at inTail
          rw [← inTail] at notInCut
          exact absurd List.mem_cons_self notInCut
        | cons d others =>
          rw [List.cons_append, List.cons.injEq] at inTail
          obtain ⟨rfl, -⟩ := inTail
          rw [stripped, if_neg (by rw [inHead]; simp), inHead]
          exact ⟨c :: others, rfl, fun e same => ends e same, rfl⟩

/-- Without anything behind it, a path of the flow becomes the root. -/
theorem stripSuffix_of_mem {path : Text} (member : path ∈ paths.handled) :
    paths.stripSuffix path = ['/'] := by
  rcases paths.stripSuffix_cases path with ⟨-, none⟩ | ⟨cut, cutMember, head, shape, stripped⟩
  · exact absurd List.suffix_rfl (none path member)
  · have suffix : cut <:+ path := ⟨head, shape.symm⟩
    have same := configured.siblings.eq_of_suffix cutMember member suffix
    subst same
    have nothing : head = [] := by
      simpa using shape
    rw [stripped, if_pos nothing]

/-- A path of the flow that loses slashes at its start and is none any more is left alone. -/
theorem stripSuffix_collapse_of_not_mem {path : Text} (member : path ∈ paths.handled)
    (rooted : path.head? = some '/') (outside : collapse path ∉ paths.handled) :
    paths.stripSuffix (collapse path) = collapse path := by
  rcases paths.stripSuffix_cases (collapse path) with
    ⟨kept, -⟩ | ⟨cut, cutMember, head, shape, -⟩
  · exact kept
  · exfalso
    have suffix : cut <:+ collapse path := ⟨head, shape.symm⟩
    rcases List.suffix_cons_iff.1 suffix with whole | inRest
    · have same : cut = collapse path := whole
      exact outside (same ▸ cutMember)
    · -- The cut ends the path itself, and so it is that path; but it is shorter.
      obtain ⟨rest, rfl⟩ := List.head?_eq_some_iff.1 rooted
      rw [List.dropWhile_cons_of_pos (by decide)] at inRest
      have inTail : cut <:+ rest := inRest.trans (List.dropWhile_suffix _)
      have same := configured.siblings.eq_of_suffix cutMember member
        (inTail.trans (List.suffix_cons '/' rest))
      have shorter := inTail.length_le
      rw [same, List.length_cons] at shorter
      omega

/-- Where a location that points at a path of the flow leads in the end, after sanitizing and after
cutting. -/
theorem PointsAt.leads {requestHost location path : Text} {marked : Bool}
    (points : PointsAt requestHost location path marked) (member : path ∈ paths.handled)
    (rooted : path.head? = some '/') :
    ∃ final finalMarked,
      Consists final finalMarked (paths.stripSuffix (Redirect.sanitize requestHost location)) ∧
      final.Avoids Percent.path ∧ final.head? = some '/' ∧ collapse final = final ∧
      (final ∈ paths.handled ↔
        collapse path ∈ paths.handled ∧ (marked = true ∨ paths.callback = ['/'])) := by
  have plain := configured.plain path member
  have sanitized := points.sanitize plain rooted
  cases marked with
  | true =>
    refine ⟨collapse path, true, ?_, plain_collapse plain, rfl, collapse_collapse path, by simp⟩
    exact sanitized.stripSuffix_of_marked configured
  | false =>
    obtain ⟨tail, shape, -, empty⟩ := sanitized
    have nothing : tail = [] := by simpa using empty
    rw [shape, nothing, List.append_nil]
    by_cases inside : collapse path ∈ paths.handled
    · rw [stripSuffix_of_mem configured inside]
      have onlyCallback : ['/'] ∈ paths.handled ↔ paths.callback = ['/'] := by
        constructor
        · exact configured.root
        · intro same
          exact Flow.Paths.mem_handled_iff.2 (.inl same.symm)
      refine ⟨['/'], false, ⟨[], rfl, by simp, rfl⟩, ?_, rfl, rfl, ?_⟩
      · exact Text.avoids_of_any_eq_false (by decide)
      · simp [inside, onlyCallback]
    · rw [stripSuffix_collapse_of_not_mem configured member rooted inside]
      refine ⟨collapse path, false, ⟨[], (List.append_nil _).symm, by simp, rfl⟩,
        plain_collapse plain, rfl, collapse_collapse path, by simp [inside]⟩

end Strip

end LoginGate.Redirect
