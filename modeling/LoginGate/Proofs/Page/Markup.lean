import LoginGate.Page.Markup

/-!
Contract: what a reader of a page finds in it, tag by tag.

Owns:
- a reader of pages that knows nothing of how they were made: tags, the texts behind them, and the
  five entities;
- the law that it finds in a page exactly the tags and texts of its pieces;
- the law that escaping loses nothing.

Does not own: which pages there are (`Page.Gated`).
-/

namespace LoginGate.Page

/-! ## Entities -/

def unescape : Text -> Text
  | '&' :: 'a' :: 'm' :: 'p' :: ';' :: rest => '&' :: unescape rest
  | '&' :: 'l' :: 't' :: ';' :: rest => '<' :: unescape rest
  | '&' :: 'g' :: 't' :: ';' :: rest => '>' :: unescape rest
  | '&' :: '#' :: '3' :: '4' :: ';' :: rest => '"' :: unescape rest
  | '&' :: '#' :: '3' :: '9' :: ';' :: rest => '\'' :: unescape rest
  | c :: rest => c :: unescape rest
  | [] => []

def special : List Char := ['&', '<', '>', '"', '\'']

theorem mem_special_iff {c : Char} :
    c ∈ special ↔ c = '&' ∨ c = '<' ∨ c = '>' ∨ c = '"' ∨ c = '\'' := by
  simp [special]

private theorem escapeChar_of_not_special {c : Char} (plain : c ∉ special) :
    escapeChar c = [c] := by
  rw [mem_special_iff] at plain
  simp only [not_or] at plain
  obtain ⟨ampersand, less, greater, quote, apostrophe⟩ := plain
  unfold escapeChar
  rw [if_neg ampersand, if_neg less, if_neg greater, if_neg quote, if_neg apostrophe]

private theorem unescape_cons_of_ne {c : Char} (plain : c ≠ '&') (rest : Text) :
    unescape (c :: rest) = c :: unescape rest := by
  conv => lhs; unfold unescape
  split <;> simp_all

private theorem unescape_escapeChar_append (c : Char) (rest : Text) :
    unescape (escapeChar c ++ rest) = c :: unescape rest := by
  by_cases meaning : c ∈ special
  · rcases mem_special_iff.1 meaning with rfl | rfl | rfl | rfl | rfl
    all_goals rfl
  · rw [escapeChar_of_not_special meaning, List.singleton_append]
    exact unescape_cons_of_ne (fun same => meaning (mem_special_iff.2 (.inl same))) rest

/-- Escaping loses nothing. -/
theorem unescape_escape (text : Text) : unescape (escape text) = text := by
  unfold escape
  induction text with
  | nil => rfl
  | cons c rest inductionHypothesis =>
    rw [List.flatMap_cons, unescape_escapeChar_append, inductionHypothesis]

/-- What is escaped can neither begin nor end a tag. -/
theorem bracket_not_mem_escape (text : Text) : '<' ∉ escape text ∧ '>' ∉ escape text := by
  have each (c : Char) : '<' ∉ escapeChar c ∧ '>' ∉ escapeChar c := by
    by_cases meaning : c ∈ special
    · rcases mem_special_iff.1 meaning with rfl | rfl | rfl | rfl | rfl
      all_goals decide
    · rw [escapeChar_of_not_special meaning, List.mem_singleton, List.mem_singleton]
      exact ⟨fun same => meaning (same ▸ by decide), fun same => meaning (same ▸ by decide)⟩
  constructor
  · intro member
    obtain ⟨c, -, written⟩ := List.mem_flatMap.1 member
    exact (each c).1 written
  · intro member
    obtain ⟨c, -, written⟩ := List.mem_flatMap.1 member
    exact (each c).2 written

/-! ## The reader -/

def bracket : (inside : Bool) -> Char
  | false => '<'
  | true => '>'

/-- The stretches of a page: in turn what stands outside tags, up to the next `<`, and what stands
inside one, up to the next `>`. -/
def stretches : (inside : Bool) -> Text -> List Text
  | _, [] => [[]]
  | inside, c :: rest =>
    if c = bracket inside then [] :: stretches (!inside) rest
    else
      match stretches inside rest with
      | [] => [[c]]
      | stretch :: others => (c :: stretch) :: others

/-- A tag and the text behind it, up to the next tag. -/
abbrev Mark := Text × Text

def pairUp : List Text -> List Mark
  | tag :: text :: rest => (tag, text) :: pairUp rest
  | [_] | [] => []

/-- The text before the first tag of a page, and the tags with the texts behind them. -/
def read (page : Text) : Text × List Mark :=
  match stretches false page with
  | [] => ([], [])
  | lead :: rest => (lead, pairUp rest)

/-- The tags of a page, each as what stands between a `<` and the next `>`. -/
def tags (page : Text) : List Text := (read page).2.map (·.1)

def textsOf (name : String) (marks : List Mark) : List Text :=
  (marks.filter (·.1 = name.toList)).map fun mark => unescape mark.2

def texts (name : String) (page : Text) : List Text := textsOf name (read page).2

private theorem stretches_append (inside : Bool) {stretch : Text}
    (unended : bracket inside ∉ stretch) (rest : Text) :
    stretches inside (stretch ++ bracket inside :: rest) =
      stretch :: stretches (!inside) rest := by
  induction stretch with
  | nil => rw [List.nil_append, stretches, if_pos rfl]
  | cons c stretch inductionHypothesis =>
    simp only [List.mem_cons, not_or] at unended
    rw [List.cons_append, stretches, if_neg (Ne.symm unended.1), inductionHypothesis unended.2]

private theorem stretches_ne_nil (inside : Bool) (page : Text) : stretches inside page ≠ [] := by
  fun_cases stretches inside page <;> simp

private theorem read_cons {c : Char} (starts : c ≠ '<') (page : Text) :
    read (c :: page) = (c :: (read page).1, (read page).2) := by
  have goesOn : c ≠ bracket false := starts
  unfold read
  rw [stretches, if_neg goesOn]
  cases found : stretches false page with
  | nil => exact absurd found (stretches_ne_nil false page)
  | cons lead rest => rfl

/-- Text without the beginning of a tag stands before what is read behind it. -/
theorem read_text_append {text : Text} (plain : '<' ∉ text) (page : Text) :
    read (text ++ page) = (text ++ (read page).1, (read page).2) := by
  induction text with
  | nil => rfl
  | cons c text inductionHypothesis =>
    simp only [List.mem_cons, not_or] at plain
    rw [List.cons_append, read_cons (Ne.symm plain.1), inductionHypothesis plain.2]
    rfl

/-- A tag is read with the text behind it. -/
theorem read_tag_append {tag : Text} (whole : '>' ∉ tag) (page : Text) :
    read ('<' :: tag ++ '>' :: page) = ([], (tag, (read page).1) :: (read page).2) := by
  have opened : stretches false ('<' :: (tag ++ '>' :: page)) =
      [] :: tag :: stretches false page := by
    have begins : '<' = bracket false := rfl
    rw [stretches, if_pos begins]
    exact congrArg ([] :: ·) (stretches_append true whole page)
  unfold read
  rw [List.cons_append, opened]
  cases found : stretches false page with
  | nil => exact absurd found (stretches_ne_nil false page)
  | cons lead rest => rfl

/-! ## Pages in pieces -/

/-- A piece as a page is made of: its own text begins no tag, and its tag does not end early. -/
def Piece.Clean (piece : Piece) : Prop :=
  match piece with
  | .fixed text => '<' ∉ text
  | .value _ => True
  | tag => '>' ∉ tag.tag?.getD []

/-- What a reader finds from a piece on, given what it finds behind it. -/
def Piece.mark (piece : Piece) (behind : Text × List Mark) : Text × List Mark :=
  match piece.tag? with
  | none => (piece.text ++ behind.1, behind.2)
  | some tag => ([], (tag, behind.1) :: behind.2)

def outline (pieces : List Piece) : Text × List Mark :=
  pieces.foldr Piece.mark ([], [])

private theorem read_piece_append {piece : Piece} (clean : piece.Clean) (page : Text) :
    read (piece.text ++ page) = piece.mark (read page) := by
  have tagged {tag : Text} (whole : '>' ∉ tag) :
      read (('<' :: tag ++ ['>']) ++ page) = ([], (tag, (read page).1) :: (read page).2) := by
    rw [List.append_assoc]
    exact read_tag_append whole page
  cases piece with
  | fixed text => exact read_text_append clean page
  | value text => exact read_text_append (bracket_not_mem_escape text).1 page
  | opening | closing | empty => exact tagged clean

/-- A reader finds in a page the tags and texts of its pieces. -/
theorem read_render {pieces : List Piece} (clean : ∀ piece ∈ pieces, piece.Clean) :
    read (render pieces) = outline pieces := by
  induction pieces with
  | nil => rfl
  | cons piece rest inductionHypothesis =>
    have first := clean piece List.mem_cons_self
    have others := inductionHypothesis fun other member =>
      clean other (List.mem_cons_of_mem _ member)
    show read (piece.text ++ render rest) = piece.mark (outline rest)
    rw [read_piece_append first, others]

/-! ## Parts of pages -/

/-- What a reader finds in a part of a page, wherever it stands before a tag: the text that it begins
with, and its tags. -/
structure Found (pieces : List Piece) (lead : Text) (marks : List Mark) : Prop where
  clean : ∀ piece ∈ pieces, piece.Clean
  reads : ∀ behind, pieces.foldr Piece.mark ([], behind) = (lead, marks ++ behind)

def elementMarks (name : String) (lead : Text) (inner : List Mark) : List Mark :=
  (name.toList, lead) :: inner ++ [('/' :: name.toList, [])]

theorem found_nil : Found [] [] [] := ⟨fun _ member => absurd member List.not_mem_nil, fun _ => rfl⟩

section Cons

variable {pieces : List Piece} {lead : Text} {marks : List Mark} (rest : Found pieces lead marks)
include rest

theorem Found.cons_tag {piece : Piece} {tag : Text} (isTag : piece.tag? = some tag)
    (whole : '>' ∉ tag) : Found (piece :: pieces) [] ((tag, lead) :: marks) where
  clean other member := by
    rcases List.mem_cons.1 member with rfl | inRest
    · cases other with
      | opening | closing | empty =>
        show '>' ∉ Option.getD _ []
        rw [isTag]
        exact whole
      | fixed | value => cases isTag
    · exact rest.clean other inRest
  reads behind := by
    show piece.mark (pieces.foldr Piece.mark ([], behind)) = _
    rw [rest.reads]
    unfold Piece.mark
    rw [isTag]
    rfl

theorem Found.cons_fixed {text : Text} (plain : '<' ∉ text) :
    Found (.fixed text :: pieces) (text ++ lead) marks where
  clean other member := by
    rcases List.mem_cons.1 member with rfl | inRest
    · exact plain
    · exact rest.clean other inRest
  reads behind := by
    show Piece.mark (.fixed text) (pieces.foldr Piece.mark ([], behind)) = _
    rw [rest.reads]
    rfl

theorem Found.cons_value (text : Text) :
    Found (.value text :: pieces) (escape text ++ lead) marks where
  clean other member := by
    rcases List.mem_cons.1 member with rfl | inRest
    · trivial
    · exact rest.clean other inRest
  reads behind := by
    show Piece.mark (.value text) (pieces.foldr Piece.mark ([], behind)) = _
    rw [rest.reads]
    rfl

end Cons

theorem found_fixed {text : Text} (plain : '<' ∉ text) : Found [.fixed text] text [] := by
  have found := found_nil.cons_fixed plain
  rwa [List.append_nil] at found

theorem found_value (text : Text) : Found [.value text] (escape text) [] := by
  have found := found_nil.cons_value text
  rwa [List.append_nil] at found

theorem Found.append {pieces others : List Piece} {lead : Text} {marks otherMarks : List Mark}
    (first : Found pieces lead marks) (second : Found others [] otherMarks) :
    Found (pieces ++ others) lead (marks ++ otherMarks) where
  clean piece member := (List.mem_append.1 member).elim (first.clean piece) (second.clean piece)
  reads behind := by
    rw [List.foldr_append, second.reads, first.reads, List.append_assoc]

theorem Found.element {content : List Piece} {lead : Text} {marks : List Mark}
    (inner : Found content lead marks) {name : String} (named : '>' ∉ name.toList) :
    Found (Page.element name content) [] (elementMarks name lead marks) := by
  have opened : Piece.tag? (.opening name.toList []) = some name.toList :=
    congrArg some (List.append_nil _)
  have closed : Piece.tag? (.closing name.toList) = some ('/' :: name.toList) := rfl
  have slashed : '>' ∉ '/' :: name.toList := List.not_mem_cons_of_ne_of_not_mem (by decide) named
  exact (inner.append (found_nil.cons_tag closed slashed)).cons_tag opened named

theorem found_flatMap {α : Type} {make : α -> List Piece} {marks : α -> List Mark}
    (each : ∀ item, Found (make item) [] (marks item)) (items : List α) :
    Found (items.flatMap make) [] (items.flatMap marks) := by
  induction items with
  | nil => exact found_nil
  | cons item rest inductionHypothesis => exact (each item).append inductionHypothesis

/-- What is found in a whole page is what a reader of its text finds. -/
theorem Found.read {pieces : List Piece} {lead : Text} {marks : List Mark}
    (found : Found pieces lead marks) : Page.read (render pieces) = (lead, marks) := by
  rw [read_render found.clean, outline, found.reads, List.append_nil]

theorem Found.tags {pieces : List Piece} {lead : Text} {marks : List Mark}
    (found : Found pieces lead marks) : Page.tags (render pieces) = marks.map (·.1) := by
  unfold Page.tags
  rw [found.read]

theorem Found.texts {pieces : List Piece} {lead : Text} {marks : List Mark}
    (found : Found pieces lead marks) (name : String) :
    Page.texts name (render pieces) = textsOf name marks := by
  unfold Page.texts
  rw [found.read]

/-! ## Texts in lists of tags -/

theorem textsOf_append (name : String) (marks others : List Mark) :
    textsOf name (marks ++ others) = textsOf name marks ++ textsOf name others := by
  unfold textsOf
  rw [List.filter_append, List.map_append]

private theorem textsOf_cons (name : String) (mark : Mark) (marks : List Mark) :
    textsOf name (mark :: marks) =
      if mark.1 = name.toList then unescape mark.2 :: textsOf name marks else textsOf name marks := by
  unfold textsOf
  rw [List.filter_cons]
  by_cases same : mark.1 = name.toList
  · rw [if_pos (decide_eq_true same), if_pos same, List.map_cons]
  · rw [if_neg (by simpa using same), if_neg same]

theorem textsOf_elementMarks (name other : String) (lead : Text) (inner : List Mark)
    (unslashed : '/' ∉ name.toList) :
    textsOf name (elementMarks other lead inner) =
      if other.toList = name.toList then unescape lead :: textsOf name inner
      else textsOf name inner := by
  have closing : '/' :: other.toList ≠ name.toList := fun same => unslashed (same ▸ List.mem_cons_self)
  have last : textsOf name [('/' :: other.toList, [])] = [] := by
    rw [textsOf_cons, if_neg closing]
    rfl
  unfold elementMarks
  rw [List.cons_append, textsOf_cons, textsOf_append, last, List.append_nil]

theorem textsOf_eq_nil {name : String} {marks : List Mark}
    (others : name.toList ∉ marks.map (·.1)) : textsOf name marks = [] := by
  unfold textsOf
  rw [List.map_eq_nil_iff, List.filter_eq_nil_iff]
  intro mark member same
  exact others (of_decide_eq_true same ▸ List.mem_map_of_mem member)

theorem textsOf_flatMap {α : Type} (name : String) (make : α -> List Mark) (items : List α) :
    textsOf name (items.flatMap make) = items.flatMap fun item => textsOf name (make item) := by
  induction items with
  | nil => rfl
  | cons item rest inductionHypothesis =>
    rw [List.flatMap_cons, textsOf_append, inductionHypothesis, List.flatMap_cons]

end LoginGate.Page
