import LoginGate.Page.Error
import LoginGate.Page.Gated
import LoginGate.Proofs.Page.Markup
import LoginGate.Proofs.Text.Numeral

/-!
Contract: nobody can write HTML into a page, and nothing is lost on the way there.

Owns:
- what a reader finds in the home page, the page of the administrators and the page for a failed
  login;
- the law that the tags of a page do not depend on the texts in it, and that the texts are read as
  they were put there.

Does not own: the reader (`Page.Markup`).
-/

namespace LoginGate.Page

open Server (View)

/-! ## Tags -/

/-- The tags of an element around those of its content. -/
def elementTags (name : String) (inner : List Text) : List Text :=
  name.toList :: inner ++ ['/' :: name.toList]

def logoutTags (path : Text) : List Text :=
  elementTags "p" ["a href=\"".toList ++ escape path ++ ['"'], "/a".toList]

def layoutTags (logout : Option Text) (inner : List Text) : List Text :=
  ["!DOCTYPE html".toList, "html lang=\"en\"".toList] ++
    elementTags "head" ("meta charset=\"utf-8\"/".toList :: elementTags "title" []) ++
    elementTags "body" (elementTags "h1" [] ++ inner ++ (logout.map logoutTags).getD []) ++
    ["/html".toList]

def summaryTags (anonymous : Bool) : List Text :=
  elementTags "p" (if anonymous then [] else elementTags "strong" [])

def homeTags (logout : Option Text) (anonymous : Bool) (fields : Option Nat) : List Text :=
  layoutTags logout (match fields with
    | some count => summaryTags anonymous ++
        elementTags "dl" (List.replicate count (elementTags "dt" [] ++ elementTags "dd" [])).flatten
    | none => elementTags "p" [])

def administratorsTags (logout : Option Text) (anonymous : Bool) (count : Nat) : List Text :=
  layoutTags logout (summaryTags anonymous ++
    if count = 0 then elementTags "p" []
    else elementTags "ul" (List.replicate count (elementTags "li" [])).flatten)

def failureTags : List Text :=
  elementTags "html" (elementTags "body" (elementTags "h2" [] ++ elementTags "p" []))

/-! ## What a reader finds -/

def logoutMarks (path : Text) : List Mark :=
  elementMarks "p" []
    [("a href=\"".toList ++ escape path ++ ['"'], "Sign out".toList), ("/a".toList, [])]

def layoutMarks (logout : Option Text) (title : String) (inner : List Mark) : List Mark :=
  [("!DOCTYPE html".toList, []), ("html lang=\"en\"".toList, [])] ++
    elementMarks "head" []
      (("meta charset=\"utf-8\"/".toList, []) :: elementMarks "title" title.toList []) ++
    elementMarks "body" []
      (elementMarks "h1" title.toList [] ++ inner ++ (logout.map logoutMarks).getD []) ++
    [("/html".toList, [])]

def summaryMarks (view : View) : List Mark :=
  if view.email.isEmpty then elementMarks "p" "No email address on record.".toList []
  else
    elementMarks "p" "Signed in as ".toList
      [("strong".toList, escape view.email),
        ("/strong".toList, if view.isAdmin then " (administrator).".toList else ['.'])]

def fieldMarks (field : Text × Json) : List Mark :=
  elementMarks "dt" (escape field.1) [] ++ elementMarks "dd" (escape (shown field.2)) []

def documentMarks (view : View) : List Mark :=
  match view.document with
  | some document => summaryMarks view ++ elementMarks "dl" [] (document.fields.flatMap fieldMarks)
  | none => elementMarks "p" "Authentication is disabled.".toList []

def homeMarks (logout : Option Text) (view : View) : List Mark :=
  layoutMarks logout "Home" (documentMarks view)

def adminMarks (admins : Admins) : List Mark :=
  if admins.emails.isEmpty then
    elementMarks "p" "No administrators configured; every user is an administrator.".toList []
  else elementMarks "ul" [] (admins.emails.flatMap fun email => elementMarks "li" (escape email) [])

def administratorsMarks (logout : Option Text) (admins : Admins) (view : View) : List Mark :=
  layoutMarks logout "Administrators" (summaryMarks view ++ adminMarks admins)

def failureMarks (status : Nat) (error : Flow.Error) : List Mark :=
  elementMarks "html" [] (elementMarks "body" []
    (elementMarks "h2" (Text.padZeros 3 (Text.ofNat status) ++ ' ' :: Http.reason status) [] ++
      elementMarks "p" (escape error.message) []))

private theorem found_logout (path : Text) : Found (logoutPieces path) [] (logoutMarks path) := by
  have opened : Piece.tag? (.opening "a".toList [{ name := "href".toList, value := path }]) =
      some ("a href=\"".toList ++ escape path ++ ['"']) := by
    simp [Piece.tag?, Attribute.text]
  have whole : '>' ∉ "a href=\"".toList ++ escape path ++ ['"'] := by
    simp [(bracket_not_mem_escape path).2]
  have closed : Found [.closing "a".toList] [] [("/a".toList, [])] :=
    found_nil.cons_tag rfl (by decide)
  have linked : Found [.fixed "Sign out".toList, .closing "a".toList] "Sign out".toList
      [("/a".toList, [])] :=
    closed.cons_fixed (by decide)
  exact (linked.cons_tag opened whole).element (by decide)

private theorem found_layout (logout : Option Text) {title : String} (plain : '<' ∉ title.toList)
    {content : List Piece} {inner : List Mark} (found : Found content [] inner) :
    Found (layout logout title content) [] (layoutMarks logout title inner) := by
  have language : Found [.opening "html".toList [attr "lang" "en"]] []
      [("html lang=\"en\"".toList, [])] :=
    found_nil.cons_tag (by decide) (by decide)
  have start : Found [.opening "!DOCTYPE html".toList [], .opening "html".toList [attr "lang" "en"]] []
      [("!DOCTYPE html".toList, []), ("html lang=\"en\"".toList, [])] :=
    language.cons_tag (by decide) (by decide)
  have titled := found_fixed plain
  have head : Found (.empty "meta".toList [attr "charset" "utf-8"] ::
      element "title" [.fixed title.toList]) []
      (("meta charset=\"utf-8\"/".toList, []) :: elementMarks "title" title.toList []) :=
    (titled.element (by decide)).cons_tag (by decide) (by decide)
  have link : Found ((logout.map logoutPieces).getD []) [] ((logout.map logoutMarks).getD []) := by
    cases logout with
    | none => exact found_nil
    | some path => exact found_logout path
  have body := ((titled.element (by decide : '>' ∉ "h1".toList)).append found).append link
  have last : Found [.closing "html".toList] [] [("/html".toList, [])] :=
    found_nil.cons_tag rfl (by decide)
  exact ((start.append (head.element (by decide))).append (body.element (by decide))).append last

private theorem found_summary (view : View) : Found (summary view) [] (summaryMarks view) := by
  unfold summary summaryMarks
  split
  · exact (found_fixed (by decide)).element (by decide)
  · have plain : '<' ∉ (if view.isAdmin then " (administrator).".toList else ['.']) := by
      split <;> decide
    have closed : Found [.closing "strong".toList, .fixed _] [] [("/strong".toList, _)] :=
      (found_fixed plain).cons_tag rfl (by decide)
    have address := closed.cons_value view.email
    rw [List.append_nil] at address
    have strong : Found (.opening "strong".toList [] :: _) [] (("strong".toList, _) :: _) :=
      address.cons_tag (by decide) (by decide)
    have signed : Found (.fixed "Signed in as ".toList :: _) "Signed in as ".toList _ :=
      strong.cons_fixed (by decide)
    exact signed.element (by decide)

private theorem found_field (field : Text × Json) :
    Found (fieldPieces field) [] (fieldMarks field) :=
  ((found_value _).element (by decide)).append ((found_value _).element (by decide))

private theorem found_home (logout : Option Text) (view : View) :
    Found (homePieces logout view) [] (homeMarks logout view) := by
  refine found_layout logout (by decide) ?_
  unfold documentMarks
  cases view.document with
  | some document =>
    exact (found_summary view).append
      ((found_flatMap found_field document.fields).element (by decide))
  | none => exact (found_fixed (by decide)).element (by decide)

private theorem found_administrators (logout : Option Text) (admins : Admins) (view : View) :
    Found (administratorsPieces logout admins view) [] (administratorsMarks logout admins view) := by
  refine found_layout logout (by decide) ((found_summary view).append ?_)
  unfold adminPieces adminMarks
  split
  · exact (found_fixed (by decide)).element (by decide)
  · exact (found_flatMap (fun email => (found_value email).element (by decide)) _).element
      (by decide)

private theorem less_not_mem_reason (status : Nat) : '<' ∉ Http.reason status := by
  have every : ∀ entry ∈ Http.reasons, '<' ∉ entry.2.toList := by decide +kernel
  unfold Http.reason
  cases found : Http.reasons.lookup status with
  | none => decide
  | some phrase =>
    obtain ⟨before, after, split, -⟩ := List.lookup_eq_some_iff.1 found
    refine every (status, phrase) ?_
    rw [split]
    exact List.mem_append_right _ List.mem_cons_self

private theorem less_not_mem_statusLine (status : Nat) :
    '<' ∉ Text.padZeros 3 (Text.ofNat status) ++ ' ' :: Http.reason status := by
  have digits : '<' ∉ Text.ofNat status := fun member =>
    absurd ((Text.isWhole_ofNat status).1.2 '<' member) (by decide)
  unfold Text.padZeros
  simp only [List.mem_append, List.mem_cons, List.mem_replicate, not_or]
  exact ⟨⟨fun zero => absurd zero.2 (by decide), digits⟩, by decide, less_not_mem_reason status⟩

private theorem found_failure (status : Nat) (error : Flow.Error) :
    Found (failurePieces status error) [] (failureMarks status error) := by
  have heading := (found_fixed (less_not_mem_statusLine status)).element
    (by decide : '>' ∉ "h2".toList)
  have paragraph := (found_value error.message).element (by decide : '>' ∉ "p".toList)
  exact ((heading.append paragraph).element (by decide)).element (by decide)

/-! ## Tags -/

@[simp] theorem map_elementMarks (name : String) (lead : Text) (inner : List Mark) :
    (elementMarks name lead inner).map (·.1) = elementTags name (inner.map (·.1)) := by
  simp [elementMarks, elementTags]

private theorem map_layoutMarks (logout : Option Text) (title : String) (inner : List Mark) :
    (layoutMarks logout title inner).map (·.1) = layoutTags logout (inner.map (·.1)) := by
  have link : ((logout.map logoutMarks).getD []).map (·.1) = (logout.map logoutTags).getD [] := by
    cases logout with
    | none => rfl
    | some path => exact map_elementMarks "p" [] _
  simp only [layoutMarks, layoutTags, List.map_append, map_elementMarks, link]
  rfl

private theorem map_summaryMarks (view : View) :
    (summaryMarks view).map (·.1) = summaryTags view.email.isEmpty := by
  unfold summaryMarks summaryTags
  split
  · exact map_elementMarks "p" _ _
  · exact map_elementMarks "p" _ _

private theorem map_fieldMarks (field : Text × Json) :
    (fieldMarks field).map (·.1) = elementTags "dt" [] ++ elementTags "dd" [] := rfl

private theorem map_flatMap_marks {α : Type} {make : α -> List Mark} {tags : List Text}
    (each : ∀ item, (make item).map (·.1) = tags) (items : List α) :
    (items.flatMap make).map (·.1) = (List.replicate items.length tags).flatten := by
  induction items with
  | nil => rfl
  | cons item rest inductionHypothesis =>
    rw [List.flatMap_cons, List.map_append, each, inductionHypothesis]
    rfl

private theorem tags_home (logout : Option Text) (view : View) :
    tags (home logout view).body =
      homeTags logout view.email.isEmpty (view.document.map (·.fields.length)) := by
  show tags (render (homePieces logout view)) = _
  rw [(found_home logout view).tags]
  unfold homeMarks documentMarks homeTags
  rw [map_layoutMarks]
  cases view.document with
  | none => exact congrArg (layoutTags logout) (map_elementMarks "p" _ _)
  | some document =>
    have fields := map_flatMap_marks map_fieldMarks document.fields
    dsimp only [Option.map_some]
    rw [List.map_append, map_summaryMarks, map_elementMarks, fields]

private theorem tags_administrators (logout : Option Text) (admins : Admins) (view : View) :
    tags (administrators logout admins view).body =
      administratorsTags logout view.email.isEmpty admins.emails.length := by
  show tags (render (administratorsPieces logout admins view)) = _
  rw [(found_administrators logout admins view).tags]
  unfold administratorsMarks administratorsTags
  rw [map_layoutMarks, List.map_append, map_summaryMarks]
  unfold adminMarks
  have items := map_flatMap_marks (fun email => map_elementMarks "li" (escape email) [])
    admins.emails
  by_cases empty : admins.emails = []
  · rw [if_pos (List.isEmpty_iff.2 empty), if_pos (List.length_eq_zero_iff.2 empty)]
    rfl
  · rw [if_neg (mt List.isEmpty_iff.1 empty), if_neg (mt List.length_eq_zero_iff.1 empty),
      map_elementMarks, items]
    rfl

private theorem tags_failure (status : Nat) (error : Flow.Error) :
    tags (failure status error).body = failureTags := by
  show tags (render (failurePieces status error)) = _
  rw [(found_failure status error).tags]
  rfl

/-! ## Texts -/

/-- The elements that hold values from outside. -/
def valueElements : List String := ["dt", "dd", "li", "strong"]

/-- What the frame of a page puts before the content. -/
def frontMarks (title : String) : List Mark :=
  [("!DOCTYPE html".toList, []), ("html lang=\"en\"".toList, []), ("head".toList, []),
    ("meta charset=\"utf-8\"/".toList, []), ("title".toList, title.toList), ("/title".toList, []),
    ("/head".toList, []), ("body".toList, []), ("h1".toList, title.toList), ("/h1".toList, [])]

def backMarks (logout : Option Text) : List Mark :=
  (logout.map logoutMarks).getD [] ++ [("/body".toList, []), ("/html".toList, [])]

private theorem layoutMarks_eq (logout : Option Text) (title : String) (inner : List Mark) :
    layoutMarks logout title inner = frontMarks title ++ (inner ++ backMarks logout) := by
  simp [layoutMarks, elementMarks, frontMarks, backMarks]

private theorem not_mem_frontMarks (title : String) {name : String} (holds : name ∈ valueElements) :
    name.toList ∉ (frontMarks title).map (·.1) := by
  have every : ∀ name ∈ valueElements, name.toList ∉ (frontMarks "").map (·.1) := by decide
  exact every name holds

private theorem not_mem_backMarks (logout : Option Text) {name : String}
    (holds : name ∈ valueElements) :
    name.toList ∉ (backMarks logout).map (·.1) := by
  have every : ∀ name ∈ valueElements, name.toList ∉ (backMarks none).map (·.1) ∧
      name.toList ∉ ["p", "/a", "/p", "/body", "/html"].map String.toList ∧
      name.toList.head? ≠ some 'a' := by
    decide
  obtain ⟨last, others, start⟩ := every name holds
  cases logout with
  | none => exact last
  | some path =>
    intro member
    rcases List.mem_cons.1 member with same | member
    · exact others (same ▸ List.mem_cons_self)
    · rcases List.mem_cons.1 member with same | member
      · rw [same] at start
        exact start rfl
      · exact others (List.mem_cons_of_mem _ member)

/-- The frame of a page has no such elements. -/
theorem textsOf_layoutMarks (logout : Option Text) (title : String) (inner : List Mark)
    {name : String} (holds : name ∈ valueElements) :
    textsOf name (layoutMarks logout title inner) = textsOf name inner := by
  rw [layoutMarks_eq, textsOf_append, textsOf_append, textsOf_eq_nil (not_mem_frontMarks title holds),
    textsOf_eq_nil (not_mem_backMarks logout holds), List.nil_append, List.append_nil]

private theorem shown_eq (value : Json) :
    shown value = match value with
      | .string text => text
      | value => value.render := by
  cases value <;> rfl

private theorem textsOf_field (field : Text × Json) :
    textsOf "dt" (fieldMarks field) = [field.1] ∧
      textsOf "dd" (fieldMarks field) = [shown field.2] ∧
      textsOf "strong" (fieldMarks field) = [] := by
  have key := unescape_escape field.1
  have value := unescape_escape (shown field.2)
  refine ⟨congrArg ([·]) key, congrArg ([·]) value, ?_⟩
  rfl

private theorem textsOf_dl (fields : Json.Fields) :
    let marks := elementMarks "dl" [] (fields.flatMap fieldMarks)
    textsOf "dt" marks = fields.map (·.1) ∧ textsOf "dd" marks = fields.map (shown ·.2) ∧
      textsOf "strong" marks = [] := by
  intro marks
  have inner {name : String} (unslashed : '/' ∉ name.toList) (other : "dl".toList ≠ name.toList) :
      textsOf name marks = fields.flatMap fun field => textsOf name (fieldMarks field) := by
    rw [textsOf_elementMarks _ _ _ _ unslashed, if_neg other, textsOf_flatMap]
  refine ⟨?_, ?_, ?_⟩
  · rw [inner (by decide) (by decide), List.map_eq_flatMap]
    simp only [(textsOf_field _).1]
  · rw [inner (by decide) (by decide), List.map_eq_flatMap]
    simp only [(textsOf_field _).2.1]
  · rw [inner (by decide) (by decide)]
    simp [(textsOf_field _).2.2]

private theorem textsOf_summaryMarks (view : View) :
    textsOf "strong" (summaryMarks view) = (if view.email.isEmpty then [] else [view.email]) ∧
      ∀ name ∈ ["dt", "dd", "li"], textsOf name (summaryMarks view) = [] := by
  constructor
  · unfold summaryMarks
    split
    · rfl
    · exact congrArg ([·]) (unescape_escape view.email)
  · intro name holds
    apply textsOf_eq_nil
    rw [map_summaryMarks]
    have every : ∀ anonymous, ∀ name ∈ ["dt", "dd", "li"],
        name.toList ∉ summaryTags anonymous := by
      decide
    exact every _ name holds

private theorem textsOf_adminMarks (admins : Admins) :
    textsOf "li" (adminMarks admins) = admins.emails ∧
      textsOf "strong" (adminMarks admins) = [] := by
  have item (email : Text) : textsOf "li" (elementMarks "li" (escape email) []) = [email] :=
    congrArg ([·]) (unescape_escape email)
  have silent (email : Text) : textsOf "strong" (elementMarks "li" (escape email) []) = [] := rfl
  unfold adminMarks
  split
  · rename_i empty
    rw [List.isEmpty_iff.1 empty]
    exact ⟨rfl, rfl⟩
  · rw [textsOf_elementMarks _ _ _ _ (by decide), textsOf_elementMarks _ _ _ _ (by decide),
      if_neg (by decide), if_neg (by decide), textsOf_flatMap, textsOf_flatMap]
    simp [item, silent]

private theorem texts_home (logout : Option Text) (view : View) :
    let body := (home logout view).body
    let fields := (view.document.map (·.fields)).getD []
    texts "dt" body = fields.map (·.1) ∧ texts "dd" body = fields.map (shown ·.2) ∧
      texts "strong" body =
        if view.document.isNone || view.email.isEmpty then [] else [view.email] := by
  intro body fields
  have content {name : String} (holds : name ∈ valueElements) :
      texts name body = textsOf name (documentMarks view) :=
    ((found_home logout view).texts name).trans (textsOf_layoutMarks logout "Home" _ holds)
  obtain ⟨email, silent⟩ := textsOf_summaryMarks view
  rw [content (by decide), content (by decide), content (by decide)]
  unfold documentMarks
  cases document : view.document with
  | none =>
    have none : fields = [] := by simp [fields, document]
    rw [none]
    exact ⟨rfl, rfl, rfl⟩
  | some given =>
    have some : fields = given.fields := by simp [fields, document]
    obtain ⟨keys, values, nothing⟩ := textsOf_dl given.fields
    dsimp only
    rw [some, textsOf_append, textsOf_append, textsOf_append, keys, values, nothing, email,
      silent "dt" (by decide), silent "dd" (by decide)]
    exact ⟨rfl, rfl, List.append_nil _⟩

private theorem texts_administrators (logout : Option Text) (admins : Admins) (view : View) :
    let body := (administrators logout admins view).body
    texts "li" body = admins.emails ∧
      texts "strong" body = if view.email.isEmpty then [] else [view.email] := by
  intro body
  have content {name : String} (holds : name ∈ valueElements) :
      texts name body = textsOf name (summaryMarks view ++ adminMarks admins) :=
    ((found_administrators logout admins view).texts name).trans
      (textsOf_layoutMarks logout "Administrators" _ holds)
  obtain ⟨email, silent⟩ := textsOf_summaryMarks view
  obtain ⟨items, nothing⟩ := textsOf_adminMarks admins
  rw [content (by decide), content (by decide), textsOf_append, textsOf_append, items, nothing,
    email, silent "li" (by decide)]
  exact ⟨rfl, List.append_nil _⟩

private theorem texts_failure (status : Nat) (error : Flow.Error) :
    texts "p" (failure status error).body = [error.message] :=
  ((found_failure status error).texts "p").trans (congrArg ([·]) (unescape_escape error.message))

/-- **Nobody can write HTML into a page, and nothing is lost in it.**

The tags of the home page are those for a document with as many fields, those of the page of the
administrators are those for as many administrators, and those of the page for a failed login are
always the same; whatever stands in texts makes no difference. With the entities undone, the elements
that hold values hold exactly these: keys and values of the document in its order, a string as it is
and any other value as compact JSON, the administrators, the address that is logged in, and the
wording of the failure. -/
theorem pages_show_texts_as_texts :
    (∀ logout view, tags (home logout view).body =
      homeTags logout view.email.isEmpty (view.document.map (·.fields.length))) ∧
    (∀ logout admins view, tags (administrators logout admins view).body =
      administratorsTags logout view.email.isEmpty admins.emails.length) ∧
    (∀ status error, tags (failure status error).body = failureTags) ∧
    (∀ logout view,
      let body := (home logout view).body
      let fields := (view.document.map (·.fields)).getD []
      texts "dt" body = fields.map (·.1) ∧
        texts "dd" body = fields.map (fun field => match field.2 with
          | .string text => text
          | value => value.render) ∧
        texts "strong" body =
          if view.document.isNone || view.email.isEmpty then [] else [view.email]) ∧
    (∀ logout admins view,
      let body := (administrators logout admins view).body
      texts "li" body = admins.emails ∧
        texts "strong" body = if view.email.isEmpty then [] else [view.email]) ∧
    ∀ status error, texts "p" (failure status error).body = [error.message] := by
  refine ⟨tags_home, tags_administrators, tags_failure, fun logout view => ?_,
    texts_administrators, texts_failure⟩
  obtain ⟨keys, values, address⟩ := texts_home logout view
  exact ⟨keys, values.trans (List.map_congr_left fun field _ => shown_eq field.2), address⟩

end LoginGate.Page
