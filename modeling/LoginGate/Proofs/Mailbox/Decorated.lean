import LoginGate.Proofs.Mailbox.Normal
import Mathlib.Data.List.Basic
import Mathlib.Data.List.Induction

/-!
Contract: which texts are read as a mailbox, and as whose.

Owns:
- what a plain address is, part by part;
- the spellings of an address: comments around it, a display name and angle brackets;
- the law that every spelling is read as its address, and that whatever is read is an address that
  stands in the text.

Does not own: whether what is read can be read again (`Mailbox.Normal`).

Comments are dropped from the end first and then from the start. Each pass meets only comments until
it reaches the mailbox, because a mailbox shows neither pass a parenthesis. The last `<` is the one
before the address, because an address holds none; so a display name may hold anything.
-/

namespace LoginGate.Mailbox

/-! ## Addresses -/

/-- What an address is: a local part and a domain on both sides of the last `@`, with no dot at an
end of the domain, and no character that separates or cannot be seen. -/
structure IsPlain (address : Text) : Prop where
  parts : ∃ localPart domain, address = localPart ++ '@' :: domain ∧ '@' ∉ domain ∧
    localPart ≠ [] ∧ domain ≠ [] ∧ domain.head? ≠ some '.' ∧ domain.getLast? ≠ some '.'
  solid : ∀ c ∈ address, Text.isWhitespace c = false ∧ Text.isControl c = false
  unseparated : ∀ c ∈ address, c ≠ '<' ∧ c ≠ '>' ∧ c ≠ ',' ∧ c ≠ ';'

theorem isForbidden_eq_false_iff {c : Char} :
    isForbidden c = false ↔
      (Text.isWhitespace c = false ∧ Text.isControl c = false) ∧
        c ≠ '<' ∧ c ≠ '>' ∧ c ≠ ',' ∧ c ≠ ';' := by
  simp only [isForbidden, Bool.or_eq_false_iff, beq_eq_false_iff_ne, ne_eq, and_assoc]

theorem isAddress_iff {address : Text} : isAddress address = true ↔ IsPlain address := by
  have allowed : address.any isForbidden = false ↔ ∀ c ∈ address, isForbidden c = false := by
    simp only [List.any_eq_false, Bool.not_eq_true]
  constructor
  · intro valid
    unfold isAddress at valid
    split at valid
    · cases valid
    rename_i localPart domain divided
    obtain ⟨shape, last⟩ := Text.cutLast_eq_some_iff.1 divided
    simp only [Bool.and_eq_true, Bool.not_eq_true', List.isEmpty_eq_false_iff, bne_iff_ne] at valid
    obtain ⟨⟨⟨⟨localFilled, domainFilled⟩, first⟩, final⟩, clean⟩ := valid
    have each := fun c member => isForbidden_eq_false_iff.1 (allowed.1 clean c member)
    exact {
      parts := ⟨localPart, domain, shape, last, localFilled, domainFilled, first, final⟩
      solid := fun c member => (each c member).1
      unseparated := fun c member => (each c member).2 }
  · intro plain
    obtain ⟨localPart, domain, shape, last, localFilled, domainFilled, first, final⟩ := plain.parts
    have clean := allowed.2 fun c member =>
      isForbidden_eq_false_iff.2 ⟨plain.solid c member, plain.unseparated c member⟩
    unfold isAddress
    rw [Text.cutLast_eq_some_iff.2 ⟨shape, last⟩, clean]
    simp [localFilled, domainFilled, first, final]

theorem IsPlain.trimmed {address : Text} (plain : IsPlain address) : address.Trimmed :=
  trimmed_of_isAddress (isAddress_iff.2 plain)

theorem IsPlain.ne_nil {address : Text} (plain : IsPlain address) : address ≠ [] := by
  obtain ⟨localPart, domain, shape, -⟩ := plain.parts
  rw [shape]
  exact List.append_ne_nil_of_right_ne_nil _ (List.cons_ne_nil _ _)

/-! ## Comments -/

/-- A comment without parentheses inside, and the white space between it and what it stands at. -/
structure Comment where
  text : Text
  gap : Text := []
  plain : ∀ c ∈ text, c ≠ '(' ∧ c ≠ ')' := by simp
  blank : Text.isBlank gap = true := by decide

namespace Comment

def before (comment : Comment) : Text := '(' :: comment.text ++ ')' :: comment.gap

def after (comment : Comment) : Text := comment.gap ++ '(' :: comment.text ++ [')']

end Comment

theorem isBlank_iff {text : Text} :
    Text.isBlank text = true ↔ ∀ c ∈ text, Text.isWhitespace c = true :=
  List.all_eq_true

/-- A group is dropped with the white space behind it. -/
theorem dropGroups?_group {opening closing : Char} {inside gap : Text} (ends : closing ∉ inside)
    (blank : Text.isBlank gap = true) (rest : Text) :
    dropGroups? opening closing (opening :: inside ++ closing :: (gap ++ rest)) =
      dropGroups? opening closing (Text.trimStart Text.isWhitespace rest) := by
  have divided : Text.cut closing (inside ++ closing :: (gap ++ rest)) = some (inside, gap ++ rest) :=
    Text.cut_eq_some_iff.2 ⟨rfl, ends⟩
  rw [List.cons_append, dropGroups?_of_opening, divided, Option.bind_some,
    Text.trimStart_append_of_dropped (isBlank_iff.1 blank)]

/-- The comments before something are dropped, and the white space with them. -/
theorem dropGroups?_before (comments : List Comment) {rest : Text}
    (stops : (Text.trimStart Text.isWhitespace rest).head? ≠ some '(') :
    dropGroups? '(' ')'
        (Text.trimStart Text.isWhitespace (comments.flatMap Comment.before ++ rest)) =
      some (Text.trimStart Text.isWhitespace rest) := by
  induction comments with
  | nil => exact dropGroups?_of_head?_ne stops
  | cons comment others inductionHypothesis =>
    have ends : ')' ∉ comment.text := fun member => (comment.plain _ member).2 rfl
    have shape : (comment :: others).flatMap Comment.before ++ rest =
        '(' :: comment.text ++ ')' :: (comment.gap ++ (others.flatMap Comment.before ++ rest)) := by
      simp [Comment.before]
    rw [shape, List.cons_append, Text.trimStart_eq_self (by simp; decide), ← List.cons_append,
      dropGroups?_group ends comment.blank]
    exact inductionHypothesis

/-- So are those after something, from the end. -/
theorem dropGroups?_after (comments : List Comment) {rest : Text}
    (stops : (Text.trimStart Text.isWhitespace rest.reverse).head? ≠ some ')') :
    dropGroups? ')' '('
        (Text.trimStart Text.isWhitespace (rest ++ comments.flatMap Comment.after).reverse) =
      some (Text.trimStart Text.isWhitespace rest.reverse) := by
  -- The last comment is met first.
  induction comments using List.reverseRecOn with
  | nil =>
    rw [List.flatMap_nil, List.append_nil]
    exact dropGroups?_of_head?_ne stops
  | append_singleton others comment inductionHypothesis =>
    have ends : '(' ∉ comment.text.reverse :=
      fun member => (comment.plain _ (List.mem_reverse.1 member)).1 rfl
    have blank : Text.isBlank comment.gap.reverse = true := by
      rw [isBlank_iff]
      exact fun c member => isBlank_iff.1 comment.blank c (List.mem_reverse.1 member)
    have shape : (rest ++ (others ++ [comment]).flatMap Comment.after).reverse =
        ')' :: comment.text.reverse ++ '(' ::
          (comment.gap.reverse ++ (rest ++ others.flatMap Comment.after).reverse) := by
      simp [Comment.after]
    rw [shape, List.cons_append, Text.trimStart_eq_self (by simp; decide), ← List.cons_append,
      dropGroups?_group ends blank]
    exact inductionHypothesis

/-! ## Spellings -/

/-- What stands around a mailbox: comments on both sides, and white space around the whole. -/
structure Decoration where
  left : Text := []
  before : List Comment := []
  after : List Comment := []
  right : Text := []
  leftBlank : Text.isBlank left = true := by decide
  rightBlank : Text.isBlank right = true := by decide

def Decoration.around (decoration : Decoration) (mailbox : Text) : Text :=
  decoration.left ++
    (decoration.before.flatMap Comment.before ++ mailbox ++
      decoration.after.flatMap Comment.after) ++
  decoration.right

/-- The spellings of an address: alone, without a comment of its own at an end, or in angle brackets
behind a display name that begins with no comment. -/
inductive Spells (address : Text) : Text -> Prop where
  | alone (decoration : Decoration) (bare : Bare address) : Spells address (decoration.around address)
  | bracketed (decoration : Decoration) (display left right : Text)
      (named : (Text.trimStart Text.isWhitespace display).head? ≠ some '(')
      (leftBlank : Text.isBlank left = true) (rightBlank : Text.isBlank right = true) :
      Spells address (decoration.around (display ++ '<' :: (left ++ address ++ right) ++ ['>']))

/-- A mailbox is found under its decoration if it shows no parenthesis at its ends. -/
theorem withoutComments?_around (decoration : Decoration) {mailbox front : Text} {last : Char}
    (shape : mailbox = front ++ [last]) (solid : Text.isWhitespace last = false)
    (starts : (Text.trimStart Text.isWhitespace mailbox).head? ≠ some '(') (ends : last ≠ ')') :
    withoutComments? (Text.trimBlank (decoration.around mailbox)) =
      some (Text.trimStart Text.isWhitespace mailbox) := by
  let leading := decoration.before.flatMap Comment.before
  have margins : Text.trimBlank (decoration.around mailbox) =
      Text.trimBlank (leading ++ mailbox ++ decoration.after.flatMap Comment.after) :=
    Text.trim_append_of_dropped (isBlank_iff.1 decoration.leftBlank)
      (isBlank_iff.1 decoration.rightBlank) _
  let core := Text.trimStart Text.isWhitespace (leading ++ mailbox)
  have coreShape : core = Text.trimStart Text.isWhitespace (leading ++ front) ++ [last] := by
    show Text.trimStart Text.isWhitespace (leading ++ mailbox) = _
    rw [shape, ← List.append_assoc]
    exact Text.trimStart_append_cons solid _ _
  have coreEnds : Text.trimStart Text.isWhitespace core.reverse = core.reverse := by
    rw [coreShape, List.reverse_append]
    exact Text.trimStart_eq_self fun c same => Option.some.inj same ▸ solid
  have whole : Text.trimStart Text.isWhitespace
      (leading ++ mailbox ++ decoration.after.flatMap Comment.after) =
      core ++ decoration.after.flatMap Comment.after := by
    apply Text.trimStart_append_of_ne_nil
    show core ≠ []
    rw [coreShape]
    exact List.append_ne_nil_of_right_ne_nil _ (List.cons_ne_nil _ _)
  have coreStops : (Text.trimStart Text.isWhitespace core.reverse).head? ≠ some ')' := by
    rw [coreEnds, coreShape, List.reverse_append]
    exact fun same => ends (Option.some.inj same)
  have fromEnd := dropGroups?_after decoration.after coreStops
  have reversed : (Text.trimBlank (decoration.around mailbox)).reverse =
      Text.trimStart Text.isWhitespace (core ++ decoration.after.flatMap Comment.after).reverse := by
    rw [margins, Text.trimBlank, Text.trim, whole, Text.trimEnd, List.reverse_reverse]
    rfl
  unfold withoutComments?
  rw [reversed, fromEnd, coreEnds]
  show dropGroups? '(' ')' core.reverse.reverse = _
  rw [List.reverse_reverse]
  exact dropGroups?_before decoration.before starts

/-- Between the last angle brackets stands the address, with white space or without. -/
theorem bracketed?_of_brackets (display : Text) {left address right : Text}
    (plain : IsPlain address) (leftBlank : Text.isBlank left = true)
    (rightBlank : Text.isBlank right = true) :
    bracketed? (display ++ '<' :: (left ++ address ++ right) ++ ['>']) = some address := by
  have ends : Text.beforeSuffix? ['>'] (display ++ '<' :: (left ++ address ++ right) ++ ['>']) =
      some (display ++ '<' :: (left ++ address ++ right)) :=
    Text.beforeSuffix?_eq_some_iff.2 rfl
  have notBlank : ∀ {gap : Text}, Text.isBlank gap = true -> '<' ∉ gap := by
    intro gap blank member
    exact absurd (isBlank_iff.1 blank _ member) (by decide)
  have last : '<' ∉ left ++ address ++ right := by
    rw [List.mem_append, List.mem_append]
    intro member
    rcases member with (inLeft | inAddress) | inRight
    · exact notBlank leftBlank inLeft
    · exact (plain.unseparated _ inAddress).1 rfl
    · exact notBlank rightBlank inRight
  have trimmed : Text.trimBlank (left ++ address ++ right) = address := by
    rw [← plain.trimmed.trimBlank_eq]
    conv => lhs; rw [plain.trimmed.trimBlank_eq]
    exact Text.trim_append_of_dropped (isBlank_iff.1 leftBlank) (isBlank_iff.1 rightBlank) address
  unfold bracketed?
  rw [ends]
  dsimp only
  rw [Text.cutLast_eq_some_iff.2 ⟨rfl, last⟩, Option.map_some, trimmed]

/-- What is left under the decoration decides. -/
theorem parse?_of_steps {text rest address : Text} (plain : IsPlain address)
    (uncommented : withoutComments? (Text.trimBlank text) = some rest)
    (unbracketed : bracketed? rest = some address) : parse? text = some address := by
  unfold parse?
  rw [uncommented]
  show (bracketed? rest).bind _ = _
  rw [unbracketed, Option.bind_some, if_pos (isAddress_iff.2 plain)]

private theorem parse?_of_spells {address text : Text} (plain : IsPlain address)
    (spells : Spells address text) : parse? text = some address := by
  cases spells with
  | alone decoration bare =>
    obtain ⟨front, last, shape⟩ := (List.eq_nil_or_concat' address).resolve_left plain.ne_nil
    have ending : address.getLast? = some last := by
      rw [shape]
      exact List.getLast?_concat
    have untouched : Text.trimStart Text.isWhitespace address = address :=
      Text.trimStart_eq_self plain.trimmed.first
    have unbracketed : '>' ∉ address := fun member => (plain.unseparated _ member).2.1 rfl
    apply parse?_of_steps plain _ (bracketed?_of_not_mem unbracketed)
    conv => rhs; rw [← untouched]
    apply withoutComments?_around decoration shape (plain.trimmed.last last ending)
    · rw [untouched]
      exact bare.first
    · intro same
      exact bare.last (same ▸ ending)
  | bracketed decoration display left right named leftBlank rightBlank =>
    let behind := '<' :: (left ++ address ++ right) ++ ['>']
    have opened : Text.trimStart Text.isWhitespace (display ++ behind) =
        Text.trimStart Text.isWhitespace display ++ behind :=
      Text.trimStart_append_cons (c := '<') (by decide) display _
    have starts : (Text.trimStart Text.isWhitespace (display ++ behind)).head? ≠ some '(' := by
      rw [opened, List.head?_append]
      cases first : (Text.trimStart Text.isWhitespace display).head? with
      | none => exact fun same => absurd same (by simp [behind])
      | some c => exact fun same => named (first.trans same)
    have shape : display ++ behind = (display ++ '<' :: (left ++ address ++ right)) ++ ['>'] := by
      simp [behind]
    have uncommented := withoutComments?_around decoration shape (by decide) starts (by decide)
    have unbracketed := bracketed?_of_brackets (Text.trimStart Text.isWhitespace display) plain
      leftBlank rightBlank
    rw [opened] at uncommented
    rw [List.append_assoc] at unbracketed ⊢
    exact parse?_of_steps plain uncommented unbracketed

/-! ## What is read -/

/-- Comments are dropped at the ends. -/
theorem infix_of_withoutComments? {text rest : Text}
    (uncommented : withoutComments? text = some rest) : rest <:+: text := by
  obtain ⟨reversed, fromEnd, fromStart⟩ := Option.bind_eq_some_iff.1 uncommented
  have front := List.reverse_prefix.2 (dropGroups?_eq_some fromEnd).1
  rw [List.reverse_reverse] at front
  exact (dropGroups?_eq_some fromStart).1.isInfix.trans front.isInfix

private theorem infix_of_bracketed? {text address : Text}
    (unbracketed : bracketed? text = some address) :
    address <:+: text := by
  unfold bracketed? at unbracketed
  split at unbracketed
  · exact Option.some.inj unbracketed ▸ List.infix_rfl
  · rename_i inner ends
    obtain ⟨⟨display, behind⟩, divided, trimmed⟩ := Option.map_eq_some_iff.1 unbracketed
    obtain ⟨shape, -⟩ := Text.cutLast_eq_some_iff.1 divided
    rw [Text.beforeSuffix?_eq_some_iff.1 ends, shape, ← trimmed]
    apply (Text.trimBlank_infix behind).trans
    exact ⟨display ++ ['<'], ['>'], by simp⟩

private theorem infix_of_parse? {text address : Text} (found : parse? text = some address) :
    address <:+: text := by
  obtain ⟨rest, uncommented, behind⟩ := Option.bind_eq_some_iff.1 found
  obtain ⟨inner, unbracketed, last⟩ := Option.bind_eq_some_iff.1 behind
  split at last
  · cases last
    exact (infix_of_bracketed? unbracketed).trans
      ((infix_of_withoutComments? uncommented).trans (Text.trimBlank_infix text))
  · cases last

/-- **The reader finds the address of every spelling, and nothing but addresses.** Every spelling of
an address is read as this address, and its normal form is the address in lower case. Whatever a text
is read as is an address, part by part, and stands in the text as it is. -/
theorem parse?_finds_spelled_address :
    (∀ address text, isAddress address = true -> Spells address text ->
      parse? text = some address ∧ normalize text = Unicode.toLower address) ∧
    ∀ text address, parse? text = some address ->
      address <:+: text ∧ isAddress address = true ∧ IsPlain address := by
  constructor
  · intro address text valid spells
    have found := parse?_of_spells (isAddress_iff.1 valid) spells
    exact ⟨found, normalize_of_parse? found⟩
  · intro text address found
    have valid := isAddress_of_parse? found
    exact ⟨infix_of_parse? found, valid, isAddress_iff.1 valid⟩

/-! ## A mailbox with all its decoration -/

namespace Sample

def decoration : Decoration where
  left := [' ']
  before := [{ text := "c".toList }, { text := "<d>".toList, gap := "\t ".toList }]
  after := [{ text := "Work".toList, gap := [' '] }, { text := [] }]

/-- A display name with brackets, a comment and an address of its own. -/
def display : Text := "Ann (x) <y@z>, ".toList

end Sample

/-- The address is found behind two comments and a name that looks like a mailbox, and the reader
finds nothing else there. -/
theorem sample_spelled_address :
    let text := " (c)(<d>)\t Ann (x) <y@z>, <(A@b.Eu > (Work)()".toList
    isAddress "(A@b.Eu".toList = true ∧ Spells "(A@b.Eu".toList text ∧
      parse? text = some "(A@b.Eu".toList ∧ normalize text = "(a@b.eu".toList ∧
      "(A@b.Eu".toList <:+: text := by
  intro text
  have valid : isAddress "(A@b.Eu".toList = true := by decide
  have spells : Spells "(A@b.Eu".toList text :=
    .bracketed Sample.decoration Sample.display [] [' '] (by decide) (by decide) (by decide)
  obtain ⟨found, normal⟩ := parse?_finds_spelled_address.1 _ _ valid spells
  have lowered : Unicode.toLower "(A@b.Eu".toList = "(a@b.eu".toList := by decide +kernel
  exact ⟨valid, spells, found, normal.trans lowered, (parse?_finds_spelled_address.2 _ _ found).1⟩

end LoginGate.Mailbox
