import LoginGate.Mailbox
import LoginGate.Proofs.Unicode.Lowercase

/-!
Contract: texts that a reader of addresses takes apart in the same way.

Owns:
- the marks by which such a reader goes;
- texts that are alike: the same marks in the same places, and anything else in between;
- one law for each step of the reader, up to the whole of it;
- the law that a text is like its lower case.

Does not own: what the reader accepts (`Mailbox.Normal`).

Lower-casing may make a character longer and looks at its neighbours, so it is no map. All that the
reader needs of it is that it keeps the marks and makes no new ones.
-/

namespace LoginGate.Mailbox

/-! ## Marks -/

/-- White space and controls up to the space, the marks of an address, the other controls, and the
other white space. -/
def markRanges : List (Nat × Nat) :=
  [(0x00, 0x20), (0x28, 0x29), (0x2C, 0x2C), (0x2E, 0x2E), (0x3B, 0x3C), (0x3E, 0x3E),
    (0x40, 0x40), (0x7F, 0xA0), (0x1680, 0x1680), (0x2000, 0x200A), (0x2028, 0x2029),
    (0x202F, 0x202F), (0x205F, 0x205F), (0x3000, 0x3000)]

/-- A character that tells the reader where a part of an address begins or ends, or that none may
hold. -/
def isMark (c : Char) : Bool := Unicode.covers markRanges c.toNat

theorem isMark_of_isWhitespace {c : Char} (blank : Text.isWhitespace c = true) :
    isMark c = true := by
  simp only [Text.isWhitespace, Bool.or_eq_true, Bool.and_eq_true, decide_eq_true_eq,
    beq_iff_eq] at blank
  simp only [isMark, markRanges, Unicode.covers, List.any_cons, List.any_nil, Bool.or_eq_true,
    Bool.and_eq_true, decide_eq_true_eq]
  omega

private theorem isMark_of_isControl {c : Char} (control : Text.isControl c = true) :
    isMark c = true := by
  simp only [Text.isControl, Bool.or_eq_true, Bool.and_eq_true, decide_eq_true_eq] at control
  simp only [isMark, markRanges, Unicode.covers, List.any_cons, List.any_nil, Bool.or_eq_true,
    Bool.and_eq_true, decide_eq_true_eq]
  omega

private theorem isMark_of_isForbidden {c : Char} (forbidden : isForbidden c = true) :
    isMark c = true := by
  simp only [isForbidden, Bool.or_eq_true, beq_iff_eq] at forbidden
  rcases forbidden with ((((blank | control) | rfl) | rfl) | rfl) | rfl
  · exact isMark_of_isWhitespace blank
  · exact isMark_of_isControl control
  all_goals decide

private theorem spares_markRanges : Unicode.spares markRanges = true := by
  decide +kernel

/-! ## Texts that are alike -/

/-- The same marks in the same places. A character that is no mark stands against a text that holds
none. -/
inductive Alike : Text -> Text -> Prop where
  | nil : Alike [] []
  | mark {c : Char} {left right : Text} (isMark : isMark c = true) (rest : Alike left right) :
    Alike (c :: left) (c :: right)
  | between {c : Char} {block left right : Text} (unmarked : isMark c = false)
    (present : block ≠ []) (blockUnmarked : ∀ d ∈ block, Mailbox.isMark d = false)
    (rest : Alike left right) : Alike (c :: left) (block ++ right)

namespace Alike

theorem append {left right leftEnd rightEnd : Text} (alike : Alike left right)
    (ends : Alike leftEnd rightEnd) : Alike (left ++ leftEnd) (right ++ rightEnd) := by
  induction alike with
  | nil => exact ends
  | mark isMark _ inductionHypothesis => exact .mark isMark inductionHypothesis
  | between unmarked present blockUnmarked _ inductionHypothesis =>
    rw [List.append_assoc]
    exact .between unmarked present blockUnmarked inductionHypothesis

theorem reverse {left right : Text} (alike : Alike left right) :
    Alike left.reverse right.reverse := by
  induction alike with
  | nil => exact .nil
  | mark isMark _ inductionHypothesis =>
    rw [List.reverse_cons, List.reverse_cons]
    exact inductionHypothesis.append (.mark isMark .nil)
  | @between c block left right unmarked present blockUnmarked _ inductionHypothesis =>
    rw [List.reverse_cons, List.reverse_append]
    have last : Alike [c] block.reverse := by
      have unmarkedReverse : ∀ d ∈ block.reverse, Mailbox.isMark d = false := by
        intro d member
        exact blockUnmarked d (List.mem_reverse.1 member)
      have presentReverse : block.reverse ≠ [] := by
        simpa using present
      have single := between unmarked presentReverse unmarkedReverse nil
      rwa [List.append_nil] at single
    exact inductionHypothesis.append last

private theorem of_mark {c : Char} {left right : Text} (alike : Alike (c :: left) right)
    (isMark : isMark c = true) : ∃ rest, right = c :: rest ∧ Alike left rest := by
  cases alike with
  | mark _ rest => exact ⟨_, rfl, rest⟩
  | between unmarked _ _ _ =>
    rw [isMark] at unmarked
    cases unmarked

private theorem isEmpty_eq {left right : Text} (alike : Alike left right) :
    left.isEmpty = right.isEmpty := by
  cases alike with
  | nil => rfl
  | mark => rfl
  | between _ present _ _ => simp [present]

/-- What comes first is a certain mark on both sides or on neither. -/
theorem head?_eq_some_iff {left right : Text} (alike : Alike left right) {c : Char}
    (isMark : isMark c = true) : left.head? = some c ↔ right.head? = some c := by
  cases alike with
  | nil => rfl
  | mark => rfl
  | @between d block left right unmarked present blockUnmarked _ =>
    obtain ⟨first, rest, rfl⟩ := List.exists_cons_of_ne_nil present
    have firstUnmarked := blockUnmarked first List.mem_cons_self
    constructor
    · intro same
      cases same
      rw [isMark] at unmarked
      cases unmarked
    · intro same
      cases same
      rw [isMark] at firstUnmarked
      cases firstUnmarked

theorem getLast?_eq_some_iff {left right : Text} (alike : Alike left right) {c : Char}
    (isMark : isMark c = true) : left.getLast? = some c ↔ right.getLast? = some c := by
  rw [← List.head?_reverse, ← List.head?_reverse]
  exact alike.reverse.head?_eq_some_iff isMark

/-- Both sides hold a character of a class of marks, or neither does. -/
theorem any_eq {left right : Text} (alike : Alike left right) {kind : Char -> Bool}
    (marks : ∀ c, kind c = true -> isMark c = true) : left.any kind = right.any kind := by
  have outside : ∀ c, isMark c = false -> kind c = false := by
    intro c unmarked
    cases inside : kind c with
    | false => rfl
    | true =>
      rw [marks c inside] at unmarked
      cases unmarked
  induction alike with
  | nil => rfl
  | mark _ _ inductionHypothesis => rw [List.any_cons, List.any_cons, inductionHypothesis]
  | @between c block _ _ unmarked _ blockUnmarked _ inductionHypothesis =>
    have blockOutside : block.any kind = false := by
      rw [List.any_eq_false]
      intro d member
      rw [outside d (blockUnmarked d member)]
      exact Bool.false_ne_true
    rw [List.any_cons, List.any_append, outside c unmarked, blockOutside, inductionHypothesis]

theorem dropWhile {left right : Text} (alike : Alike left right) (dropped : Char -> Bool)
    (marks : ∀ c, dropped c = true -> isMark c = true) :
    Alike (left.dropWhile dropped) (right.dropWhile dropped) := by
  have kept : ∀ c, isMark c = false -> dropped c = false := by
    intro c unmarked
    cases inside : dropped c with
    | false => rfl
    | true =>
      rw [marks c inside] at unmarked
      cases unmarked
  induction alike with
  | nil => exact .nil
  | @mark c left right isMark rest inductionHypothesis =>
    rw [List.dropWhile_cons, List.dropWhile_cons]
    split
    · exact inductionHypothesis
    · exact .mark isMark rest
  | @between c block left right unmarked present blockUnmarked rest _ =>
    obtain ⟨first, others, rfl⟩ := List.exists_cons_of_ne_nil present
    have firstKept := kept first (blockUnmarked first List.mem_cons_self)
    rw [List.dropWhile_cons, kept c unmarked, List.cons_append, List.dropWhile_cons, firstKept]
    exact .between unmarked present blockUnmarked rest

theorem trimBlank {left right : Text} (alike : Alike left right) :
    Alike (Text.trimBlank left) (Text.trimBlank right) := by
  have started := alike.dropWhile Text.isWhitespace fun _ => isMark_of_isWhitespace
  have ended := started.reverse.dropWhile Text.isWhitespace fun _ => isMark_of_isWhitespace
  exact ended.reverse

end Alike

/-! ## Results that are alike -/

/-- What comes of both results is alike if that is so for each pair of alike values. -/
theorem rel_bind {α β : Type} {relation : α -> α -> Prop} {after : β -> β -> Prop}
    {left right : Option α} (alike : Option.Rel relation left right) {f g : α -> Option β}
    (next : ∀ a b, relation a b -> Option.Rel after (f a) (g b)) :
    Option.Rel after (left.bind f) (right.bind g) := by
  cases alike with
  | none => exact .none
  | some values => exact next _ _ values

private theorem rel_map {α β : Type} {relation : α -> α -> Prop} {after : β -> β -> Prop}
    {left right : Option α} (alike : Option.Rel relation left right) {f g : α -> β}
    (next : ∀ a b, relation a b -> after (f a) (g b)) :
    Option.Rel after (left.map f) (right.map g) := by
  cases alike with
  | none => exact .none
  | some values => exact .some (next _ _ values)

theorem isSome_eq_of_rel {α : Type} {relation : α -> α -> Prop} {left right : Option α}
    (alike : Option.Rel relation left right) : left.isSome = right.isSome := by
  cases alike <;> rfl

def AlikeParts (left right : Text × Text) : Prop := Alike left.1 right.1 ∧ Alike left.2 right.2

/-! ## Cuts at a mark -/

namespace Alike

variable {separator : Char} (isMark : isMark separator = true)
include isMark

private theorem cut_of_unmarked {block : Text} (unmarked : ∀ d ∈ block, Mailbox.isMark d = false)
    (text : Text) :
    Text.cut separator (block ++ text) =
      (Text.cut separator text).map fun parts => (block ++ parts.1, parts.2) := by
  induction block with
  | nil => simp
  | cons first rest inductionHypothesis =>
    obtain ⟨firstUnmarked, restUnmarked⟩ := List.forall_mem_cons.1 unmarked
    have different : first ≠ separator := by
      rintro rfl
      rw [isMark] at firstUnmarked
      cases firstUnmarked
    rw [List.cons_append, Text.cut, if_neg different, inductionHypothesis restUnmarked,
      Option.map_map]
    rfl

/-- Both sides are cut at the same mark. -/
theorem cut {left right : Text} (alike : Alike left right) :
    Option.Rel AlikeParts (Text.cut separator left) (Text.cut separator right) := by
  induction alike with
  | nil => exact .none
  | @mark c left right marked rest inductionHypothesis =>
    rw [Text.cut, Text.cut]
    split
    · exact .some ⟨.nil, rest⟩
    · exact rel_map inductionHypothesis fun _ _ parts => ⟨.mark marked parts.1, parts.2⟩
  | @between c block left right unmarked present blockUnmarked rest inductionHypothesis =>
    have different : c ≠ separator := by
      rintro rfl
      rw [isMark] at unmarked
      cases unmarked
    rw [cut_of_unmarked isMark blockUnmarked, Text.cut, if_neg different]
    exact rel_map inductionHypothesis fun _ _ parts =>
      ⟨.between unmarked present blockUnmarked parts.1, parts.2⟩

theorem cutLast {left right : Text} (alike : Alike left right) :
    Option.Rel AlikeParts (Text.cutLast separator left) (Text.cutLast separator right) :=
  rel_map (alike.reverse.cut isMark) fun _ _ parts => ⟨parts.2.reverse, parts.1.reverse⟩

private theorem afterMark? {left right : Text} (alike : Alike left right) :
    Option.Rel Alike (Text.afterPrefix? [separator] left)
      (Text.afterPrefix? [separator] right) := by
  cases alike with
  | nil => exact .none
  | mark _ rest =>
    simp only [Text.afterPrefix?]
    split
    · exact .some rest
    · exact .none
  | @between c block left right unmarked present blockUnmarked rest =>
    obtain ⟨first, others, rfl⟩ := List.exists_cons_of_ne_nil present
    have different : ∀ d, Mailbox.isMark d = false -> separator ≠ d := by
      rintro d dUnmarked rfl
      rw [isMark] at dUnmarked
      cases dUnmarked
    have firstDifferent := different first (blockUnmarked first List.mem_cons_self)
    simp only [List.cons_append, Text.afterPrefix?, if_neg (different c unmarked),
      if_neg firstDifferent]
    exact .none

/-- A mark at the end is removed on both sides or on neither. -/
theorem beforeMark? {left right : Text} (alike : Alike left right) :
    Option.Rel Alike (Text.beforeSuffix? [separator] left)
      (Text.beforeSuffix? [separator] right) :=
  rel_map (alike.reverse.afterMark? isMark) fun _ _ rest => rest.reverse

end Alike

/-! ## The reader, step by step -/

section Groups

variable {opening closing : Char}

theorem dropGroups?_of_head?_ne {text : Text} (different : text.head? ≠ some opening) :
    dropGroups? opening closing text = some text := by
  cases text with
  | nil => rw [dropGroups?]
  | cons c rest =>
    have otherChar : c ≠ opening := fun same => different (congrArg some same)
    rw [dropGroups?, if_neg otherChar]

theorem dropGroups?_of_opening (rest : Text) :
    dropGroups? opening closing (opening :: rest) =
      (Text.cut closing rest).bind fun parts =>
        dropGroups? opening closing (Text.trimStart Text.isWhitespace parts.2) := by
  rw [dropGroups?, if_pos rfl]
  split
  · rename_i missing
    rw [missing]
    rfl
  · rename_i found
    rw [found]
    rfl

end Groups

namespace Alike

theorem dropGroups? {opening closing : Char} (openingMark : isMark opening = true)
    (closingMark : isMark closing = true) {left right : Text} (alike : Alike left right) :
    Option.Rel Alike (Mailbox.dropGroups? opening closing left)
      (Mailbox.dropGroups? opening closing right) := by
  fun_induction Mailbox.dropGroups? opening closing left generalizing right with
  | case1 =>
    cases alike
    rw [dropGroups?_of_head?_ne (by simp)]
    exact .some .nil
  | case2 rest missing =>
    obtain ⟨others, rfl, restAlike⟩ := alike.of_mark openingMark
    have cuts := restAlike.cut closingMark
    rw [missing] at cuts
    rw [dropGroups?_of_opening]
    revert cuts
    cases Text.cut closing others with
    | none => exact fun _ => .none
    | some parts => rintro ⟨⟩
  | case3 rest before after found inductionHypothesis =>
    obtain ⟨others, rfl, restAlike⟩ := alike.of_mark openingMark
    have cuts := restAlike.cut closingMark
    rw [found] at cuts
    rw [dropGroups?_of_opening]
    revert cuts
    cases Text.cut closing others with
    | none => rintro ⟨⟩
    | some parts =>
      rintro ⟨partsAlike⟩
      exact inductionHypothesis (partsAlike.2.dropWhile _ fun _ => isMark_of_isWhitespace)
  | case4 c rest different =>
    have starts : right.head? ≠ some opening := by
      intro same
      have leftStarts := (alike.head?_eq_some_iff openingMark).2 same
      exact different (Option.some.inj leftStarts)
    rw [dropGroups?_of_head?_ne starts]
    exact .some alike

theorem withoutComments? {left right : Text} (alike : Alike left right) :
    Option.Rel Alike (Mailbox.withoutComments? left) (Mailbox.withoutComments? right) :=
  rel_bind (alike.reverse.dropGroups? (by decide) (by decide)) fun _ _ rest =>
    rest.reverse.dropGroups? (by decide) (by decide)

theorem bracketed? {left right : Text} (alike : Alike left right) :
    Option.Rel Alike (Mailbox.bracketed? left) (Mailbox.bracketed? right) := by
  have bracket : isMark '>' = true := by decide
  have ends := alike.beforeMark? bracket
  unfold Mailbox.bracketed?
  revert ends
  cases Text.beforeSuffix? ['>'] left <;> cases Text.beforeSuffix? ['>'] right
  · intro _
    exact .some alike
  · rintro ⟨⟩
  · rintro ⟨⟩
  · rintro ⟨inner⟩
    exact rel_map (inner.cutLast (by decide)) fun _ _ parts => parts.2.trimBlank

theorem isAddress_eq {left right : Text} (alike : Alike left right) :
    isAddress left = isAddress right := by
  have atSign : isMark '@' = true := by decide
  have cuts := alike.cutLast atSign
  have forbidden := alike.any_eq fun _ => isMark_of_isForbidden
  unfold isAddress
  rw [forbidden]
  revert cuts
  cases Text.cutLast '@' left with
  | none =>
    cases Text.cutLast '@' right with
    | none => exact fun _ => rfl
    | some parts => rintro ⟨⟩
  | some leftParts =>
    cases Text.cutLast '@' right with
    | none => rintro ⟨⟩
    | some rightParts =>
      rintro ⟨localAlike, domainAlike⟩
      have dot : isMark '.' = true := by decide
      have starts := domainAlike.head?_eq_some_iff dot
      have ends := domainAlike.getLast?_eq_some_iff dot
      simp only [localAlike.isEmpty_eq, domainAlike.isEmpty_eq, bne, Bool.beq_eq_decide_eq,
        starts, ends]

/-- The reader finds an address on both sides or on neither, and what it finds is alike. -/
theorem parse? {left right : Text} (alike : Alike left right) :
    Option.Rel Alike (Mailbox.parse? left) (Mailbox.parse? right) := by
  apply rel_bind alike.trimBlank.withoutComments?
  intro _ _ uncommented
  apply rel_bind uncommented.bracketed?
  intro _ _ address
  rw [address.isAddress_eq]
  split
  · exact .some address
  · exact .none

end Alike

/-! ## Lower case -/

private theorem alike_lowerAfter (before text : Text) :
    Alike text (Unicode.lowerAfter before text) := by
  induction text generalizing before with
  | nil => exact .nil
  | cons c rest inductionHypothesis =>
    rw [Unicode.lowerAfter]
    cases marked : isMark c with
    | true =>
      have settled := Unicode.settled_of_covers spares_markRanges marked
      rw [if_neg (fun sigma => settled.not_sigma sigma.1), settled.lowerChar]
      exact .mark marked (inductionHypothesis (c :: before))
    | false =>
      apply Alike.between marked _ _ (inductionHypothesis (c :: before))
      · split
        · exact List.cons_ne_nil _ _
        · unfold Unicode.lowerChar
          split <;> exact List.cons_ne_nil _ _
      · intro d member
        split at member
        · rw [List.mem_singleton] at member
          subst member
          decide
        · exact Unicode.not_covers_of_mem_lowerChar spares_markRanges marked member

/-- A text is like its lower case. -/
theorem alike_toLower (text : Text) : Alike text (Unicode.toLower text) :=
  alike_lowerAfter [] text

end LoginGate.Mailbox
