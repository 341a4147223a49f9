import Mathlib.Data.List.Forall2
import LoginGate.Proofs.Distinct
import LoginGate.Proofs.Json.Fields
import LoginGate.Proofs.Json.Grammar

/-!
Contract: what a written JSON value means.

Owns:
- what it means, as a relation: an object has the distinct keys that are written, each with its last
  value;
- the fields that the written fields of an object come to;
- the value of what is written, with a limit on nesting, and that it is what the written means;
- the written values all of whose numbers are plain integers.

Does not own: the fields themselves (`Json.Fields`), or how a value is read (`Json.Complete`).

A reader sets one key after the other. `collect` says what that comes to without an order of
steps, and `foldl_insert` that it is the same.
-/

namespace LoginGate.Json

/-- What a written value means. An object has the distinct keys of its written fields, in the order
in which they first appear, each with what the last value written for it means. -/
inductive Tree.Means : Tree -> Json -> Prop where
  | null : Means .null .null
  | bool (value : Bool) : Means (.bool value) (.bool value)
  | number {parts : NumberParts} {number : Number} (value : parts.value? = some number) :
      Means (.number parts) (.number number)
  | string (text : Text) : Means (.string text) (.string text)
  | array {items : List Tree} {values : List Json} (each : List.Forall₂ Means items values) :
      Means (.array items) (.array values)
  | object {written : List (Text × Tree)} {fields : Fields}
      (keys : fields.map (·.1) = (written.map (·.1)).eraseDups)
      (last : ∀ field ∈ fields, ∀ tree, written.reverse.lookup field.1 = some tree ->
        Means tree field.2) : Means (.object written) (.object fields)

/-! ## Fields -/

/-- What written fields come to: every key where it first appears, with its last value. -/
def collect (written : Fields) : Fields :=
  gather (written.map (·.1)).eraseDups (lookup · written.reverse)

private theorem keys_collect (written : Fields) :
    (collect written).map (·.1) = (written.map (·.1)).eraseDups := by
  refine keys_gather fun key member => ?_
  rw [ne_eq, lookup_eq_none_iff, List.map_reverse, List.mem_reverse, Classical.not_not]
  exact List.mem_eraseDups.1 member

private theorem lookup_collect (key : Text) (written : Fields) :
    lookup key (collect written) = lookup key written.reverse := by
  rw [collect, lookup_gather]
  split
  · rfl
  · next missing =>
    rw [List.mem_eraseDups] at missing
    rw [eq_comm, lookup_eq_none_iff, List.map_reverse, List.mem_reverse]
    exact missing

/-- One more written field sets its key. -/
theorem collect_append (written : Fields) (field : Text × Json) :
    collect (written ++ [field]) = insert field.1 field.2 (collect written) := by
  apply fields_ext
  · rw [keys_collect, keys_insert, keys_collect, List.map_append, List.map_singleton]
    simp only [List.mem_eraseDups]
    split
    · next known => exact eraseDups_append_of_subset (by simpa using known)
    · next missing => exact eraseDups_append_of_not_mem missing
  · rw [keys_collect]
    exact nodup_eraseDups _
  · intro key
    rw [lookup_collect, lookup_insert, lookup_collect, List.reverse_append, List.reverse_singleton,
      List.singleton_append, lookup]

/-- Setting one key after the other comes to the collected fields. -/
theorem foldl_insert (before written : Fields) :
    written.foldl (fun fields field => insert field.1 field.2 fields) (collect before) =
      collect (before ++ written) := by
  induction written generalizing before with
  | nil => rw [List.append_nil, List.foldl_nil]
  | cons field rest inductionHypothesis =>
    rw [List.foldl_cons, ← collect_append, inductionHypothesis, List.append_assoc,
      List.singleton_append]

/-- Fields with distinct keys are what they come to. -/
theorem collect_of_nodup {fields : Fields} (distinct : (fields.map (·.1)).Nodup) :
    collect fields = fields := by
  induction fields using List.reverseRecOn with
  | nil => rfl
  | append_singleton fields field inductionHypothesis =>
    rw [List.map_append, List.map_singleton, List.nodup_append] at distinct
    obtain ⟨earlier, -, apart⟩ := distinct
    rw [collect_append, inductionHypothesis earlier]
    exact insert_of_not_mem fun member => apart _ member _ (List.mem_singleton.2 rfl) rfl

/-! ## Values -/

/-- The value of what is written. There is none when it is nested too deep or when a number is out
of range. -/
def Tree.value? : (nesting : Nat) -> Tree -> Option Json
  | _, .null => some .null
  | _, .bool value => some (.bool value)
  | _, .number parts => parts.value?.map .number
  | _, .string text => some (.string text)
  | 0, .array _ => none
  | inner + 1, .array items => (items.mapM (value? inner)).map .array
  | 0, .object _ => none
  | inner + 1, .object fields =>
    (fields.mapM fun field => (value? inner field.2).map (field.1, ·)).map
      fun values => .object (collect values)

private theorem forall₂_of_mapM_eq_some {α β : Type} {f : α -> Option β} {R : α -> β -> Prop}
    {items : List α} {results : List β} (mapped : items.mapM f = some results)
    (each : ∀ item ∈ items, ∀ result, f item = some result -> R item result) :
    List.Forall₂ R items results := by
  induction items generalizing results with
  | nil =>
    cases mapped
    exact .nil
  | cons first rest inductionHypothesis =>
    simp only [List.mapM_cons, Option.pure_def, Option.bind_eq_bind, Option.bind_eq_some_iff,
      Option.some.injEq] at mapped
    obtain ⟨result, done, others, mappedRest, rfl⟩ := mapped
    rw [List.forall_mem_cons] at each
    exact .cons (each.1 result done) (inductionHypothesis mappedRest each.2)

/-- Fields whose keys agree one by one are found together. -/
theorem rel_of_lookup {R : Tree -> Json -> Prop} {written : List (Text × Tree)} {values : Fields}
    (agree : List.Forall₂ (fun field value => field.1 = value.1 ∧ R field.2 value.2) written values)
    {key : Text} {tree : Tree} {json : Json} (inWritten : written.lookup key = some tree)
    (inValues : lookup key values = some json) : R tree json := by
  induction agree with
  | nil => cases inWritten
  | @cons field value _ _ same _ inductionHypothesis =>
    rw [lookup, ← same.1] at inValues
    rw [List.lookup_cons] at inWritten
    by_cases here : field.1 = key
    · rw [if_pos here] at inValues
      rw [beq_iff_eq.2 here.symm] at inWritten
      cases inValues
      cases inWritten
      exact same.2
    · rw [if_neg here] at inValues
      rw [beq_eq_false_iff_ne.2 (Ne.symm here)] at inWritten
      exact inductionHypothesis inWritten inValues

theorem Tree.exists_items {items : List Tree} {nesting : Nat} {json : Json}
    (value : (Tree.array items).value? nesting = some json) :
    ∃ inner values, nesting = inner + 1 ∧ items.mapM (Tree.value? inner) = some values ∧
      json = .array values := by
  cases nesting with
  | zero =>
    rw [Tree.value?] at value
    cases value
  | succ inner =>
    rw [Tree.value?] at value
    obtain ⟨values, mapped, rfl⟩ := Option.map_eq_some_iff.1 value
    exact ⟨inner, values, rfl, mapped, rfl⟩

theorem Tree.exists_fields {written : List (Text × Tree)} {nesting : Nat} {json : Json}
    (value : (Tree.object written).value? nesting = some json) :
    ∃ inner values, nesting = inner + 1 ∧
      written.mapM (fun field => (field.2.value? inner).map (field.1, ·)) = some values ∧
      json = .object (collect values) := by
  cases nesting with
  | zero =>
    rw [Tree.value?] at value
    cases value
  | succ inner =>
    rw [Tree.value?] at value
    obtain ⟨values, mapped, rfl⟩ := Option.map_eq_some_iff.1 value
    exact ⟨inner, values, rfl, mapped, rfl⟩

/-- The value of what is written is what it means. -/
theorem Tree.means_of_value? {tree : Tree} {nesting : Nat} {json : Json}
    (value : tree.value? nesting = some json) : tree.Means json := by
  induction tree using Tree.induct generalizing nesting json with
  | null =>
    rw [Tree.value?] at value
    cases value
    exact .null
  | bool given =>
    rw [Tree.value?] at value
    cases value
    exact .bool given
  | number parts =>
    rw [Tree.value?] at value
    obtain ⟨number, named, rfl⟩ := Option.map_eq_some_iff.1 value
    exact .number named
  | string text =>
    rw [Tree.value?] at value
    cases value
    exact .string text
  | array items inductionHypothesis =>
    obtain ⟨inner, values, -, mapped, rfl⟩ := exists_items value
    exact .array (forall₂_of_mapM_eq_some mapped fun item member _ =>
      inductionHypothesis item member)
  | object written inductionHypothesis =>
    obtain ⟨inner, values, -, mapped, rfl⟩ := exists_fields value
    have agree : List.Forall₂ (fun field value => field.1 = value.1 ∧ field.2.Means value.2)
        written values := by
      refine forall₂_of_mapM_eq_some mapped fun field member value found => ?_
      obtain ⟨one, isValue, rfl⟩ := Option.map_eq_some_iff.1 found
      exact ⟨rfl, inductionHypothesis field member isValue⟩
    have sameKeys : List.Forall₂ (· = ·) (written.map (·.1)) (values.map (·.1)) :=
      List.forall₂_map_left_iff.2 (List.forall₂_map_right_iff.2 (agree.imp fun _ _ same => same.1))
    rw [List.forall₂_eq_eq_eq] at sameKeys
    refine .object ?_ fun field member tree last => ?_
    · rw [keys_collect, sameKeys]
    · obtain ⟨key, -, found⟩ := List.mem_filterMap.1 member
      obtain ⟨json, here, rfl⟩ := Option.map_eq_some_iff.1 found
      exact rel_of_lookup (List.rel_reverse agree) last here

/-! ## Plain integers -/

private theorem le_ofDigitChars (digits : Text) (start : Nat) :
    start ≤ Nat.ofDigitChars 10 digits start := by
  induction digits generalizing start with
  | nil => exact Nat.le_refl start
  | cons c others inductionHypothesis =>
    rw [Nat.ofDigitChars_cons]
    exact Nat.le_trans (by omega) (inductionHypothesis _)

/-- The integer that the digits before the point name. -/
def NumberParts.integer (parts : NumberParts) : Int :=
  if parts.negative then -(Nat.ofDigitChars 10 parts.whole 0) else Nat.ofDigitChars 10 parts.whole 0

/-- The number is written as an integer of 64 bits with or without sign, and not as `-0`. -/
structure NumberParts.IsPlain (parts : NumberParts) : Prop where
  noFraction : parts.fraction = none
  noExponent : parts.exponent = none
  notMinusZero : parts.negative = true -> parts.integer ≠ 0
  inRange : Word.minSigned64 ≤ parts.integer ∧ parts.integer ≤ Word.maxUnsigned64

/-- Digits whose number fits into 64 bits are all taken up. -/
theorem absorb_of_le {digits : Text} {significand : Nat}
    (fits : Nat.ofDigitChars 10 digits significand ≤ Word.maxUnsigned64) :
    absorb significand digits = (Nat.ofDigitChars 10 digits significand, digits.length, 0) := by
  induction digits generalizing significand with
  | nil => rfl
  | cons c others inductionHypothesis =>
    rw [Nat.ofDigitChars_cons, Nat.mul_comm] at fits ⊢
    have next : significand * 10 + (c.toNat - '0'.toNat) ≤ Word.maxUnsigned64 :=
      Nat.le_trans (le_ofDigitChars _ _) fits
    rw [absorb]
    dsimp only
    rw [if_pos next, inductionHypothesis fits]
    rfl

/-- A plain number is the integer that its digits name. -/
theorem NumberParts.IsPlain.value?_eq {parts : NumberParts} (plain : parts.IsPlain) :
    parts.value? = some (.integer parts.integer) := by
  obtain ⟨noFraction, noExponent, notMinusZero, inRange⟩ := plain
  have least : Word.minSigned64.natAbs = 9223372036854775808 := rfl
  have greatest : Word.maxUnsigned64 = 18446744073709551615 := rfl
  have lowest : Word.minSigned64 = -9223372036854775808 := rfl
  unfold NumberParts.integer at notMinusZero inRange ⊢
  rw [NumberParts.value?, absorb_of_le, noFraction, noExponent]
  · dsimp only
    rw [if_pos rfl]
    cases negative : parts.negative with
    | false => rfl
    | true =>
      rw [negative, if_pos rfl] at notMinusZero inRange
      have notZero := notMinusZero rfl
      rw [if_neg (by decide), if_pos (by omega), if_pos rfl]
  · split at inRange <;> omega

inductive Tree.IsPlain : Tree -> Prop where
  | null : IsPlain .null
  | bool (value : Bool) : IsPlain (.bool value)
  | number {parts : NumberParts} (plain : parts.IsPlain) : IsPlain (.number parts)
  | string (text : Text) : IsPlain (.string text)
  | array {items : List Tree} (plain : ∀ item ∈ items, IsPlain item) : IsPlain (.array items)
  | object {fields : List (Text × Tree)} (plain : ∀ field ∈ fields, IsPlain field.2) :
      IsPlain (.object fields)

/-- A value that is printed and read without loss: its numbers are integers of 64 bits, the keys of
its objects are distinct, and it is nested no deeper than allowed. -/
inductive IsPlain : (nesting : Nat) -> Json -> Prop where
  | null (nesting : Nat) : IsPlain nesting .null
  | bool (nesting : Nat) (value : Bool) : IsPlain nesting (.bool value)
  | integer (nesting : Nat) {value : Int}
      (inRange : Word.minSigned64 ≤ value ∧ value ≤ Word.maxUnsigned64) :
      IsPlain nesting (.number (.integer value))
  | string (nesting : Nat) (text : Text) : IsPlain nesting (.string text)
  | array {nesting : Nat} {items : List Json} (plain : ∀ item ∈ items, IsPlain nesting item) :
      IsPlain (nesting + 1) (.array items)
  | object {nesting : Nat} {fields : Fields} (distinct : (fields.map (·.1)).Nodup)
      (plain : ∀ field ∈ fields, IsPlain nesting field.2) : IsPlain (nesting + 1) (.object fields)

/-- Whatever is collected was written. -/
theorem mem_of_mem_collect {written : Fields} {field : Text × Json}
    (member : field ∈ collect written) : field ∈ written := by
  obtain ⟨key, -, found⟩ := List.mem_filterMap.1 member
  obtain ⟨value, here, rfl⟩ := Option.map_eq_some_iff.1 found
  exact List.mem_reverse.1 (mem_of_lookup here)

/-- What is written with plain numbers only has a plain value. -/
theorem Tree.IsPlain.of_value? {tree : Tree} (plain : tree.IsPlain) {nesting : Nat} {json : Json}
    (value : tree.value? nesting = some json) : Json.IsPlain nesting json := by
  induction plain generalizing nesting json with
  | null =>
    rw [Tree.value?] at value
    cases value
    exact .null nesting
  | bool given =>
    rw [Tree.value?] at value
    cases value
    exact .bool nesting given
  | number plain =>
    rw [Tree.value?, plain.value?_eq] at value
    cases value
    exact .integer nesting plain.inRange
  | string text =>
    rw [Tree.value?] at value
    cases value
    exact .string nesting text
  | array _ inductionHypothesis =>
    obtain ⟨inner, items, rfl, mapped, rfl⟩ := exists_items value
    refine .array fun item member => ?_
    obtain ⟨tree, inside, itemValue⟩ := exists_source_of_mapM_eq_some mapped member
    exact inductionHypothesis tree inside itemValue
  | object _ inductionHypothesis =>
    obtain ⟨inner, values, rfl, mapped, rfl⟩ := exists_fields value
    refine .object ?_ fun field member => ?_
    · rw [keys_collect]
      exact nodup_eraseDups _
    · obtain ⟨written, inside, fieldValue⟩ :=
        exists_source_of_mapM_eq_some mapped (mem_of_mem_collect member)
      obtain ⟨one, value, rfl⟩ := Option.map_eq_some_iff.1 fieldValue
      exact inductionHypothesis written inside value

end LoginGate.Json
