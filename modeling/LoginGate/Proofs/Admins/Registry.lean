import LoginGate.Proofs.Mailbox.Normal
import LoginGate.Proofs.Text.SortedSet
import LoginGate.Server.Basic

/-!
Contract: the administrators are those whom the last list names.

Owns:
- the addresses that a list names;
- lists that say the same in other words;
- the administrators after any lists were set, and who is one of them.

Does not own: when two spellings have one normal form (`Proofs.Mailbox.Decorated`).

An entry that is dropped wrongly would not only cost one administrator: if it was the only one,
everyone would be an administrator. So the two cases of membership are stated by the entries of the
list and not by the set that is kept.
-/

namespace LoginGate

theorem Mailbox.normalize_of_isBlank {text : Text} (blank : Text.isBlank text = true) :
    normalize text = [] := by
  have nothing := Text.trimBlank_of_isBlank blank
  have bare : withoutComments? (Text.trimBlank []) = some [] :=
    withoutComments?_of_bare ⟨by decide, by decide⟩
  have unread : parse? text = none := by
    rw [← parse?_trimBlank, nothing, parse?, bare]
    rfl
  rw [normalize_of_none unread, nothing]
  rfl

namespace Admins

/-! ## One list -/

/-- A list names an address that is the normal form of an entry, unless this is empty. -/
def Names (entries : List Text) (email : Text) : Prop :=
  email ≠ [] ∧ ∃ entry ∈ entries, Mailbox.normalize entry = email

theorem mem_named_iff {entries : List Text} {email : Text} :
    email ∈ (entries.map Mailbox.normalize).filter (! ·.isEmpty) ↔ Names entries email := by
  rw [List.mem_filter, List.mem_map, Bool.not_eq_true', List.isEmpty_eq_false_iff]
  exact and_comm

theorem mem_emails_ofList_iff {entries : List Text} {email : Text} :
    email ∈ (ofList entries).emails ↔ Names entries email := by
  unfold ofList
  rw [Text.mem_sortedSet, mem_named_iff]

theorem emails_ofList_eq_nil_iff {entries : List Text} :
    (ofList entries).emails = [] ↔ ∀ entry ∈ entries, Mailbox.normalize entry = [] := by
  rw [List.eq_nil_iff_forall_not_mem]
  constructor
  · intro nobody entry listed
    by_contra filled
    exact nobody _ (mem_emails_ofList_iff.2 ⟨filled, entry, listed, rfl⟩)
  · intro blank email named
    obtain ⟨filled, entry, listed, rfl⟩ := mem_emails_ofList_iff.1 named
    exact filled (blank entry listed)

theorem isAdmin_ofList_iff {entries : List Text} {email : Text} :
    (ofList entries).isAdmin email = true ↔
      (∀ entry ∈ entries, Mailbox.normalize entry = []) ∨ Names entries email := by
  unfold isAdmin
  rw [Bool.or_eq_true, List.isEmpty_iff, List.contains_iff_mem, emails_ofList_eq_nil_iff,
    mem_emails_ofList_iff]

/-- Two lists give the same administrators exactly if they name the same addresses. -/
theorem ofList_eq_iff {left right : List Text} :
    ofList left = ofList right ↔ ∀ email, Names left email ↔ Names right email := by
  rw [Admins.ext_iff]
  show Text.sortedSet _ = Text.sortedSet _ ↔ _
  rw [Text.sortedSet_eq_iff]
  exact forall_congr' fun email => by rw [mem_named_iff, mem_named_iff]

/-! ## The same list in other words -/

/-- Two lists of which the second comes from the first in steps that reorder it, say an entry again
or no longer, or replace one by another spelling; a blank entry may come and go as well. -/
inductive Restates : List Text -> List Text -> Prop where
  | reordered {left right : List Text} (same : left.Perm right) : Restates left right
  | repeated {entry : Text} {entries : List Text} (listed : entry ∈ entries) :
    Restates entries (entry :: entries)
  | blank {entry : Text} {entries : List Text} (blank : Text.isBlank entry = true) :
    Restates entries (entry :: entries)
  | respelled {entry other : Text} {entries : List Text}
      (same : Mailbox.normalize entry = Mailbox.normalize other) :
    Restates (entry :: entries) (other :: entries)
  | symm {left right : List Text} (restates : Restates left right) : Restates right left
  | trans {first second third : List Text} (left : Restates first second)
      (right : Restates second third) : Restates first third

theorem names_cons_iff {entry : Text} {entries : List Text} {email : Text} :
    Names (entry :: entries) email ↔
      (email ≠ [] ∧ Mailbox.normalize entry = email) ∨ Names entries email := by
  unfold Names
  rw [List.exists_mem_cons_iff, and_or_left]

/-- Each step keeps the addresses that are named. -/
theorem Restates.names_iff {left right : List Text} (restates : Restates left right)
    (email : Text) : Names left email ↔ Names right email := by
  induction restates with
  | reordered same =>
    unfold Names
    simp only [same.mem_iff]
  | @repeated entry entries listed =>
    rw [names_cons_iff]
    constructor
    · exact Or.inr
    · rintro (⟨filled, spelled⟩ | named)
      · exact ⟨filled, entry, listed, spelled⟩
      · exact named
  | @blank entry entries blank =>
    rw [names_cons_iff, Mailbox.normalize_of_isBlank blank]
    constructor
    · exact Or.inr
    · rintro (⟨filled, empty⟩ | named)
      · exact absurd empty.symm filled
      · exact named
  | respelled same => rw [names_cons_iff, names_cons_iff, same]
  | symm _ inductionHypothesis => exact inductionHypothesis.symm
  | trans _ _ first second => exact first.trans second

/-! ## One list after the other -/

/-- The administrators after lists were set, of whom there are none at first. -/
def afterLists (lists : List (List Text)) : Admins :=
  lists.foldl (fun _ entries => ofList entries) {}

/-- The list that was set last; without one nobody is named. -/
def lastList (lists : List (List Text)) : List Text := lists.getLast?.getD []

private theorem afterLists_eq_ofList (lists : List (List Text)) :
    afterLists lists = ofList (lastList lists) := by
  rcases List.eq_nil_or_concat lists with rfl | ⟨earlier, last, rfl⟩
  · rfl
  · unfold afterLists lastList
    rw [List.concat_eq_append, List.foldl_append, List.getLast?_concat]
    rfl

private theorem admins_foldl_setAdmins (lists : List (List Text)) (server : Server) :
    (lists.foldl Server.setAdmins server).admins =
      lists.foldl (fun _ entries => ofList entries) server.admins := by
  induction lists generalizing server with
  | nil => rfl
  | cons entries rest inductionHypothesis => exact inductionHypothesis (server.setAdmins entries)

/-- **The administrators are those whom the last list names.** After any lists an address is an
administrator's exactly if no entry of the last one has a filled normal form, or one has this
address as its own, which is not empty then. The administrators are strictly increasing and are
exactly these addresses, so other lists give the same ones exactly if the last of them names the
same addresses, and at any rate if it says the same in other words. A server that starts without
administrators keeps them so. -/
theorem afterLists_names_last (lists : List (List Text)) :
    (∀ email, (afterLists lists).isAdmin email = true ↔
      (∀ entry ∈ lastList lists, Mailbox.normalize entry = []) ∨ Names (lastList lists) email) ∧
    (afterLists lists).emails.SortedLT ∧
    (∀ email, email ∈ (afterLists lists).emails ↔ Names (lastList lists) email) ∧
    (∀ others, afterLists lists = afterLists others ↔
      ∀ email, Names (lastList lists) email ↔ Names (lastList others) email) ∧
    (∀ others, Restates (lastList lists) (lastList others) ->
      afterLists lists = afterLists others) ∧
    ∀ server : Server,
      (lists.foldl Server.setAdmins { server with admins := {} }).admins = afterLists lists := by
  have only (others : List (List Text)) : afterLists lists = afterLists others ↔
      ∀ email, Names (lastList lists) email ↔ Names (lastList others) email := by
    rw [afterLists_eq_ofList, afterLists_eq_ofList, ofList_eq_iff]
  refine ⟨?_, ?_, ?_, only, ?_, ?_⟩
  · intro email
    rw [afterLists_eq_ofList, isAdmin_ofList_iff]
  · rw [afterLists_eq_ofList]
    exact Text.sortedLT_sortedSet _
  · intro email
    rw [afterLists_eq_ofList, mem_emails_ofList_iff]
  · intro others restates
    exact (only others).2 restates.names_iff
  · intro server
    exact admins_foldl_setAdmins lists { server with admins := {} }

end Admins
end LoginGate
