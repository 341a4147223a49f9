import LoginGate.Mailbox

/-!
Contract: who is an administrator.

Owns:
- sorted sets of texts and their members;
- the set of the administrators' normalized addresses, of which none is empty;
- membership, for which the empty set stands for everyone, also for a session without an address.

Does not own: where an address comes from (`Identity`).
-/

namespace LoginGate

namespace Text

/-- The order of texts by code points, the shorter of two first where one continues the other. -/
def before : Text -> Text -> Bool
  | [], [] => false
  | [], _ :: _ => true
  | _ :: _, [] => false
  | a :: as, b :: bs => a.toNat < b.toNat || (a == b && before as bs)

/-- Inserts a text into a sorted list that does not hold it yet. -/
def insertSorted (text : Text) : List Text -> List Text
  | [] => [text]
  | other :: rest =>
    if before text other then text :: other :: rest
    else if text = other then other :: rest
    else other :: insertSorted text rest

/-- The distinct members of a list in order. -/
def sortedSet (texts : List Text) : List Text :=
  texts.foldr insertSorted []

theorem mem_insertSorted {text other : Text} {texts : List Text} :
    other ∈ insertSorted text texts ↔ other = text ∨ other ∈ texts := by
  induction texts with
  | nil => simp [insertSorted]
  | cons first rest inductionHypothesis =>
    unfold insertSorted
    split
    · exact List.mem_cons
    · split
      · rename_i same
        subst same
        simp
      · rw [List.mem_cons, inductionHypothesis, List.mem_cons]
        exact or_left_comm

theorem mem_sortedSet {text : Text} {texts : List Text} :
    text ∈ sortedSet texts ↔ text ∈ texts := by
  induction texts with
  | nil => rfl
  | cons first rest inductionHypothesis =>
    show text ∈ insertSorted first (sortedSet rest) ↔ _
    rw [mem_insertSorted, inductionHypothesis, List.mem_cons]

end Text

/-- The administrators, as normal forms of addresses: sorted by code points, without repetition.
The empty address is nobody's, so that a session without an address never matches. -/
@[ext]
structure Admins where
  emails : List Text
  filled : [] ∉ emails
deriving DecidableEq, Repr

namespace Admins

instance : EmptyCollection Admins := ⟨⟨[], List.not_mem_nil⟩⟩

/-- The administrators named by a list; entries with an empty normal form name nobody. -/
def ofList (entries : List Text) : Admins where
  emails := Text.sortedSet ((entries.map Mailbox.normalize).filter (! ·.isEmpty))
  filled := by simp [Text.mem_sortedSet]

/-- Whether a normalized address is an administrator's. Without administrators everyone is one. -/
def isAdmin (admins : Admins) (email : Text) : Bool :=
  admins.emails.isEmpty || admins.emails.contains email

/-- A session is an administrator's if there are none, or by the address that it has. -/
theorem isAdmin_getD_iff {admins : Admins} (address : Option Text) :
    admins.isAdmin (address.getD []) = true ↔
      admins.emails = [] ∨ ∃ email, address = some email ∧ email ∈ admins.emails := by
  unfold isAdmin
  rw [Bool.or_eq_true, List.isEmpty_iff, List.contains_iff_mem]
  refine or_congr_right ?_
  cases address with
  | none => simp [admins.filled]
  | some email => simp

end Admins
end LoginGate
