import LoginGate.Environment.Tree

/-!
Contract: what stands at a path of names after some variables were set.

Owns:
- the setting at a path, and which paths part from it;
- the law that setting a value is seen at its own path and at no path that parts from it;
- the law that the last variable that touches a path decides what stands there.

Does not own: paths with positions, which no documented setting has, and what is read of a setting
(`Environment.Reader`).
-/

namespace LoginGate.Environment

/-! ## Entries -/

theorem lookup_cons (name other : Text) (setting : Setting) (rest : List (Text × Setting)) :
    lookup name ((other, setting) :: rest) =
      if other = name then some setting else lookup name rest := by
  unfold lookup
  by_cases same : other = name <;> simp [same]

/-- What is found under a name after a replacement. -/
theorem lookup_replace (name other : Text) (setting : Setting) (entries : List (Text × Setting)) :
    lookup other (replace name setting entries) =
      if name = other then some setting else lookup other entries := by
  induction entries with
  | nil =>
    rw [replace, lookup_cons]
  | cons entry rest inductionHypothesis =>
    obtain ⟨first, old⟩ := entry
    rw [replace]
    by_cases found : first = name
    · subst found
      rw [if_pos rfl, lookup_cons, lookup_cons]
      split <;> rfl
    · rw [if_neg found, lookup_cons, lookup_cons, inductionHypothesis]
      by_cases asked : first = other
      · rw [if_pos asked, if_pos asked, if_neg (fun same => found (asked.trans same.symm))]
      · rw [if_neg asked, if_neg asked]

/-! ## Paths of names -/

def Setting.under? : List Text -> Setting -> Option Setting
  | [], setting => some setting
  | name :: names, setting => (lookup name setting.entries).bind (under? names)

def entrySteps (names : List Text) : List Step := names.map .entry

/-- A path of names and another path part at an entry: their steps agree up to different names. -/
def Apart : List Text -> List Step -> Prop
  | name :: names, .entry other :: steps => name = other -> Apart names steps
  | _, _ => False

/-- A variable that can change what stands at a path of names. Its own path leads there, or stops
on the way, or goes on from there, or takes a position where the other takes a name. -/
def Touches (key : Text) (names : List Text) : Prop :=
  ∃ steps, path? key = some steps ∧ ¬ Apart names steps

namespace Setting

private theorem under?_set_self (value : Scalar) (names : List Text) (tree : Setting) :
    (tree.set value (entrySteps names)).under? names = some (.scalar value) := by
  induction names generalizing tree with
  | nil => rfl
  | cons name names inductionHypothesis =>
    show (lookup name (replace name _ tree.entries)).bind (under? names) = _
    rw [lookup_replace, if_pos rfl]
    exact inductionHypothesis _

/-- Nothing stands below an unset setting. -/
theorem under?_unset_of_apart {names : List Text} {steps : List Step} (apart : Apart names steps) :
    Setting.unset.under? names = none := by
  cases names with
  | nil => exact apart.elim
  | cons name names => rfl

private theorem under?_set_of_apart (value : Scalar) {names : List Text} {steps : List Step}
    (apart : Apart names steps) (tree : Setting) :
    (tree.set value steps).under? names = tree.under? names := by
  induction names generalizing steps tree with
  | nil => exact apart.elim
  | cons name names inductionHypothesis =>
    match steps, apart with
    | .entry other :: steps, apart =>
      show (lookup name (replace other _ tree.entries)).bind (under? names) =
        (lookup name tree.entries).bind (under? names)
      rw [lookup_replace]
      by_cases same : other = name
      · subst same
        rw [if_pos rfl, Option.bind_some, inductionHypothesis (apart rfl)]
        cases lookup other tree.entries with
        | none => exact under?_unset_of_apart (apart rfl)
        | some below => rfl
      · rw [if_neg same]

end Setting

/-! ## Environments -/

def Setting.withVariable (tree : Setting) (entry : Text × Text) : Setting :=
  match path? entry.1 with
  | some steps => tree.set (.ofText entry.2) steps
  | none => tree

private theorem ofVariables_eq_foldl (entries : List (Text × Text)) :
    ofVariables entries = entries.foldl Setting.withVariable (.table []) := rfl

theorem Setting.under?_withVariable_of_not_touches {key value : Text} {names : List Text}
    (away : ¬ Touches key names) (tree : Setting) :
    (tree.withVariable (key, value)).under? names = tree.under? names := by
  unfold withVariable
  cases spelled : path? key with
  | none => rfl
  | some steps =>
    have apart : Apart names steps := Classical.byContradiction fun near =>
      away ⟨steps, spelled, near⟩
    exact under?_set_of_apart _ apart tree

theorem Setting.under?_foldl_of_not_touches {names : List Text} {entries : List (Text × Text)}
    (away : ∀ entry ∈ entries, ¬ Touches entry.1 names) (tree : Setting) :
    (entries.foldl withVariable tree).under? names = tree.under? names := by
  induction entries generalizing tree with
  | nil => rfl
  | cons entry rest inductionHypothesis =>
    rw [List.forall_mem_cons] at away
    rw [List.foldl_cons, inductionHypothesis away.2]
    exact under?_withVariable_of_not_touches away.1 tree

/-- The last variable that touches a path, if its own path is just this one, gives what stands
there. -/
theorem under?_ofVariables {before after : List (Text × Text)} {key value : Text}
    {names : List Text} (spelled : path? key = some (entrySteps names))
    (last : ∀ entry ∈ after, ¬ Touches entry.1 names) :
    (ofVariables (before ++ (key, value) :: after)).under? names =
      some (.scalar (.ofText value)) := by
  rw [ofVariables_eq_foldl, List.foldl_append, List.foldl_cons,
    Setting.under?_foldl_of_not_touches last]
  unfold Setting.withVariable
  rw [spelled]
  exact Setting.under?_set_self _ names _

end LoginGate.Environment
