import LoginGate.Config
import LoginGate.Proofs.Distinct
import LoginGate.Proofs.Text.Split
import LoginGate.Proofs.Url.Printable

/-!
Contract: the scopes of a configuration whose builder had scopes added to it.

Owns:
- the entries of joined lists, which are those of each list;
- the law that says which scopes are asked for, in which order, and when one is asked for twice.

Does not own: how a provider is told about scopes (`Proofs.Provider.Messages`).

A builder compares texts, but a configuration asks for the entries of these texts. So a text that
was not added before may still hold an entry that is there, and then the configuration has it twice.
The order does not suffer: an entry comes first where it was added first.
-/

namespace LoginGate

/-! ## Joined lists -/

theorem Text.entries_append (left right : Text) :
    entries (left ++ ',' :: right) = entries left ++ entries right := by
  unfold entries
  rw [split_append_separator, List.map_append, List.filter_append]

/-- Joining lists with commas joins their entries. -/
theorem Text.entries_join (lists : List Text) :
    entries (join [','] lists) = lists.flatMap entries := by
  fun_induction join [','] lists with
  | case1 => rfl
  | case2 only => rw [List.flatMap_singleton]
  | case3 first rest _ inductionHypothesis =>
    rw [List.append_assoc, List.singleton_append, entries_append, inductionHypothesis,
      List.flatMap_cons]

namespace Config

/-! ## Builders -/

def initialScopes : List Text := ["openid".toList, "email".toList, "profile".toList]

/-- A text is added behind the others, unless it was added before. -/
theorem Builder.scopes_addScope {builder : Builder} {requested : List Text}
    (holds : builder.scopes = requested.eraseDups) (scope : Text) :
    (builder.addScope scope).scopes = (requested ++ [scope]).eraseDups := by
  unfold addScope
  split
  · rename_i listed
    rw [holds, List.contains_iff_mem, List.mem_eraseDups] at listed
    rw [holds, eraseDups_append_of_subset (by simpa using listed)]
  · rename_i missing
    rw [holds, List.contains_iff_mem, List.mem_eraseDups] at missing
    rw [eraseDups_append_of_not_mem missing, ← holds]

/-- A builder holds the distinct texts that were added to it. -/
theorem Builder.scopes_foldl_addScope {builder : Builder} {requested : List Text}
    (holds : builder.scopes = requested.eraseDups) (added : List Text) :
    (added.foldl addScope builder).scopes = (requested ++ added).eraseDups := by
  induction added generalizing builder requested with
  | nil =>
    rw [List.append_nil]
    exact holds
  | cons scope rest inductionHypothesis =>
    rw [List.foldl_cons, inductionHypothesis (scopes_addScope holds scope), List.append_assoc,
      List.singleton_append]

theorem Builder.scopes_of_build {builder : Builder} {config : Config}
    (built : builder.build = .ok config) :
    config.scopes = builder.scopes.flatMap Text.entries := by
  obtain ⟨_, -, finished⟩ := of_bind_eq_ok built
  cases finished
  exact Text.entries_join builder.scopes

/-- Texts that are added to the initial scopes. -/
theorem Builder.scopes_of_build_foldl {start : Builder} {added : List Text} {config : Config}
    (fresh : start.scopes = initialScopes)
    (built : (added.foldl addScope start).build = .ok config) :
    config.scopes = (initialScopes ++ added).eraseDups.flatMap Text.entries := by
  have holds : start.scopes = initialScopes.eraseDups := fresh.trans (by decide)
  rw [scopes_of_build built, scopes_foldl_addScope holds]

/-- Scopes are distinct unless a text repeats one or two texts share one. -/
theorem nodup_flatMap_entries_iff {texts : List Text} :
    (texts.eraseDups.flatMap Text.entries).Nodup ↔
      (∀ text ∈ texts, (Text.entries text).Nodup) ∧
        ∀ text ∈ texts, ∀ other ∈ texts, text ≠ other ->
          (Text.entries text).Disjoint (Text.entries other) := by
  rw [List.nodup_flatMap]
  refine and_congr (by simp only [List.mem_eraseDups]) ?_
  constructor
  · intro apart text listed other otherListed different
    have symmetric : Std.Symm (Function.onFun List.Disjoint Text.entries) :=
      ⟨fun _ _ disjoint => List.Disjoint.symm disjoint⟩
    exact apart.forall (List.mem_eraseDups.2 listed) (List.mem_eraseDups.2 otherListed) different
  · intro apart
    apply (nodup_eraseDups texts).pairwise_of_forall_ne
    intro text listed other otherListed different
    exact apart text (List.mem_eraseDups.1 listed) other (List.mem_eraseDups.1 otherListed)
      different

/-- **Which scopes a configuration asks for, after texts were added to the initial ones.** It asks
for every entry of every text and for nothing else, in the order in which they were added first. It
asks for none of them twice exactly if no text repeats an entry and no two different texts share
one. -/
theorem scopes_of_added {start : Builder} {added : List Text} {config : Config}
    (fresh : start.scopes = initialScopes)
    (built : (added.foldl Builder.addScope start).build = .ok config) :
    (∀ scope, scope ∈ config.scopes ↔
      ∃ text ∈ initialScopes ++ added, scope ∈ Text.entries text) ∧
    config.scopes.eraseDups = ((initialScopes ++ added).flatMap Text.entries).eraseDups ∧
    (config.scopes.Nodup ↔
      (∀ text ∈ initialScopes ++ added, (Text.entries text).Nodup) ∧
        ∀ text ∈ initialScopes ++ added, ∀ other ∈ initialScopes ++ added, text ≠ other ->
          (Text.entries text).Disjoint (Text.entries other)) := by
  rw [Builder.scopes_of_build_foldl fresh built]
  refine ⟨?_, eraseDups_flatMap_eraseDups _ _, nodup_flatMap_entries_iff⟩
  intro scope
  rw [List.mem_flatMap]
  simp only [List.mem_eraseDups]

/-! ## Two spellings of one scope -/

namespace Sample

def builder : Builder where
  redirectUrl := "https://[::1]/auth/callback".toList
  authUrl := "https://[::1]/authorize".toList
  tokenUrl := "https://[::1]/token".toList
  userinfoUrl := "https://[::1]/userinfo".toList
  clientId := "client".toList
  clientSecret := "secret".toList

end Sample

/-- A list of scopes that is added twice, and a blank one. -/
theorem sample_scopes_of_added :
    ∃ added config, added = ["user.read , files".toList, " ".toList, "user.read , files".toList] ∧
      Sample.builder.scopes = initialScopes ∧
      (added.foldl Builder.addScope Sample.builder).build = .ok config ∧
      config.scopes.Nodup ∧ "files".toList ∈ config.scopes := by
  let added := ["user.read , files".toList, " ".toList, "user.read , files".toList]
  have fresh : Sample.builder.scopes = initialScopes := rfl
  obtain ⟨config, built⟩ : ∃ config,
      (added.foldl Builder.addScope Sample.builder).build = .ok config := ⟨_, rfl⟩
  obtain ⟨members, -, distinct⟩ := scopes_of_added fresh built
  have entriesDistinct : ((initialScopes ++ added).eraseDups.flatMap Text.entries).Nodup := by
    decide
  have apart := nodup_flatMap_entries_iff.1 entriesDistinct
  refine ⟨added, config, rfl, fresh, built, distinct.2 apart, (members _).2 ?_⟩
  exact ⟨"user.read , files".toList, by decide, by decide⟩

/-- A space before a scope that is there already lets the configuration ask for it twice. -/
theorem scope_asked_for_twice :
    ∃ config, (Sample.builder.addScope " openid".toList).build = .ok config ∧
      config.scopes =
        ["openid".toList, "email".toList, "profile".toList, "openid".toList] ∧
      ¬ config.scopes.Nodup :=
  ⟨_, rfl, rfl, by decide⟩

end Config
end LoginGate
