import LoginGate.Proofs.Url.Printable
import LoginGate.Url.Origin

/-!
Contract: what of a URL does not belong to its origin, and so is kept when this is replaced.

Owns:
- user name and password, which stand between scheme and host and belong to neither;
- two URLs that differ in nothing but their origin;
- the law that replacing an origin, whatever the other URL is, gives such a URL.

Does not own: which origin a URL gets (`Proofs.Config.Origin`).
-/

namespace LoginGate.Url

def credentials (url : Url) : Text × Text :=
  (url.authority.map fun authority => (authority.username, authority.password)).getD ([], [])

/-- Two URLs that differ in nothing but their origin. -/
structure SameButOrigin (left right : Url) : Prop where
  credentials : left.credentials = right.credentials
  path : left.path = right.path
  query : left.query = right.query
  fragment : left.fragment = right.fragment

theorem SameButOrigin.refl (url : Url) : url.SameButOrigin url where
  credentials := rfl
  path := rfl
  query := rfl
  fragment := rfl

theorem SameButOrigin.trans {first second third : Url} (left : first.SameButOrigin second)
    (right : second.SameButOrigin third) : first.SameButOrigin third where
  credentials := left.credentials.trans right.credentials
  path := left.path.trans right.path
  query := left.query.trans right.query
  fragment := left.fragment.trans right.fragment

/-! ## One part of the origin -/

private theorem sameButOrigin_withScheme (url : Url) (scheme : Text) :
    (url.withScheme scheme).SameButOrigin url := by
  unfold withScheme
  split
  · refine { credentials := ?_, path := rfl, query := rfl, fragment := rfl }
    unfold credentials
    dsimp only
    split
    · rw [Option.map_map]
      rfl
    · rfl
  · exact .refl url

private theorem sameButOrigin_withHost {url replaced : Url} {host : Text}
    (replaces : url.withHost host = .ok replaced) : replaced.SameButOrigin url := by
  unfold withHost at replaces
  cases shape : url.path with
  | verbatim text =>
    rw [shape] at replaces
    cases replaces
  | segments list =>
    simp only [shape, Bool.false_eq_true, if_false] at replaces
    split at replaces
    all_goals
      obtain ⟨parsed, -, finished⟩ := of_bind_eq_ok replaces
      cases finished
      refine { credentials := ?_, path := shape.symm, query := rfl, fragment := rfl }
      unfold credentials
      cases url.authority <;> rfl

private theorem sameButOrigin_withPort (url : Url) (port : Option Nat) :
    (url.withPort port).SameButOrigin url := by
  unfold withPort
  split
  · exact .refl url
  · refine { credentials := ?_, path := rfl, query := rfl, fragment := rfl }
    unfold credentials
    rw [Option.map_map]
    rfl

/-! ## The whole origin -/

/-- **Replacing the origin of a URL changes nothing else**, whichever of the three parts the URL
takes. -/
theorem sameButOrigin_withOriginOf (url origin : Url) :
    (url.withOriginOf origin).SameButOrigin url := by
  have schemed := sameButOrigin_withScheme url origin.scheme
  unfold withOriginOf
  dsimp only
  split
  · exact schemed
  · split
    · rename_i replaced hosted
      have ported := sameButOrigin_withPort replaced (origin.authority.bind (·.port))
      exact ported.trans ((sameButOrigin_withHost hosted).trans schemed)
    · exact schemed

end LoginGate.Url
