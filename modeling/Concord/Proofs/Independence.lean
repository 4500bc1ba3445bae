import Concord.Proofs.Edits

/-!
# Independent operations

An operation depends on little: on the object at its own path and, if it creates one, on what stands
above, of which it matters only whether it is a group. Two operations about different objects see
nothing of each other unless one creates the parent of what the other creates. Otherwise they come
to the same in either order, refused or not.
-/

namespace Concord

namespace Operation

/-- The path at which an operation creates an object. -/
def created? : Operation → Option String
  | .createGroup path => some path
  | .createDataset path _ => some path
  | .commitDatatype path => some path
  | _ => none

/-- Whether an operation creates the parent of what another creates. -/
def Founds (first second : Operation) : Prop :=
  ∃ parent child, first.created? = some parent ∧ second.created? = some child ∧
    Path.parent? child = some parent

/-- Whether two operations are about different objects, and neither creates the parent of what the
other creates. Closing is about no object, though its path is the root. -/
structure Independent (first second : Operation) : Prop where
  apart : first.path ≠ second.path ∨ first = .close ∨ second = .close
  unfounded : ¬ first.Founds second
  founds_not : ¬ second.Founds first

/-- An operation creates at its own path. -/
theorem created?_of_creation {operation : Operation} {kind : ObjectKind}
    (does : operation.effect = .creation kind) : operation.created? = some operation.path := by
  cases operation <;> cases does <;> rfl

end Operation

namespace Namespace

/-! ## What an operation sees -/

/-- Whether the same can be created below a path in two namespaces: there is a group in both or in
neither, and nothing in both or in neither. -/
structure StandsAlike (path : String) (left right : Namespace) : Prop where
  group : left.HasGroup path ↔ right.HasGroup path
  absent : left.get? path = none ↔ right.get? path = none

/-- Whether two namespaces look alike to an operation: they hold the same at its path and, if it
creates an object, the same can be created there. -/
structure LooksAlike (operation : Operation) (left right : Namespace) : Prop where
  here : left.get? operation.path = right.get? operation.path
  above : ∀ {path parent}, operation.created? = some path → Path.parent? path = some parent →
    StandsAlike parent left right

/-- Write what an operation makes of the object at its path, if it makes anything of it. -/
def write (space : Namespace) (path : String) : Option Object → Namespace
  | none => space
  | some object => space.put path object

/-- Writing at two different paths gives the same in either order. -/
theorem write_comm (space : Namespace) {first second : String} (apart : first ≠ second)
    (one other : Option Object) :
    (space.write first one).write second other = (space.write second other).write first one := by
  cases one with
  | none => rfl
  | some one =>
    cases other with
    | none => rfl
    | some other =>
      refine eq_of_get? fun path => ?_
      simp only [write, get?_put]
      grind

/-- Under a group an object is created unless there is one. -/
theorem create_of_hasGroup {space : Namespace} {path parent : String}
    (below : Path.parent? path = some parent) (has : space.HasGroup parent) (kind : ObjectKind) :
    space.create path kind =
      if (space.get? path).isSome then invalid "path" (path ++ " already exists")
      else .ok (space.put path (.create kind)) := by
  obtain ⟨group, found, isGroup⟩ := has
  have held : (space.get? parent).map Object.kind = some .group := by
    rw [found, Option.map_some, isGroup]
  simp only [create, below, held]

/-- Without a parent nothing is created, and the parent is named. -/
theorem create_of_absent {space : Namespace} {path parent : String}
    (below : Path.parent? path = some parent) (absent : space.get? parent = none)
    (kind : ObjectKind) : space.create path kind = .error (.notFound "group" parent) := by
  simp only [create, below, absent, Option.map_none]

/-- Under an object that is no group nothing is created. -/
theorem create_of_other {space : Namespace} {path parent : String}
    (below : Path.parent? path = some parent) (present : space.get? parent ≠ none)
    (noGroup : ¬ space.HasGroup parent) (kind : ObjectKind) :
    space.create path kind = invalid "path" ("parent " ++ parent ++ " is not a group") := by
  obtain ⟨object, found⟩ := Option.ne_none_iff_exists'.1 present
  simp only [create, below, found, Option.map_some]
  split
  · next none => cases none
  · next isGroup => exact absurd ⟨object, found, Option.some.inj isGroup⟩ noGroup
  · rfl

/-- Creating does the same in two namespaces that agree at the path and about its parent. -/
theorem create_congr {left right : Namespace} {path : String}
    (here : left.get? path = right.get? path)
    (above : ∀ {parent}, Path.parent? path = some parent → StandsAlike parent left right)
    (kind : ObjectKind) :
    ∃ outcome : Except DomainError (Option Object),
      left.create path kind = outcome.map (left.write path) ∧
        right.create path kind = outcome.map (right.write path) := by
  cases below : Path.parent? path with
  | none => exact ⟨invalid "path" _, by rw [create, below]; rfl, by rw [create, below]; rfl⟩
  | some parent =>
    obtain ⟨group, absent⟩ := above below
    by_cases has : left.HasGroup parent
    · rw [create_of_hasGroup below has, create_of_hasGroup below (group.1 has), here]
      split
      · exact ⟨invalid "path" _, rfl, rfl⟩
      · exact ⟨.ok (some (.create kind)), rfl, rfl⟩
    · by_cases none : left.get? parent = none
      · rw [create_of_absent below none, create_of_absent below (absent.1 none)]
        exact ⟨.error _, rfl, rfl⟩
      · have presentToo := mt absent.2 none
        rw [create_of_other below none has, create_of_other below presentToo (mt group.2 has)]
        exact ⟨invalid "path" _, rfl, rfl⟩

/-- Changing an object does the same in two namespaces that agree at its path. -/
theorem modify_congr {left right : Namespace} {path : String}
    (here : left.get? path = right.get? path) (change : Object → Except DomainError Object) :
    ∃ outcome : Except DomainError (Option Object),
      left.modify path change = outcome.map (left.write path) ∧
        right.modify path change = outcome.map (right.write path) := by
  unfold modify
  rw [here]
  cases right.get? path with
  | none => exact ⟨.error _, rfl, rfl⟩
  | some object =>
    dsimp only
    cases change object with
    | error cause => exact ⟨.error cause, rfl, rfl⟩
    | ok new => exact ⟨.ok (some new), rfl, rfl⟩

/-- What an operation makes of namespaces that look alike to it is the same, and so is the reason
if it is refused. -/
theorem LooksAlike.apply {operation : Operation} {left right : Namespace}
    (alike : LooksAlike operation left right) :
    ∃ outcome : Except DomainError (Option Object),
      left.apply operation = outcome.map (left.write operation.path) ∧
        right.apply operation = outcome.map (right.write operation.path) := by
  rw [apply_eq_perform, apply_eq_perform]
  cases does : operation.effect with
  | nothing => exact ⟨.ok none, rfl, rfl⟩
  | creation kind =>
    exact create_congr alike.here (alike.above (Operation.created?_of_creation does)) kind
  | revision change => exact modify_congr alike.here change

/-- An operation has the same verdict and writes the same in two namespaces that look alike to it.
-/
theorem LooksAlike.after {operation : Operation} {left right : Namespace}
    (alike : LooksAlike operation left right) :
    left.verdict operation = right.verdict operation ∧
      ∃ new, left.after operation = left.write operation.path new ∧
        right.after operation = right.write operation.path new := by
  obtain ⟨outcome, onLeft, onRight⟩ := alike.apply
  unfold verdict Namespace.after
  rw [onLeft, onRight]
  cases outcome with
  | error cause => exact ⟨rfl, none, rfl, rfl⟩
  | ok new => exact ⟨rfl, new, rfl, rfl⟩

/-! ## What an operation leaves as it looked -/

/-- What can be created below a path is left as it was by every operation that does not create an
object there. -/
theorem standsAlike_after (space : Namespace) {operation : Operation} {path : String}
    (uncreated : operation.created? ≠ some path) :
    StandsAlike path space (space.after operation) := by
  by_cases elsewhere : path ≠ operation.path
  · have same := (space.get?_after_of_ne elsewhere).symm
    exact ⟨by rw [HasGroup, same, HasGroup], by rw [same]⟩
  rw [not_not.1 elsewhere] at uncreated ⊢
  unfold Namespace.after
  split
  · next changed applied =>
    rcases apply_eq_ok applied with ⟨-, rfl⟩ | ⟨kind, _, _, does, -⟩ |
      ⟨change, object, new, does, found, becomes, rfl⟩
    · exact ⟨Iff.rfl, Iff.rfl⟩
    · exact absurd (Operation.created?_of_creation does) uncreated
    · have alike := (growsTo_of_revision does becomes).isGroup_iff
      constructor <;> simp [HasGroup, get?_put, found, alike]
  · exact ⟨Iff.rfl, Iff.rfl⟩

/-- An operation does not see what another does that is independent of it. -/
theorem looksAlike_after (space : Namespace) {first second : Operation}
    (apart : first.path ≠ second.path) (unfounded : ¬ second.Founds first) :
    LooksAlike first space (space.after second) where
  here := (space.get?_after_of_ne apart).symm
  above := by
    intro path parent creates below
    refine space.standsAlike_after fun founds => unfounded ?_
    exact ⟨parent, path, founds, creates, below⟩

/-- Independent operations come to the same in either order: the namespace is the same in the end,
and each is carried out or refused for the same reason, before the other or after it. -/
theorem independent_commute (space : Namespace) {first second : Operation}
    (independent : first.Independent second) :
    (space.after first).after second = (space.after second).after first ∧
      (space.after second).verdict first = space.verdict first ∧
      (space.after first).verdict second = space.verdict second := by
  rcases independent.apart with apart | rfl | rfl
  · obtain ⟨firstVerdict, one, firstHere, firstThere⟩ :=
      (space.looksAlike_after apart independent.founds_not).after
    obtain ⟨secondVerdict, other, secondHere, secondThere⟩ :=
      (space.looksAlike_after apart.symm independent.unfounded).after
    refine ⟨?_, firstVerdict.symm, secondVerdict.symm⟩
    calc (space.after first).after second
        = (space.write first.path one).write second.path other := by rw [secondThere, firstHere]
      _ = (space.write second.path other).write first.path one :=
          space.write_comm apart one other
      _ = (space.after second).after first := by rw [firstThere, secondHere]
  · exact ⟨rfl, rfl, rfl⟩
  · exact ⟨rfl, rfl, rfl⟩

/-- A dataset can be created below a group while an attribute is given to the group. -/
theorem independent_commute_below :
    let space := empty.after (.createGroup "/g")
    let first := Operation.createDataset "/g/d" [1]
    let second := Operation.createAttribute "/g" "unit"
    first.Independent second ∧
      (space.after first).after second = (space.after second).after first ∧
      (space.after second).verdict first = .ok () ∧
      (space.after first).verdict second = .ok () := by
  intro space first second
  have independent : first.Independent second :=
    { apart := .inl (by decide)
      unfounded := fun ⟨_, _, _, creates, _⟩ => nomatch creates
      founds_not := fun ⟨_, _, creates, _⟩ => nomatch creates }
  obtain ⟨same, firstVerdict, secondVerdict⟩ := independent_commute space independent
  refine ⟨independent, same, firstVerdict.trans ?_, secondVerdict.trans ?_⟩ <;> decide +kernel

/-- A group and what is created below it do not commute. -/
example : (empty.after (.createGroup "/g")).verdict (.createGroup "/g/h") ≠
    empty.verdict (.createGroup "/g/h") := by
  decide +kernel

end Namespace

end Concord
