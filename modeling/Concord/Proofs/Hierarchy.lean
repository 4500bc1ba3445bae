import Concord.Proofs.Effects

/-!
# The namespace is a tree

Whatever operations are tried on a namespace, refused ones among them, every object but the root
stands below a group, and parents lead from every object up to the root. An operation changes a
namespace in one of three ways, `Namespace.Change`, and each of them keeps it `Hierarchical`. What
the parent of a path is called is said for every text by `Path.parent?_eq_some_iff`.
-/

namespace Concord

/-! ## Parents -/

namespace Path

/-- Whether a path is named by what its parent is named by, a slash, and a name of its own. The root
is named by nothing in front of the slash. -/
def IsParent (parent path : String) : Prop :=
  ∃ front name, path = front ++ "/" ++ name ∧ name ≠ "" ∧ '/' ∉ name.toList ∧
    (front = "" ∧ parent = root ∨ front.toList.head? = some '/' ∧ parent = front)

/-- A text with a slash can be cut at its last one. -/
theorem exists_last_slash {letters : List Char} (slash : '/' ∈ letters) :
    ∃ front name, letters = front ++ '/' :: name ∧ '/' ∉ name := by
  obtain ⟨name, front, cut, plain⟩ := List.eq_append_cons_of_mem (List.mem_reverse.2 slash)
  refine ⟨front.reverse, name.reverse, ?_, fun member => plain (List.mem_reverse.1 member)⟩
  rw [← List.reverse_reverse letters, cut]
  simp

/-- The parent of any path is what its text says up to the last slash. -/
theorem parent?_eq_some_iff {path parent : String} :
    parent? path = some parent ↔ IsParent parent path := by
  constructor
  · intro found
    rw [parent?] at found
    split at found
    · cases found
    next shape =>
    obtain ⟨rooted, ended⟩ := not_or.1 shape
    have rooted := not_not.1 rooted
    obtain ⟨front, name, cut, plain⟩ := exists_last_slash (List.mem_of_mem_head? rooted)
    rw [cut, beforeLastSlash_append plain] at found
    have named : String.ofList name ≠ "" := by
      intro none
      have empty : name = [] := by simpa using congrArg String.toList none
      rw [cut, empty] at ended
      simp at ended
    have whole : path = String.ofList front ++ "/" ++ String.ofList name := by
      apply String.toList_injective
      rw [cut]
      simp
    refine ⟨String.ofList front, String.ofList name, whole, named, by simpa using plain, ?_⟩
    cases front with
    | nil => exact .inl ⟨rfl, (Option.some.inj found).symm⟩
    | cons first rest =>
      right
      rw [cut] at rooted
      exact ⟨by simpa using rooted, (Option.some.inj found).symm⟩
  · rintro ⟨front, name, rfl, named, plain, ⟨rfl, rfl⟩ | ⟨anchored, rfl⟩⟩
    · exact (parent?_append (.inl rfl) named plain).trans (by rw [if_pos rfl])
    · rw [parent?_append (.inr anchored) named plain, if_neg]
      rintro rfl
      cases anchored

/-- A parent has a shorter name, counted in bytes. -/
theorem IsParent.shorter {parent path : String} (isParent : IsParent parent path) :
    parent.utf8ByteSize < path.utf8ByteSize := by
  obtain ⟨front, name, rfl, named, -, place⟩ := isParent
  have some := Nat.pos_of_ne_zero fun none => named (String.utf8ByteSize_eq_zero_iff.1 none)
  have slash : "/".utf8ByteSize = 1 := rfl
  rw [String.utf8ByteSize_append, String.utf8ByteSize_append, slash]
  rcases place with ⟨rfl, rfl⟩ | ⟨-, rfl⟩
  · have isRoot : root.utf8ByteSize = 1 := rfl
    omega
  · omega

/-- The root is nobody's child. -/
theorem parent?_root : parent? root = none := by
  decide

end Path

/-! ## What an operation can do -/

namespace Namespace

/-- What an operation that is carried out can make of a namespace: nothing new, a new object under
a group, or another state of an object that is a group if it was one. -/
inductive Change (space : Namespace) (path : String) : Namespace → Prop where
  | none : Change space path space
  | created {parent : String} {group : Object} (kind : ObjectKind)
      (below : Path.parent? path = some parent) (found : space.get? parent = some group)
      (isGroup : group.IsGroup) (absent : space.get? path = .none) :
      Change space path (space.put path (.create kind))
  | modified {object new : Object} (found : space.get? path = some object)
      (alike : new.IsGroup ↔ object.IsGroup) : Change space path (space.put path new)

/-- An operation changes nothing but the object at its own path. -/
theorem change_of_apply {space changed : Namespace} {operation : Operation}
    (applied : space.apply operation = .ok changed) : space.Change operation.path changed := by
  rcases apply_eq_ok applied with ⟨-, rfl⟩ |
    ⟨kind, parent, group, -, below, found, isGroup, absent, rfl⟩ |
    ⟨change, object, new, does, found, becomes, rfl⟩
  · exact .none
  · exact .created kind below found isGroup absent
  · exact .modified found (growsTo_of_revision does becomes).isGroup_iff

/-- What becomes of a namespace by an operation that may be refused, and then changes nothing. -/
def after (space : Namespace) (operation : Operation) : Namespace :=
  match space.apply operation with
  | .ok changed => changed
  | .error _ => space

/-- What becomes of a namespace by operations in turn. -/
def afterAll (space : Namespace) (operations : List Operation) : Namespace :=
  operations.foldl after space

/-- An operation changes its own path by one of the known changes, or nothing. -/
theorem change_after (space : Namespace) (operation : Operation) :
    space.Change operation.path (space.after operation) := by
  unfold after
  split
  · next applied => exact change_of_apply applied
  · exact .none

/-- Every other path has what it had. -/
theorem Change.get?_of_ne {space changed : Namespace} {place path : String}
    (change : space.Change place changed) (elsewhere : path ≠ place) :
    changed.get? path = space.get? path := by
  cases change with
  | none => rfl
  | created => rw [get?_put, if_neg elsewhere.symm]
  | modified => rw [get?_put, if_neg elsewhere.symm]

/-- An operation leaves every path alone but its own. -/
theorem get?_after_of_ne (space : Namespace) {operation : Operation} {path : String}
    (elsewhere : path ≠ operation.path) : (space.after operation).get? path = space.get? path :=
  (space.change_after operation).get?_of_ne elsewhere

/-! ## The hierarchy -/

/-- Whether there is a group at a path. -/
def HasGroup (space : Namespace) (path : String) : Prop :=
  ∃ group, space.get? path = some group ∧ group.IsGroup

/-- The root is a group, and every other object stands below one. -/
structure Hierarchical (space : Namespace) : Prop where
  root : space.HasGroup Path.root
  below : ∀ {path object}, space.get? path = some object → path ≠ Path.root →
    ∃ parent, Path.parent? path = some parent ∧ space.HasGroup parent

/-- A group stays a group. -/
theorem HasGroup.change {space changed : Namespace} {path place : String}
    (has : space.HasGroup path) (change : space.Change place changed) : changed.HasGroup path := by
  obtain ⟨group, found, isGroup⟩ := has
  cases change with
  | none => exact ⟨group, found, isGroup⟩
  | created kind below inside isParent absent =>
    refine ⟨group, ?_, isGroup⟩
    rw [get?_put, if_neg, found]
    rintro rfl
    rw [found] at absent
    cases absent
  | @modified object new held alike =>
    by_cases here : place = path
    · subst here
      rw [found] at held
      cases held
      exact ⟨new, by rw [get?_put, if_pos rfl], alike.2 isGroup⟩
    · exact ⟨group, by rw [get?_put, if_neg here, found], isGroup⟩

/-- In a new namespace there is the root only, which is a group. -/
theorem Hierarchical.empty : Namespace.empty.Hierarchical where
  root := ⟨.create .group, by rw [get?_empty, if_pos rfl], rfl⟩
  below := by
    intro path object found apart
    rw [get?_empty, if_neg apart.symm] at found
    cases found

/-- Each change keeps the hierarchy: what is new stands below a group, and what was there stays
where it was. -/
theorem Hierarchical.change {space changed : Namespace} {place : String}
    (hierarchical : space.Hierarchical) (change : space.Change place changed) :
    changed.Hierarchical where
  root := hierarchical.root.change change
  below := by
    intro path object found apart
    have old : ∀ {earlier}, space.get? path = some earlier →
        ∃ parent, Path.parent? path = some parent ∧ changed.HasGroup parent := by
      intro earlier before
      obtain ⟨parent, above, has⟩ := hierarchical.below before apart
      exact ⟨parent, above, has.change change⟩
    cases change with
    | none => exact old found
    | @created parent group kind above inside isGroup absent =>
      by_cases here : place = path
      · subst here
        have has : space.HasGroup parent := ⟨group, inside, isGroup⟩
        exact ⟨parent, above, has.change (.created kind above inside isGroup absent)⟩
      · rw [get?_put, if_neg here] at found
        exact old found
    | modified held alike =>
      by_cases here : place = path
      · subst here
        exact old held
      · rw [get?_put, if_neg here] at found
        exact old found

/-- Whatever operations are carried out, every object is under a group. -/
theorem Hierarchical.afterAll {space : Namespace} (hierarchical : space.Hierarchical)
    (operations : List Operation) : (space.afterAll operations).Hierarchical := by
  induction operations generalizing space with
  | nil => exact hierarchical
  | cons operation rest inductionHypothesis =>
    exact inductionHypothesis (hierarchical.change (space.change_after operation))

/-- Whether parents lead from a path up to the root, through groups only. -/
inductive Climbs (space : Namespace) : String → Prop where
  | root : Climbs space Path.root
  | step {path parent : String} (above : Path.parent? path = some parent)
      (has : space.HasGroup parent) (rest : Climbs space parent) : Climbs space path

/-- In a hierarchy parents lead from every object up to the root, for each has a shorter name. -/
theorem Hierarchical.climbs {space : Namespace} (hierarchical : space.Hierarchical) {path : String}
    {object : Object} (found : space.get? path = some object) : space.Climbs path := by
  induction size : path.utf8ByteSize using Nat.strong_induction_on generalizing path object with
  | _ size inductionHypothesis =>
    by_cases here : path = Path.root
    · rw [here]
      exact .root
    · obtain ⟨parent, above, group, inside, isGroup⟩ := hierarchical.below found here
      have shorter := (Path.parent?_eq_some_iff.1 above).shorter
      exact .step above ⟨group, inside, isGroup⟩
        (inductionHypothesis _ (size ▸ shorter) inside rfl)

/-- In a hierarchy nothing stands below what is no group. -/
theorem Hierarchical.childless {space : Namespace} (hierarchical : space.Hierarchical)
    {path : String} {object : Object} (found : space.get? path = some object)
    (noGroup : ¬ object.IsGroup) {child : String} (above : Path.parent? child = some path) :
    space.get? child = none := by
  by_contra present
  obtain ⟨held, inside⟩ := Option.ne_none_iff_exists'.1 present
  have apart : child ≠ Path.root := by
    rintro rfl
    rw [Path.parent?_root] at above
    cases above
  obtain ⟨parent, named, group, there, isGroup⟩ := hierarchical.below inside apart
  rw [above] at named
  cases named
  rw [found] at there
  cases there
  exact noGroup isGroup

/-- Whatever operations are tried on the empty namespace, with any texts as paths: the root is a
group, every other object has a parent, which is called by what its path says up to the last slash
and is a group, parents lead from it up to the root, and what is no group has no children. -/
theorem hierarchy_kept (operations : List Operation) :
    let space := empty.afterAll operations
    space.HasGroup Path.root ∧
    (∀ path object, space.get? path = some object → path ≠ Path.root →
      ∃ parent, Path.parent? path = some parent ∧ parent.utf8ByteSize < path.utf8ByteSize ∧
        space.HasGroup parent) ∧
    (∀ path object, space.get? path = some object → space.Climbs path) ∧
    (∀ path object, space.get? path = some object → ¬ object.IsGroup →
      ∀ child, Path.parent? child = some path → space.get? child = none) ∧
    ∀ path parent, Path.parent? path = some parent ↔ Path.IsParent parent path := by
  have hierarchical := Hierarchical.empty.afterAll operations
  refine ⟨hierarchical.root, ?_, fun _ _ found => hierarchical.climbs found,
    fun _ _ found noGroup _ above => hierarchical.childless found noGroup above,
    fun _ _ => Path.parent?_eq_some_iff⟩
  intro path object found apart
  obtain ⟨parent, above, has⟩ := hierarchical.below found apart
  exact ⟨parent, above, (Path.parent?_eq_some_iff.1 above).shorter, has⟩

/-- A group whose name has an empty part, a dataset in it, and what is refused: a group in the
dataset and one that is nowhere. -/
def doubledSlashes : List Operation :=
  [.createGroup "//ö", .createDataset "//ö/d" [2], .createGroup "//ö/d/e", .createGroup "a",
    .extendDataset "//ö/d" [3]]

/-- A dataset whose path starts with two slashes climbs to the root too, and has nothing under it.
-/
theorem hierarchy_kept_doubledSlashes :
    (∃ dataset, (empty.afterAll doubledSlashes).get? "//ö/d" = some dataset ∧
      dataset.kind = .dataset [3]) ∧
    (empty.afterAll doubledSlashes).Climbs "//ö/d" ∧
    (empty.afterAll doubledSlashes).get? "//ö/d/e" = none := by
  have kind :
      ((empty.afterAll doubledSlashes).get? "//ö/d").map Object.kind = some (.dataset [3]) := by
    decide +kernel
  obtain ⟨dataset, found, isDataset⟩ := Option.map_eq_some_iff.1 kind
  have noGroup : ¬ dataset.IsGroup := by
    rw [Object.IsGroup, isDataset]
    exact nofun
  obtain ⟨-, -, climbs, childless, -⟩ := hierarchy_kept doubledSlashes
  exact ⟨⟨dataset, found, isDataset⟩, climbs _ _ found,
    childless _ _ found noGroup "//ö/d/e" (by decide)⟩

end Namespace

end Concord
