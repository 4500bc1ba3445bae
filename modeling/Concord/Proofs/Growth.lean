import Concord.Proofs.Hierarchy

/-!
# The namespace only grows

There are no operations that remove anything. Whatever operations are tried on a namespace, every
object stays where it is and what it is, and keeps what it has: a dataset its extents or larger
ones, any object its attributes, and a written attribute a value.
-/

namespace Concord.Namespace

/-- Whether a namespace has kept every object of another, each no less than it was. -/
def GrowsTo (before after : Namespace) : Prop :=
  ∀ path object, before.get? path = some object →
    ∃ grown, after.get? path = some grown ∧ object.GrowsTo grown

/-- A namespace grows to itself. -/
theorem GrowsTo.refl (space : Namespace) : space.GrowsTo space :=
  fun _ object found => ⟨object, found, .refl object⟩

/-- A namespace that grows twice has grown. -/
theorem GrowsTo.trans {first second third : Namespace} (earlier : first.GrowsTo second)
    (later : second.GrowsTo third) : first.GrowsTo third := by
  intro path object found
  obtain ⟨grown, foundThen, growth⟩ := earlier path object found
  obtain ⟨grownMore, foundLast, growthMore⟩ := later path grown foundThen
  exact ⟨grownMore, foundLast, growth.trans growthMore⟩

/-- What is put at a path loses nothing if nothing was there, or less. -/
theorem growsTo_put {space : Namespace} {path : String} {new : Object}
    (more : ∀ old, space.get? path = some old → old.GrowsTo new) :
    space.GrowsTo (space.put path new) := by
  intro other object found
  rw [get?_put]
  by_cases here : path = other
  · subst here
    exact ⟨new, if_pos rfl, more object found⟩
  · exact ⟨object, by rw [if_neg here, found], .refl _⟩

/-- One operation more, carried out or refused. -/
theorem growsTo_after (space : Namespace) (operation : Operation) :
    space.GrowsTo (space.after operation) := by
  unfold after
  split
  · next changed applied =>
    rcases apply_eq_ok applied with ⟨-, rfl⟩ | ⟨kind, _, _, -, -, -, -, absent, rfl⟩ |
      ⟨change, object, new, does, found, becomes, rfl⟩
    · exact .refl _
    · exact growsTo_put fun old present => nomatch absent.symm.trans present
    · refine growsTo_put fun old present => ?_
      cases found.symm.trans present
      exact growsTo_of_revision does becomes
  · exact .refl space

/-- Whatever operations are carried out, in turn, a namespace grows. -/
theorem growsTo_afterAll (space : Namespace) (operations : List Operation) :
    space.GrowsTo (space.afterAll operations) := by
  induction operations generalizing space with
  | nil => exact .refl space
  | cons operation rest inductionHypothesis =>
    exact (space.growsTo_after operation).trans (inductionHypothesis (space.after operation))

/-- Whatever operations are tried on whatever namespace, an object that was there is there still,
under its path. It is a group, a dataset or a datatype as it was; a dataset has as many extents, and
none is smaller; every attribute is there still, and one that was written has a value. -/
theorem objects_only_grow (space : Namespace) (operations : List Operation) {path : String}
    {before : Object} (present : space.get? path = some before) :
    ∃ after : Object, (space.afterAll operations).get? path = some after ∧
      (before.kind = .group → after.kind = .group) ∧
      (before.kind = .datatype → after.kind = .datatype) ∧
      (∀ old, before.kind = .dataset old →
        ∃ new, after.kind = .dataset new ∧ List.Forall₂ (· ≤ ·) old new) ∧
      (∀ name ∈ before.attributes, name ∈ after.attributes) ∧
      ∀ (name : String) (value : Bytes), before.attributes[name]? = some (some value) →
        ∃ newer : Bytes, after.attributes[name]? = some (some newer) := by
  obtain ⟨after, found, kind, attributes, written⟩ :=
    space.growsTo_afterAll operations path before present
  refine ⟨after, found, fun isGroup => ?_, fun isDatatype => ?_, fun old isDataset => ?_,
    attributes, fun name value has => written name ⟨value, has⟩⟩
  · rw [isGroup] at kind
    exact kind.of_group
  · rw [isDatatype] at kind
    exact kind.of_datatype
  · rw [isDataset] at kind
    exact kind.of_dataset

/-- A dataset that stands where no operation creates one, open as often as can be counted. -/
def orphanDataset : Object :=
  ⟨.dataset [2, 0], (∅ : Attributes).insert "unit" (some [109]), 4294967295⟩

/-- What would take something away and is refused, and then what is carried out. -/
def refusedChanges : List Operation :=
  [.extendDataset "a//b" [1, 9], .extendDataset "a//b" [2], .createAttribute "a//b" "unit",
    .createDataset "a//b" [], .openDataset "a//b", .writeAttribute "a//b" "unit" [],
    .extendDataset "a//b" [2, 7]]

/-- A dataset outside any group grows too: what would shrink it is refused, and what is written
stays. -/
theorem objects_only_grow_refusedChanges :
    (empty.put "a//b" orphanDataset).get? "a//b" = some orphanDataset ∧
      ∃ after : Object,
        ((empty.put "a//b" orphanDataset).afterAll refusedChanges).get? "a//b" = some after ∧
        (∃ new, after.kind = .dataset new ∧ List.Forall₂ (· ≤ ·) [2, 0] new) ∧
        "unit" ∈ after.attributes ∧
        ∃ newer : Bytes, after.attributes["unit"]? = some (some newer) := by
  have present : (empty.put "a//b" orphanDataset).get? "a//b" = some orphanDataset := by
    rw [get?_put, if_pos rfl]
  have held : orphanDataset.attributes["unit"]? = some (some [109]) :=
    Std.ExtTreeMap.getElem?_insert_self
  obtain ⟨after, found, -, -, dataset, attributes, written⟩ :=
    objects_only_grow (empty.put "a//b" orphanDataset) refusedChanges present
  exact ⟨present, after, found, dataset _ rfl,
    attributes "unit" (Std.ExtTreeMap.mem_insert_self), written "unit" _ held⟩

end Concord.Namespace
