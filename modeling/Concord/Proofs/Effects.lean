import Concord.Proofs.WorkloadSeparation
import Mathlib.Data.List.Forall2

/-!
# What operations do

Of the eleven kinds of operations each does one of three things at its path: nothing, creating an
object under a group, or revising the object that is there. `Namespace.apply_eq_perform` says which,
and `Namespace.apply_eq_ok` what has become of a namespace on which an operation is carried out.
Revisions take nothing away from an object, `Object.GrowsTo`.
-/

namespace Concord

/-- What can be done at a path. -/
inductive Effect where
  | nothing
  | creation (kind : ObjectKind)
  | revision (change : Object → Except DomainError Object)

/-- What an operation does at its path. -/
def Operation.effect : Operation → Effect
  | .close => .nothing
  | .createGroup _ => .creation .group
  | .createDataset _ extents => .creation (.dataset extents)
  | .commitDatatype _ => .creation .datatype
  | .openDataset _ => .revision Namespace.openObject
  | .openGroup _ => .revision Namespace.openObject
  | .closeDataset path => .revision (Namespace.closeObject path)
  | .closeGroup path => .revision (Namespace.closeObject path)
  | .extendDataset path extents => .revision (Namespace.extendObject path extents)
  | .createAttribute path name => .revision (Namespace.addAttribute path name)
  | .writeAttribute path name value => .revision (Namespace.writeAttribute path name value)

/-- Whether an object can have children. -/
def Object.IsGroup (object : Object) : Prop :=
  object.kind = .group

namespace Namespace

/-- Do something at a path. -/
def perform (space : Namespace) (path : String) : Effect → Except DomainError Namespace
  | .nothing => .ok space
  | .creation kind => space.create path kind
  | .revision change => space.modify path change

/-- An operation is told by its path and its effect. -/
theorem apply_eq_perform (space : Namespace) (operation : Operation) :
    space.apply operation = space.perform operation.path operation.effect := by
  cases operation <;> rfl

/-- An object is created only under a group, and only where there is nothing. -/
theorem create_eq_ok {space changed : Namespace} {path : String} {kind : ObjectKind}
    (created : space.create path kind = .ok changed) :
    ∃ parent group, Path.parent? path = some parent ∧ space.get? parent = some group ∧
      group.IsGroup ∧ space.get? path = none ∧ changed = space.put path (.create kind) := by
  unfold create at created
  split at created
  · cases created
  next parent below =>
  split at created
  · cases created
  · next held =>
    obtain ⟨group, found, isGroup⟩ := Option.map_eq_some_iff.1 held
    split at created
    · cases created
    · next free =>
      cases created
      exact ⟨parent, group, below, found, isGroup, by simpa using free, rfl⟩
  · cases created

/-- An object is changed only if there is one and the change accepts it. -/
theorem modify_eq_ok {space changed : Namespace} {path : String}
    {change : Object → Except DomainError Object}
    (modified : space.modify path change = .ok changed) :
    ∃ object new, space.get? path = some object ∧ change object = .ok new ∧
      changed = space.put path new := by
  unfold modify at modified
  split at modified
  · cases modified
  next object found =>
  split at modified
  · cases modified
  next new becomes =>
  cases modified
  exact ⟨object, new, found, becomes, rfl⟩

/-- Everything that an operation which is carried out can have done. -/
theorem apply_eq_ok {space changed : Namespace} {operation : Operation}
    (applied : space.apply operation = .ok changed) :
    (operation.effect = .nothing ∧ changed = space) ∨
    (∃ kind parent group, operation.effect = .creation kind ∧
      Path.parent? operation.path = some parent ∧ space.get? parent = some group ∧ group.IsGroup ∧
      space.get? operation.path = none ∧ changed = space.put operation.path (.create kind)) ∨
    ∃ change object new, operation.effect = .revision change ∧
      space.get? operation.path = some object ∧ change object = .ok new ∧
      changed = space.put operation.path new := by
  rw [apply_eq_perform] at applied
  cases does : operation.effect with
  | nothing =>
    rw [does] at applied
    cases applied
    exact .inl ⟨rfl, rfl⟩
  | creation kind =>
    rw [does] at applied
    obtain ⟨parent, group, below, found, isGroup, absent, becomes⟩ := create_eq_ok applied
    exact .inr (.inl ⟨kind, parent, group, rfl, below, found, isGroup, absent, becomes⟩)
  | revision change =>
    rw [does] at applied
    obtain ⟨object, new, found, changes, becomes⟩ := modify_eq_ok applied
    exact .inr (.inr ⟨change, object, new, rfl, found, changes, becomes⟩)

end Namespace

/-! ## Growth of an object -/

/-- Whether an object of one kind can become one of another: it stays a group, a dataset or a
datatype, and the extents of a dataset stay as many and none becomes smaller. -/
inductive ObjectKind.GrowsTo : ObjectKind → ObjectKind → Prop where
  | group : GrowsTo .group .group
  | dataset {before after : List UInt64} (extents : List.Forall₂ (· ≤ ·) before after) :
      GrowsTo (.dataset before) (.dataset after)
  | datatype : GrowsTo .datatype .datatype

/-- A kind grows to itself. -/
theorem ObjectKind.GrowsTo.refl (kind : ObjectKind) : kind.GrowsTo kind := by
  cases kind with
  | group => exact .group
  | dataset extents => exact .dataset (List.forall₂_same.2 fun _ _ => UInt64.le_refl _)
  | datatype => exact .datatype

/-- Extents that have grown twice have grown. -/
theorem forall₂_le_trans {first second third : List UInt64}
    (earlier : List.Forall₂ (· ≤ ·) first second) (later : List.Forall₂ (· ≤ ·) second third) :
    List.Forall₂ (· ≤ ·) first third := by
  induction earlier generalizing third with
  | nil => exact later
  | cons grown _ inductionHypothesis =>
    cases later with
    | cons grownMore rest =>
      exact .cons (UInt64.le_trans grown grownMore) (inductionHypothesis rest)

/-- Growing twice is growing. -/
theorem ObjectKind.GrowsTo.trans {first second third : ObjectKind}
    (earlier : first.GrowsTo second) (later : second.GrowsTo third) : first.GrowsTo third := by
  cases earlier with
  | group => exact later
  | datatype => exact later
  | dataset grown =>
    cases later with
    | dataset grownMore => exact .dataset (forall₂_le_trans grown grownMore)

/-- A group stays a group. -/
theorem ObjectKind.GrowsTo.of_group {after : ObjectKind} (grown : GrowsTo .group after) :
    after = .group := by
  cases grown
  rfl

/-- A datatype stays a datatype. -/
theorem ObjectKind.GrowsTo.of_datatype {after : ObjectKind} (grown : GrowsTo .datatype after) :
    after = .datatype := by
  cases grown
  rfl

/-- A dataset stays one, with as many dimensions and no smaller extents. -/
theorem ObjectKind.GrowsTo.of_dataset {before : List UInt64} {after : ObjectKind}
    (grown : GrowsTo (.dataset before) after) :
    ∃ extents, after = .dataset extents ∧ List.Forall₂ (· ≤ ·) before extents := by
  cases grown with
  | dataset extents => exact ⟨_, rfl, extents⟩

namespace Object

/-- Whether an attribute has a value. -/
def IsWritten (object : Object) (name : String) : Prop :=
  ∃ value, object.attributes[name]? = some (some value)

/-- Whether an object has kept what it had: its kind and its extents or larger ones, all of its
attributes, and values for those that had one. -/
structure GrowsTo (before after : Object) : Prop where
  kind : before.kind.GrowsTo after.kind
  attributes : ∀ name ∈ before.attributes, name ∈ after.attributes
  written : ∀ name, before.IsWritten name → after.IsWritten name

/-- Nothing is lost where the attributes stay and the kind grows. -/
theorem GrowsTo.of_kind {before after : Object} (kind : before.kind.GrowsTo after.kind)
    (same : after.attributes = before.attributes) : before.GrowsTo after where
  kind := kind
  attributes := fun _ held => same ▸ held
  written := fun _ ⟨value, found⟩ => ⟨value, same ▸ found⟩

/-- An object grows to itself. -/
theorem GrowsTo.refl (object : Object) : object.GrowsTo object :=
  .of_kind (.refl object.kind) rfl

/-- An object that grows twice has grown. -/
theorem GrowsTo.trans {first second third : Object} (earlier : first.GrowsTo second)
    (later : second.GrowsTo third) : first.GrowsTo third where
  kind := earlier.kind.trans later.kind
  attributes := fun name held => later.attributes name (earlier.attributes name held)
  written := fun name written => later.written name (earlier.written name written)

/-- What is a group stays one, and nothing becomes one. -/
theorem GrowsTo.isGroup_iff {before after : Object} (grown : before.GrowsTo after) :
    after.IsGroup ↔ before.IsGroup := by
  have kind := grown.kind
  unfold IsGroup
  constructor
  · intro isGroup
    rw [isGroup] at kind
    generalize before.kind = old at kind ⊢
    cases kind
    rfl
  · intro isGroup
    rw [isGroup] at kind
    exact kind.of_group

/-- An attribute may be put in place of one that has no value, or be given one. -/
theorem growsTo_insert (object : Object) {name : String} {value : Option Bytes}
    (kept : object.IsWritten name → value.isSome) :
    object.GrowsTo { object with attributes := object.attributes.insert name value } where
  kind := .refl _
  attributes := fun other held => Std.ExtTreeMap.mem_insert.2 (.inr held)
  written := by
    rintro other ⟨old, found⟩
    by_cases here : name = other
    · subst here
      obtain ⟨new, isNew⟩ := Option.isSome_iff_exists.1 (kept ⟨old, found⟩)
      exact ⟨new, by rw [Std.ExtTreeMap.getElem?_insert_self, isNew]⟩
    · refine ⟨old, ?_⟩
      rw [Std.ExtTreeMap.getElem?_insert, if_neg (by simpa using here), found]

end Object

namespace Namespace

/-- Extents are found to grow exactly if none is smaller than before and there are as many. -/
theorem grows_iff {before after : List UInt64} :
    grows before after = true ↔ List.Forall₂ (· ≤ ·) before after := by
  have flipped : List.Forall₂ (· ≤ ·) before after ↔
      List.Forall₂ (fun new old => old ≤ new) after before := by
    constructor <;> exact List.Forall₂.flip
  rw [flipped, List.forall₂_iff_zip, grows]
  simp

/-- Opening an object takes nothing away from it. -/
theorem growsTo_openObject {object new : Object} (becomes : openObject object = .ok new) :
    object.GrowsTo new := by
  cases becomes
  exact .of_kind (.refl object.kind) rfl

/-- Closing an object takes nothing away from it but one opening. -/
theorem growsTo_closeObject {path : String} {object new : Object}
    (becomes : closeObject path object = .ok new) : object.GrowsTo new := by
  unfold closeObject at becomes
  split at becomes <;> cases becomes
  exact .of_kind (.refl object.kind) rfl

/-- Extending a dataset makes it no smaller in any dimension. -/
theorem growsTo_extendObject {path : String} {extents : List UInt64} {object new : Object}
    (becomes : extendObject path extents object = .ok new) : object.GrowsTo new := by
  unfold extendObject at becomes
  split at becomes
  · next current isDataset =>
    split at becomes
    · next grown =>
      cases becomes
      refine .of_kind ?_ rfl
      rw [isDataset]
      exact .dataset (grows_iff.1 grown)
    · cases becomes
  · cases becomes

/-- What is put is an attribute that was not there, so no value is lost. -/
theorem growsTo_addAttribute {path name : String} {object new : Object}
    (becomes : addAttribute path name object = .ok new) : object.GrowsTo new := by
  unfold addAttribute at becomes
  split at becomes
  · cases becomes
  · next absent =>
    cases becomes
    refine object.growsTo_insert fun ⟨_, found⟩ => absurd ?_ absent
    rw [Std.ExtTreeMap.contains_eq_isSome_getElem?, found]
    rfl

/-- Writing an attribute takes no attribute away. -/
theorem growsTo_writeAttribute {path name : String} {value : Bytes} {object new : Object}
    (becomes : writeAttribute path name value object = .ok new) : object.GrowsTo new := by
  unfold writeAttribute at becomes
  split at becomes <;> cases becomes
  exact object.growsTo_insert fun _ => rfl

/-- No revision that an operation makes takes anything away. -/
theorem growsTo_of_revision {operation : Operation} {change : Object → Except DomainError Object}
    (does : operation.effect = .revision change) {object new : Object}
    (becomes : change object = .ok new) : object.GrowsTo new := by
  cases operation <;> cases does
  case openDataset => exact growsTo_openObject becomes
  case openGroup => exact growsTo_openObject becomes
  case closeDataset => exact growsTo_closeObject becomes
  case closeGroup => exact growsTo_closeObject becomes
  case extendDataset => exact growsTo_extendObject becomes
  case createAttribute => exact growsTo_addAttribute becomes
  case writeAttribute => exact growsTo_writeAttribute becomes

end Namespace

end Concord
