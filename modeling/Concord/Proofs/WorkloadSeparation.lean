import Concord.Namespace
import Concord.Proofs.Workloads
import Mathlib.Logic.Function.Basic
import Std.Data.String.ToNat

/-!
# Workloads share no object

Each process builds below a group of its own. Different processes never name the same object, so
what stands below a group is told by how far its process has come, whatever the others have done,
and the next operation of any process can be carried out. `Workload.Built` says what stands where;
`Workload.Built.apply` takes one process one operation further.
-/

namespace Concord

/-! ## Paths -/

namespace Path

/-- What stands before the last slash, when the last name has none. -/
theorem beforeLastSlash_append {front name : List Char} (plain : '/' ∉ name) :
    beforeLastSlash (front ++ '/' :: name).reverse = front := by
  have skipped : ∀ character ∈ name.reverse, decide (character ≠ '/') = true := by
    intro character member
    refine decide_eq_true fun slash => plain ?_
    rw [← slash]
    exact List.mem_reverse.1 member
  rw [beforeLastSlash, List.reverse_append, List.reverse_cons, List.append_assoc,
    List.dropWhile_append_of_pos skipped]
  simp

/-- The parent of a path is named by what stands in front of the last slash. -/
theorem parent?_append {front name : String} (anchored : front = "" ∨ front.toList.head? = some '/')
    (named : name ≠ "") (plain : '/' ∉ name.toList) :
    parent? (front ++ "/" ++ name) = some (if front = "" then root else front) := by
  have characters : (front ++ "/" ++ name).toList = front.toList ++ '/' :: name.toList := by
    simp
  have rooted : (front.toList ++ '/' :: name.toList).head? = some '/' := by
    rcases anchored with rfl | slash
    · rfl
    · rw [List.head?_append, slash]
      rfl
  have ended : (front.toList ++ '/' :: name.toList).getLast? ≠ some '/' := by
    have nonempty : name.toList ≠ [] := fun none => named (String.toList_eq_nil_iff.1 none)
    rw [List.getLast?_append, List.getLast?_cons_of_ne_nil nonempty]
    intro slash
    rw [List.getLast?_eq_getLast_of_ne_nil nonempty, Option.some_or] at slash
    exact plain (Option.some.inj slash ▸ List.getLast_mem nonempty)
  rw [parent?, characters]
  simp only [rooted, ended, ne_eq, not_true_eq_false, or_self, if_false,
    beforeLastSlash_append plain]
  by_cases empty : front = ""
  · subst empty
    rfl
  · rw [if_neg empty]
    cases letters : front.toList with
    | nil => exact absurd (String.toList_eq_nil_iff.1 letters) empty
    | cons first rest =>
      have whole := @String.ofList_toList front
      rw [letters] at whole
      exact congrArg some whole

end Path

namespace Workload

/-- A number has no slash. -/
theorem slash_not_mem_digits (number : Nat) : '/' ∉ (toString number).toList := by
  intro member
  rw [show toString number = String.ofList (Nat.toDigits 10 number) from rfl,
    String.toList_ofList] at member
  exact absurd (Nat.isDigit_of_mem_toDigits (by decide) (by decide) member) (by decide)

/-- A letter with a number behind it is a single name. -/
theorem slash_not_mem_label {letter : String} (plain : '/' ∉ letter.toList) (number : Nat) :
    '/' ∉ (letter ++ toString number).toList := by
  rw [String.toList_append]
  intro member
  rcases List.mem_append.1 member with inLetter | inDigits
  · exact plain inLetter
  · exact slash_not_mem_digits _ inDigits

/-- The group of a process is a child of the root. -/
theorem parent?_home (rank : Rank) : Path.parent? (home rank) = some Path.root := by
  have split : home rank = "" ++ "/" ++ ("r" ++ toString rank.toNat) := by
    rw [home, String.empty_append, ← String.append_assoc]
    rfl
  rw [split, Path.parent?_append (.inl rfl), if_pos rfl]
  · intro none
    have letters := congrArg String.toList none
    simp at letters
  · exact slash_not_mem_label (by decide) _

/-- The datasets of a process are children of its group. -/
theorem parent?_datasetPath (rank : Rank) (index : Nat) :
    Path.parent? (datasetPath rank index) = some (home rank) := by
  have split : datasetPath rank index = home rank ++ "/" ++ ("d" ++ toString index) := by
    rw [datasetPath, String.append_assoc, String.append_assoc, ← @String.append_assoc "/"]
    rfl
  have rooted : (home rank).toList.head? = some '/' := by
    rw [home, String.toList_append]
    rfl
  have nonempty : home rank ≠ "" := by
    intro none
    rw [none] at rooted
    cases rooted
  rw [split, Path.parent?_append (.inr rooted), if_neg nonempty]
  · intro none
    have letters := congrArg String.toList none
    simp at letters
  · exact slash_not_mem_label (by decide) _

/-- Different processes have different groups. -/
theorem home_inj {left right : Rank} : home left = home right ↔ left = right := by
  refine ⟨fun same => ?_, congrArg home⟩
  have digits : toString left.toNat = toString right.toNat := String.append_right_inj _ |>.1 same
  exact Rank.toNat_inj.1 (Nat.repr_inj.1 digits)

/-- No process has the root for its group. -/
theorem home_ne_root (rank : Rank) : home rank ≠ Path.root := by
  intro same
  have parent := parent?_home rank
  rw [same] at parent
  exact absurd parent (by decide)

/-- No dataset stands at the root. -/
theorem datasetPath_ne_root (rank : Rank) (index : Nat) : datasetPath rank index ≠ Path.root := by
  intro same
  have parent := parent?_datasetPath rank index
  rw [same] at parent
  exact absurd parent (by simp [Path.parent?, Path.root])

/-- A dataset is no home, for its parent is no root. -/
theorem datasetPath_ne_home (rank other : Rank) (index : Nat) :
    datasetPath rank index ≠ home other := by
  intro same
  have parent := parent?_datasetPath rank index
  rw [same, parent?_home] at parent
  exact home_ne_root rank (Option.some.inj parent).symm

/-- Different datasets have different places, be they of one process or of two. -/
theorem datasetPath_inj {left right : Rank} {first second : Nat} :
    datasetPath left first = datasetPath right second ↔ left = right ∧ first = second := by
  constructor
  · intro same
    have parents := parent?_datasetPath left first
    rw [same, parent?_datasetPath] at parents
    have ranks := home_inj.1 (Option.some.inj parents).symm
    subst ranks
    have digits : toString first = toString second := String.append_right_inj _ |>.1 same
    exact ⟨rfl, Nat.repr_inj.1 digits⟩
  · rintro ⟨rfl, rfl⟩
    rfl

end Workload

/-! ## Single operations -/

namespace Namespace

/-- After an object was put somewhere it stands there, and all others stay. -/
theorem get?_put (space : Namespace) (path other : String) (object : Object) :
    (space.put path object).get? other =
      if path = other then some object else space.get? other := by
  rw [get?, put, Std.ExtTreeMap.getElem?_insert]
  simp only [Std.compare_eq_iff_eq, get?]

/-- An empty namespace has the root group and nothing else. -/
theorem get?_empty (path : String) :
    empty.get? path = if Path.root = path then some (.create .group) else none := by
  rw [get?, empty, Std.ExtTreeMap.getElem?_insert]
  simp only [Std.compare_eq_iff_eq, Std.ExtTreeMap.getElem?_empty]

/-- A namespace is what stands at each path. -/
theorem eq_of_get? {left right : Namespace} (same : ∀ path, left.get? path = right.get? path) :
    left = right := by
  have objects : left.objects = right.objects := Std.ExtTreeMap.ext_getElem? same
  cases left
  cases right
  exact congrArg mk objects

/-- An object may be put where it is. -/
theorem put_self {space : Namespace} {path : String} {object : Object}
    (found : space.get? path = some object) : space.put path object = space := by
  refine eq_of_get? fun other => ?_
  rw [get?_put]
  split
  · next here => rw [← here, found]
  · rfl

/-- An object can be created where none is, under a group. -/
theorem create_of_parent {space : Namespace} {path parent : String} {group : Object}
    (below : Path.parent? path = some parent) (found : space.get? parent = some group)
    (isGroup : group.kind = .group) (absent : space.get? path = none) (kind : ObjectKind) :
    space.create path kind = .ok (space.put path (.create kind)) := by
  simp [create, below, found, isGroup, absent]

/-- An object can be changed as the change says. -/
theorem modify_of_found {space : Namespace} {path : String} {object changed : Object}
    {change : Object → Except DomainError Object} (found : space.get? path = some object)
    (changes : change object = .ok changed) :
    space.modify path change = .ok (space.put path changed) := by
  simp only [modify, found, changes]

end Namespace

/-! ## What stands below a process's group -/

namespace Workload

/-- The group of a process that has carried out so many operations. -/
def homeAfter : (count : Nat) → Option Object
  | 0 => none
  | _ + 1 => some (.create .group)

/-- The attributes of a dataset once it has one. -/
def attributed : Attributes :=
  (∅ : Attributes).insert "origin" none

/-- The attributes of a dataset once the process's number is written to it. -/
def written (rank : Rank) : Attributes :=
  attributed.insert "origin" (some (Bytes.littleEndian 4 rank.toNat))

/-- A dataset on which its process has carried out so many steps. -/
def datasetAfter (rank : Rank) : (steps : Nat) → Option Object
  | 0 => none
  | 1 => some (.create (.dataset [16]))
  | 2 => some ⟨.dataset [16], attributed, 0⟩
  | 3 => some ⟨.dataset [16], written rank, 0⟩
  | _ + 4 => some ⟨.dataset [32], written rank, 0⟩

/-- Four steps finish a dataset. -/
theorem datasetAfter_of_le (rank : Rank) {steps : Nat} (all : 4 ≤ steps) :
    datasetAfter rank steps = datasetAfter rank 4 := by
  obtain ⟨more, rfl⟩ := Nat.exists_eq_add_of_le' all
  rfl

/-- Whatever is the next step with a dataset, it can be carried out. -/
theorem apply_datasetStep {space : Namespace} {rank : Rank} {path parent : String} {group : Object}
    (below : Path.parent? path = some parent) (found : space.get? parent = some group)
    (isGroup : group.kind = .group) {step : Nat} (next : step < 4)
    (present : space.get? path = datasetAfter rank step) :
    ∃ object, datasetAfter rank (step + 1) = some object ∧
      space.apply (datasetStep rank path step) = .ok (space.put path object) := by
  match step with
  | 0 => exact ⟨_, rfl, Namespace.create_of_parent below found isGroup present _⟩
  | 1 =>
    refine ⟨_, rfl, Namespace.modify_of_found present ?_⟩
    rw [Namespace.addAttribute, if_neg (by simp [Object.create])]
    rfl
  | 2 =>
    refine ⟨_, rfl, Namespace.modify_of_found present ?_⟩
    rw [Namespace.writeAttribute, if_pos (by simp [attributed])]
    rfl
  | 3 => exact ⟨_, rfl, Namespace.modify_of_found present rfl⟩
  | _ + 4 => omega

/-- What stands in a namespace when each process has carried out so many operations of its
workload, and nobody anything else. -/
structure Built (done : Rank → Nat) (space : Namespace) : Prop where
  root : space.get? Path.root = some (.create .group)
  home : ∀ rank, space.get? (home rank) = homeAfter (done rank)
  dataset : ∀ rank index,
    space.get? (datasetPath rank index) = datasetAfter rank (done rank - (4 * index + 1))
  other : ∀ path, path ≠ Path.root → (∀ rank, path ≠ Workload.home rank) →
    (∀ rank index, path ≠ datasetPath rank index) → space.get? path = none

namespace Built

/-- Before the first operation an empty namespace is built. -/
theorem empty : Built (fun _ => 0) .empty where
  root := by rw [Namespace.get?_empty, if_pos rfl]
  home := fun rank => by rw [Namespace.get?_empty, if_neg (home_ne_root rank).symm, homeAfter]
  dataset := fun rank index => by
    rw [Namespace.get?_empty, if_neg (datasetPath_ne_root rank index).symm, Nat.zero_sub,
      datasetAfter]
  other := fun path unrooted _ _ => by rw [Namespace.get?_empty, if_neg unrooted.symm]

variable {done : Rank → Nat} {space : Namespace}

/-- A process that creates its group. -/
theorem createHome (built : Built done space) {rank : Rank} (fresh : done rank = 0) :
    Built (Function.update done rank 1) (space.put (Workload.home rank) (.create .group)) where
  root := by rw [Namespace.get?_put, if_neg (home_ne_root rank), built.root]
  home := by
    intro other
    rw [Namespace.get?_put, built.home]
    by_cases here : rank = other
    · subst here
      rw [if_pos rfl, Function.update_self, homeAfter]
    · rw [if_neg fun same => here (home_inj.1 same), Function.update_of_ne (Ne.symm here)]
  dataset := by
    intro other index
    rw [Namespace.get?_put, if_neg (datasetPath_ne_home other rank index).symm, built.dataset]
    by_cases here : other = rank
    · subst here
      rw [Function.update_self, fresh, Nat.zero_sub, Nat.sub_eq_zero_of_le (Nat.le_add_left _ _)]
    · rw [Function.update_of_ne here]
  other := by
    intro path unrooted homeless unset
    rw [Namespace.get?_put, if_neg (homeless rank).symm, built.other path unrooted homeless unset]

/-- A process that takes its next step with a dataset. -/
theorem putDataset (built : Built done space) {rank : Rank} {number : Nat}
    (already : done rank = number + 1) {object : Object}
    (next : datasetAfter rank (number % 4 + 1) = some object) :
    Built (Function.update done rank (number + 2))
      (space.put (datasetPath rank (number / 4)) object) where
  root := by rw [Namespace.get?_put, if_neg (datasetPath_ne_root rank _), built.root]
  home := by
    intro other
    rw [Namespace.get?_put, if_neg (datasetPath_ne_home rank other _), built.home]
    by_cases here : other = rank
    · subst here
      rw [Function.update_self, already]
      rfl
    · rw [Function.update_of_ne here]
  dataset := by
    intro other index
    rw [Namespace.get?_put, built.dataset]
    by_cases here : other = rank
    · subst here
      rw [Function.update_self, already]
      by_cases same : number / 4 = index
      · have steps : number + 2 - (4 * index + 1) = number % 4 + 1 := by omega
        rw [if_pos (datasetPath_inj.2 ⟨rfl, same⟩), steps, next]
      · rw [if_neg fun equal => same (datasetPath_inj.1 equal).2]
        -- The steps with the other datasets are all taken, or all still to come.
        by_cases later : number / 4 < index
        · rw [show number + 1 - (4 * index + 1) = 0 by omega,
            show number + 2 - (4 * index + 1) = 0 by omega]
        · rw [datasetAfter_of_le other (by omega : 4 ≤ number + 1 - (4 * index + 1)),
            datasetAfter_of_le other (by omega : 4 ≤ number + 2 - (4 * index + 1))]
    · rw [if_neg fun equal => here (datasetPath_inj.1 equal).1.symm, Function.update_of_ne here]
  other := by
    intro path unrooted homeless unset
    rw [Namespace.get?_put, if_neg (unset rank _).symm, built.other path unrooted homeless unset]

/-- The next operation of any process can be carried out. -/
theorem apply (built : Built done space) (rank : Rank) :
    ∃ after, space.apply (operationAt rank (done rank)) = .ok after ∧
      Built (Function.update done rank (done rank + 1)) after := by
  cases already : done rank with
  | zero =>
    have absent : space.get? (Workload.home rank) = none := by
      rw [built.home, already, homeAfter]
    exact ⟨_, Namespace.create_of_parent (parent?_home rank) built.root rfl absent .group,
      built.createHome already⟩
  | succ number =>
    have group : space.get? (Workload.home rank) = some (.create .group) := by
      rw [built.home, already, homeAfter]
    have present : space.get? (datasetPath rank (number / 4)) =
        datasetAfter rank (number % 4) := by
      rw [built.dataset, already, show number + 1 - (4 * (number / 4) + 1) = number % 4 by omega]
    obtain ⟨object, next, applied⟩ := apply_datasetStep (parent?_datasetPath rank _) group rfl
      (Nat.mod_lt number (by decide)) present
    exact ⟨_, applied, built.putDataset already next⟩

end Built

end Workload

end Concord
