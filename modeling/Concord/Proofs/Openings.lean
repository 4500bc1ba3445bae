import Concord.Proofs.Hierarchy

/-!
# Openings are counted

Every object counts how often it is open, a group or a datatype as well as a dataset, and operations
that open a dataset and those that open a group do the same to it. As long as an object is not open
`2 ^ 32` times at once, its count is the number of openings that were carried out less that of
closings, and a closing is refused exactly when there are no more openings than closings.
-/

namespace Concord

namespace Operation

/-- Whether an operation opens what stands at its path, whatever that is. -/
def isOpening : Operation → Bool
  | .openDataset _ => true
  | .openGroup _ => true
  | _ => false

/-- Whether an operation closes what stands at its path, whatever that is. -/
def isClosing : Operation → Bool
  | .closeDataset _ => true
  | .closeGroup _ => true
  | _ => false

/-- Whether an operation opens what stands at a path. -/
def opens (path : String) (operation : Operation) : Bool :=
  operation.isOpening && operation.path = path

/-- Whether an operation closes what stands at a path. -/
def closes (path : String) (operation : Operation) : Bool :=
  operation.isClosing && operation.path = path

/-- An operation opens nothing at any path but its own. -/
theorem opens_of_ne {operation : Operation} {path : String} (elsewhere : operation.path ≠ path) :
    operation.opens path = false := by
  simp [opens, elsewhere]

/-- An operation closes nothing at any path but its own. -/
theorem closes_of_ne {operation : Operation} {path : String} (elsewhere : operation.path ≠ path) :
    operation.closes path = false := by
  simp [closes, elsewhere]

/-- Only revisions open or close. -/
theorem idle_of_effect (operation : Operation)
    (unrevising : ∀ change, operation.effect ≠ .revision change) :
    operation.isOpening = false ∧ operation.isClosing = false := by
  cases operation <;> first | exact ⟨rfl, rfl⟩ | exact absurd rfl (unrevising _)

end Operation

namespace Namespace

/-- How often what stands at a path is open; what is not there is not open. -/
def openCount (space : Namespace) (path : String) : Nat :=
  match space.get? path with
  | some object => object.openCount.toNat
  | none => 0

/-- The operations that are carried out where these are tried in turn. -/
def carriedOut (space : Namespace) : List Operation → List Operation
  | [] => []
  | operation :: rest =>
    match space.apply operation with
    | .ok changed => operation :: changed.carriedOut rest
    | .error _ => space.carriedOut rest

/-- How many operations of a sort are carried out where these are tried in turn. -/
def howOften (space : Namespace) (sort : Operation → Bool) (operations : List Operation) : Nat :=
  (space.carriedOut operations).countP sort

/-! ## Single operations -/

/-- Opening an object counts one opening more, as long as the counter has room. -/
theorem toNat_openObject {object new : Object} (becomes : openObject object = .ok new)
    (room : object.openCount.toNat + 1 < 2 ^ 32) :
    new.openCount.toNat = object.openCount.toNat + 1 := by
  cases becomes
  rw [UInt32.toNat_add, show (1 : UInt32).toNat = 1 from rfl, Nat.mod_eq_of_lt room]

/-- Closing an object counts one opening less, and only if there was one. -/
theorem toNat_closeObject {path : String} {object new : Object}
    (becomes : closeObject path object = .ok new) :
    new.openCount.toNat + 1 = object.openCount.toNat := by
  unfold closeObject at becomes
  split at becomes
  · cases becomes
  next isOpen =>
  cases becomes
  have positive : 0 < object.openCount.toNat :=
    Nat.pos_of_ne_zero fun zero => isOpen (UInt32.toNat_inj.1 zero)
  have less : (object.openCount - 1).toNat = object.openCount.toNat - 1 :=
    UInt32.toNat_sub_of_le _ _ (UInt32.le_iff_toNat_le.2 positive)
  show (object.openCount - 1).toNat + 1 = _
  omega

/-- Extending an object leaves its openings as they are. -/
theorem openCount_extendObject {path : String} {extents : List UInt64} {object new : Object}
    (becomes : extendObject path extents object = .ok new) : new.openCount = object.openCount := by
  unfold extendObject at becomes
  split at becomes
  · split at becomes <;> cases becomes
    rfl
  · cases becomes

/-- Adding an attribute leaves the openings of an object as they are. -/
theorem openCount_addAttribute {path name : String} {object new : Object}
    (becomes : addAttribute path name object = .ok new) : new.openCount = object.openCount := by
  unfold addAttribute at becomes
  split at becomes <;> cases becomes
  rfl

/-- Writing an attribute leaves the openings of an object as they are. -/
theorem openCount_writeAttribute {path name : String} {value : Bytes} {object new : Object}
    (becomes : writeAttribute path name value object = .ok new) :
    new.openCount = object.openCount := by
  unfold writeAttribute at becomes
  split at becomes <;> cases becomes
  rfl

/-- Opening adds one to an object's count, as long as there is room, closing takes one off, and any
other revision leaves the count as it is. -/
theorem openCount_of_revision {operation : Operation} {change : Object → Except DomainError Object}
    (does : operation.effect = .revision change) {object new : Object}
    (becomes : change object = .ok new)
    (room : object.openCount.toNat + operation.isOpening.toNat <
      operation.isClosing.toNat + 2 ^ 32) :
    new.openCount.toNat + operation.isClosing.toNat =
      object.openCount.toNat + operation.isOpening.toNat := by
  cases operation <;> cases does
  case openDataset => exact toNat_openObject becomes (Nat.lt_of_lt_of_eq room (Nat.zero_add _))
  case openGroup => exact toNat_openObject becomes (Nat.lt_of_lt_of_eq room (Nat.zero_add _))
  case closeDataset => exact toNat_closeObject becomes
  case closeGroup => exact toNat_closeObject becomes
  case extendDataset => exact congrArg UInt32.toNat (openCount_extendObject becomes)
  case createAttribute => exact congrArg UInt32.toNat (openCount_addAttribute becomes)
  case writeAttribute => exact congrArg UInt32.toNat (openCount_writeAttribute becomes)

/-- What stands at a path is open as often as it counts itself. -/
theorem openCount_of_found {space : Namespace} {path : String} {object : Object}
    (found : space.get? path = some object) : space.openCount path = object.openCount.toNat := by
  rw [openCount, found]

/-- What is not there is not open. -/
theorem openCount_of_absent {space : Namespace} {path : String} (absent : space.get? path = none) :
    space.openCount path = 0 := by
  rw [openCount, absent]

/-- In a new namespace nothing is open. -/
theorem openCount_empty (path : String) : empty.openCount path = 0 := by
  rw [openCount, get?_empty]
  by_cases atRoot : Path.root = path
  · rw [if_pos atRoot]
    rfl
  · rw [if_neg atRoot]

/-- What an operation that is carried out makes of a count. -/
theorem openCount_of_apply {space changed : Namespace} {operation : Operation}
    (applied : space.apply operation = .ok changed) {path : String}
    (room : space.openCount path + (operation.opens path).toNat <
      (operation.closes path).toNat + 2 ^ 32) :
    changed.openCount path + (operation.closes path).toNat =
      space.openCount path + (operation.opens path).toNat := by
  by_cases here : path = operation.path
  · subst here
    have opening : operation.opens operation.path = operation.isOpening := by
      simp [Operation.opens]
    have closing : operation.closes operation.path = operation.isClosing := by
      simp [Operation.closes]
    rw [opening, closing] at room ⊢
    rcases apply_eq_ok applied with ⟨does, rfl⟩ | ⟨kind, _, _, does, -, -, -, absent, rfl⟩ |
      ⟨change, object, new, does, found, becomes, rfl⟩
    · obtain ⟨unopened, unclosed⟩ := operation.idle_of_effect (by simp [does])
      rw [unopened, unclosed]
    · obtain ⟨unopened, unclosed⟩ := operation.idle_of_effect (by simp [does])
      rw [unopened, unclosed, openCount_of_absent absent, openCount, get?_put, if_pos rfl]
      rfl
    · have put : (space.put operation.path new).get? operation.path = some new := by
        rw [get?_put, if_pos rfl]
      rw [openCount_of_found found] at room ⊢
      rw [openCount_of_found put]
      exact openCount_of_revision does becomes room
  · have same := (change_of_apply applied).get?_of_ne here
    rw [Operation.opens_of_ne (Ne.symm here), Operation.closes_of_ne (Ne.symm here), openCount,
      same, openCount]

/-- What an operation makes of a count, carried out or refused. -/
theorem openCount_after {space : Namespace} {operation : Operation} {path : String}
    (room : space.openCount path + space.howOften (Operation.opens path) [operation] <
      space.howOften (Operation.closes path) [operation] + 2 ^ 32) :
    (space.after operation).openCount path + space.howOften (Operation.closes path) [operation] =
      space.openCount path + space.howOften (Operation.opens path) [operation] := by
  unfold howOften carriedOut after at *
  cases applied : space.apply operation with
  | error cause => rfl
  | ok changed =>
    have single : ∀ sort : Operation → Bool,
        (operation :: changed.carriedOut []).countP sort = (sort operation).toNat := by
      intro sort
      cases chosen : sort operation <;> simp [carriedOut, chosen]
    simp only [applied, single] at room ⊢
    exact openCount_of_apply applied room

/-! ## Operations in turn -/

/-- What is carried out of two lists of operations: the second is tried on what the first leaves. -/
theorem carriedOut_append (space : Namespace) (first second : List Operation) :
    space.carriedOut (first ++ second) =
      space.carriedOut first ++ (space.afterAll first).carriedOut second := by
  induction first generalizing space with
  | nil => rfl
  | cons operation rest inductionHypothesis =>
    rw [afterAll, List.foldl_cons, ← afterAll, List.cons_append, carriedOut, carriedOut, after]
    cases space.apply operation with
    | ok changed => exact congrArg (operation :: ·) (inductionHypothesis changed)
    | error cause => exact inductionHypothesis space

/-- How often a sort of operations is carried out adds up. -/
theorem howOften_append (space : Namespace) (sort : Operation → Bool)
    (first second : List Operation) :
    space.howOften sort (first ++ second) =
      space.howOften sort first + (space.afterAll first).howOften sort second := by
  rw [howOften, carriedOut_append, List.countP_append, howOften, howOften]

/-- Nothing is carried out that was not tried. -/
theorem carriedOut_sublist (space : Namespace) (operations : List Operation) :
    (space.carriedOut operations).Sublist operations := by
  induction operations generalizing space with
  | nil => exact .slnil
  | cons operation rest inductionHypothesis =>
    rw [carriedOut]
    cases space.apply operation with
    | ok changed => exact (inductionHypothesis changed).cons_cons operation
    | error cause => exact (inductionHypothesis space).cons operation

/-- Whether what stands at a path is never open `2 ^ 32` times at once while these operations are
tried. -/
def Countable (operations : List Operation) (path : String) : Prop :=
  ∀ earlier, earlier <+: operations →
    empty.howOften (Operation.opens path) earlier <
      empty.howOften (Operation.closes path) earlier + 2 ^ 32

/-- To be open so often takes as many operations. -/
theorem countable_of_length {operations : List Operation} (short : operations.length < 2 ^ 32)
    (path : String) : Countable operations path := by
  intro earlier isPrefix
  have few : empty.howOften (Operation.opens path) earlier ≤ operations.length :=
    calc
      _ ≤ (empty.carriedOut earlier).length := List.countP_le_length
      _ ≤ earlier.length := (empty.carriedOut_sublist earlier).length_le
      _ ≤ operations.length := isPrefix.length_le
  omega

/-- The count of what stands at a path is that of its openings less that of its closings. -/
theorem openCount_afterAll {operations : List Operation} {path : String}
    (countable : Countable operations path) :
    (empty.afterAll operations).openCount path +
        empty.howOften (Operation.closes path) operations =
      empty.howOften (Operation.opens path) operations := by
  -- From the end, since being countable is about what has been tried up to some point.
  induction operations using List.reverseRecOn with
  | nil => exact openCount_empty path
  | append_singleton earlier operation inductionHypothesis =>
    have before := inductionHypothesis fun first isPrefix =>
      countable first (isPrefix.trans (List.prefix_append _ _))
    have now := countable (earlier ++ [operation]) List.prefix_rfl
    rw [howOften_append, howOften_append] at now ⊢
    have room : (empty.afterAll earlier).openCount path +
          (empty.afterAll earlier).howOften (Operation.opens path) [operation] <
        (empty.afterAll earlier).howOften (Operation.closes path) [operation] + 2 ^ 32 := by
      omega
    have step := openCount_after room
    rw [afterAll, List.foldl_append, List.foldl_cons, List.foldl_nil, ← afterAll]
    omega

/-- In any namespace, what opens is carried out exactly where something stands. -/
theorem carried_iff_of_opens (space : Namespace) {operation : Operation}
    (isOpening : operation.isOpening = true) :
    (∃ changed, space.apply operation = .ok changed) ↔ space.get? operation.path ≠ none := by
  have modified : space.apply operation = space.modify operation.path openObject := by
    cases operation <;> first | rfl | cases isOpening
  rw [modified, modify]
  cases space.get? operation.path with
  | none => simp
  | some object => simp [openObject]

/-- In any namespace, what closes is carried out exactly where something is open. -/
theorem carried_iff_of_closes (space : Namespace) {operation : Operation}
    (isClosing : operation.isClosing = true) :
    (∃ changed, space.apply operation = .ok changed) ↔ 0 < space.openCount operation.path := by
  have modified :
      space.apply operation = space.modify operation.path (closeObject operation.path) := by
    cases operation <;> first | rfl | cases isClosing
  rw [modified, modify, openCount]
  cases space.get? operation.path with
  | none => simp
  | some object =>
    dsimp only
    unfold closeObject
    by_cases zero : object.openCount = 0
    · simp [zero, invalid]
    · have positive := Nat.pos_of_ne_zero fun none => zero (UInt32.toNat_inj.1 none)
      simp [zero, positive]

/-- Whatever operations are tried on the empty namespace, and whatever they are called, as long as
what stands at a path is never open `2 ^ 32` times at once: its count is the number of openings
carried out at the path less that of closings, of which there have never been more. An opening is
then carried out exactly if something stands there, and a closing exactly if there have been more
openings than closings. -/
theorem openings_balance_closings (operations : List Operation) (path : String)
    (countable : Countable operations path) :
    let space := empty.afterAll operations
    let opened := empty.howOften (Operation.opens path) operations
    let closed := empty.howOften (Operation.closes path) operations
    closed ≤ opened ∧
    (∀ object, space.get? path = some object → object.openCount.toNat = opened - closed) ∧
    (∀ operation, operation.opens path = true →
      ((∃ changed, space.apply operation = .ok changed) ↔ space.get? path ≠ none)) ∧
    ∀ operation, operation.closes path = true →
      ((∃ changed, space.apply operation = .ok changed) ↔ closed < opened) := by
  intro space opened closed
  have balance : space.openCount path + closed = opened := openCount_afterAll countable
  refine ⟨by omega, ?_, ?_, ?_⟩
  · intro object found
    rw [openCount_of_found found] at balance
    omega
  · intro operation opens
    obtain ⟨isOpening, rfl⟩ : operation.isOpening = true ∧ operation.path = path := by
      simpa [Operation.opens] using opens
    exact space.carried_iff_of_opens isOpening
  · intro operation closes
    obtain ⟨isClosing, rfl⟩ : operation.isClosing = true ∧ operation.path = path := by
      simpa [Operation.closes] using closes
    rw [space.carried_iff_of_closes isClosing]
    omega

/-- A group that is opened as a dataset and closed as it is, and closed once more in vain. -/
def groupOpenedAsDataset : List Operation :=
  [.createGroup "/g", .openDataset "/g", .openGroup "/g", .closeGroup "/g", .closeDataset "/g",
    .closeGroup "/g"]

/-- A group that is opened and closed as a dataset is counted like any other; it may be opened once
more, but not closed. -/
theorem openings_balance_closings_groupOpenedAsDataset :
    Countable groupOpenedAsDataset "/g" ∧
    (∃ group, (empty.afterAll groupOpenedAsDataset).get? "/g" = some group ∧
      group.openCount.toNat = 2 - 2) ∧
    (∃ changed, (empty.afterAll groupOpenedAsDataset).apply (.openDataset "/g") = .ok changed) ∧
    ¬ ∃ changed,
      (empty.afterAll groupOpenedAsDataset).apply (.closeDataset "/g") = .ok changed := by
  have countable : Countable groupOpenedAsDataset "/g" := countable_of_length (by decide) "/g"
  have opened : empty.howOften (Operation.opens "/g") groupOpenedAsDataset = 2 := by decide +kernel
  have closed : empty.howOften (Operation.closes "/g") groupOpenedAsDataset = 2 := by decide +kernel
  have present : (empty.afterAll groupOpenedAsDataset).get? "/g" ≠ none := by decide +kernel
  obtain ⟨-, count, opening, closing⟩ :=
    openings_balance_closings groupOpenedAsDataset "/g" countable
  rw [opened, closed] at count
  rw [opened, closed] at closing
  obtain ⟨group, found⟩ := Option.ne_none_iff_exists'.1 present
  exact ⟨countable, ⟨group, found, count group found⟩, (opening (.openDataset "/g") rfl).2 present,
    fun carried => absurd ((closing (.closeDataset "/g") rfl).1 carried) (Nat.lt_irrefl 2)⟩

/-- However often a group is opened, its count goes on, and around at its end. -/
theorem afterAll_openGroup {space : Namespace} {path : String} {object : Object}
    (found : space.get? path = some object) (times : Nat) :
    (space.afterAll (List.replicate times (.openGroup path))).get? path =
        some { object with openCount := object.openCount + UInt32.ofNat times } ∧
      space.howOften (Operation.opens path) (List.replicate times (.openGroup path)) = times := by
  induction times generalizing space object with
  | zero => exact ⟨by simpa [afterAll] using found, rfl⟩
  | succ times inductionHypothesis =>
    let opened : Object := { object with openCount := object.openCount + 1 }
    have changes : openObject object = .ok opened := rfl
    have applied : space.apply (.openGroup path) = .ok (space.put path opened) :=
      modify_of_found found changes
    have foundThen : (space.put path opened).get? path = some opened := by
      rw [get?_put, if_pos rfl]
    obtain ⟨later, often⟩ := inductionHypothesis foundThen
    have goesOn : object.openCount + 1 + UInt32.ofNat times =
        object.openCount + UInt32.ofNat (times + 1) := by
      rw [UInt32.add_assoc, UInt32.ofNat_add, UInt32.add_comm (UInt32.ofNat times)]
      rfl
    constructor
    · rw [List.replicate_succ, afterAll, List.foldl_cons, ← afterAll, after, applied]
      exact later.trans (by rw [goesOn])
    · rw [List.replicate_succ, howOften, carriedOut, applied]
      simp only [List.countP_cons]
      rw [← howOften, often]
      simp [Operation.opens, Operation.isOpening, Operation.path]

/-- A dataset that is opened as a group, and a datatype that is opened as a dataset. -/
def openedAsOtherKind : List Operation :=
  [.createDataset "/d" [2], .openGroup "/d", .commitDatatype "/t", .openDataset "/t"]

/-- What is opened under another name is open all the same, a datatype can be opened, and what is
opened `2 ^ 32` times is counted as not open. -/
theorem counted_under_any_name :
    ((empty.afterAll openedAsOtherKind).openCount "/d" = 1 ∧
      empty.howOften (fun operation => operation = .openDataset "/d") openedAsOtherKind = 0) ∧
    (((empty.afterAll openedAsOtherKind).get? "/t").map Object.kind = some .datatype ∧
      (empty.afterAll openedAsOtherKind).openCount "/t" = 1) ∧
    (empty.howOften (Operation.opens "/") (List.replicate (2 ^ 32) (.openGroup "/")) = 2 ^ 32 ∧
      (empty.afterAll (List.replicate (2 ^ 32) (.openGroup "/"))).openCount "/" = 0) := by
  refine ⟨⟨by decide +kernel, by decide +kernel⟩, ⟨by decide +kernel, by decide +kernel⟩, ?_⟩
  have found : empty.get? Path.root = some (.create .group) := by rw [get?_empty, if_pos rfl]
  obtain ⟨later, often⟩ := afterAll_openGroup found (2 ^ 32)
  exact ⟨often, (openCount_of_found later).trans (by decide)⟩

end Namespace

end Concord
