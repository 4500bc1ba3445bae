import Concord.Proofs.Hierarchy
import Concord.Replica

/-!
# Changes in place

A process changes its namespace in place, step by step, and what has been written when a fault is
found stays written. An `Edit` is made of such steps. Taken in the order in which a process takes
them, the steps of an operation come to what `Namespace.apply` says (`Namespace.on_edit`), and
those of a proposal to what `Replica.execute` says (`Replica.on_edit`): every check stands before
the first thing that is written. So what is refused leaves no trace, and what is carried out is
written at one path.
-/

namespace Concord

/-- Steps that change a state in place and may end with a fault. -/
abbrev Edit (Fault State : Type) :=
  ExceptT Fault (StateM State)

namespace Edit

variable {Fault State Value : Type}

/-- What comes of steps, and the state that they leave behind. -/
def on (edit : Edit Fault State Value) (state : State) : Except Fault Value × State :=
  Id.run (StateT.run (ExceptT.run edit) state)

/-- An edit that is done changes nothing. -/
@[simp] theorem on_pure (value : Value) (state : State) :
    on (pure value : Edit Fault State Value) state = (.ok value, state) :=
  rfl

/-- An edit that fails leaves what was changed before it. -/
@[simp] theorem on_throw (fault : Fault) (state : State) :
    on (throw fault : Edit Fault State Value) state = (.error fault, state) :=
  rfl

/-- An outcome that is given changes nothing. -/
@[simp] theorem on_ofExcept (outcome : Except Fault Value) (state : State) :
    on (ofExcept outcome : Edit Fault State Value) state = (outcome, state) := by
  cases outcome <;> rfl

/-- Reading the state changes nothing. -/
@[simp] theorem on_get (state : State) :
    on (get : Edit Fault State State) state = (.ok state, state) :=
  rfl

/-- A change is made at once. -/
@[simp] theorem on_modify (change : State → State) (state : State) :
    on (modify change : Edit Fault State Unit) state = (.ok (), change state) :=
  rfl

/-- After a fault no further step is taken, and the state stays as it was then. -/
@[simp] theorem on_bind {Next : Type} (edit : Edit Fault State Value)
    (next : Value → Edit Fault State Next) (state : State) :
    on (edit >>= next) state =
      match on edit state with
      | (.ok value, after) => on (next value) after
      | (.error fault, after) => (.error fault, after) := by
  unfold on ExceptT.run StateT.run Id.run
  simp only [bind, ExceptT.bind, ExceptT.mk, StateT.bind]
  cases edit state with
  | mk outcome after => cases outcome <;> rfl

/-- A change that is made whole, or a fault that leaves everything as it was. -/
def allOrNothing (state : State) : Except Fault State → Except Fault Unit × State
  | .ok changed => (.ok (), changed)
  | .error fault => (.error fault, state)

/-! ## Steps on an object -/

/-- Open an object once more. -/
def openObject : Edit DomainError Object Unit :=
  modify fun object => { object with openCount := object.openCount + 1 }

/-- Close an object, unless its count is at zero. -/
def closeObject (path : String) : Edit DomainError Object Unit := do
  if (← get).openCount = 0 then
    ofExcept (Namespace.invalid "path" (path ++ " is not open"))
  modify fun object => { object with openCount := object.openCount - 1 }

/-- Extend a dataset, unless an extent would be lost or become smaller. -/
def extendObject (path : String) (extents : List UInt64) : Edit DomainError Object Unit := do
  let .dataset current := (← get).kind
    | ofExcept (Namespace.invalid "path" (path ++ " is not a dataset"))
  if !Namespace.grows current extents then
    ofExcept (Namespace.invalid "dims" ("cannot shrink or reshape " ++
      Namespace.renderExtents current ++ " to " ++ Namespace.renderExtents extents))
  modify fun object => { object with kind := .dataset extents }

/-- Give an object an attribute that it does not have. -/
def addAttribute (path name : String) : Edit DomainError Object Unit := do
  if (← get).attributes.contains name then
    ofExcept (Namespace.invalid "name" ("attribute " ++ name ++ " already exists on " ++ path))
  modify fun object => { object with attributes := object.attributes.insert name none }

/-- Write to an attribute that an object has. -/
def writeAttribute (path name : String) (value : Bytes) : Edit DomainError Object Unit := do
  if !(← get).attributes.contains name then
    throw (.notFound "attribute" (path ++ "@" ++ name))
  modify fun object => { object with attributes := object.attributes.insert name (some value) }

/-- Opening an object changes it whole or not at all. -/
theorem on_openObject (object : Object) :
    openObject.on object = allOrNothing object (Namespace.openObject object) :=
  rfl

/-- Closing an object changes it whole or not at all. -/
theorem on_closeObject (path : String) (object : Object) :
    (closeObject path).on object = allOrNothing object (Namespace.closeObject path object) := by
  unfold closeObject Namespace.closeObject
  simp only [on_bind, on_get]
  split <;> simp [allOrNothing, Namespace.invalid]

/-- Extending an object changes it whole or not at all, though the check and the change are two
steps. -/
theorem on_extendObject (path : String) (extents : List UInt64) (object : Object) :
    (extendObject path extents).on object =
      allOrNothing object (Namespace.extendObject path extents object) := by
  unfold extendObject Namespace.extendObject
  simp only [on_bind, on_get]
  split
  · cases grown : Namespace.grows _ extents <;> simp_all [allOrNothing, Namespace.invalid]
  · simp [allOrNothing, Namespace.invalid]

/-- Adding an attribute changes an object whole or not at all. -/
theorem on_addAttribute (path name : String) (object : Object) :
    (addAttribute path name).on object =
      allOrNothing object (Namespace.addAttribute path name object) := by
  unfold addAttribute Namespace.addAttribute
  simp only [on_bind, on_get]
  split <;> simp [allOrNothing, Namespace.invalid]

/-- Writing an attribute changes an object whole or not at all. -/
theorem on_writeAttribute (path name : String) (value : Bytes) (object : Object) :
    (writeAttribute path name value).on object =
      allOrNothing object (Namespace.writeAttribute path name value object) := by
  unfold writeAttribute Namespace.writeAttribute
  simp only [on_bind, on_get]
  cases held : object.attributes.contains name <;> simp [allOrNothing]

/-! ## Steps on a namespace -/

/-- Create an object, once it is known that a group is above and nothing is there. -/
def create (path : String) (kind : ObjectKind) : Edit DomainError Namespace Unit := do
  let some parent := Path.parent? path
    | ofExcept (Namespace.invalid "path" (path ++ " is not an absolute child path"))
  match ((← get).get? parent).map Object.kind with
  | some .group => pure ()
  | some _ => ofExcept (Namespace.invalid "path" ("parent " ++ parent ++ " is not a group"))
  | none => throw (.notFound "group" parent)
  if ((← get).get? path).isSome then
    ofExcept (Namespace.invalid "path" (path ++ " already exists"))
  modify fun space => space.put path (.create kind)

/-- Take steps on the object at a path. Whatever they have made of it when they end with a fault
stays. -/
def within (path : String) (edit : Edit DomainError Object Unit) :
    Edit DomainError Namespace Unit := do
  match (← get).get? path with
  | none => throw (.notFound "object" path)
  | some object =>
    let (outcome, left) := edit.on object
    modify fun space => space.put path left
    ofExcept outcome

/-- Creating an object changes the namespace whole or not at all. -/
theorem on_create (path : String) (kind : ObjectKind) (space : Namespace) :
    (create path kind).on space = allOrNothing space (space.create path kind) := by
  unfold create Namespace.create
  cases below : Path.parent? path with
  | none => simp [allOrNothing, Namespace.invalid]
  | some parent =>
    simp only [on_bind, on_get]
    cases (space.get? parent).map Object.kind with
    | none => rfl
    | some above =>
      cases above with
      | group =>
        simp only [on_bind, on_get]
        split <;> simp [allOrNothing, Namespace.invalid]
      | dataset extents => simp [allOrNothing, Namespace.invalid]
      | datatype => simp [allOrNothing, Namespace.invalid]

/-- Where steps leave an object as it was when they end with a fault, they leave the namespace. -/
theorem on_within {path : String} {edit : Edit DomainError Object Unit}
    {change : Object → Except DomainError Object}
    (whole : ∀ object, edit.on object = allOrNothing object (change object)) (space : Namespace) :
    (within path edit).on space = allOrNothing space (space.modify path change) := by
  unfold within Namespace.modify
  simp only [on_bind, on_get]
  cases found : space.get? path with
  | none => rfl
  | some object =>
    dsimp only
    rw [whole]
    cases change object with
    | ok new => rfl
    | error cause =>
      simp [allOrNothing, Namespace.put_self found]

end Edit

/-- The steps of an operation. -/
def Operation.edit : Operation → Edit DomainError Namespace Unit
  | .close => pure ()
  | .createGroup path => Edit.create path .group
  | .createDataset path extents => Edit.create path (.dataset extents)
  | .commitDatatype path => Edit.create path .datatype
  | .openDataset path => Edit.within path Edit.openObject
  | .openGroup path => Edit.within path Edit.openObject
  | .closeDataset path => Edit.within path (Edit.closeObject path)
  | .closeGroup path => Edit.within path (Edit.closeObject path)
  | .extendDataset path extents => Edit.within path (Edit.extendObject path extents)
  | .createAttribute path name => Edit.within path (Edit.addAttribute path name)
  | .writeAttribute path name value => Edit.within path (Edit.writeAttribute path name value)

namespace Namespace

/-- Whether an operation is carried out, and if not, why. -/
def verdict (space : Namespace) (operation : Operation) : Except DomainError Unit :=
  (space.apply operation).map fun _ => ()

/-- Taken one after the other, the steps of an operation come to what is made of it as a whole. -/
theorem on_edit (space : Namespace) (operation : Operation) :
    operation.edit.on space = (space.verdict operation, space.after operation) := by
  have whole : operation.edit.on space = Edit.allOrNothing space (space.apply operation) := by
    cases operation with
    | close => rfl
    | createGroup path => exact Edit.on_create path .group space
    | createDataset path extents => exact Edit.on_create path (.dataset extents) space
    | commitDatatype path => exact Edit.on_create path .datatype space
    | openDataset path => exact Edit.on_within Edit.on_openObject space
    | openGroup path => exact Edit.on_within Edit.on_openObject space
    | closeDataset path => exact Edit.on_within (Edit.on_closeObject path) space
    | closeGroup path => exact Edit.on_within (Edit.on_closeObject path) space
    | extendDataset path extents => exact Edit.on_within (Edit.on_extendObject path extents) space
    | createAttribute path name => exact Edit.on_within (Edit.on_addAttribute path name) space
    | writeAttribute path name value =>
      exact Edit.on_within (Edit.on_writeAttribute path name value) space
  rw [whole, verdict, after]
  cases space.apply operation <;> rfl

end Namespace

/-! ## Steps on a replica -/

namespace Replica

/-- Take steps on the namespace of a replica. Whatever they have made of it when they end with a
fault stays, and the fault is told in words. -/
def onSpace (edit : Edit DomainError Namespace Unit) : Edit ExecutorError Replica Unit := do
  let (outcome, space) := edit.on (← get).space
  modify fun replica => { replica with space }
  ofExcept (outcome.mapError fun cause => .failed cause.message)

/-- The steps of carrying out the operation that a proposal encodes. -/
def edit (proposal : Proposal) : Edit ExecutorError Replica (Option ObjectHandle) := do
  let operation ← ofExcept (Payload.decode proposal.tag proposal.payload)
  onSpace operation.edit
  modify fun replica => { replica with log := replica.log ++ [entryOf proposal operation] }
  if operation = .close then
    modify fun replica => { replica with closes := replica.closes + 1 }
  if !proposal.isLocal then
    return none
  modify fun replica => { replica with handles := replica.handles + 1 }
  return some ⟨(← get).handles, operation.path⟩

/-- An operation that is refused leaves the replica as it was; one that succeeds changes its
namespace. -/
theorem on_onSpace (replica : Replica) (operation : Operation) :
    (onSpace operation.edit).on replica =
      match replica.space.apply operation with
      | .ok space => (.ok (), { replica with space })
      | .error cause => (.error (.failed cause.message), replica) := by
  unfold onSpace
  simp only [Edit.on_bind, Edit.on_get, Namespace.on_edit, Namespace.verdict, Namespace.after]
  cases replica.space.apply operation <;> rfl

/-- Taken one after the other, the steps of a proposal come to what is made of it as a whole. -/
theorem on_edit (replica : Replica) (proposal : Proposal) :
    (edit proposal).on replica = replica.execute proposal := by
  unfold edit execute
  simp only [Edit.on_bind, Edit.on_ofExcept]
  cases Payload.decode proposal.tag proposal.payload with
  | error cause => rfl
  | ok operation =>
    dsimp only
    rw [on_onSpace]
    cases replica.space.apply operation with
    | error cause => rfl
    | ok space =>
      dsimp only
      unfold note
      by_cases closing : operation = .close <;>
        cases proposal.isLocal <;> simp [closing, -bind_pure_comp]

end Replica

namespace Namespace

/-- An operation that is refused leaves the namespace as it was. -/
theorem after_of_refused {space : Namespace} {operation : Operation} {cause : DomainError}
    (refused : space.verdict operation = .error cause) : space.after operation = space := by
  unfold after
  cases applied : space.apply operation with
  | error cause => rfl
  | ok changed =>
    rw [verdict, applied] at refused
    cases refused

end Namespace

/-- A proposal that is refused leaves the replica as it was, its log included. -/
theorem Replica.after_of_refused {replica after : Replica} {proposal : Proposal}
    {cause : ExecutorError} (refused : replica.execute proposal = (.error cause, after)) :
    after = replica := by
  unfold execute at refused
  split at refused
  · cases refused
    rfl
  · split at refused <;> cases refused
    rfl

/-- Changing a namespace or a replica in place is as good as changing it as a whole. An operation
that is refused leaves the namespace as it was, and one that is carried out leaves every other path
with the object that was there, or without one. A proposal that is refused, whatever its tag and its
payload, leaves the replica as it was. -/
theorem refusals_leave_no_trace :
    (∀ (space : Namespace) (operation : Operation),
      operation.edit.on space = (space.verdict operation, space.after operation) ∧
      (∀ cause after, operation.edit.on space = (.error cause, after) → after = space) ∧
      ∀ after, operation.edit.on space = (.ok (), after) →
        ∀ path, path ≠ operation.path → after.get? path = space.get? path) ∧
    ∀ (replica : Replica) (proposal : Proposal),
      (Replica.edit proposal).on replica = replica.execute proposal ∧
      ∀ cause after, replica.execute proposal = (.error cause, after) → after = replica := by
  refine ⟨fun space operation => ⟨space.on_edit operation, ?_, ?_⟩, fun replica proposal =>
    ⟨replica.on_edit proposal, fun _ _ refused => Replica.after_of_refused refused⟩⟩
  · intro cause after refused
    rw [space.on_edit, Prod.mk.injEq] at refused
    obtain ⟨verdict, rfl⟩ := refused
    exact Namespace.after_of_refused verdict
  · intro after carried path elsewhere
    rw [space.on_edit, Prod.mk.injEq] at carried
    obtain ⟨-, rfl⟩ := carried
    exact space.get?_after_of_ne elsewhere

/-- A dataset under the root. -/
def withDataset : Namespace :=
  Namespace.empty.put "/d" (.create (.dataset [2]))

/-- A proposal to open what is not there. -/
def openAbsent : Proposal :=
  ⟨⟨0⟩, .readyExecute, ⟨4⟩, true, ⟨2⟩, Payload.encode (.openDataset "/d")⟩

/-- Extending a dataset to less and to more, and opening one that is not there. -/
theorem refusals_leave_no_trace_withDataset :
    (∃ after, (Operation.extendDataset "/d" [1]).edit.on withDataset =
        (.error (.validation "dims" "cannot shrink or reshape [2] to [1]"), after) ∧
      after = withDataset) ∧
    (∃ after, (Operation.extendDataset "/d" [3]).edit.on withDataset = (.ok (), after) ∧
      "/" ≠ "/d" ∧ after.get? "/" = withDataset.get? "/") ∧
    ∃ after, Replica.create.execute openAbsent = (.error (.failed "object not found: /d"), after) ∧
      after = Replica.create := by
  obtain ⟨operations, proposals⟩ := refusals_leave_no_trace
  have shrinking : withDataset.verdict (.extendDataset "/d" [1]) =
      .error (.validation "dims" "cannot shrink or reshape [2] to [1]") := by decide +kernel
  have growing : withDataset.verdict (.extendDataset "/d" [3]) = .ok () := by decide +kernel
  have missing :
      (Replica.create.execute openAbsent).1 = .error (.failed "object not found: /d") := by
    decide +kernel
  obtain ⟨shrunk, refused, -⟩ := operations withDataset (.extendDataset "/d" [1])
  obtain ⟨grown, -, carried⟩ := operations withDataset (.extendDataset "/d" [3])
  rw [shrinking] at shrunk
  rw [growing] at grown
  have executed : Replica.create.execute openAbsent =
      (.error (.failed "object not found: /d"), (Replica.create.execute openAbsent).2) :=
    Prod.ext missing rfl
  exact ⟨⟨_, shrunk, refused _ _ shrunk⟩,
    ⟨_, grown, by decide, carried _ grown "/" (by decide)⟩,
    ⟨_, executed, (proposals Replica.create openAbsent).2 _ _ executed⟩⟩

end Concord
