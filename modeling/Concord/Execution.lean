import Concord.Proposal.Bag

/-!
# Execution

The execution queue holds proposals that are due. `ExecutionQueue.executeAll` hands them to
an executor one at a time in the global order. A proposal leaves the queue before it is
handed over, so one that fails is gone and those not yet tried remain.
-/

namespace Concord

/-- Why an executor refused a proposal. -/
inductive ExecutorError where
  /-- No operation has this tag. -/
  | unknownOperation (tag : OpTag)
  /-- The payload is no operation of the proposal's kind. -/
  | invalidPayload (tag : OpTag) (reason : String)
  /-- The operation cannot be carried out. -/
  | failed (reason : String)
deriving DecidableEq, Inhabited

/-- The name of each refusal. -/
def ExecutorError.kind : ExecutorError → String
  | .unknownOperation _ => "UnknownOp"
  | .invalidPayload _ _ => "InvalidPayload"
  | .failed _ => "Failed"

/-- The wording of each refusal. -/
def ExecutorError.message : ExecutorError → String
  | .unknownOperation tag => "Unknown operation tag: " ++ tag.name
  | .invalidPayload tag reason => "Invalid payload for " ++ tag.name ++ ": " ++ reason
  | .failed reason => "Execution failed: " ++ reason

/-- Why a queued proposal could not be executed. -/
inductive ExecutionError where
  | executor (cause : ExecutorError)
  /-- The proposal's life does not allow it to become executed. -/
  | lifecycle (cause : DomainError)
deriving DecidableEq, Inhabited

/-- The name of each failure, with the name of its cause. -/
def ExecutionError.kind : ExecutionError → String
  | .executor cause => "Executor/" ++ cause.kind
  | .lifecycle cause => "Lifecycle/" ++ cause.kind

/-- The wording of each failure. -/
def ExecutionError.message : ExecutionError → String
  | .executor cause => cause.message
  | .lifecycle cause => "Lifecycle: " ++ cause.message

/-- Something that carries out proposals. It may refuse, and it may give a handle. -/
structure Executor (State Handle : Type) where
  execute : State → Proposal → Except ExecutorError (Option Handle) × State

/-- The record of one executed proposal. -/
structure Executed (Handle : Type) where
  key : OrderKey
  tag : OpTag
  isLocal : Bool
  handle : Option Handle
deriving DecidableEq

/-- The record of a proposal that gave a handle or none. -/
def Executed.ofProposal {Handle : Type} (proposal : Proposal) (handle : Option Handle) :
    Executed Handle :=
  ⟨proposal.key, proposal.tag, proposal.isLocal, handle⟩

/-- Proposals that are due. -/
structure ExecutionQueue where
  entries : List Proposal
deriving DecidableEq, Inhabited

namespace ExecutionQueue

/-- A queue with nothing due. -/
def empty : ExecutionQueue :=
  ⟨[]⟩

/-- How many proposals are due. -/
def size (queue : ExecutionQueue) : Nat :=
  queue.entries.length

/-- Whether nothing is due. -/
def isEmpty (queue : ExecutionQueue) : Bool :=
  queue.entries.isEmpty

/-- Queue an approved proposal. -/
def add (queue : ExecutionQueue) (proposal : Proposal) : Except DomainError ExecutionQueue :=
  match proposal.advance .readyExecute with
  | .error cause => .error cause
  | .ok ready => .ok ⟨queue.entries ++ [ready]⟩

/-- Take out the proposal that is first in the global order. -/
def popOldest? (queue : ExecutionQueue) : Option (Proposal × ExecutionQueue) :=
  (Bag.popOldest? queue.entries).map fun (found, left) => (found, ⟨left⟩)

/-- Popping makes the queue smaller, so popping until nothing is left ends. -/
theorem size_of_popOldest? {queue left : ExecutionQueue} {found : Proposal}
    (popped : queue.popOldest? = some (found, left)) : left.size < queue.size := by
  unfold popOldest? at popped
  obtain ⟨⟨taken, remaining⟩, bagPopped, shape⟩ := Option.map_eq_some_iff.1 popped
  cases shape
  exact Bag.length_of_popOldest? bagPopped

variable {State Handle : Type}

/-- Mark a proposal as executed and record what the executor made of it. -/
def conclude (proposal : Proposal) (answer : Except ExecutorError (Option Handle)) :
    Except ExecutionError (Executed Handle) :=
  match answer with
  | .error cause => .error (.executor cause)
  | .ok handle =>
    match proposal.advance .executed with
    | .error cause => .error (.lifecycle cause)
    | .ok executed => .ok (Executed.ofProposal executed handle)

/-- Execute the proposal that is first in the global order, if any is due. -/
def executeOne (executor : Executor State Handle) (queue : ExecutionQueue) (state : State) :
    Except ExecutionError (Option (Executed Handle)) × ExecutionQueue × State :=
  match queue.popOldest? with
  | none => (.ok none, queue, state)
  | some (proposal, left) =>
    let (answer, after) := executor.execute state proposal
    ((conclude proposal answer).map some, left, after)

/-- Execute everything that is due, in the global order, up to the first failure. -/
def executeAll (executor : Executor State Handle) (queue : ExecutionQueue) (state : State) :
    Except ExecutionError (List (Executed Handle)) × ExecutionQueue × State :=
  match _popped : queue.popOldest? with
  | none => (.ok [], queue, state)
  | some (proposal, left) =>
    let (answer, after) := executor.execute state proposal
    match conclude proposal answer with
    | .error cause => (.error cause, left, after)
    | .ok record =>
      let (records, remaining, final) := executeAll executor left after
      (records.map (record :: ·), remaining, final)
termination_by queue.size
decreasing_by exact size_of_popOldest? _popped

end ExecutionQueue

end Concord
