import Concord.Config
import Concord.Coordinator.Stage
import Concord.Ledger

/-!
# Coordinators

A coordinator keeps one process in step with the others. `begin` functions start a call and
`resume` takes it from one stage to the next with the answer it waited for; together they
are the whole behaviour, and no other module decides anything about it.

In voted mode a submission is put to the vote, waits until its window has passed, and then
drains the ledger, so that whatever could still be admitted before it already has been. In
broadcast mode a submission waits for a proposal of every slot and executes that round.
-/

namespace Concord

/-- The state of one process between and during calls. -/
structure Coordinator where
  config : CoordinatorConfig
  ledger : Ledger
  queue : ExecutionQueue
deriving DecidableEq, Inhabited

namespace Coordinator

variable {Handle : Type}

/-- A coordinator that holds nothing, if its settings can run. -/
def create (config : CoordinatorConfig) : Except CoordinatorError Coordinator :=
  match config.validate with
  | .error cause => .error (.config cause)
  | .ok () => .ok ⟨config, .empty, .empty⟩

/-! ## Starting a call -/

/-- Put a proposal to the vote. -/
def beginVoted (proposal : Proposal) : Control Handle :=
  match proposal.start .inProgress with
  | .error cause => .returned (.error (.voting cause))
  | .ok offered => .waiting (.offering offered)

/-- Send a proposal to every other process. -/
def beginBroadcast (proposal : Proposal) : Control Handle :=
  match proposal.start .approved with
  | .error cause => .returned (.error (.voting cause))
  | .ok offered => .waiting (.broadcasting offered)

/-- Submit a proposal in the way that the mode asks for. -/
def beginSubmit (coordinator : Coordinator) (proposal : Proposal) : Control Handle :=
  match coordinator.config.mode with
  | .voted => beginVoted proposal
  | .broadcast => beginBroadcast proposal

/-- Take in what has arrived and, in voted mode, execute what has aged. -/
def beginProgress (coordinator : Coordinator) : Control Handle :=
  match coordinator.config.mode with
  | .voted => .waiting (.awaitingDrain .tick)
  | .broadcast => .waiting .listening

/-- Leave the world. -/
def beginClose : Control Handle :=
  .waiting .finalizing

/-! ## From stage to stage -/

/-- Move every proposal that has aged by `now` from the ledger to the queue, oldest first,
up to the first that cannot be queued. -/
def moveAged (coordinator : Coordinator) (now : Timestamp) :
    Coordinator × Option Breach :=
  match _popped : coordinator.ledger.popOldest? with
  | none => (coordinator, none)
  | some (proposal, left) =>
    if proposal.ageAt now < coordinator.config.windowMicros.toNat then
      (coordinator, none)
    else
      match coordinator.queue.add proposal with
      | .error cause => ({ coordinator with ledger := left }, some (.notQueued proposal.id cause))
      | .ok queue => moveAged { coordinator with ledger := left, queue } now
termination_by coordinator.ledger.size
decreasing_by exact Ledger.size_of_popOldest? _popped

/-- Queue the proposals of a round in turn, up to the first that cannot be queued. -/
def queueRound (coordinator : Coordinator) : List Proposal → Coordinator × Option Breach
  | [] => (coordinator, none)
  | proposal :: rest =>
    match coordinator.queue.add proposal with
    | .error cause => (coordinator, some (.notQueued proposal.id cause))
    | .ok queue => queueRound { coordinator with queue } rest

/-- The handle of the own proposal among the records of a batch. -/
def ownResult? (key : OrderKey) (records : List (Executed Handle)) : Option (Option Handle) :=
  (records.find? fun record => record.isLocal && decide (record.key = key)).map Executed.handle

/-- Go on after a batch has been executed. -/
def afterBatch (cause : BatchCause) (records : List (Executed Handle)) : Control Handle :=
  match cause with
  | .drained .tick => .returned (.ok (.executed records.length))
  | .drained (.submission key) =>
    match ownResult? key records with
    | none => .returned (.error (.invariant (.notExecuted key)))
    | some result => .waiting (.confirming key result)
  | .round key =>
    match ownResult? key records with
    | none => .returned (.error (.invariant (.notExecuted key)))
    | some result => .returned (.ok (.submitted (.committed result)))

/-- Hand over the next proposal that is due, or go on after the batch if none is. -/
def executeNext (coordinator : Coordinator) (cause : BatchCause)
    (records : List (Executed Handle)) : Coordinator × Control Handle :=
  match coordinator.queue.popOldest? with
  | none => (coordinator, afterBatch cause records)
  | some (proposal, queue) =>
    ({ coordinator with queue }, .waiting (.executing cause records proposal))

/-- Wait for a proposal of every slot, then take out a round and execute it. -/
def awaitRound (coordinator : Coordinator) (key : OrderKey) : Coordinator × Control Handle :=
  if coordinator.ledger.distinctIds < coordinator.config.worldSize then
    (coordinator, .waiting (.awaitingQuorum key))
  else
    let (round, left) := coordinator.ledger.takeRound
    match queueRound { coordinator with ledger := left } round with
    | (queued, some breach) => (queued, .returned (.error (.invariant breach)))
    | (queued, none) => queued.executeNext (.round key) []

/-- Act on how the own ballot stands. -/
def resolve (coordinator : Coordinator) (proposal : Proposal) (status : VoteStatus) :
    Coordinator × Control Handle :=
  match status with
  | .inProgress => (coordinator, .waiting (.awaitingVotes proposal))
  | .unknown => (coordinator, .returned (.error (.unknownProposal proposal.id)))
  | .denied =>
    match proposal.advance .denied with
    | .error cause => (coordinator, .returned (.error (.invariant (.transition proposal.id cause))))
    | .ok _ => (coordinator, .waiting .releasingDenied)
  | .approved =>
    match proposal.advance .approved with
    | .error cause => (coordinator, .returned (.error (.invariant (.transition proposal.id cause))))
    | .ok approved =>
      ({ coordinator with ledger := coordinator.ledger.add approved.markLocal },
        .waiting (.aging approved.key))

/-- Go on after every waiting envelope has entered the ledger. -/
def afterAbsorbing (coordinator : Coordinator) (next : AfterAbsorbing) :
    Coordinator × Control Handle :=
  match next with
  | .resolution proposal status => coordinator.resolve proposal status
  | .aging key => (coordinator, .waiting (.aging key))
  | .drain cause => (coordinator, .waiting (.draining cause))
  | .quorum key => coordinator.awaitRound key
  | .nothing => (coordinator, .returned (.ok (.executed 0)))

/-- Enter the proposal of an envelope that another process got approved. -/
def absorb (coordinator : Coordinator) (envelope : Bytes) :
    Except CoordinatorError Coordinator :=
  match Proposal.ofEnvelope envelope with
  | .error cause => .error (.voting cause)
  | .ok proposal =>
    match proposal.advance .approved with
    | .error cause => .error (.invariant (.transition proposal.id cause))
    | .ok approved => .ok { coordinator with ledger := coordinator.ledger.add approved }

/-- Move what has aged to the queue; a submission goes on until the ledger is empty. -/
def drain (coordinator : Coordinator) (cause : DrainCause) (now : Timestamp) :
    Coordinator × Control Handle :=
  match coordinator.moveAged now with
  | (moved, some breach) => (moved, .returned (.error (.invariant breach)))
  | (moved, none) =>
    match cause with
    | .tick => moved.executeNext (.drained .tick) []
    | .submission key =>
      if moved.ledger.isEmpty then moved.executeNext (.drained (.submission key)) []
      else (moved, .waiting (.awaitingDrain (.submission key)))

/-- Go on with a proposal that the executor has answered for. -/
def record (coordinator : Coordinator) (cause : BatchCause) (records : List (Executed Handle))
    (proposal : Proposal) (answer : Except ExecutorError (Option Handle)) :
    Coordinator × Control Handle :=
  match ExecutionQueue.conclude proposal answer with
  | .error (.executor cause) => (coordinator, .returned (.error (.executor cause)))
  | .error (.lifecycle cause) => (coordinator, .returned (.error (.invariant (.notMarked cause))))
  | .ok executed => coordinator.executeNext cause (records ++ [executed])

/-- Go on if the voting service did what it was asked, and fail as it did otherwise. -/
def onSuccess (coordinator : Coordinator) (answer : Except VotingError Unit)
    (next : Coordinator × Control Handle) : Coordinator × Control Handle :=
  match answer with
  | .error cause => (coordinator, .returned (.error (.voting cause)))
  | .ok () => next

/-- Take a call to its next stage with the answer that it waited for. -/
def resume (coordinator : Coordinator) :
    (stage : Stage Handle) → stage.request.Answer Handle → Coordinator × Control Handle
  | .offering proposal, answer =>
    coordinator.onSuccess answer (coordinator, .waiting (.awaitingVotes proposal))
  | .awaitingVotes proposal, answer =>
    coordinator.onSuccess answer (coordinator, .waiting (.readingStatus proposal))
  | .readingStatus proposal, answer =>
    match answer with
    | .error cause => (coordinator, .returned (.error (.voting cause)))
    | .ok status => (coordinator, .waiting (.absorbing (.resolution proposal status)))
  | .absorbing next, answer =>
    match answer with
    | .error cause => (coordinator, .returned (.error (.voting cause)))
    | .ok none => coordinator.afterAbsorbing next
    | .ok (some envelope) =>
      match coordinator.absorb envelope with
      | .error cause => (coordinator, .returned (.error cause))
      | .ok absorbed => (absorbed, .waiting (.absorbing next))
  | .releasingDenied, answer =>
    coordinator.onSuccess answer (coordinator, .returned (.ok (.submitted .denied)))
  | .aging key, now =>
    if now.since key.createdAt < coordinator.config.windowMicros.toNat then
      (coordinator, .waiting (.awaitingAge key))
    else
      (coordinator, .waiting (.awaitingDrain (.submission key)))
  | .awaitingAge key, answer =>
    coordinator.onSuccess answer (coordinator, .waiting (.absorbing (.aging key)))
  | .awaitingDrain cause, answer =>
    coordinator.onSuccess answer (coordinator, .waiting (.absorbing (.drain cause)))
  | .draining cause, now => coordinator.drain cause now
  | .executing cause records proposal, answer => coordinator.record cause records proposal answer
  | .confirming key result, answer =>
    coordinator.onSuccess answer (coordinator, .waiting (.rereadingStatus key result))
  | .rereadingStatus key result, answer =>
    match answer with
    | .error cause => (coordinator, .returned (.error (.voting cause)))
    | .ok .approved => (coordinator, .waiting (.releasingCommitted result))
    | .ok status => (coordinator, .returned (.error (.invariant (.statusChanged key.id status))))
  | .releasingCommitted result, answer =>
    coordinator.onSuccess answer (coordinator, .returned (.ok (.submitted (.committed result))))
  | .broadcasting proposal, answer =>
    let entered := { coordinator with ledger := coordinator.ledger.add proposal.markLocal }
    coordinator.onSuccess answer (entered.awaitRound proposal.key)
  | .awaitingQuorum key, answer =>
    coordinator.onSuccess answer (coordinator, .waiting (.absorbing (.quorum key)))
  | .listening, answer =>
    coordinator.onSuccess answer (coordinator, .waiting (.absorbing .nothing))
  | .finalizing, answer =>
    coordinator.onSuccess answer (coordinator, .returned (.ok .closed))

end Coordinator

end Concord
