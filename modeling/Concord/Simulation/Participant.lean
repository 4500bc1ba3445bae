import Concord.Network.Site
import Concord.Namespace.Payload
import Concord.Simulation.Report

/-!
# Participants

A participant is one process of a simulation. It submits its plan, puts its closing to the
vote until it is committed, waits until every process has closed, and leaves. One step
starts a call, answers one of its requests, or takes note of its reply, so the steps of
different participants can be interleaved in every way that matters.
-/

namespace Concord

/-- What a participant is doing. -/
inductive Phase where
  /-- These operations are still to be submitted. -/
  | working (remaining : List Operation)
  | closing
  /-- Other processes have not closed yet. -/
  | waiting
  | leaving
  | finished
  | failed (cause : CoordinatorError)
deriving DecidableEq, Inhabited

/-- One process of a simulation. -/
structure Participant where
  rank : Rank
  coordinator : Coordinator
  peer : Peer
  replica : Replica
  phase : Phase
  /-- The call under way. -/
  call : Option (Control ObjectHandle)
  /-- The time of the last proposal. -/
  lastStamp : Option Timestamp
  committed : Nat
  denied : Nat
  closeRetries : Nat

namespace Participant

/-- A participant that has done nothing yet. -/
def create (coordinator : Coordinator) (plan : List Operation) : Participant where
  rank := coordinator.config.rank
  coordinator
  peer := .create coordinator.config.rank
  replica := .create
  phase := .working plan
  call := none
  lastStamp := none
  committed := 0
  denied := 0
  closeRetries := 0

/-- Start the submission of an operation at the time of the clock. -/
def submit (bus : Bus) (participant : Participant) (operation : Operation) :
    Bus × Participant :=
  let (now, clock) := bus.clock.read
  let proposal := Proposal.create (.ofRank participant.rank) operation.tag
    (Payload.encode operation) now
  ({ bus with clock },
    { participant with
      call := some (participant.coordinator.beginSubmit proposal)
      lastStamp := some now })

/-- Start the next call, or go over to the next phase. -/
def start (worldSize : Nat) (bus : Bus) (participant : Participant) : Bus × Participant :=
  match participant.phase with
  | .working [] => (bus, { participant with phase := .closing })
  | .working (operation :: _) => submit bus participant operation
  | .closing => submit bus participant .close
  | .waiting =>
    if participant.replica.closes < worldSize then
      (bus, { participant with call := some participant.coordinator.beginProgress })
    else
      (bus, { participant with phase := .leaving, call := some Coordinator.beginClose })
  | .leaving => (bus, participant)
  | .finished => (bus, participant)
  | .failed _ => (bus, participant)

/-- Take note of how a submission ended. -/
def noteOutcome (participant : Participant) (outcome : SubmitOutcome ObjectHandle) :
    Participant :=
  match participant.phase, outcome with
  | .working remaining, .committed _ =>
    { participant with
      phase := .working remaining.tail, committed := participant.committed + 1 }
  | .working remaining, .denied =>
    { participant with phase := .working remaining.tail, denied := participant.denied + 1 }
  | .closing, .committed _ => { participant with phase := .waiting }
  | .closing, .denied => { participant with closeRetries := participant.closeRetries + 1 }
  | _, _ => participant

/-- Take note of the reply to a call. -/
def noteReply (participant : Participant)
    (reply : Except CoordinatorError (Reply ObjectHandle)) : Participant :=
  let idle := { participant with call := none }
  match reply with
  | .error cause => { idle with phase := .failed cause }
  | .ok (.submitted outcome) => idle.noteOutcome outcome
  | .ok (.executed _) => idle
  | .ok .closed => { idle with phase := .finished }

/-- Answer the request that a call waits for. -/
def exchange (judge : Judge) (bus : Bus) (participant : Participant)
    (stage : Stage ObjectHandle) : Bus × Participant :=
  let site : Site := ⟨bus, participant.peer, participant.replica⟩
  let after := Coordinator.exchange (Site.surroundings judge) participant.coordinator stage site
  (after.state.bus,
    { participant with
      coordinator := after.coordinator
      peer := after.state.peer
      replica := after.state.replica
      call := some after.control })

/-- Take one step. -/
def step (worldSize : Nat) (judge : Judge) (bus : Bus) (participant : Participant) :
    Bus × Participant :=
  match participant.call with
  | none => start worldSize bus participant
  | some (.returned reply) => (bus, participant.noteReply reply)
  | some (.waiting stage) => exchange judge bus participant stage

/-- Whether the next step makes a proposal. -/
def isProposing (participant : Participant) : Bool :=
  match participant.call, participant.phase with
  | none, .working (_ :: _) => true
  | none, .closing => true
  | _, _ => false

/-- Whether the next step makes a proposal at the very time of the one before it. -/
def repeatsStamp (participant : Participant) (now : Timestamp) : Bool :=
  participant.isProposing && decide (participant.lastStamp = some now)

/-- Whether a participant has nothing more to do. -/
def isDone (participant : Participant) : Bool :=
  match participant.phase with
  | .finished => true
  | .failed _ => true
  | _ => false

/-- What a participant did. -/
def report (participant : Participant) : RankReport where
  rank := participant.rank
  executed := participant.replica.log
  committed := participant.committed
  denied := participant.denied
  closeRetries := participant.closeRetries

/-- How far a phase has come. -/
def phaseNumber : Phase → Nat
  | .working remaining => 5 + remaining.length
  | .closing => 4
  | .waiting => 3
  | .leaving => 2
  | .finished => 1
  | .failed _ => 0

/-- Counts of which at least one changes whenever anything happens to a participant other
than that it looks and finds nothing. -/
def footprint (participant : Participant) : List Nat :=
  let votes := match participant.peer.ballot with
    | none => 0
    | some ballot => 1 + ballot.yes + ballot.no
  [participant.coordinator.ledger.size, participant.coordinator.queue.size,
    participant.replica.log.length, participant.peer.ballotsHeld,
    participant.peer.approved.length, votes, participant.committed, participant.denied,
    participant.closeRetries, phaseNumber participant.phase]

end Participant

end Concord
