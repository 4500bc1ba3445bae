import Concord.Coordinator.Error
import Concord.Coordinator.Request

/-!
# Stages of a call

A call on a coordinator passes through stages. Each waits for the answer to one request, so
a call can be set aside at any of them while other processes go on. The stage holds all
that the call has to remember; `Stage.request` says what it waits for.
-/

namespace Concord

/-- How a submission ended well. -/
inductive SubmitOutcome (Handle : Type) where
  /-- The proposal was executed, with the handle that the executor gave for it. -/
  | committed (result : Option Handle)
  /-- Some process voted no. -/
  | denied
deriving DecidableEq

namespace SubmitOutcome

variable {Handle : Type}

/-- Whether the proposal was executed. -/
def isCommitted : SubmitOutcome Handle → Bool
  | .committed _ => true
  | .denied => false

/-- The handle that the executor gave, if any. -/
def result : SubmitOutcome Handle → Option Handle
  | .committed result => result
  | .denied => none

end SubmitOutcome

/-- What a call gives back when nothing fails. -/
inductive Reply (Handle : Type) where
  | submitted (outcome : SubmitOutcome Handle)
  /-- How many proposals a look at the ledger executed. -/
  | executed (count : Nat)
  | closed
deriving DecidableEq

/-- Why the ledger is drained. -/
inductive DrainCause where
  /-- An own approved proposal has to leave it. -/
  | submission (key : OrderKey)
  /-- It is time to look. -/
  | tick
deriving DecidableEq

/-- Why a batch of proposals is executed. -/
inductive BatchCause where
  | drained (cause : DrainCause)
  /-- A round is complete that holds an own proposal. -/
  | round (key : OrderKey)
deriving DecidableEq

/-- What follows once every waiting envelope has entered the ledger. -/
inductive AfterAbsorbing where
  /-- The own ballot's status is acted on. -/
  | resolution (proposal : Proposal) (status : VoteStatus)
  /-- The own proposal's age is looked at again. -/
  | aging (key : OrderKey)
  /-- What has aged leaves the ledger. -/
  | drain (cause : DrainCause)
  /-- The slots in the ledger are counted. -/
  | quorum (key : OrderKey)
  /-- Nothing; the call was only about what arrived. -/
  | nothing
deriving DecidableEq

/-- Where a call stands. -/
inductive Stage (Handle : Type) where
  | offering (proposal : Proposal)
  | awaitingVotes (proposal : Proposal)
  | readingStatus (proposal : Proposal)
  | absorbing (next : AfterAbsorbing)
  | releasingDenied
  | aging (key : OrderKey)
  | awaitingAge (key : OrderKey)
  | awaitingDrain (cause : DrainCause)
  | draining (cause : DrainCause)
  /-- A proposal has been handed over; those before it left their records. -/
  | executing (cause : BatchCause) (records : List (Executed Handle)) (proposal : Proposal)
  | confirming (key : OrderKey) (result : Option Handle)
  | rereadingStatus (key : OrderKey) (result : Option Handle)
  | releasingCommitted (result : Option Handle)
  | broadcasting (proposal : Proposal)
  | awaitingQuorum (key : OrderKey)
  | listening
  | finalizing

namespace Stage

variable {Handle : Type}

/-- The request whose answer a stage waits for. -/
@[reducible] def request : Stage Handle → Request
  | .offering proposal => .submitVote proposal.id (Envelope.encode proposal)
  | .awaitingVotes _ => .progress
  | .readingStatus proposal => .readStatus proposal.id
  | .absorbing _ => .checkout
  | .releasingDenied => .release
  | .aging _ => .readClock
  | .awaitingAge _ => .progress
  | .awaitingDrain _ => .progress
  | .draining _ => .readClock
  | .executing _ _ proposal => .execute proposal
  | .confirming _ _ => .progress
  | .rereadingStatus key _ => .readStatus key.id
  | .releasingCommitted _ => .release
  | .broadcasting proposal => .submitBroadcast proposal.id (Envelope.encode proposal)
  | .awaitingQuorum _ => .progress
  | .listening => .progress
  | .finalizing => .finalize

end Stage

/-- A call is under way or has returned. -/
inductive Control (Handle : Type) where
  | waiting (stage : Stage Handle)
  | returned (reply : Except CoordinatorError (Reply Handle))

end Concord
