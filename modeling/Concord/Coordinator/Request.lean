import Concord.Execution
import Concord.Voting

/-!
# Requests

A coordinator touches nothing but its own state. Whatever else it needs it asks for, one
`Request` at a time, and goes on with the answer. The clock, the voting service and the
executor are whatever answers; `Surroundings` is one of them for each state.
-/

namespace Concord

/-- What a coordinator asks for. -/
inductive Request where
  /-- The time. -/
  | readClock
  /-- That the voting service handles what has arrived. -/
  | progress
  /-- A ballot on an envelope. -/
  | submitVote (id : ProposalId) (envelope : Bytes)
  /-- That an envelope is sent to every other process. -/
  | submitBroadcast (id : ProposalId) (envelope : Bytes)
  /-- How the ballot stands. -/
  | readStatus (id : ProposalId)
  /-- The next envelope that another process got approved. -/
  | checkout
  /-- That the ballot is forgotten. -/
  | release
  /-- That the voting service ends. -/
  | finalize
  /-- That a proposal is carried out. -/
  | execute (proposal : Proposal)
deriving DecidableEq

/-- The answers that a request can get. -/
abbrev Request.Answer (Handle : Type) : Request → Type
  | .readClock => Timestamp
  | .progress => Except VotingError Unit
  | .submitVote _ _ => Except VotingError Unit
  | .submitBroadcast _ _ => Except VotingError Unit
  | .readStatus _ => Except VotingError VoteStatus
  | .checkout => Except VotingError (Option Bytes)
  | .release => Except VotingError Unit
  | .finalize => Except VotingError Unit
  | .execute _ => Except ExecutorError (Option Handle)

/-- Whatever answers requests, with a state of its own. -/
structure Surroundings (State Handle : Type) where
  answer : (request : Request) → State → request.Answer Handle × State

end Concord
