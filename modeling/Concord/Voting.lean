import Concord.Proposal.Envelope

/-!
# Voting

A voting service carries envelopes between the processes of a world. A process offers at
most one proposal at a time, asks how its ballot stands, and collects what the others got
approved. This module holds the vocabulary of that service and the checks that a process
makes on its own side of it.
-/

namespace Concord

/-- How a ballot stands. -/
inductive VoteStatus where
  | inProgress
  | approved
  | denied
  /-- The service has no ballot for the proposal. -/
  | unknown
deriving DecidableEq, Inhabited

namespace VoteStatus

/-- The name of a status in messages. -/
def name : VoteStatus → String
  | .inProgress => "InProgress"
  | .approved => "Approved"
  | .denied => "Denied"
  | .unknown => "Unknown"

/-- The state of the proposal that a ballot is about. -/
def toState : VoteStatus → ProposalState
  | .inProgress => .inProgress
  | .approved => .approved
  | .denied => .denied
  | .unknown => .initial

end VoteStatus

/-- Why the voting service did not do what it was asked. -/
inductive VotingError where
  | transport (reason : String)
  | malformed (cause : EnvelopeError)
  /-- The slot's earlier proposal has not been decided. -/
  | busy (id : ProposalId)
  | finalized
deriving DecidableEq, Inhabited

/-- The name of each failure. -/
def VotingError.kind : VotingError → String
  | .transport _ => "Transport"
  | .malformed _ => "Malformed"
  | .busy _ => "Busy"
  | .finalized => "Finalized"

/-- The wording of each failure. -/
def VotingError.message : VotingError → String
  | .transport reason => "Transport error: " ++ reason
  | .malformed cause => "Malformed envelope: " ++ cause.message
  | .busy id => "Proposal " ++ id.name ++ " still outstanding"
  | .finalized => "Voting backend finalized"

namespace Proposal

/-- Start a proposal's life in a state; a life that has begun already is outstanding. -/
def start (proposal : Proposal) (state : ProposalState) : Except VotingError Proposal :=
  if proposal.state = .initial then
    match proposal.advance state with
    | .ok started => .ok started
    | .error _ => .error (.busy proposal.id)
  else
    .error (.busy proposal.id)

/-- The proposal in an envelope that another process got approved. -/
def ofEnvelope (envelope : Bytes) : Except VotingError Proposal :=
  match Envelope.decode envelope with
  | .ok proposal => .ok proposal
  | .error cause => .error (.malformed cause)

end Proposal

end Concord
