import Concord.Bytes
import Concord.Error
import Concord.Identity
import Concord.Time
import Concord.Proposal.State

/-!
# Proposals

A proposal is an operation that one process asks all of them to execute. The time at which
it was made and the slot it travels under place it in the global order.
-/

namespace Concord

/-- An operation on its way through the world. -/
structure Proposal where
  id : ProposalId
  state : ProposalState
  createdAt : Timestamp
  /-- Whether the process that holds this copy submitted it. -/
  isLocal : Bool
  tag : OpTag
  payload : Bytes
deriving DecidableEq, Inhabited

namespace Proposal

/-- A proposal at the start of its life. -/
def create (id : ProposalId) (tag : OpTag) (payload : Bytes) (createdAt : Timestamp) :
    Proposal where
  id
  state := .initial
  createdAt
  isLocal := false
  tag
  payload

/-- How long ago a proposal was made; none for one from the future. -/
def ageAt (proposal : Proposal) (now : Timestamp) : Nat :=
  now.since proposal.createdAt

/-- Move a proposal on in its life, if that step exists. -/
def advance (proposal : Proposal) (next : ProposalState) : Except DomainError Proposal :=
  if proposal.state.canAdvanceTo next then
    .ok { proposal with state := next }
  else
    .error (.invalidTransition proposal.state.name next.name)

/-- Claim a copy as submitted by the process that holds it. -/
def markLocal (proposal : Proposal) : Proposal :=
  { proposal with isLocal := true }

end Proposal

end Concord
