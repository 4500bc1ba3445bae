import Concord.Execution
import Concord.Voting

/-!
# Failures of a coordinator

A call on a coordinator fails because of its settings, its voting service or its executor,
or because what it was told cannot be: a ballot that vanished, or a `Breach`.
-/

namespace Concord

/-- Something that a coordinator relies on and that turned out otherwise. -/
inductive Breach where
  /-- A proposal that cannot be in the state that its ballot implies. -/
  | transition (id : ProposalId) (cause : DomainError)
  /-- An approved proposal that cannot be queued. -/
  | notQueued (id : ProposalId) (cause : DomainError)
  /-- An executed proposal that cannot be marked so. -/
  | notMarked (cause : DomainError)
  /-- An own proposal that is not among those executed. -/
  | notExecuted (key : OrderKey)
  /-- An own proposal whose ballot changed after it was executed. -/
  | statusChanged (id : ProposalId) (status : VoteStatus)
deriving DecidableEq, Inhabited

/-- The wording of each breach. -/
def Breach.message : Breach → String
  | .transition id cause => "proposal " ++ id.name ++ ": " ++ cause.message
  | .notQueued id cause => "cannot queue " ++ id.name ++ ": " ++ cause.message
  | .notMarked cause => "cannot mark executed: " ++ cause.message
  | .notExecuted key => "local proposal " ++ key.render ++ " was not executed"
  | .statusChanged id status =>
    "proposal " ++ id.name ++ " executed but backend now reports " ++ status.name

/-- Why a call on a coordinator failed. -/
inductive CoordinatorError where
  | config (cause : DomainError)
  | voting (cause : VotingError)
  | executor (cause : ExecutorError)
  /-- The voting service has no ballot for the proposal just offered. -/
  | unknownProposal (id : ProposalId)
  | invariant (breach : Breach)
deriving DecidableEq, Inhabited

/-- The name of each failure, with the name of its cause if that has one. -/
def CoordinatorError.kind : CoordinatorError → String
  | .config cause => "Config/" ++ cause.kind
  | .voting cause => "Voting/" ++ cause.kind
  | .executor cause => "Executor/" ++ cause.kind
  | .unknownProposal _ => "UnknownProposal"
  | .invariant _ => "Invariant"

/-- The wording of each failure. -/
def CoordinatorError.message : CoordinatorError → String
  | .config cause => "Invalid configuration: " ++ cause.message
  | .voting cause => cause.message
  | .executor cause => cause.message
  | .unknownProposal id => "Voting backend has no record of proposal " ++ id.name
  | .invariant breach => "Invariant violated: " ++ breach.message

end Concord
