/-!
# The life of a proposal

A proposal starts out unresolved, is approved or denied, and an approved one is queued and
then executed. `ProposalState.canAdvanceTo` is the authority on which steps exist: a life
never goes back, a denied proposal stays denied, and only an approved one reaches the
executor.
-/

namespace Concord

/-- How far a proposal has come. -/
inductive ProposalState where
  | inProgress
  | approved
  | denied
  | readyExecute
  | executed
  | initial
deriving DecidableEq, Inhabited

namespace ProposalState

/-- The number that stands for a state on the wire. -/
def ordinal : ProposalState → UInt32
  | .inProgress => 0
  | .approved => 1
  | .denied => 2
  | .readyExecute => 3
  | .executed => 4
  | .initial => 5

/-- The state that a number stands for. -/
def ofOrdinal? (ordinal : UInt32) : Option ProposalState :=
  match ordinal.toNat with
  | 0 => some .inProgress
  | 1 => some .approved
  | 2 => some .denied
  | 3 => some .readyExecute
  | 4 => some .executed
  | 5 => some .initial
  | _ => none

/-- The name of a state in messages. -/
def name : ProposalState → String
  | .inProgress => "IN_PROGRESS"
  | .approved => "APPROVED"
  | .denied => "DENIED"
  | .readyExecute => "READY_EXECUTE"
  | .executed => "EXECUTED"
  | .initial => "DEFAULT"

/-- How many stages of its life a state has behind it; the two decisions share a stage. -/
def stage : ProposalState → Nat
  | .initial => 0
  | .inProgress => 1
  | .approved => 2
  | .denied => 2
  | .readyExecute => 3
  | .executed => 4

/-- Whether the proposal has been decided. -/
def isResolved : ProposalState → Bool
  | .initial => false
  | .inProgress => false
  | _ => true

/-- Whether a life may go from one state to another. Staying is always allowed. -/
def canAdvanceTo (current next : ProposalState) : Bool :=
  if current = next then true
  else match current, next with
    | .denied, _ => false
    | _, .denied => current.stage < 2
    | .initial, .readyExecute => false
    | .initial, .executed => false
    | .inProgress, .readyExecute => false
    | .inProgress, .executed => false
    | _, _ => current.stage < next.stage

end ProposalState

end Concord
