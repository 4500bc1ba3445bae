import Concord.Proposal

/-!
# Drafts

A draft is a proposal that may still lack its time. It gets one from the clock when it is
submitted.
-/

namespace Concord

/-- A proposal that may still lack its time. -/
structure Draft where
  proposal : Proposal
  createdAt : Option Timestamp
deriving DecidableEq, Inhabited

/-- The proposal of a draft. The clock is read only if the draft lacks its time. -/
def Draft.stamp (draft : Draft) (clock : Clock) : Proposal × Clock :=
  match draft.createdAt with
  | some createdAt => ({ draft.proposal with createdAt }, clock)
  | none =>
    let (createdAt, after) := clock.read
    ({ draft.proposal with createdAt }, after)

end Concord
