import Concord.Proposal.Envelope

/-!
# Judges

A judge votes on envelopes. `Judge.staleness` votes no on bytes that are no envelope, for
which it need not know the time, and on proposals older than the window.
-/

namespace Concord

/-- A vote. -/
inductive Verdict where
  | accept
  | reject
deriving DecidableEq, Inhabited

/-- Whether a vote is a yes. -/
def Verdict.isAccept : Verdict → Bool
  | .accept => true
  | .reject => false

/-- Something that votes on envelopes and may read the clock to do so. -/
structure Judge where
  judge : Clock → Bytes → Verdict × Clock

namespace Judge

/-- Accept a proposal of any content that is at most `window` microseconds old. -/
def staleness (window : UInt64) : Judge where
  judge clock envelope :=
    match Envelope.decode envelope with
    | .error _ => (.reject, clock)
    | .ok proposal =>
      let (now, after) := clock.read
      if window.toNat < proposal.ageAt now then (.reject, after) else (.accept, after)

end Judge

end Concord
