import Concord.Bytes
import Concord.Identity

/-!
# Messages

What processes say to one another. A ballot is numbered by the process that holds it.
-/

namespace Concord

/-- A message from one process to another. -/
inductive Message where
  /-- A request to vote on an envelope. -/
  | propose (origin : Rank) (ballot : Nat) (envelope : Bytes)
  | vote (voter : Rank) (ballot : Nat) (yes : Bool)
  /-- The end of a ballot, with the envelope it was about. -/
  | decision (origin : Rank) (ballot : Nat) (approved : Bool) (envelope : Bytes)
  /-- An envelope that needs no vote. -/
  | broadcast (origin : Rank) (envelope : Bytes)
deriving DecidableEq, Inhabited

end Concord
