import Concord.Proposal

/-!
# The global order

Proposals are executed by the time they were made, and by slot where times are equal.
`OrderKey` is that order; `oldest?` finds the first of the least entries of a list, which
is the one every selection in this library takes.
-/

namespace Concord

/-- A proposal's place in the global order. -/
structure OrderKey where
  createdAt : Timestamp
  id : ProposalId
deriving DecidableEq, Inhabited

namespace OrderKey

/-- Earlier in time, or at the same time in a lower slot. -/
protected def lt (left right : OrderKey) : Prop :=
  left.createdAt.toNat < right.createdAt.toNat ∨
    left.createdAt.toNat = right.createdAt.toNat ∧ left.id.toInt < right.id.toInt

/-- Not later in the order. -/
protected def le (left right : OrderKey) : Prop :=
  left.createdAt.toNat < right.createdAt.toNat ∨
    left.createdAt.toNat = right.createdAt.toNat ∧ left.id.toInt ≤ right.id.toInt

instance : LT OrderKey :=
  ⟨OrderKey.lt⟩

instance : LE OrderKey :=
  ⟨OrderKey.le⟩

instance (left right : OrderKey) : Decidable (left < right) :=
  inferInstanceAs (Decidable (_ ∨ _))

instance (left right : OrderKey) : Decidable (left ≤ right) :=
  inferInstanceAs (Decidable (_ ∨ _))

/-- The key as messages show it. -/
def render (key : OrderKey) : String :=
  "(" ++ toString key.createdAt.toNat ++ ", " ++ key.id.name ++ ")"

end OrderKey

/-- A proposal's place in the global order. -/
def Proposal.key (proposal : Proposal) : OrderKey :=
  ⟨proposal.createdAt, proposal.id⟩

namespace Proposal

/-- The first of the oldest proposals, with its position. -/
def oldest? : List Proposal → Option (Nat × Proposal)
  | [] => none
  | first :: rest =>
    match oldest? rest with
    | none => some (0, first)
    | some (index, found) =>
      if found.key < first.key then some (index + 1, found) else some (0, first)

/-- The order as a test, for sorting. -/
def notLater (left right : Proposal) : Bool :=
  decide (left.key ≤ right.key)

/-- Proposals by their place in the order; equal ones keep their order. -/
def sorted (proposals : List Proposal) : List Proposal :=
  proposals.mergeSort notLater

end Proposal

end Concord
