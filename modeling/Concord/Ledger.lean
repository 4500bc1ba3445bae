import Concord.Proposal.Bag

/-!
# The ledger

The ledger holds the approved proposals that wait for their turn. In voted mode the oldest
leaves when it has aged; in broadcast mode a round leaves together: for every slot present
its oldest proposal, in the global order.
-/

namespace Concord

/-- Approved proposals that wait to be executed. -/
structure Ledger where
  entries : List Proposal
deriving DecidableEq, Inhabited

namespace Ledger

/-- A ledger that holds nothing. -/
def empty : Ledger :=
  ⟨[]⟩

/-- Enter an approved proposal. -/
def add (ledger : Ledger) (proposal : Proposal) : Ledger :=
  ⟨ledger.entries ++ [proposal]⟩

/-- How many proposals wait. -/
def size (ledger : Ledger) : Nat :=
  ledger.entries.length

/-- Whether no proposal waits. -/
def isEmpty (ledger : Ledger) : Bool :=
  ledger.entries.isEmpty

/-- The proposal that is first in the global order. -/
def oldest? (ledger : Ledger) : Option Proposal :=
  (Proposal.oldest? ledger.entries).map Prod.snd

/-- Take out the proposal that is first in the global order. -/
def popOldest? (ledger : Ledger) : Option (Proposal × Ledger) :=
  (Bag.popOldest? ledger.entries).map fun (found, left) => (found, ⟨left⟩)

/-- Take out a proposal at a place in the order. -/
def remove? (ledger : Ledger) (key : OrderKey) : Option (Proposal × Ledger) :=
  (Bag.remove? ledger.entries key).map fun (found, left) => (found, ⟨left⟩)

/-- Note one more key among the oldest of each slot, which are held one per slot. -/
def noteKey : List OrderKey → OrderKey → List OrderKey
  | [], key => [key]
  | known :: rest, key =>
    if known.id = key.id then
      (if key < known then key else known) :: rest
    else
      known :: noteKey rest key

/-- The oldest key of every slot present, in the order in which the slots first occur. -/
def oldestKeys (ledger : Ledger) : List OrderKey :=
  ledger.entries.foldl (fun keys proposal => noteKey keys proposal.key) []

/-- How many slots are present. -/
def distinctIds (ledger : Ledger) : Nat :=
  ledger.oldestKeys.length

/-- Take out the oldest proposal of every slot present, in the global order. -/
def takeRound (ledger : Ledger) : List Proposal × Ledger :=
  let (taken, left) := Bag.removeEach ledger.entries ledger.oldestKeys
  (Proposal.sorted taken, ⟨left⟩)

/-- Popping makes the ledger smaller, so a drain ends. -/
theorem size_of_popOldest? {ledger left : Ledger} {found : Proposal}
    (popped : ledger.popOldest? = some (found, left)) : left.size < ledger.size := by
  unfold popOldest? at popped
  obtain ⟨⟨taken, remaining⟩, bagPopped, shape⟩ := Option.map_eq_some_iff.1 popped
  cases shape
  exact Bag.length_of_popOldest? bagPopped

end Ledger

end Concord
