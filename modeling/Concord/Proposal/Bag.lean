import Concord.Proposal.Order

/-!
# Bags of proposals

The ledger and the execution queue hold proposals in no particular order. Each is a list in
which taking an entry out moves the last one into its place, so what a bag holds is
authoritative and where it holds it is not.
-/

namespace Concord.Bag

/-- Take out the entry at a position and move the last entry there. -/
def removeAt (bag : List Proposal) (index : Nat) : List Proposal :=
  match bag.getLast? with
  | none => []
  | some last => bag.dropLast.set index last

/-- Take out the first of the oldest entries. -/
def popOldest? (bag : List Proposal) : Option (Proposal × List Proposal) :=
  match Proposal.oldest? bag with
  | none => none
  | some (index, found) => some (found, removeAt bag index)

/-- Take out the first entry at a place in the order. -/
def remove? (bag : List Proposal) (key : OrderKey) : Option (Proposal × List Proposal) :=
  match bag.findIdx? fun proposal => proposal.key = key with
  | none => none
  | some index =>
    match bag[index]? with
    | none => none
    | some found => some (found, removeAt bag index)

/-- Take out one entry for each of several places, in turn; a place that no entry has gives
none. The second list is what is left. -/
def removeEach (bag : List Proposal) : List OrderKey → List Proposal × List Proposal
  | [] => ([], bag)
  | key :: keys =>
    match remove? bag key with
    | none => removeEach bag keys
    | some (found, left) =>
      let (taken, remaining) := removeEach left keys
      (found :: taken, remaining)

/-- A bag loses one entry with every removal. -/
theorem length_removeAt (bag : List Proposal) (index : Nat) :
    (removeAt bag index).length = bag.length - 1 := by
  unfold removeAt
  split
  · next empty => simp [List.getLast?_eq_none_iff.1 empty]
  · simp

/-- Popping makes a bag shorter. -/
theorem length_of_popOldest? {bag left : List Proposal} {found : Proposal}
    (popped : popOldest? bag = some (found, left)) : left.length < bag.length := by
  unfold popOldest? at popped
  split at popped
  · simp at popped
  · next some_oldest =>
    have nonempty : bag ≠ [] := by
      intro empty
      simp [empty, Proposal.oldest?] at some_oldest
    have positive := List.length_pos_iff.2 nonempty
    have shape : removeAt bag _ = left := congrArg Prod.snd (Option.some.inj popped)
    rw [← shape, length_removeAt]
    omega

end Concord.Bag
