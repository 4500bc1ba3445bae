import Concord.Proofs.Quorums

/-!
# What a ledger gives up

A ledger is a bag: where it holds an entry depends on everything that was entered and taken out
before. What it gives up does not. A round is one entry for every slot present, the oldest of its
slot, and all other entries are left; popping until nothing is left gives every entry once, in the
global order. Where no two entries are at one place in the order, what is given up is determined by
what is held (`IsRound.taken_eq`, `Ledger.popAll_eq`).
-/

namespace Concord

namespace IsRound

variable {held taken picked left rest : List Proposal}

/-- A round holds one entry for every slot. -/
theorem ids_perm (round : IsRound held taken left) :
    (taken.map Proposal.id).Perm (Proposal.slots held) := by
  refine (List.perm_ext_iff_of_nodup round.distinct (List.nodup_dedup _)).2 fun id => ?_
  rw [List.mem_dedup]
  constructor
  · intro member
    obtain ⟨entry, inTaken, rfl⟩ := List.mem_map.1 member
    exact List.mem_map_of_mem (round.mem_held inTaken)
  · intro member
    obtain ⟨entry, inHeld, rfl⟩ := List.mem_map.1 member
    obtain ⟨first, inTaken, slot, _⟩ := round.oldest entry inHeld
    exact List.mem_map.2 ⟨first, inTaken, slot⟩

/-- No two entries of a round are at one place in the order. -/
theorem strictly_ascending (round : IsRound held taken left) :
    taken.Pairwise fun earlier later => earlier.key < later.key := by
  have apart : taken.Pairwise fun earlier later => earlier.key ≠ later.key :=
    List.pairwise_map.1 round.nodup_keys
  exact round.ascending.imp₂ (fun _ _ => OrderKey.lt_of_le_of_ne) apart

/-- Where all entries are at different places, two rounds of the same entries agree. -/
theorem mem_picked (round : IsRound held taken left) (other : IsRound held picked rest)
    (distinct : (held.map Proposal.key).Nodup) {entry : Proposal} (member : entry ∈ taken) :
    entry ∈ picked := by
  obtain ⟨twin, inPicked, same⟩ :=
    List.mem_map.1 (round.mem_keys other (List.mem_map_of_mem member))
  have equal : twin = entry :=
    List.inj_on_of_nodup_map distinct (other.mem_held inPicked) (round.mem_held member) same
  exact equal ▸ inPicked

/-- Where no two entries have one place in the order, there is only one way to take a round out. -/
theorem taken_eq (round : IsRound held taken left) (other : IsRound held picked rest)
    (distinct : (held.map Proposal.key).Nodup) : taken = picked := by
  have perm : taken.Perm picked :=
    (List.perm_ext_iff_of_nodup round.distinct.of_map other.distinct.of_map).2
      fun _ => ⟨round.mem_picked other distinct, other.mem_picked round distinct⟩
  exact Proposal.eq_of_ascending perm other.nodup_keys round.ascending other.ascending

/-- What a round leaves is determined by what it takes. -/
theorem left_perm (round : IsRound held taken left) (other : IsRound held taken rest) :
    left.Perm rest :=
  (List.perm_append_left_iff taken).1 (round.parted.trans other.parted.symm)

end IsRound

namespace Ledger

/-- Take out the first in the global order until nothing is left. -/
def popAll (ledger : Ledger) : List Proposal :=
  match _popped : ledger.popOldest? with
  | none => []
  | some (found, left) => found :: popAll left
termination_by ledger.size
decreasing_by exact size_of_popOldest? _popped

/-- Popping gives every entry once, in the global order. -/
theorem popAll_spec (ledger : Ledger) :
    ledger.popAll.Perm ledger.entries ∧
      ledger.popAll.Pairwise fun earlier later => earlier.key ≤ later.key := by
  fun_induction popAll ledger with
  | case1 ledger none =>
    rw [popOldest?_eq_none.1 none]
    exact ⟨.refl _, .nil⟩
  | case2 ledger found left popped inductionHypothesis =>
    obtain ⟨perm, oldest⟩ := popOldest?_spec popped
    obtain ⟨whole, ascending⟩ := inductionHypothesis
    refine ⟨(whole.cons found).trans perm, List.pairwise_cons.2 ⟨?_, ascending⟩⟩
    intro entry later
    exact oldest entry (perm.mem_iff.1 (List.mem_cons_of_mem _ (whole.mem_iff.1 later)))

/-- Where all entries are at different places, popping does not depend on where they are held. -/
theorem popAll_eq {ledger other : Ledger} (perm : other.entries.Perm ledger.entries)
    (distinct : (ledger.entries.map Proposal.key).Nodup) : other.popAll = ledger.popAll := by
  obtain ⟨whole, ascending⟩ := ledger.popAll_spec
  obtain ⟨otherWhole, otherAscending⟩ := other.popAll_spec
  refine Proposal.eq_of_ascending (otherWhole.trans (perm.trans whole.symm)) ?_ otherAscending
    ascending
  exact (whole.map Proposal.key).nodup_iff.2 distinct

/-- The number of slots does not depend on the order of the entries. -/
theorem distinctIds_of_perm {ledger other : Ledger} (perm : other.entries.Perm ledger.entries) :
    other.distinctIds = ledger.distinctIds := by
  rw [distinctIds_eq, distinctIds_eq]
  exact (perm.map Proposal.id).dedup.length_eq

/-- What a ledger gives up of what it holds. -/
structure Parts (ledger : Ledger) : Prop where
  /-- A round holds one entry for every slot. -/
  slots : (ledger.takeRound.1.map Proposal.id).Perm (Proposal.slots ledger.entries)
  /-- It is the oldest of its slot. -/
  oldest : ∀ first ∈ ledger.takeRound.1, ∀ entry ∈ ledger.entries, first.id = entry.id →
    first.key ≤ entry.key
  ascending : ledger.takeRound.1.Pairwise fun earlier later => earlier.key < later.key
  /-- All other entries are left. -/
  parted : (ledger.takeRound.1 ++ ledger.takeRound.2.entries).Perm ledger.entries
  counted : ledger.distinctIds = ledger.takeRound.1.length
  /-- Popping gives every entry once. -/
  popped : ledger.popAll.Perm ledger.entries
  inOrder : ledger.popAll.Pairwise fun earlier later => earlier.key ≤ later.key

/-- Two ledgers that give up the same. -/
structure Alike (ledger other : Ledger) : Prop where
  taken : other.takeRound.1 = ledger.takeRound.1
  left : other.takeRound.2.entries.Perm ledger.takeRound.2.entries
  counted : other.distinctIds = ledger.distinctIds
  popped : other.popAll = ledger.popAll

/-- Whatever a ledger holds, a round parts it into the oldest of every slot and all the others, and
popping goes through it in the global order. If no two entries are at one place in the order, then
it does not matter in which order they have come. -/
theorem selection_parts (ledger : Ledger) :
    ledger.Parts ∧ ∀ other : Ledger, other.entries.Perm ledger.entries →
      (ledger.entries.map Proposal.key).Nodup → ledger.Alike other := by
  have round := ledger.takeRound_isRound
  refine ⟨?_, fun other perm distinct => ?_⟩
  · exact {
      slots := round.ids_perm
      oldest := fun _ inTaken _ inHeld => round.key_le inTaken inHeld
      ascending := round.strictly_ascending
      parted := round.parted
      counted := ledger.takeRound_spec.2.2.2.1.symm
      popped := ledger.popAll_spec.1
      inOrder := ledger.popAll_spec.2 }
  · have otherRound := other.takeRound_isRound.of_perm perm
    have taken := otherRound.taken_eq round distinct
    exact {
      taken
      left := (taken ▸ otherRound).left_perm round
      counted := distinctIds_of_perm perm
      popped := popAll_eq perm distinct }

/-! ## Two orders of arrival -/

/-- Two proposals of one slot, with one of another between them in the order. -/
def early : Ledger :=
  ((empty.add (.create ⟨0⟩ ⟨0⟩ [] ⟨100⟩)).add (.create ⟨1⟩ ⟨0⟩ [] ⟨50⟩)).add
    (.create ⟨1⟩ ⟨0⟩ [] ⟨200⟩)

/-- The same proposals, entered the other way round. -/
def reversed : Ledger :=
  ((empty.add (.create ⟨1⟩ ⟨0⟩ [] ⟨200⟩)).add (.create ⟨1⟩ ⟨0⟩ [] ⟨50⟩)).add
    (.create ⟨0⟩ ⟨0⟩ [] ⟨100⟩)

/-- Both give up the same round, leave the same proposal and count two slots. -/
theorem selection_parts_reversed :
    reversed.entries.Perm early.entries ∧ (early.entries.map Proposal.key).Nodup ∧
    early.takeRound.1.map Proposal.createdAt = [⟨50⟩, ⟨100⟩] ∧
    early.takeRound.2.entries.map Proposal.createdAt = [⟨200⟩] ∧
    early.distinctIds = 2 ∧ early.Alike reversed := by
  have perm : reversed.entries.Perm early.entries := by decide
  have distinct : (early.entries.map Proposal.key).Nodup := by decide
  exact ⟨perm, distinct, by cbv, by cbv, by cbv,
    (selection_parts early).2 reversed perm distinct⟩

end Ledger

end Concord
