import Concord.Coordinator
import Concord.Proofs.Ranks

/-!
# Taking out the oldest

What a bag gives up is one of its oldest entries, and what it keeps is all the others. From
this follows what a drain moves: the aged entries, oldest first, and no entry while an older
one stays behind.
-/

namespace Concord

/-- Slots are told apart by their numbers. -/
theorem ProposalId.toInt_inj {left right : ProposalId} :
    left.toInt = right.toInt ↔ left = right := by
  constructor
  · intro equal
    cases left
    cases right
    exact congrArg ProposalId.mk (Int32.toInt_inj.1 equal)
  · intro equal
    rw [equal]

namespace OrderKey

/-- The global order goes by time first and by slot at the same time. -/
theorem lt_iff {left right : OrderKey} : left < right ↔
    left.createdAt.toNat < right.createdAt.toNat ∨
      left.createdAt.toNat = right.createdAt.toNat ∧ left.id.toInt < right.id.toInt :=
  Iff.rfl

/-- Its weak form goes by time first as well. -/
theorem le_iff {left right : OrderKey} : left ≤ right ↔
    left.createdAt.toNat < right.createdAt.toNat ∨
      left.createdAt.toNat = right.createdAt.toNat ∧ left.id.toInt ≤ right.id.toInt :=
  Iff.rfl

/-- The global order is reflexive. -/
theorem le_refl (key : OrderKey) : key ≤ key := by
  rw [le_iff]
  omega

/-- The global order is transitive. -/
theorem le_trans {first second third : OrderKey} (lower : first ≤ second)
    (upper : second ≤ third) : first ≤ third := by
  rw [le_iff] at *
  omega

/-- The global order is total. -/
theorem le_total (left right : OrderKey) : left ≤ right ∨ right ≤ left := by
  simp only [le_iff]
  omega

/-- A key that is not before another comes no earlier than it. -/
theorem not_lt {left right : OrderKey} : ¬ left < right ↔ right ≤ left := by
  simp only [le_iff, lt_iff]
  omega

/-- What comes before comes no later. -/
theorem le_of_lt {left right : OrderKey} (before : left < right) : left ≤ right := by
  rw [lt_iff] at before
  rw [le_iff]
  omega

/-- No key comes before itself. -/
theorem lt_irrefl (key : OrderKey) : ¬ key < key := by
  rw [lt_iff]
  omega

/-- Keys of which neither is later are the same: the global order is antisymmetric. -/
theorem eq_of_le_of_le {left right : OrderKey} (lower : left ≤ right) (upper : right ≤ left) :
    left = right := by
  rw [le_iff] at lower upper
  have times : left.createdAt.toNat = right.createdAt.toNat := by omega
  have ids : left.id.toInt = right.id.toInt := by omega
  cases left
  cases right
  exact congr (congrArg OrderKey.mk (Timestamp.toNat_inj.1 times)) (ProposalId.toInt_inj.1 ids)

/-- Of two different keys the one that is no later is before the other. -/
theorem lt_of_le_of_ne {left right : OrderKey} (before : left ≤ right) (apart : left ≠ right) :
    left < right := by
  by_cases strict : left < right
  · exact strict
  · exact absurd (eq_of_le_of_le before (not_lt.1 strict)) apart

end OrderKey

namespace Proposal

/-- Only an empty bag has no oldest proposal. -/
theorem oldest?_eq_none {bag : List Proposal} : oldest? bag = none ↔ bag = [] := by
  cases bag with
  | nil => simp [oldest?]
  | cons first rest =>
    simp only [oldest?]
    split
    · simp
    · split <;> simp

/-- The oldest proposal of a bag is in it, and no other has a smaller key. -/
theorem oldest?_spec {bag : List Proposal} {index : Nat} {found : Proposal}
    (oldest : oldest? bag = some (index, found)) :
    bag[index]? = some found ∧ ∀ other ∈ bag, found.key ≤ other.key := by
  induction bag generalizing index found with
  | nil => cases oldest
  | cons first rest inductionHypothesis =>
    simp only [oldest?] at oldest
    split at oldest
    · next nothing =>
      cases oldest
      rw [oldest?_eq_none.1 nothing]
      refine ⟨rfl, ?_⟩
      intro other member
      rw [List.mem_singleton.1 member]
      exact OrderKey.le_refl _
    · next place least inRest =>
      obtain ⟨lies, minimal⟩ := inductionHypothesis inRest
      split at oldest
      · next earlier =>
        cases oldest
        refine ⟨by simpa using lies, ?_⟩
        intro other member
        rcases List.mem_cons.1 member with rfl | later
        · exact OrderKey.le_of_lt earlier
        · exact minimal other later
      · next notEarlier =>
        cases oldest
        refine ⟨rfl, ?_⟩
        intro other member
        rcases List.mem_cons.1 member with rfl | later
        · exact OrderKey.le_refl _
        · exact OrderKey.le_trans (OrderKey.not_lt.1 notEarlier) (minimal other later)

/-- What is in the global order and in different places is determined by what there is. -/
theorem eq_of_ascending {first second : List Proposal} (perm : first.Perm second)
    (distinct : (second.map key).Nodup)
    (ascending : first.Pairwise fun earlier later => earlier.key ≤ later.key)
    (ascendingToo : second.Pairwise fun earlier later => earlier.key ≤ later.key) :
    first = second := by
  refine List.Perm.eq_of_pairwise ?_ ascending ascendingToo perm
  intro earlier later inFirst inSecond lower upper
  exact List.inj_on_of_nodup_map distinct (perm.mem_iff.1 inFirst) inSecond
    (OrderKey.eq_of_le_of_le lower upper)

end Proposal

namespace Bag

/-- Overwriting an entry exchanges it for the new one. -/
theorem perm_set {bag : List Proposal} {index : Nat} {found : Proposal}
    (lies : bag[index]? = some found) (new : Proposal) :
    (found :: bag.set index new).Perm (new :: bag) := by
  induction bag generalizing index with
  | nil => simp at lies
  | cons first rest inductionHypothesis =>
    cases index with
    | zero =>
      have same : first = found := by simpa using lies
      subst same
      exact List.Perm.swap _ _ _
    | succ index =>
      have later := inductionHypothesis (by simpa using lies)
      calc found :: first :: rest.set index new
        _ |>.Perm (first :: found :: rest.set index new) := List.Perm.swap _ _ _
        _ |>.Perm (first :: new :: rest) := later.cons first
        _ |>.Perm (new :: first :: rest) := List.Perm.swap _ _ _

/-- Removing a proposal by swapping in the last one leaves all others, in some order. -/
theorem perm_removeAt {bag : List Proposal} {index : Nat} {found : Proposal}
    (lies : bag[index]? = some found) : (found :: removeAt bag index).Perm bag := by
  obtain ⟨inside, there⟩ := List.getElem?_eq_some_iff.1 lies
  have nonempty : bag ≠ [] := by
    rintro rfl
    simp at inside
  have shape : bag.dropLast ++ [bag.getLast nonempty] = bag := List.dropLast_append_getLast nonempty
  have last : bag.getLast? = some (bag.getLast nonempty) := List.getLast?_eq_some_getLast nonempty
  have rotate : (bag.getLast nonempty :: bag.dropLast).Perm bag := by
    have moved : (bag.dropLast ++ [bag.getLast nonempty]).Perm
        ([bag.getLast nonempty] ++ bag.dropLast) := List.perm_append_comm
    rw [shape] at moved
    exact moved.symm
  simp only [removeAt, last]
  by_cases front : index < bag.dropLast.length
  · have liesInFront : bag.dropLast[index]? = some found := by
      rw [← lies, List.getElem?_dropLast, if_pos (by simpa using front)]
    exact (perm_set liesInFront _).trans rotate
  · have isLast : found = bag.getLast nonempty := by
      have position : index = bag.length - 1 := by
        rw [List.length_dropLast] at front
        omega
      rw [List.getLast_eq_getElem, ← there]
      congr 1
    rw [isLast, List.set_eq_of_length_le (Nat.le_of_not_lt front)]
    exact rotate

/-- Nothing can be popped from an empty bag only. -/
theorem popOldest?_eq_none {bag : List Proposal} : popOldest? bag = none ↔ bag = [] := by
  rw [← Proposal.oldest?_eq_none, popOldest?]
  split <;> simp_all

/-- What is taken out is one of the oldest, and all others are left. -/
theorem popOldest?_spec {bag left : List Proposal} {found : Proposal}
    (popped : popOldest? bag = some (found, left)) :
    (found :: left).Perm bag ∧ ∀ other ∈ bag, found.key ≤ other.key := by
  unfold popOldest? at popped
  split at popped
  · cases popped
  · next oldest =>
    cases popped
    obtain ⟨lies, minimal⟩ := Proposal.oldest?_spec oldest
    exact ⟨perm_removeAt lies, minimal⟩

end Bag

/-- Nothing can be popped from an empty ledger only. -/
theorem Ledger.popOldest?_eq_none {ledger : Ledger} :
    ledger.popOldest? = none ↔ ledger.entries = [] := by
  rw [popOldest?, Option.map_eq_none_iff, Bag.popOldest?_eq_none]

/-- A ledger pops the smallest of its entries and keeps all others. -/
theorem Ledger.popOldest?_spec {ledger left : Ledger} {found : Proposal}
    (popped : ledger.popOldest? = some (found, left)) :
    (found :: left.entries).Perm ledger.entries ∧
      ∀ other ∈ ledger.entries, found.key ≤ other.key := by
  obtain ⟨⟨taken, remaining⟩, bagPopped, shape⟩ := Option.map_eq_some_iff.1 popped
  cases shape
  exact Bag.popOldest?_spec bagPopped

/-- Nothing can be popped from an empty queue only. -/
theorem ExecutionQueue.popOldest?_eq_none {queue : ExecutionQueue} :
    queue.popOldest? = none ↔ queue.entries = [] := by
  rw [popOldest?, Option.map_eq_none_iff, Bag.popOldest?_eq_none]

/-- A queue pops the smallest of its entries and keeps all others. -/
theorem ExecutionQueue.popOldest?_spec {queue left : ExecutionQueue} {found : Proposal}
    (popped : queue.popOldest? = some (found, left)) :
    (found :: left.entries).Perm queue.entries ∧
      ∀ other ∈ queue.entries, found.key ≤ other.key := by
  obtain ⟨⟨taken, remaining⟩, bagPopped, shape⟩ := Option.map_eq_some_iff.1 popped
  cases shape
  exact Bag.popOldest?_spec bagPopped

/-- What a proposal asks for and its place in the order, whatever has become of it. -/
def Proposal.bare (proposal : Proposal) : Proposal :=
  { proposal with state := .initial, isLocal := false }

@[simp] theorem Proposal.bare_key (proposal : Proposal) : proposal.bare.key = proposal.key := rfl

@[simp] theorem Proposal.bare_id (proposal : Proposal) : proposal.bare.id = proposal.id := rfl

/-- The proposals of a slot. -/
def Proposal.inSlot (id : ProposalId) (proposals : List Proposal) : List Proposal :=
  proposals.filter fun proposal => decide (proposal.id = id)

/-- Where there is at most one proposal of every slot, it is the only one of its slot. -/
theorem Proposal.inSlot_of_distinct {proposals : List Proposal} {entry : Proposal}
    (distinct : (proposals.map id).Nodup) (member : entry ∈ proposals) :
    inSlot entry.id proposals = [entry] :=
  filter_of_distinct distinct member

/-- The proposals under the slot of a process. -/
def Proposal.underSlot (rank : Rank) (proposals : List Proposal) : List Proposal :=
  proposals.filter fun proposal => decide (proposal.id = .ofRank rank)

/-- The proposals under a slot are found one list after the other. -/
theorem Proposal.underSlot_append (rank : Rank) (first second : List Proposal) :
    underSlot rank (first ++ second) = underSlot rank first ++ underSlot rank second :=
  List.filter_append _ _

/-- A single proposal is under its own slot only. -/
theorem Proposal.underSlot_singleton (rank : Rank) (proposal : Proposal) :
    underSlot rank [proposal] = if proposal.id = .ofRank rank then [proposal] else [] := by
  by_cases own : proposal.id = .ofRank rank <;> simp [underSlot, own]

/-- A proposal is under the slot of its own process alone. -/
theorem Proposal.underSlot_of_slot {proposal : Proposal} {sender : Rank}
    (slot : proposal.id = .ofRank sender) (rank : Rank) :
    underSlot rank [proposal] = if rank = sender then [proposal] else [] := by
  rw [underSlot_singleton, slot]
  by_cases here : rank = sender
  · rw [if_pos here, if_pos (here ▸ rfl)]
  · rw [if_neg here, if_neg fun same => here (ProposalId.ofRank_inj.1 same).symm]

/-- What is under a slot has its id. -/
theorem Proposal.id_of_mem_underSlot {rank : Rank} {proposals : List Proposal}
    {proposal : Proposal} (member : proposal ∈ underSlot rank proposals) :
    proposal.id = .ofRank rank :=
  of_decide_eq_true (List.mem_filter.1 member).2

/-- A proposal as it waits in the execution queue. -/
def Proposal.due (proposal : Proposal) : Proposal :=
  { proposal with state := .readyExecute }

/-- The queue takes an approved proposal and makes it due. -/
theorem ExecutionQueue.add_of_approved {proposal : Proposal} (approved : proposal.state = .approved)
    (queue : ExecutionQueue) : queue.add proposal = .ok ⟨queue.entries ++ [proposal.due]⟩ := by
  simp [add, Proposal.advance, approved, ProposalState.canAdvanceTo, ProposalState.stage,
    Proposal.due]

/-- A proposal that is due can be marked as executed. -/
theorem ExecutionQueue.conclude_of_ready {Handle : Type} {proposal : Proposal}
    (ready : proposal.state = .readyExecute) (handle : Option Handle) :
    conclude proposal (.ok handle) =
      .ok (Executed.ofProposal { proposal with state := .executed } handle) := by
  simp [conclude, Proposal.advance, ready, ProposalState.canAdvanceTo, ProposalState.stage]

/-- An own proposal that is voted on can be decided. -/
theorem Proposal.advance_of_inProgress {proposal : Proposal}
    (started : proposal.state = .inProgress) {next : ProposalState}
    (decides : next = .approved ∨ next = .denied) :
    proposal.advance next = .ok { proposal with state := next } := by
  rcases decides with rfl | rfl <;>
    simp [advance, started, ProposalState.canAdvanceTo, ProposalState.stage]

/-- Where the oldest entry has not aged, no other one has. -/
theorem Proposal.ageAt_lt_of_le {oldest entry : Proposal} {now : Timestamp} {window : Nat}
    (older : oldest.key ≤ entry.key) (young : oldest.ageAt now < window) :
    entry.ageAt now < window := by
  have times : oldest.createdAt.toNat ≤ entry.createdAt.toNat := by
    rw [OrderKey.le_iff] at older
    have keys : oldest.key.createdAt = oldest.createdAt := rfl
    have entryKeys : entry.key.createdAt = entry.createdAt := rfl
    rw [keys, entryKeys] at older
    omega
  unfold Proposal.ageAt Timestamp.since at young ⊢
  omega

namespace Coordinator

/-- Where the own ballot was denied it is given up before the call ends. -/
theorem afterAbsorbing_denied {Handle : Type} (coordinator : Coordinator) {proposal : Proposal}
    (started : proposal.state = .inProgress) :
    coordinator.afterAbsorbing (.resolution proposal .denied) =
      (coordinator, (.waiting .releasingDenied : Control Handle)) := by
  simp [afterAbsorbing, resolve, Proposal.advance_of_inProgress started (.inr rfl)]

/-- A drain moves the aged entries, oldest first, and leaves those that have not aged. -/
theorem moveAged_spec (coordinator : Coordinator) (now : Timestamp)
    (approved : ∀ entry ∈ coordinator.ledger.entries, entry.state = .approved) :
    ∃ moved left, coordinator.moveAged now =
        ({ coordinator with
            ledger := ⟨left⟩
            queue := ⟨coordinator.queue.entries ++ moved.map Proposal.due⟩ }, none) ∧
      (moved ++ left).Perm coordinator.ledger.entries ∧
      moved.Pairwise (fun first second => first.key ≤ second.key) ∧
      (∀ entry ∈ moved, coordinator.config.windowMicros.toNat ≤ entry.ageAt now) ∧
      (∀ entry ∈ left, entry.ageAt now < coordinator.config.windowMicros.toNat) ∧
      ∀ earlier ∈ moved, ∀ later ∈ left, earlier.key ≤ later.key := by
  generalize size : coordinator.ledger.size = count
  induction count using Nat.strong_induction_on generalizing coordinator with
  | _ count inductionHypothesis =>
    rw [moveAged]
    split
    · next none =>
      have empty := Ledger.popOldest?_eq_none.1 none
      refine ⟨[], coordinator.ledger.entries, by simp, by simp, .nil, by simp, ?_, by simp⟩
      rw [empty]
      simp
    · next proposal left popped =>
      obtain ⟨perm, minimal⟩ := Ledger.popOldest?_spec popped
      split
      · next young =>
        refine ⟨[], coordinator.ledger.entries, by simp, by simp, .nil, by simp, ?_, by simp⟩
        exact fun entry member => Proposal.ageAt_lt_of_le (minimal entry member) young
      · next aged =>
        have isApproved := approved proposal (perm.mem_iff.1 List.mem_cons_self)
        rw [ExecutionQueue.add_of_approved isApproved]
        have smaller := Ledger.size_of_popOldest? popped
        obtain ⟨moved, rest, result, restPerm, ascending, movedAged, restYoung, between⟩ :=
          inductionHypothesis left.size (size ▸ smaller)
            { coordinator with
              ledger := left
              queue := ⟨coordinator.queue.entries ++ [proposal.due]⟩ }
            (fun entry member => approved entry (perm.mem_iff.1 (List.mem_cons_of_mem _ member)))
            rfl
        have inLedger : ∀ entry ∈ moved ++ rest, entry ∈ coordinator.ledger.entries :=
          fun entry member =>
            perm.mem_iff.1 (List.mem_cons_of_mem _ (restPerm.mem_iff.1 member))
        refine ⟨proposal :: moved, rest, ?_, ?_, ?_, ?_, restYoung, ?_⟩
        · simp only [result, List.map_cons, List.append_assoc, List.singleton_append]
        · exact (restPerm.cons proposal).trans perm
        · refine List.pairwise_cons.2 ⟨?_, ascending⟩
          intro entry member
          exact minimal entry (inLedger entry (List.mem_append_left _ member))
        · intro entry member
          rcases List.mem_cons.1 member with rfl | later
          · exact Nat.le_of_not_lt aged
          · exact movedAged entry later
        · intro earlier inMoved later inRest
          rcases List.mem_cons.1 inMoved with rfl | inMovedLater
          · exact minimal later (inLedger later (List.mem_append_right _ inRest))
          · exact between earlier inMovedLater later inRest

end Coordinator

end Concord
