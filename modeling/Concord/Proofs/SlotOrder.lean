import Concord.Proofs.RoundTaking

/-!
# The order under a slot

Under every slot, what has entered a ledger in the order of its times leaves it, and is executed,
in this order: a drain moves whatever is older than something that it moves, and the queue gives
up its oldest first. Proposals under different slots may overtake one another if they enter late.
`SlotOrder` is the invariant, and `SlotOrder.front` what it says of the executed.
-/

namespace Concord

/-- Whether one proposal is older than another if both are under one slot. -/
def Proposal.Precedes (first second : Proposal) : Prop :=
  first.id = second.id → first.createdAt < second.createdAt

@[simp] theorem Proposal.bare_createdAt (proposal : Proposal) :
    proposal.bare.createdAt = proposal.createdAt := rfl

/-- Which of two proposals comes first does not depend on their states. -/
theorem Proposal.precedes_bare {first second : Proposal} :
    first.bare.Precedes second.bare ↔ first.Precedes second :=
  Iff.rfl

/-- Whether two proposals under one slot are of different times. -/
def Proposal.Apart (first second : Proposal) : Prop :=
  first.id = second.id → first.createdAt ≠ second.createdAt

/-- Being apart goes both ways. -/
theorem Proposal.Apart.symm {first second : Proposal} (apart : first.Apart second) :
    second.Apart first :=
  fun same => (apart same.symm).symm

/-- Proposals of which one comes first are apart. -/
theorem Proposal.Precedes.apart {first second : Proposal} (precedes : first.Precedes second) :
    first.Apart second := by
  intro same equal
  have before := precedes same
  rw [equal] at before
  exact Nat.lt_irrefl _ before

/-- Of two proposals under one slot the one that is not later in the order is the older one, if
they are of different times. -/
theorem Proposal.Apart.precedes {first second : Proposal} (apart : first.Apart second)
    (order : first.key ≤ second.key) : first.Precedes second := by
  intro same
  rw [OrderKey.le_iff] at order
  have times : first.createdAt.toNat ≠ second.createdAt.toNat := fun equal =>
    apart same (Timestamp.toNat_inj.1 equal)
  have keys : first.key.createdAt = first.createdAt := rfl
  have otherKeys : second.key.createdAt = second.createdAt := rfl
  rw [keys, otherKeys] at order
  show first.createdAt.toNat < second.createdAt.toNat
  omega

/-- Of two proposals under one slot the older one is not later in the order. -/
theorem Proposal.Precedes.key_le {first second : Proposal} (precedes : first.Precedes second)
    (same : first.id = second.id) : first.key ≤ second.key :=
  OrderKey.le_iff.2 (.inl (precedes same))

/-- Where a proposal that has entered a ledger is. -/
structure SlotOrder (entered handed inHand queue ledger : List Proposal) : Prop where
  conserved : ((handed ++ inHand ++ (queue ++ ledger)).map Proposal.bare).Perm
    (entered.map Proposal.bare)
  ascending : entered.Pairwise Proposal.Precedes
  executed : (handed ++ inHand).Pairwise Proposal.Precedes
  ahead : ∀ first ∈ handed ++ inHand, ∀ second ∈ queue ++ ledger, first.Precedes second
  due : ∀ first ∈ queue, ∀ second ∈ ledger, first.Precedes second
  approved : ∀ entry ∈ ledger, entry.state = .approved
  ready : ∀ entry ∈ inHand ++ queue, entry.state = .readyExecute

namespace SlotOrder

variable {entered handed inHand queue ledger : List Proposal}

/-- Where nothing has entered nothing is out of order. -/
theorem empty : SlotOrder [] [] [] [] [] where
  conserved := .refl _
  ascending := .nil
  executed := .nil
  ahead := fun _ member => absurd member List.not_mem_nil
  due := fun _ member => absurd member List.not_mem_nil
  approved := fun _ member => absurd member List.not_mem_nil
  ready := fun _ member => absurd member List.not_mem_nil

/-- Whatever is anywhere has entered. -/
theorem exists_entered (slotOrder : SlotOrder entered handed inHand queue ledger) {entry : Proposal}
    (member : entry ∈ handed ++ inHand ++ (queue ++ ledger)) :
    ∃ source ∈ entered, source.bare = entry.bare :=
  List.mem_map.1 (slotOrder.conserved.mem_iff.1 (List.mem_map_of_mem member))

/-- No two of all proposals under one slot are of one time. -/
theorem apart (slotOrder : SlotOrder entered handed inHand queue ledger) :
    (handed ++ inHand ++ (queue ++ ledger)).Pairwise Proposal.Apart := by
  have entries : (entered.map Proposal.bare).Pairwise Proposal.Apart :=
    List.pairwise_map.2 (slotOrder.ascending.imp Proposal.Precedes.apart)
  have everywhere := (slotOrder.conserved.pairwise_iff (R := Proposal.Apart)
    Proposal.Apart.symm).2 entries
  have mapped : (handed ++ inHand ++ (queue ++ ledger)).Pairwise
      fun first second => first.bare.Apart second.bare := List.pairwise_map.1 everywhere
  exact mapped

/-- Something younger than all that has entered under its slot may enter. -/
theorem enter (slotOrder : SlotOrder entered handed inHand queue ledger) {entry : Proposal}
    (later : ∀ other ∈ entered, other.Precedes entry) (approved : entry.state = .approved) :
    SlotOrder (entered ++ [entry]) handed inHand queue (ledger ++ [entry]) := by
  have before : ∀ other ∈ handed ++ inHand ++ (queue ++ ledger), other.Precedes entry := by
    intro other member
    obtain ⟨source, inEntered, same⟩ := slotOrder.exists_entered member
    rw [← Proposal.precedes_bare, ← same, Proposal.precedes_bare]
    exact later source inEntered
  have inFront : ∀ first ∈ handed ++ inHand, first.Precedes entry := fun first member =>
    before first (List.mem_append_left _ member)
  have inQueue : ∀ first ∈ queue, first.Precedes entry := fun first member =>
    before first (List.mem_append_right _ (List.mem_append_left _ member))
  exact {
    conserved := by
      have added := slotOrder.conserved.append_right [entry.bare]
      simpa [List.append_assoc] using added
    ascending := by
      refine List.pairwise_append.2 ⟨slotOrder.ascending, List.pairwise_singleton _ _, ?_⟩
      intro first member second isEntry
      rw [List.mem_singleton.1 isEntry]
      exact later first member
    executed := slotOrder.executed
    ahead := by
      intro first member second inRest
      rw [← List.append_assoc] at inRest
      rcases List.mem_append.1 inRest with old | isEntry
      · exact slotOrder.ahead first member second old
      · rw [List.mem_singleton.1 isEntry]
        exact inFront first member
    due := by
      intro first member second inLedger
      rcases List.mem_append.1 inLedger with old | isEntry
      · exact slotOrder.due first member second old
      · rw [List.mem_singleton.1 isEntry]
        exact inQueue first member
    approved := by
      intro other inLedger
      rcases List.mem_append.1 inLedger with old | isEntry
      · exact slotOrder.approved other old
      · rw [List.mem_singleton.1 isEntry]
        exact approved
    ready := slotOrder.ready }

/-- What is older than all that stays may go over into the queue. -/
theorem move (slotOrder : SlotOrder entered handed inHand queue ledger) {moved left : List Proposal}
    (perm : (moved ++ left).Perm ledger)
    (older : ∀ first ∈ moved, ∀ second ∈ left, first.createdAt < second.createdAt) :
    SlotOrder entered handed inHand (queue ++ moved.map Proposal.due) left := by
  have inLedger : ∀ entry ∈ moved ++ left, entry ∈ ledger := fun entry member =>
    perm.mem_iff.1 member
  have bares : (moved.map Proposal.due).map Proposal.bare = moved.map Proposal.bare := by
    rw [List.map_map]
    rfl
  exact {
    conserved := by
      have ledgers := (perm.map Proposal.bare).append_left
        ((handed ++ inHand ++ queue).map Proposal.bare)
      have joined := slotOrder.conserved
      simp only [List.map_append, List.append_assoc, bares] at ledgers joined ⊢
      exact ledgers.trans joined
    ascending := slotOrder.ascending
    executed := slotOrder.executed
    ahead := by
      intro first member second inRest
      rw [List.append_assoc] at inRest
      rcases List.mem_append.1 inRest with queued | inLine
      · exact slotOrder.ahead first member second (List.mem_append_left _ queued)
      · rcases List.mem_append.1 inLine with wasMoved | stays
        · obtain ⟨source, inMoved, rfl⟩ := List.mem_map.1 wasMoved
          exact slotOrder.ahead first member source
            (List.mem_append_right _ (inLedger source (List.mem_append_left _ inMoved)))
        · exact slotOrder.ahead first member second
            (List.mem_append_right _ (inLedger second (List.mem_append_right _ stays)))
    due := by
      intro first inQueue second stays
      rcases List.mem_append.1 inQueue with queued | wasMoved
      · exact slotOrder.due first queued second (inLedger second (List.mem_append_right _ stays))
      · obtain ⟨source, inMoved, rfl⟩ := List.mem_map.1 wasMoved
        exact fun _ => older source inMoved second stays
    approved := fun entry stays => slotOrder.approved entry
      (inLedger entry (List.mem_append_right _ stays))
    ready := by
      intro entry member
      rw [← List.append_assoc] at member
      rcases List.mem_append.1 member with queued | wasMoved
      · exact slotOrder.ready entry queued
      · obtain ⟨source, _, rfl⟩ := List.mem_map.1 wasMoved
        rfl }

/-- The oldest that is due may be taken in hand. -/
theorem pop (slotOrder : SlotOrder entered handed [] queue ledger) {proposal : Proposal}
    {left : List Proposal} (perm : (proposal :: left).Perm queue)
    (oldest : ∀ other ∈ queue, proposal.key ≤ other.key) :
    SlotOrder entered handed [proposal] left ledger := by
  have inQueue : ∀ entry ∈ proposal :: left, entry ∈ queue := fun entry member =>
    perm.mem_iff.1 member
  -- Two entries under one slot are of different times, since they entered in turn.
  have queued : (proposal :: left).Pairwise Proposal.Apart := by
    have everywhere := slotOrder.apart
    rw [List.append_nil] at everywhere
    have inLine := (List.pairwise_append.1 (List.pairwise_append.1 everywhere).2.1).1
    exact (perm.pairwise_iff (R := Proposal.Apart) Proposal.Apart.symm).2 inLine
  have first : ∀ other ∈ left, proposal.Precedes other := fun other member =>
    ((List.pairwise_cons.1 queued).1 other member).precedes
      (oldest other (inQueue other (List.mem_cons_of_mem _ member)))
  exact {
    conserved := by
      have queues := ((perm.append_right ledger).map Proposal.bare).append_left
        (handed.map Proposal.bare)
      have joined := slotOrder.conserved
      simp only [List.map_append, List.append_assoc, List.append_nil, List.map_cons,
        List.cons_append, List.nil_append] at queues joined ⊢
      exact queues.trans joined
    ascending := slotOrder.ascending
    executed := by
      refine List.pairwise_append.2 ⟨?_, List.pairwise_singleton _ _, ?_⟩
      · have executed := slotOrder.executed
        rwa [List.append_nil] at executed
      · intro earlier member second isProposal
        rw [List.mem_singleton.1 isProposal]
        exact slotOrder.ahead earlier (List.mem_append_left _ member) proposal
          (List.mem_append_left _ (inQueue proposal List.mem_cons_self))
    ahead := by
      intro earlier member second inRest
      rcases List.mem_append.1 member with done | isProposal
      · refine slotOrder.ahead earlier (List.mem_append_left _ done) second ?_
        rcases List.mem_append.1 inRest with queued | waits
        · exact List.mem_append_left _ (inQueue second (List.mem_cons_of_mem _ queued))
        · exact List.mem_append_right _ waits
      · rw [List.mem_singleton.1 isProposal]
        rcases List.mem_append.1 inRest with queued | waits
        · exact first second queued
        · exact slotOrder.due proposal (inQueue proposal List.mem_cons_self) second waits
    due := fun earlier queued second waits =>
      slotOrder.due earlier (inQueue earlier (List.mem_cons_of_mem _ queued)) second waits
    approved := slotOrder.approved
    ready := fun entry member => slotOrder.ready entry (inQueue entry member) }

/-- What is in hand may be handed over. -/
theorem hand {proposal : Proposal} (slotOrder : SlotOrder entered handed [proposal] queue ledger) :
    SlotOrder entered (handed ++ [proposal]) [] queue ledger where
  conserved := by
    have conserved := slotOrder.conserved
    rwa [← List.append_nil (handed ++ [proposal])] at conserved
  ascending := slotOrder.ascending
  executed := by
    rw [List.append_nil]
    exact slotOrder.executed
  ahead := by
    rw [List.append_nil]
    exact slotOrder.ahead
  due := slotOrder.due
  approved := slotOrder.approved
  ready := fun entry member => slotOrder.ready entry (List.mem_cons_of_mem _ member)

/-- What is left of a slot, in the global order. -/
def waiting (rank : Rank) (inHand queue ledger : List Proposal) : List Proposal :=
  Proposal.sorted (Proposal.underSlot rank (inHand ++ (queue ++ ledger)))

/-- What is left of a slot is all that is in hand, queued or in the ledger under it. -/
theorem waiting_perm (rank : Rank) (inHand queue ledger : List Proposal) :
    (waiting rank inHand queue ledger).Perm
      (Proposal.underSlot rank (inHand ++ (queue ++ ledger))) :=
  List.mergeSort_perm _ _

/-- What was handed over under a slot and what is left of it are all that entered under it. -/
theorem underSlot_perm (rank : Rank) (handed inHand queue ledger : List Proposal) :
    (Proposal.underSlot rank handed ++ waiting rank inHand queue ledger).Perm
      (Proposal.underSlot rank (handed ++ inHand ++ (queue ++ ledger))) := by
  rw [List.append_assoc, Proposal.underSlot_append]
  exact (waiting_perm rank inHand queue ledger).append_left _

/-- Under a slot, what has been executed comes before what is left of it. -/
theorem underSlot_ordered (slotOrder : SlotOrder entered handed inHand queue ledger) (rank : Rank) :
    (Proposal.underSlot rank handed ++ waiting rank inHand queue ledger).Pairwise
      fun first second => first.key ≤ second.key := by
  refine List.pairwise_append.2 ⟨?_, Ledger.sorted_pairwise _, ?_⟩
  · have done : (Proposal.underSlot rank handed).Pairwise Proposal.Precedes :=
      (List.pairwise_append.1 slotOrder.executed).1.sublist List.filter_sublist
    exact done.imp_of_mem fun first second precedes =>
      precedes.key_le ((Proposal.id_of_mem_underSlot first).trans
        (Proposal.id_of_mem_underSlot second).symm)
  · intro first done second later
    have inSlot := (waiting_perm rank inHand queue ledger).mem_iff.1 later
    have precedes : first.Precedes second := by
      rcases List.mem_append.1 (List.mem_filter.1 inSlot).1 with taken | rest
      · exact (List.pairwise_append.1 slotOrder.executed).2.2 first (List.mem_filter.1 done).1
          second taken
      · exact slotOrder.ahead first (List.mem_append_left _ (List.mem_filter.1 done).1) second rest
    exact precedes.key_le ((Proposal.id_of_mem_underSlot done).trans
      (Proposal.id_of_mem_underSlot inSlot).symm)

/-- What was handed over under a slot and what is left of it ascend in time. -/
theorem underSlot_ascending (slotOrder : SlotOrder entered handed inHand queue ledger)
    (rank : Rank) :
    (Proposal.underSlot rank handed ++ waiting rank inHand queue ledger).Pairwise
      fun first second => first.createdAt < second.createdAt := by
  have whole := underSlot_perm rank handed inHand queue ledger
  have slots : ∀ proposal ∈ Proposal.underSlot rank handed ++ waiting rank inHand queue ledger,
      proposal.id = .ofRank rank := fun proposal member =>
    Proposal.id_of_mem_underSlot (whole.mem_iff.1 member)
  have different : (Proposal.underSlot rank handed ++ waiting rank inHand queue ledger).Pairwise
      Proposal.Apart :=
    (whole.pairwise_iff (R := Proposal.Apart) Proposal.Apart.symm).2
      (slotOrder.apart.sublist List.filter_sublist)
  exact (different.and (slotOrder.underSlot_ordered rank)).imp_of_mem fun first second both =>
    both.1.precedes both.2 ((slots _ first).trans (slots _ second).symm)

/-- What has been executed under a slot is the front of what has entered under it. -/
theorem front (slotOrder : SlotOrder entered handed inHand queue ledger) (rank : Rank) :
    (Proposal.underSlot rank handed).map Proposal.bare <+:
      (Proposal.underSlot rank entered).map Proposal.bare := by
  have underBare : ∀ proposals : List Proposal,
      Proposal.underSlot rank (proposals.map Proposal.bare) =
        (Proposal.underSlot rank proposals).map Proposal.bare := fun _ => List.filter_map
  have perm : ((Proposal.underSlot rank handed ++
      waiting rank inHand queue ledger).map Proposal.bare).Perm
        ((Proposal.underSlot rank entered).map Proposal.bare) := by
    have filtered := slotOrder.conserved.filter fun proposal => decide (proposal.id = .ofRank rank)
    rw [← underBare entered]
    refine ((underSlot_perm rank handed inHand queue ledger).map Proposal.bare).trans ?_
    rw [← underBare]
    exact filtered
  have entries : (Proposal.underSlot rank entered).Pairwise
      fun first second => first.createdAt < second.createdAt := by
    have ascending := slotOrder.ascending.sublist (List.filter_sublist (l := entered)
      (p := fun proposal => decide (proposal.id = .ofRank rank)))
    exact ascending.imp_of_mem fun first second precedes =>
      precedes ((Proposal.id_of_mem_underSlot first).trans
        (Proposal.id_of_mem_underSlot second).symm)
  -- Both are in the order of times, and no two of them are of one time.
  have same : (Proposal.underSlot rank handed ++ waiting rank inHand queue ledger).map
      Proposal.bare = (Proposal.underSlot rank entered).map Proposal.bare := by
    have older : ((Proposal.underSlot rank handed ++
        waiting rank inHand queue ledger).map Proposal.bare).Pairwise
          fun first second => first.createdAt < second.createdAt :=
      List.pairwise_map.2 (slotOrder.underSlot_ascending rank)
    have entriesBare : ((Proposal.underSlot rank entered).map Proposal.bare).Pairwise
        fun first second => first.createdAt < second.createdAt := List.pairwise_map.2 entries
    refine List.Perm.eq_of_pairwise ?_ older entriesBare perm
    intro first second _ _ before after
    exact absurd before (Nat.lt_asymm after)
  rw [← same, List.map_append]
  exact List.prefix_append _ _

end SlotOrder

end Concord
