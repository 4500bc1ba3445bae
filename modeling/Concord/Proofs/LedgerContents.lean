import Concord.Proofs.Envelopes
import Concord.Proofs.Rounds

/-!
# What a process holds in broadcast mode

`Plan.Contents` accounts for everything that a process holds: what has entered its ledger is what
it has sent itself and what it has collected, what has left the ledger are whole rounds, and
what it has executed is the front of these rounds. Each lemma is about one thing that a
coordinator does to what it holds.
-/

namespace Concord

/-- What an envelope is about, if it is one. -/
def Envelope.content? (envelope : Bytes) : Option Proposal :=
  match Envelope.decode envelope with
  | .error _ => none
  | .ok proposal => some proposal.bare

/-- One more envelope adds its content under its own slot, and nothing under any other. -/
theorem Envelope.contents_concat {envelope : Bytes} {proposal : Proposal} {sender : Rank}
    (read : decode envelope = .ok proposal) (slot : proposal.id = .ofRank sender)
    (collected : List Bytes) (rank : Rank) :
    ((collected ++ [envelope]).filter (isUnder (.ofRank rank))).filterMap content? =
      (collected.filter (isUnder (.ofRank rank))).filterMap content? ++
        if rank = sender then [proposal.bare] else [] := by
  have under : isUnder (.ofRank rank) envelope = decide (rank = sender) := by
    simp only [isUnder, read, slot, ProposalId.ofRank_inj, eq_comm]
  rw [List.filter_append, List.filterMap_append]
  congr 1
  by_cases here : rank = sender
  · rw [List.filter_cons_of_pos (by rw [under, decide_eq_true here]), if_pos here,
      List.filter_nil, List.filterMap_cons]
    simp only [content?, read]
    rfl
  · rw [List.filter_cons_of_neg (by rw [under, decide_eq_true_iff]; exact here), if_neg here]
    rfl

namespace Plan

/-- What a process holds and what has become of everything else that entered its ledger. -/
structure Contents (plan : Plan) (everyone : List Rank) (rank : Rank) (coordinator : Coordinator)
    (entered handed : List Proposal) (issued collected : List Bytes) (sent taken : Nat)
    (inHand : List Proposal) : Prop where
  within : sent ≤ plan.count rank
  issued : issued = (List.range sent).map fun number => Envelope.encode (plan.offered rank number)
  own : (Proposal.underSlot rank entered).map Proposal.bare =
    (List.range sent).map (plan.bare rank)
  foreign : ∀ other, other ≠ rank →
    (Proposal.underSlot other entered).map Proposal.bare =
      (collected.filter (Envelope.isUnder (.ofRank other))).filterMap Envelope.content?
  known : ∀ entry ∈ coordinator.ledger.entries, ∃ other ∈ everyone, entry.id = .ofRank other
  approved : ∀ entry ∈ coordinator.ledger.entries, entry.state = .approved
  /-- Only own entries are looked up by their flag. -/
  marked : ∀ entry ∈ coordinator.ledger.entries, entry.id = .ofRank rank → entry.isLocal = true
  held : ∀ other ∈ everyone,
    ((Proposal.underSlot other coordinator.ledger.entries).map Proposal.bare).Perm
      (((Proposal.underSlot other entered).map Proposal.bare).drop taken)
  ahead : ∀ other ∈ everyone, taken ≤ (Proposal.underSlot other entered).length
  ready : ∀ entry ∈ inHand ++ coordinator.queue.entries, entry.state = .readyExecute
  /-- No round is taken out before the ones before it are executed. -/
  finished : ∀ {earlier}, earlier < taken →
    plan.rounds everyone earlier <+: handed.map Proposal.bare
  rounds : ∃ rest, rest.Perm (coordinator.queue.entries.map Proposal.bare) ∧
    rest.Pairwise (fun first second => first.key < second.key) ∧
    (handed ++ inHand).map Proposal.bare ++ rest =
      plan.rounds everyone taken

namespace Contents

variable {plan : Plan} {everyone : List Rank} {rank : Rank} {coordinator : Coordinator}
  {entered handed : List Proposal} {issued collected : List Bytes} {sent taken : Nat}
  {inHand : List Proposal}

/-- Before any call the ledger holds nothing, and nothing has been sent or taken out. -/
theorem empty (plan : Plan) (everyone : List Rank) (rank : Rank) (config : CoordinatorConfig) :
    plan.Contents everyone rank ⟨config, .empty, .empty⟩ [] [] [] [] 0 0 [] where
  within := Nat.zero_le _
  issued := rfl
  own := rfl
  foreign := fun _ _ => rfl
  known := by simp [Ledger.empty]
  approved := by simp [Ledger.empty]
  marked := by simp [Ledger.empty]
  held := by simp [Ledger.empty, Proposal.underSlot]
  ahead := fun _ _ => Nat.zero_le _
  ready := by simp [ExecutionQueue.empty]
  finished := fun earlier => absurd earlier (Nat.not_lt_zero _)
  rounds := ⟨[], by simp [ExecutionQueue.empty], .nil, rfl⟩

/-- Whatever enters the ledger waits there behind what its slot already has. -/
theorem enter
    (contents : plan.Contents everyone rank coordinator entered handed issued collected sent taken
      inHand) {entry : Proposal} {issuedAfter collectedAfter : List Bytes} {sentAfter : Nat}
    (known : ∃ other ∈ everyone, entry.id = .ofRank other) (approved : entry.state = .approved)
    (marked : entry.id = .ofRank rank → entry.isLocal = true)
    (within : sentAfter ≤ plan.count rank)
    (issuedIs : issuedAfter =
      (List.range sentAfter).map fun number => Envelope.encode (plan.offered rank number))
    (own : (Proposal.underSlot rank (entered ++ [entry])).map Proposal.bare =
      (List.range sentAfter).map (plan.bare rank))
    (foreign : ∀ other, other ≠ rank →
      (Proposal.underSlot other (entered ++ [entry])).map Proposal.bare =
        (collectedAfter.filter (Envelope.isUnder (.ofRank other))).filterMap Envelope.content?) :
    plan.Contents everyone rank { coordinator with ledger := coordinator.ledger.add entry }
      (entered ++ [entry]) handed issuedAfter collectedAfter sentAfter taken inHand := by
  have member : ∀ other ∈ (coordinator.ledger.add entry).entries,
      other ∈ coordinator.ledger.entries ∨ other = entry := by
    intro other inLedger
    simpa [Ledger.add] using inLedger
  exact {
    within
    issued := issuedIs
    own
    foreign
    known := by
      intro other inLedger
      rcases member other inLedger with old | rfl
      · exact contents.known other old
      · exact known
    approved := by
      intro other inLedger
      rcases member other inLedger with old | rfl
      · exact contents.approved other old
      · exact approved
    marked := by
      intro other inLedger slot
      rcases member other inLedger with old | rfl
      · exact contents.marked other old slot
      · exact marked slot
    held := by
      intro other listed
      have least := contents.ahead other listed
      simp only [Ledger.add, Proposal.underSlot_append, List.map_append]
      rw [List.drop_append_of_le_length (by rw [List.length_map]; exact least)]
      exact (contents.held other listed).append_right _
    ahead := by
      intro other listed
      rw [Proposal.underSlot_append, List.length_append]
      exact Nat.le_trans (contents.ahead other listed) (Nat.le_add_right _ _)
    ready := contents.ready
    finished := contents.finished
    rounds := contents.rounds }

/-- Entering the own next proposal while sending it. -/
theorem send
    (contents : plan.Contents everyone rank coordinator entered handed issued collected sent taken
      inHand) (inWorld : rank ∈ everyone) (more : sent < plan.count rank) :
    plan.Contents everyone rank
      { coordinator with
        ledger := coordinator.ledger.add (plan.offered rank sent).markLocal }
      (entered ++ [(plan.offered rank sent).markLocal]) handed
      (issued ++ [Envelope.encode (plan.offered rank sent)]) collected (sent + 1) taken inHand := by
  have slot : (plan.offered rank sent).markLocal.id = .ofRank rank := plan.slotted rank sent
  have content : (plan.offered rank sent).markLocal.bare = plan.bare rank sent := rfl
  apply contents.enter ⟨rank, inWorld, slot⟩ rfl (fun _ => rfl) more
  · rw [contents.issued, List.range_succ, List.map_append]
    rfl
  · rw [Proposal.underSlot_append, Proposal.underSlot_of_slot slot, if_pos rfl, List.map_append,
      contents.own, List.range_succ, List.map_append, List.map_cons, content]
    rfl
  · intro other apart
    rw [Proposal.underSlot_append, Proposal.underSlot_of_slot slot, if_neg apart, List.append_nil]
    exact contents.foreign other apart

/-- Entering what has been checked out. -/
theorem collect
    (contents : plan.Contents everyone rank coordinator entered handed issued collected sent taken
      inHand) {other : Rank} (apart : other ≠ rank) (listed : other ∈ everyone)
    (number : Nat) :
    plan.Contents everyone rank
      { coordinator with ledger := coordinator.ledger.add (plan.offered other number) }
      (entered ++ [plan.offered other number]) handed issued
      (collected ++ [Envelope.encode (plan.offered other number)]) sent taken inHand := by
  have slot : (plan.offered other number).id = .ofRank other := plan.slotted other number
  have read : Envelope.decode (Envelope.encode (plan.offered other number)) =
      .ok (plan.offered other number) :=
    Envelope.decode_encode_of_fits (plan.fits other number)
  have foreignSlot : ¬ (plan.offered other number).id = .ofRank rank := by
    rw [slot]
    exact fun same => apart (ProposalId.ofRank_inj.1 same)
  apply contents.enter ⟨other, listed, slot⟩ rfl (fun own => absurd own foreignSlot) contents.within
    contents.issued
  · rw [Proposal.underSlot_append, Proposal.underSlot_of_slot slot, if_neg apart.symm,
      List.append_nil]
    exact contents.own
  · intro process foreign
    rw [Proposal.underSlot_append, Proposal.underSlot_of_slot slot, List.map_append,
      Envelope.contents_concat read slot, contents.foreign process foreign]
    split <;> rfl

/-- Once the ledger has an entry of every process, the next round is in it. -/
theorem round_next
    (contents : plan.Contents everyone rank coordinator entered handed issued collected sent taken
      inHand) (distinct : everyone.Nodup) {arrived : Rank → Nat}
    (planned : ∀ other ∈ everyone, arrived other ≤ plan.count other ∧
      (Proposal.underSlot other entered).map Proposal.bare =
        (List.range (arrived other)).map (plan.bare other))
    (enough : everyone.length ≤ coordinator.ledger.distinctIds) :
    coordinator.ledger.takeRound.1.map Proposal.bare = plan.round everyone taken ∧
      ∀ other ∈ everyone, taken < arrived other ∧
        ((Proposal.underSlot other coordinator.ledger.takeRound.2.entries).map Proposal.bare).Perm
          (plan.pending other (taken + 1) (arrived other)) := by
  have waiting : ∀ other ∈ everyone,
      ((Proposal.underSlot other entered).map Proposal.bare).drop taken =
        plan.pending other taken (arrived other) := by
    intro other listed
    rw [(planned other listed).2, pending, List.map_drop]
  have held : ∀ other ∈ everyone,
      ((Proposal.underSlot other coordinator.ledger.entries).map Proposal.bare).Perm
        (plan.pending other taken (arrived other)) := by
    intro other listed
    rw [← waiting other listed]
    exact contents.held other listed
  exact plan.takeRound_eq distinct contents.known
    (fun other listed => (planned other listed).1) held enough

/-- The own proposal is in its round, and can be told from all others. -/
theorem own_in_round
    (contents : plan.Contents everyone rank coordinator entered handed issued collected sent taken
      inHand) (inWorld : rank ∈ everyone)
    (round : coordinator.ledger.takeRound.1.map Proposal.bare = plan.round everyone taken) :
    ∃ entry ∈ coordinator.ledger.takeRound.1.map Proposal.due,
      entry.isLocal = true ∧ entry.key = (plan.bare rank taken).key := by
  obtain ⟨perm, _, _, _, _⟩ := Ledger.takeRound_spec coordinator.ledger
  have listed : plan.bare rank taken ∈ coordinator.ledger.takeRound.1.map Proposal.bare := by
    rw [round]
    exact mem_round.2 ⟨rank, inWorld, rfl⟩
  obtain ⟨entry, inRound, same⟩ := List.mem_map.1 listed
  have inLedger : entry ∈ coordinator.ledger.entries :=
    perm.mem_iff.1 (List.mem_append_left _ inRound)
  have slot : entry.id = .ofRank rank := by
    rw [← Proposal.bare_id, same]
    exact plan.slotted rank taken
  refine ⟨entry.due, List.mem_map_of_mem inRound, contents.marked entry inLedger slot, ?_⟩
  rw [← same]
  rfl

/-- While the ledger lacks an entry of some process, nothing of that process's next round has
entered it. -/
theorem lacking (contents : plan.Contents everyone rank coordinator entered handed issued collected
      sent taken inHand) (short : coordinator.ledger.distinctIds < everyone.length)
    (distinct : everyone.Nodup) :
    ∃ other ∈ everyone, (Proposal.underSlot other entered).length ≤ taken := by
  obtain ⟨_, _, _, size, covering⟩ := Ledger.takeRound_spec coordinator.ledger
  by_contra absent
  have ahead : ∀ other ∈ everyone, taken < (Proposal.underSlot other entered).length :=
    fun other listed => Nat.lt_of_not_le fun least => absent ⟨other, listed, least⟩
  have present : everyone.map ProposalId.ofRank ⊆
      coordinator.ledger.takeRound.1.map Proposal.id := by
    intro id member
    obtain ⟨other, listed, rfl⟩ := List.mem_map.1 member
    have nonempty : Proposal.underSlot other coordinator.ledger.entries ≠ [] := by
      intro nothing
      have waiting := (contents.held other listed).length_eq
      have more := ahead other listed
      simp [nothing] at waiting
      omega
    obtain ⟨entry, inSlot⟩ := List.exists_mem_of_ne_nil _ nonempty
    obtain ⟨inLedger, slot⟩ := List.mem_filter.1 inSlot
    obtain ⟨found, inRound, same, _⟩ := covering entry inLedger
    exact List.mem_map.2 ⟨found, inRound, same.trans (of_decide_eq_true slot)⟩
  have slots : (everyone.map ProposalId.ofRank).Nodup :=
    distinct.map_on fun left _ right _ same => ProposalId.ofRank_inj.1 same
  have count := (List.subperm_of_subset slots present).length_le
  rw [List.length_map, List.length_map, size] at count
  omega

/-- Where nothing is queued, what has been executed are whole rounds. -/
theorem whole
    (contents : plan.Contents everyone rank coordinator entered handed issued collected sent taken
      []) (emptyQueue : coordinator.queue.entries = []) :
    handed.map Proposal.bare = plan.rounds everyone taken := by
  obtain ⟨rest, restPerm, _, done⟩ := contents.rounds
  have nothing : rest = [] := by
    rw [emptyQueue] at restPerm
    exact restPerm.eq_nil
  rw [nothing, List.append_nil, List.append_nil] at done
  exact done

/-- Taking out a round once the ledger has an entry of every process. -/
theorem takeRound
    (contents : plan.Contents everyone rank coordinator entered handed issued collected sent taken
      []) (distinct : everyone.Nodup) (emptyQueue : coordinator.queue.entries = [])
    {arrived : Rank → Nat} (planned : ∀ other ∈ everyone, arrived other ≤ plan.count other ∧
      (Proposal.underSlot other entered).map Proposal.bare =
        (List.range (arrived other)).map (plan.bare other))
    (enough : everyone.length ≤ coordinator.ledger.distinctIds) :
    plan.Contents everyone rank
      { coordinator with
        ledger := coordinator.ledger.takeRound.2
        queue := ⟨coordinator.ledger.takeRound.1.map Proposal.due⟩ }
      entered handed issued collected sent (taken + 1) [] := by
  obtain ⟨perm, _, _, _, _⟩ := Ledger.takeRound_spec coordinator.ledger
  obtain ⟨round, left⟩ := contents.round_next distinct planned enough
  have inLedger : ∀ entry ∈ coordinator.ledger.takeRound.2.entries,
      entry ∈ coordinator.ledger.entries := fun entry member =>
    perm.mem_iff.1 (List.mem_append_right _ member)
  exact {
    within := contents.within
    issued := contents.issued
    own := contents.own
    foreign := contents.foreign
    known := fun entry member => contents.known entry (inLedger entry member)
    approved := fun entry member => contents.approved entry (inLedger entry member)
    marked := fun entry member => contents.marked entry (inLedger entry member)
    held := by
      intro other listed
      rw [(planned other listed).2, ← List.map_drop]
      exact (left other listed).2
    ahead := by
      intro other listed
      have size := congrArg List.length (planned other listed).2
      rw [List.length_map, List.length_map, List.length_range] at size
      rw [size]
      exact (left other listed).1
    ready := by
      intro entry member
      obtain ⟨source, _, rfl⟩ := List.mem_map.1 (by simpa using member)
      rfl
    finished := by
      intro earlier before
      rw [contents.whole emptyQueue]
      exact plan.rounds_prefix everyone (Nat.le_of_lt_succ before)
    rounds := by
      have bares : (coordinator.ledger.takeRound.1.map Proposal.due).map Proposal.bare =
          plan.round everyone taken := by
        rw [← round, List.map_map]
        rfl
      refine ⟨plan.round everyone taken, ?_, plan.round_ascending distinct taken, ?_⟩
      · rw [bares]
      · rw [List.append_nil, contents.whole emptyQueue, plan.rounds_succ] }

/-- Taking the next proposal of a round in hand. -/
theorem pop (contents : plan.Contents everyone rank coordinator entered handed issued collected sent
      taken []) {proposal : Proposal} {queue : ExecutionQueue}
    (popped : coordinator.queue.popOldest? = some (proposal, queue)) :
    plan.Contents everyone rank { coordinator with queue } entered handed issued
      collected sent taken
      [proposal] := by
  obtain ⟨perm, minimal⟩ := ExecutionQueue.popOldest?_spec popped
  exact {
    within := contents.within
    issued := contents.issued
    own := contents.own
    foreign := contents.foreign
    known := contents.known
    approved := contents.approved
    marked := contents.marked
    held := contents.held
    ahead := contents.ahead
    ready := by
      intro entry member
      exact contents.ready entry (perm.mem_iff.1 member)
    finished := contents.finished
    rounds := by
      obtain ⟨rest, restPerm, ascending, done⟩ := contents.rounds
      have whole : rest.Perm (proposal.bare :: queue.entries.map Proposal.bare) :=
        restPerm.trans (perm.symm.map Proposal.bare)
      cases rest with
      | nil => exact absurd whole.nil_eq (by simp)
      | cons first others =>
        obtain ⟨least, othersAscend⟩ := List.pairwise_cons.1 ascending
        have same : first = proposal.bare := by
          rcases List.mem_cons.1 (whole.mem_iff.2 List.mem_cons_self) with here | later
          · exact here.symm
          · have before := least _ later
            have inQueue : first ∈ coordinator.queue.entries.map Proposal.bare :=
              restPerm.mem_iff.1 List.mem_cons_self
            obtain ⟨entry, member, rfl⟩ := List.mem_map.1 inQueue
            have after := minimal entry member
            rw [Proposal.bare_key, Proposal.bare_key] at before
            exact absurd before (OrderKey.not_lt.2 after)
        subst same
        refine ⟨others, whole.cons_inv, othersAscend, ?_⟩
        rw [← done]
        simp }

/-- Handing over what is in hand. -/
theorem hand {proposal : Proposal}
    (contents : plan.Contents everyone rank coordinator entered handed issued collected sent taken
      [proposal]) :
    plan.Contents everyone rank coordinator entered
      (handed ++ [proposal]) issued collected sent taken
      [] where
  within := contents.within
  issued := contents.issued
  own := contents.own
  foreign := contents.foreign
  known := contents.known
  approved := contents.approved
  marked := contents.marked
  held := contents.held
  ahead := contents.ahead
  ready := fun entry member => contents.ready entry (List.mem_cons_of_mem _ member)
  finished := by
    intro earlier before
    rw [List.map_append]
    exact (contents.finished before).trans (List.prefix_append _ _)
  rounds := by
    obtain ⟨rest, restPerm, ascending, done⟩ := contents.rounds
    exact ⟨rest, restPerm, ascending, by rw [List.append_nil, done]⟩

end Contents

end Plan

end Concord
