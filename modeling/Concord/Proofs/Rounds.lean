import Concord.Proofs.RoundTaking
import Concord.Proofs.Clusters
import Mathlib.Data.List.Infix

/-!
# Rounds

In broadcast mode every process works off a plan. The round with a number holds the proposal
that each process has planned under this number, in the global order. A ledger that holds what
every process has sent since the last round gives up exactly the next round.
-/

namespace Concord

/-- The rank whose slot this is. -/
def ProposalId.owner (id : ProposalId) : Rank :=
  ⟨id.value.toUInt32⟩

/-- The slot of a rank belongs to it. -/
theorem ProposalId.owner_ofRank (rank : Rank) : (ofRank rank).owner = rank := rfl

/-- What the processes submit, one proposal after the other. -/
structure Plan where
  count : Rank → Nat
  proposal : Rank → Nat → Proposal
  slotted : ∀ rank number, (proposal rank number).id = .ofRank rank
  fresh : ∀ rank number, (proposal rank number).state = .initial
  /-- A length is a 64-bit number. -/
  fits : ∀ rank number, (proposal rank number).payload.length < 2 ^ 64
  ascending : ∀ {rank earlier later}, earlier < later → later < count rank →
    (proposal rank earlier).createdAt < (proposal rank later).createdAt

namespace Plan

/-- A planned proposal, whatever has become of it. -/
def bare (plan : Plan) (rank : Rank) (number : Nat) : Proposal :=
  (plan.proposal rank number).bare

/-- A planned proposal as it is sent. -/
def offered (plan : Plan) (rank : Rank) (number : Nat) : Proposal :=
  { plan.proposal rank number with state := .approved }

/-- The proposals that all processes have planned under a number, in the global order. -/
def round (plan : Plan) (everyone : List Rank) (number : Nat) : List Proposal :=
  Proposal.sorted (everyone.map fun rank => plan.bare rank number)

/-- A round has one proposal of each rank, in some order. -/
theorem round_perm (plan : Plan) (everyone : List Rank) (number : Nat) :
    (plan.round everyone number).Perm (everyone.map fun rank => plan.bare rank number) :=
  Ledger.sorted_perm _

/-- The proposals of a round are those with its number. -/
theorem mem_round {plan : Plan} {everyone : List Rank} {number : Nat} {proposal : Proposal} :
    proposal ∈ plan.round everyone number ↔
      ∃ rank ∈ everyone, plan.bare rank number = proposal := by
  rw [(plan.round_perm everyone number).mem_iff, List.mem_map]

/-- Every rank proposes under its own slot. -/
theorem id_bare (plan : Plan) (rank : Rank) (number : Nat) :
    (plan.bare rank number).id = .ofRank rank :=
  plan.slotted rank number

/-- No two proposals of a round are at one place in the order. -/
theorem round_ascending (plan : Plan) {everyone : List Rank} (distinct : everyone.Nodup)
    (number : Nat) :
    (plan.round everyone number).Pairwise fun first second => first.key < second.key := by
  have keys : ((everyone.map fun rank => plan.bare rank number).map Proposal.key).Nodup := by
    rw [List.map_map]
    apply distinct.map_on
    intro left _ right _ same
    have ids := congrArg OrderKey.id same
    have slots : ProposalId.ofRank left = ProposalId.ofRank right := by
      rw [← plan.id_bare left number, ← plan.id_bare right number]
      exact ids
    exact ProposalId.ofRank_inj.1 slots
  have apart := ((plan.round_perm everyone number).map Proposal.key).nodup_iff.2 keys
  have both := (Ledger.sorted_pairwise (everyone.map fun rank => plan.bare rank number)).and
    (List.pairwise_map.1 apart)
  exact both.imp fun together => OrderKey.lt_of_le_of_ne together.1 together.2

/-- All proposals of the first rounds, in the order of execution. -/
def rounds (plan : Plan) (everyone : List Rank) (count : Nat) : List Proposal :=
  (List.range count).flatMap (plan.round everyone)

/-- Each round comes after all before it. -/
theorem rounds_succ (plan : Plan) (everyone : List Rank) (count : Nat) :
    plan.rounds everyone (count + 1) =
      plan.rounds everyone count ++ plan.round everyone count := by
  simp [rounds, List.range_succ]

/-- Fewer rounds are a front of more. -/
theorem rounds_prefix (plan : Plan) (everyone : List Rank) {fewer more : Nat}
    (order : fewer ≤ more) : plan.rounds everyone fewer <+: plan.rounds everyone more := by
  have front : List.range fewer <+: List.range more := by
    have taken := List.take_prefix fewer (List.range more)
    rwa [List.take_range, Nat.min_eq_left order] at taken
  exact List.IsPrefix.flatMap front _

/-- Where times ascend, an entry that is no later than a planned one was not planned after it. -/
theorem number_le {plan : Plan} {rank : Rank} {first second : Nat}
    (within : first < plan.count rank)
    (earlier : (plan.bare rank first).key ≤ (plan.bare rank second).key) : first ≤ second := by
  by_cases after : second < first
  · have times : (plan.proposal rank second).createdAt.toNat <
        (plan.proposal rank first).createdAt.toNat := plan.ascending after within
    rw [OrderKey.le_iff] at earlier
    have firstTime : (plan.bare rank first).key.createdAt =
        (plan.proposal rank first).createdAt := rfl
    have secondTime : (plan.bare rank second).key.createdAt =
        (plan.proposal rank second).createdAt := rfl
    rw [firstTime, secondTime] at earlier
    omega
  · exact Nat.le_of_not_lt after

/-- What waits under a slot once the first rounds are gone. -/
def pending (plan : Plan) (rank : Rank) (taken arrived : Nat) : List Proposal :=
  ((List.range arrived).drop taken).map (plan.bare rank)

/-- The first proposal that has arrived and not been taken is the next one. -/
theorem pending_eq_cons (plan : Plan) (rank : Rank) {taken arrived : Nat}
    (more : taken < arrived) :
    plan.pending rank taken arrived =
      plan.bare rank taken :: plan.pending rank (taken + 1) arrived := by
  have inside : taken < (List.range arrived).length := by
    rw [List.length_range]
    exact more
  rw [pending, List.drop_eq_getElem_cons inside, List.map_cons, List.getElem_range]
  rfl

/-- What is pending of a rank are its proposals from the first not taken to the last arrived. -/
theorem mem_pending {plan : Plan} {rank : Rank} {taken arrived : Nat} {proposal : Proposal} :
    proposal ∈ plan.pending rank taken arrived ↔
      ∃ number, taken ≤ number ∧ number < arrived ∧ plan.bare rank number = proposal := by
  rw [pending, List.mem_map]
  constructor
  · rintro ⟨number, member, rfl⟩
    obtain ⟨index, inside, rfl⟩ := List.mem_iff_getElem.1 member
    rw [List.length_drop, List.length_range] at inside
    refine ⟨taken + index, by omega, by omega, ?_⟩
    rw [List.getElem_drop, List.getElem_range]
  · rintro ⟨number, least, below, rfl⟩
    refine ⟨number, ?_, rfl⟩
    apply List.mem_iff_getElem.2
    refine ⟨number - taken, ?_, ?_⟩
    · rw [List.length_drop, List.length_range]
      omega
    · rw [List.getElem_drop, List.getElem_range]
      omega

/-- The proposals of a round are in one order only. -/
theorem eq_round (plan : Plan) {everyone : List Rank} (distinct : everyone.Nodup) {number : Nat}
    {proposals : List Proposal} (perm : proposals.Perm (plan.round everyone number))
    (ordered : proposals.Pairwise fun first second => first.key ≤ second.key) :
    proposals = plan.round everyone number := by
  have roundOrder : (plan.round everyone number).Pairwise
      fun first second => first.key ≤ second.key :=
    (plan.round_ascending distinct number).imp fun before => OrderKey.le_of_lt before
  refine List.Perm.eq_of_pairwise ?_ ordered roundOrder perm
  intro left right inLeft inRight lower upper
  obtain ⟨leftRank, _, rfl⟩ := mem_round.1 (perm.mem_iff.1 inLeft)
  obtain ⟨rightRank, _, rfl⟩ := mem_round.1 inRight
  have keys := OrderKey.eq_of_le_of_le lower upper
  have ids := congrArg OrderKey.id keys
  have sameSlot : ProposalId.ofRank leftRank = ProposalId.ofRank rightRank := by
    rw [← plan.id_bare leftRank number, ← plan.id_bare rightRank number]
    exact ids
  rw [ProposalId.ofRank_inj.1 sameSlot]

section takeRound

variable {ledger : Ledger} {everyone : List Rank} {taken : Nat}

/-- What is taken out of a ledger was in it. -/
theorem mem_of_mem_takeRound {entry : Proposal} (member : entry ∈ ledger.takeRound.1) :
    entry ∈ ledger.entries :=
  (Ledger.takeRound_spec ledger).1.mem_iff.1 (List.mem_append_left _ member)

/-- A round has one entry of every process if there are entries of so many. -/
theorem slots_takeRound
    (known : ∀ entry ∈ ledger.entries, ∃ rank ∈ everyone, entry.id = .ofRank rank)
    (enough : everyone.length ≤ ledger.distinctIds) :
    (ledger.takeRound.1.map Proposal.id).Perm (everyone.map ProposalId.ofRank) := by
  obtain ⟨_, _, once, size, _⟩ := Ledger.takeRound_spec ledger
  have subset : ledger.takeRound.1.map Proposal.id ⊆ everyone.map ProposalId.ofRank := by
    intro id member
    obtain ⟨entry, inRound, rfl⟩ := List.mem_map.1 member
    obtain ⟨rank, listed, same⟩ := known entry (mem_of_mem_takeRound inRound)
    exact List.mem_map.2 ⟨rank, listed, same.symm⟩
  apply (List.subperm_of_subset once subset).perm_of_length_le
  rw [List.length_map, List.length_map, size]
  exact enough

/-- The entry that a round has for a process is the next of its plan. -/
theorem next_of_mem_takeRound (plan : Plan) {rank : Rank} {arrived : Nat}
    (within : arrived ≤ plan.count rank)
    (held : ((Proposal.underSlot rank ledger.entries).map Proposal.bare).Perm
      (plan.pending rank taken arrived))
    {entry : Proposal} (inRound : entry ∈ ledger.takeRound.1) (slot : entry.id = .ofRank rank) :
    taken < arrived ∧ entry.bare = plan.bare rank taken := by
  obtain ⟨_, _, once, _, covering⟩ := Ledger.takeRound_spec ledger
  have among : entry.bare ∈ plan.pending rank taken arrived := by
    rw [← held.mem_iff]
    exact List.mem_map_of_mem (List.mem_filter.2
      ⟨mem_of_mem_takeRound inRound, decide_eq_true slot⟩)
  obtain ⟨number, least, below, same⟩ := mem_pending.1 among
  have more : taken < arrived := Nat.lt_of_le_of_lt least below
  have first : plan.bare rank taken ∈
      (Proposal.underSlot rank ledger.entries).map Proposal.bare := by
    rw [held.mem_iff, plan.pending_eq_cons rank more]
    exact List.mem_cons_self
  obtain ⟨oldest, inSlot, sameOldest⟩ := List.mem_map.1 first
  obtain ⟨inEntries, oldestSlot⟩ := List.mem_filter.1 inSlot
  -- Under this slot the round chose an entry no later than the oldest, so it is the oldest.
  obtain ⟨chosen, inChosen, chosenSlot, notLater⟩ := covering oldest inEntries
  have sameEntry : chosen = entry := by
    apply List.inj_on_of_nodup_map once inChosen inRound
    rw [chosenSlot, of_decide_eq_true oldestSlot, slot]
  have early : (plan.bare rank number).key ≤ (plan.bare rank taken).key := by
    rw [same, ← sameOldest, Proposal.bare_key, Proposal.bare_key, ← sameEntry]
    exact notLater
  have bounded := number_le (Nat.lt_of_lt_of_le below within) early
  have equal : number = taken := Nat.le_antisymm bounded least
  exact ⟨more, by rw [← same, equal]⟩

/-- Without the entry that the next round takes, the one after it comes next under a slot. -/
theorem pending_takeRound (plan : Plan) {rank : Rank} {arrived : Nat}
    (held : ((Proposal.underSlot rank ledger.entries).map Proposal.bare).Perm
      (plan.pending rank taken arrived))
    {entry : Proposal} (inRound : entry ∈ ledger.takeRound.1) (slot : entry.id = .ofRank rank)
    (more : taken < arrived) (content : entry.bare = plan.bare rank taken) :
    ((Proposal.underSlot rank ledger.takeRound.2.entries).map Proposal.bare).Perm
      (plan.pending rank (taken + 1) arrived) := by
  obtain ⟨perm, _, once, _, _⟩ := Ledger.takeRound_spec ledger
  have only : Proposal.inSlot (.ofRank rank) ledger.takeRound.1 = [entry] :=
    slot ▸ Proposal.inSlot_of_distinct once inRound
  have front : (ledger.takeRound.1.filter fun proposal =>
      decide (proposal.id = .ofRank rank)) = [entry] := only
  have split := (perm.filter fun proposal => decide (proposal.id = .ofRank rank)).map
    Proposal.bare
  rw [List.filter_append, List.map_append, front, List.map_cons, List.map_nil,
    List.singleton_append, content] at split
  have whole := split.trans held
  rw [plan.pending_eq_cons rank more] at whole
  exact whole.cons_inv

/-- A ledger that holds an entry of every process gives up the next round. -/
theorem takeRound_eq (plan : Plan) (distinct : everyone.Nodup) {arrived : Rank → Nat}
    (known : ∀ entry ∈ ledger.entries, ∃ rank ∈ everyone, entry.id = .ofRank rank)
    (within : ∀ rank ∈ everyone, arrived rank ≤ plan.count rank)
    (held : ∀ rank ∈ everyone, ((Proposal.underSlot rank ledger.entries).map Proposal.bare).Perm
      (plan.pending rank taken (arrived rank)))
    (enough : everyone.length ≤ ledger.distinctIds) :
    ledger.takeRound.1.map Proposal.bare = plan.round everyone taken ∧
      ∀ rank ∈ everyone, taken < arrived rank ∧
        ((Proposal.underSlot rank ledger.takeRound.2.entries).map Proposal.bare).Perm
          (plan.pending rank (taken + 1) (arrived rank)) := by
  have slots := slots_takeRound known enough
  have next : ∀ entry ∈ ledger.takeRound.1, ∀ rank ∈ everyone, entry.id = .ofRank rank →
      taken < arrived rank ∧ entry.bare = plan.bare rank taken :=
    fun entry inRound rank listed slot =>
      plan.next_of_mem_takeRound (within rank listed) (held rank listed) inRound slot
  constructor
  · have content : ledger.takeRound.1.map Proposal.bare =
        ((ledger.takeRound.1.map Proposal.id).map ProposalId.owner).map
          fun rank => plan.bare rank taken := by
      rw [List.map_map, List.map_map]
      apply List.map_congr_left
      intro entry inRound
      obtain ⟨rank, listed, slot⟩ := known entry (mem_of_mem_takeRound inRound)
      rw [(next entry inRound rank listed slot).2]
      show plan.bare rank taken = plan.bare entry.id.owner taken
      rw [slot, ProposalId.owner_ofRank]
    have owners : ((everyone.map ProposalId.ofRank).map ProposalId.owner) = everyone := by
      rw [List.map_map]
      exact List.map_id everyone
    refine plan.eq_round distinct ?_ (List.pairwise_map.2 ledger.takeRound_spec.2.1)
    rw [content]
    have renamed := (slots.map ProposalId.owner).map fun rank => plan.bare rank taken
    rw [owners] at renamed
    exact renamed.trans (plan.round_perm everyone taken).symm
  · intro rank listed
    have slot := slots.mem_iff.2 (List.mem_map_of_mem (f := ProposalId.ofRank) listed)
    obtain ⟨entry, inRound, same⟩ := List.mem_map.1 slot
    obtain ⟨more, content⟩ := next entry inRound rank listed same
    exact ⟨more, plan.pending_takeRound (held rank listed) inRound same more content⟩

end takeRound

end Plan

end Concord
