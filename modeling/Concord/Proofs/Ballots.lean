import Concord.Proofs.Delivery
import Mathlib.Data.List.Perm.Subperm

/-!
# Ballots

A process numbers its ballots, and a vote names the number it is about. Because nothing on a
link is lost, repeated or reordered, a process votes at most once on each ballot, no vote names
a ballot that was not held, and a ballot has all its votes when every other process has judged
its envelope.
-/

namespace Concord

namespace Network

/-- The processes whose vote on a ballot has reached the process that holds it. -/
def voters (network : Network) (rank : Rank) (number : Nat) : List Rank :=
  ((network.votes rank).filter fun vote => decide (vote.2.1 = number)).map Prod.fst

/-- How many votes of a kind on a ballot have reached the process that holds it. -/
def tally (network : Network) (rank : Rank) (number : Nat) (yes : Bool) : Nat :=
  (network.votes rank).countP fun vote => decide (vote.2 = (number, yes))

/-- Every vote on a ballot is a yes or a no. -/
theorem length_voters (network : Network) (rank : Rank) (number : Nat) :
    (network.voters rank number).length =
      network.tally rank number true + network.tally rank number false := by
  simp only [voters, tally, List.length_map]
  induction network.votes rank with
  | nil => rfl
  | cons vote rest inductionHypothesis =>
    obtain ⟨voter, cast, yes⟩ := vote
    by_cases here : cast = number <;> cases yes <;>
      simp [here, inductionHypothesis] <;> omega

/-- How often a process is among the voters is how often it has voted on the ballot. -/
theorem count_voters (network : Network) (rank voter : Rank) (number : Nat) :
    (network.voters rank number).count voter =
      (((network.votes rank).filter fun vote => decide (vote.1 = voter)).map
        fun vote => vote.2.1).count number := by
  simp only [voters]
  induction network.votes rank with
  | nil => rfl
  | cons vote rest inductionHypothesis =>
    obtain ⟨source, cast, yes⟩ := vote
    by_cases here : cast = number <;> by_cases own : source = voter <;>
      simp [here, own, inductionHypothesis]

/-- What a process has judged of another's ballots is among what that one offered, in turn. -/
theorem Lawful.judgements_prefix {network : Network} (lawful : network.Lawful)
    {voter origin : Rank} (linked : network.Linked origin voter) :
    ((network.judgements voter origin).map fun vote => (vote.1, vote.2.1)) <+:
      network.offers origin := by
  rw [← lawful.voted, ← proposals_written network origin voter, lawful.pipeline linked,
    List.filterMap_append]
  exact List.prefix_append _ _

/-- The votes that have reached a process from another say how that one has judged, in turn. -/
theorem Lawful.votes_prefix {network : Network} (lawful : network.Lawful) {voter origin : Rank}
    (linked : network.Linked voter origin) :
    (((network.votes origin).filter fun vote => decide (vote.1 = voter)).map Prod.snd) <+:
      (network.judgements voter origin).map fun vote => (vote.1, vote.2.2.isAccept) := by
  rw [votes_from, ← votes_written network voter origin, lawful.pipeline linked,
    List.filterMap_append]
  exact List.prefix_append _ _

/-- A link leads both ways. -/
theorem Linked.symm {network : Network} {sender receiver : Rank}
    (linked : network.Linked sender receiver) : network.Linked receiver sender :=
  ⟨linked.2.1, linked.1, fun same => linked.2.2 same.symm⟩

/-- Whoever has voted takes part in the world. -/
theorem Lawful.linked_of_vote {network : Network} (lawful : network.Lawful)
    {rank : Rank} {vote : Rank × Nat × Bool} (member : vote ∈ network.votes rank) :
    network.Linked vote.1 rank := by
  have own : vote ∈ (network.votes rank).filter fun other => decide (other.1 = vote.1) := by
    simp [member]
  have cast := List.mem_map_of_mem (f := Prod.snd) own
  rw [votes_from] at cast
  obtain ⟨message, handled, _⟩ := List.mem_filterMap.1 cast
  exact lawful.linked_of_handled handled

/-- Ballots are numbered from one on, and only processes of the world hold any. -/
structure Numbered (network : Network) : Prop where
  lawful : network.Lawful
  present : ∀ {rank}, network.offers rank ≠ [] → network.bus.Joined rank
  numbered : ∀ rank, (network.offers rank).map Prod.fst =
    List.range' 1 (network.stations rank).peer.ballotsHeld

/-! ## Every process votes at most once -/

/-- No two ballots of a process have one number. -/
theorem Numbered.offers_nodup {network : Network} (numbering : network.Numbered) (rank : Rank) :
    ((network.offers rank).map Prod.fst).Nodup := by
  rw [numbering.numbered]
  exact List.nodup_range'

/-- A number names one envelope. -/
theorem Numbered.envelope_unique {network : Network} (numbering : network.Numbered) {rank : Rank}
    {number : Nat} {first second : Bytes} (one : (number, first) ∈ network.offers rank)
    (other : (number, second) ∈ network.offers rank) : first = second := by
  have distinct := numbering.offers_nodup rank
  have same := List.inj_on_of_nodup_map distinct one other rfl
  exact congrArg Prod.snd same

/-- No process judges a ballot of another one twice. -/
theorem Numbered.judgements_nodup {network : Network} (numbering : network.Numbered)
    {voter origin : Rank} (linked : network.Linked origin voter) :
    ((network.judgements voter origin).map Prod.fst).Nodup := by
  have front := (numbering.lawful.judgements_prefix linked).map Prod.fst
  rw [List.map_map] at front
  exact (numbering.offers_nodup origin).sublist front.sublist

/-- No process votes twice on a ballot. -/
theorem Numbered.voters_nodup {network : Network} (numbering : network.Numbered) (rank : Rank)
    (number : Nat) : (network.voters rank number).Nodup := by
  rw [List.nodup_iff_count_le_one]
  intro voter
  rw [count_voters]
  by_cases linked : network.Linked voter rank
  · have front := (numbering.lawful.votes_prefix linked).map Prod.fst
    simp only [List.map_map] at front
    have distinct := (numbering.judgements_nodup linked.symm).sublist front.sublist
    exact List.nodup_iff_count_le_one.1 distinct number
  · have none : (network.votes rank).filter (fun vote => decide (vote.1 = voter)) = [] := by
      apply List.filter_eq_nil_iff.2
      intro vote member own
      have there := numbering.lawful.linked_of_vote member
      rw [of_decide_eq_true own] at there
      exact linked there
    simp [none]

/-- Nobody votes on a ballot but the other processes. -/
theorem Numbered.voters_subset {network : Network} (numbering : network.Numbered) (rank : Rank)
    (number : Nat) : network.voters rank number ⊆ network.bus.everyoneElse rank := by
  intro voter member
  obtain ⟨vote, cast, rfl⟩ := List.mem_map.1 member
  have linked := numbering.lawful.linked_of_vote (List.mem_of_mem_filter cast)
  exact (Bus.mem_everyoneElse numbering.lawful.sound).2 ⟨linked.1, linked.2.2⟩

/-- A ballot has no more votes than there are other processes. -/
theorem Numbered.tally_le {network : Network} (numbering : network.Numbered) {rank : Rank}
    (joined : network.bus.Joined rank) (number : Nat) :
    network.tally rank number true + network.tally rank number false ≤
      Peer.others network.bus := by
  rw [← length_voters, Peer.others, ← Bus.length_everyoneElse numbering.lawful.sound joined]
  exact (List.subperm_of_subset (numbering.voters_nodup rank number)
    (numbering.voters_subset rank number)).length_le

/-- Where all votes are in, every other process has cast one. -/
theorem Numbered.everyone_voted {network : Network} (numbering : network.Numbered) {rank : Rank}
    (joined : network.bus.Joined rank) {number : Nat}
    (full : network.tally rank number true + network.tally rank number false =
      Peer.others network.bus) {voter : Rank} (other : voter ∈ network.bus.everyoneElse rank) :
    voter ∈ network.voters rank number := by
  have listed : rank ∈ Rank.all network.bus.worldSize :=
    (Bus.mem_all_of_joined numbering.lawful.sound).2 joined
  exact Bus.everyoneElse_subset listed (numbering.voters_nodup rank number)
    (numbering.voters_subset rank number) ((length_voters _ _ _).trans full) other

/-- Where no two entries have one key, a look-up of a key finds one entry. -/
theorem filter_eq_singleton {Value : Type} {entries : List (Nat × Value)}
    (distinct : (entries.map Prod.fst).Nodup) {entry : Nat × Value} (member : entry ∈ entries) :
    entries.filter (fun other => decide (other.1 = entry.1)) = [entry] :=
  filter_of_distinct distinct member

/-- A vote that has reached the holder of a ballot was cast by judging the ballot's envelope,
and the voter has judged nothing else under this number. -/
theorem Numbered.judged_of_vote {network : Network} (numbering : network.Numbered)
    {rank voter : Rank} {number : Nat} {yes : Bool}
    (cast : (voter, number, yes) ∈ network.votes rank) :
    ∃ envelope verdict, (number, envelope) ∈ network.offers rank ∧
      verdict.isAccept = yes ∧
      (network.judgements voter rank).filter (fun vote => decide (vote.1 = number)) =
        [(number, envelope, verdict)] := by
  have linked : network.Linked voter rank := numbering.lawful.linked_of_vote cast
  have own : (voter, number, yes) ∈
      (network.votes rank).filter fun other => decide (other.1 = voter) := by
    simp [cast]
  have inJudgements := (numbering.lawful.votes_prefix linked).subset
    (List.mem_map.2 ⟨_, own, rfl⟩)
  obtain ⟨⟨judgedNumber, envelope, verdict⟩, judged, shape⟩ := List.mem_map.1 inJudgements
  obtain ⟨rfl, rfl⟩ := Prod.mk.inj shape
  refine ⟨envelope, verdict, ?_, rfl, ?_⟩
  · exact (numbering.lawful.judgements_prefix linked.symm).subset
      (List.mem_map.2 ⟨_, judged, rfl⟩)
  · exact filter_eq_singleton (numbering.judgements_nodup linked.symm) judged

/-- A number of an offer is among the numbers given out. -/
theorem Numbered.number_le {network : Network} (numbering : network.Numbered) {rank : Rank}
    {number : Nat} {envelope : Bytes} (offered : (number, envelope) ∈ network.offers rank) :
    1 ≤ number ∧ number ≤ (network.stations rank).peer.ballotsHeld := by
  have listed := List.mem_map_of_mem (f := Prod.fst) offered
  rw [numbering.numbered, List.mem_range'] at listed
  obtain ⟨index, below, shape⟩ := listed
  have same : number = 1 + 1 * index := shape
  omega

/-- No vote names a ballot that has not been held. -/
theorem Numbered.tally_eq_zero {network : Network} (numbering : network.Numbered) {rank : Rank}
    {number : Nat} (unheld : (network.stations rank).peer.ballotsHeld < number) (yes : Bool) :
    network.tally rank number yes = 0 := by
  rw [tally, List.countP_eq_zero]
  rintro ⟨voter, cast⟩ member named
  have names : cast = (number, yes) := of_decide_eq_true named
  subst names
  obtain ⟨envelope, verdict, offered, _⟩ := numbering.judged_of_vote member
  have held := (numbering.number_le offered).2
  omega

end Network

end Concord
