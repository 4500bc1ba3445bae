import Concord.Network.Site
import Concord.Proofs.Tallies

/-!
# What a count of votes shows

A peer counts votes, not voters: it looks at the number that a vote names and at nothing else.
Here one peer is taken out of its world. Between any two requests its bus may become any other of
the same size, so anybody may send it anything, under any name and as often as they like. The
first votes on a ballot, as many as there are other processes, decide it
(`ObservedSite.first_votes_decide`). They are one of each other process if no two of them are of
one process.
-/

namespace Concord

/-- A vote as it reaches a peer: who has sent it, the name on it, and what it says. -/
structure ReceivedVote where
  sender : Rank
  voter : Rank
  yes : Bool
deriving DecidableEq

/-- The vote on the ballot with a number that a delivery is. -/
def ReceivedVote.on? (number : Nat) : Rank × Message → Option ReceivedVote
  | (sender, .vote voter named yes) => if named = number then some ⟨sender, voter, yes⟩ else none
  | _ => none

/-- The votes on the ballot with a number. -/
def ReceivedVote.allOn (number : Nat) (received : List (Rank × Message)) : List ReceivedVote :=
  received.filterMap (on? number)

/-- One more delivery adds its vote to those on its ballot. -/
theorem ReceivedVote.allOn_concat (number : Nat) (received : List (Rank × Message))
    (delivery : Rank × Message) :
    allOn number (received ++ [delivery]) =
      allOn number received ++ (on? number delivery).toList := by
  rw [allOn, List.filterMap_append, List.filterMap_cons, List.filterMap_nil]
  cases on? number delivery <;> rfl

/-- Every vote is a yes or a no. -/
theorem ReceivedVote.countP_add_countP (votes : List ReceivedVote) :
    votes.countP yes + votes.countP (fun vote => !vote.yes) = votes.length := by
  induction votes with
  | nil => rfl
  | cons vote rest inductionHypothesis =>
    simp only [List.countP_cons, List.length_cons]
    cases vote.yes <;> simp <;> omega

/-- No vote is a no exactly if every vote is a yes. -/
theorem ReceivedVote.countP_no {votes : List ReceivedVote} :
    votes.countP (fun vote => !vote.yes) = 0 ↔ ∀ vote ∈ votes, vote.yes = true := by
  simp [List.countP_eq_zero]

/-! ## Counting -/

/-- Whether a ballot stands as the first of some votes say, as many as there are other processes. -/
structure Ballot.Counts (others : Nat) (votes : List ReceivedVote) (ballot : Ballot) : Prop where
  yes : ballot.yes = (votes.take others).countP ReceivedVote.yes
  no : ballot.no = (votes.take others).countP fun vote => !vote.yes
  status : ballot.status =
    if votes.length < others then .inProgress
    else if (votes.take others).countP (fun vote => !vote.yes) = 0 then .approved
    else .denied

namespace Ballot.Counts

variable {others : Nat} {votes : List ReceivedVote} {ballot : Ballot}

/-- Votes are still missing exactly while the ballot is under way. -/
theorem inProgress_iff (counts : ballot.Counts others votes) :
    ballot.status = .inProgress ↔ votes.length < others := by
  rw [counts.status]
  split
  · next waits => exact iff_of_true rfl waits
  · next full => split <;> exact iff_of_false (by decide) full

/-- The first votes approve the ballot if they are all in, and all yes. -/
theorem approved_iff (counts : ballot.Counts others votes) :
    ballot.status = .approved ↔
      (votes.take others).length = others ∧ ∀ vote ∈ votes.take others, vote.yes = true := by
  rw [counts.status, List.length_take, min_eq_left_iff]
  split
  · next waits => exact iff_of_false (by decide) fun full => absurd full.1 (Nat.not_le.2 waits)
  · next full =>
    split
    · next accepted =>
      exact iff_of_true rfl ⟨Nat.le_of_not_lt full, ReceivedVote.countP_no.1 accepted⟩
    · next rejected =>
      exact iff_of_false (by decide) fun all => rejected (ReceivedVote.countP_no.2 all.2)

/-- They deny it if they are all in, and one of them is no. -/
theorem denied_iff (counts : ballot.Counts others votes) :
    ballot.status = .denied ↔
      (votes.take others).length = others ∧ ∃ vote ∈ votes.take others, vote.yes = false := by
  rw [counts.status, List.length_take, min_eq_left_iff]
  split
  · next waits => exact iff_of_false (by decide) fun full => absurd full.1 (Nat.not_le.2 waits)
  · next full =>
    split
    · next accepted =>
      refine iff_of_false (by decide) ?_
      rintro ⟨-, vote, member, no⟩
      exact absurd (ReceivedVote.countP_no.1 accepted vote member) (Bool.eq_false_iff.1 no)
    · next rejected =>
      have someNo : ∃ vote ∈ votes.take others, vote.yes = false := by
        simpa using mt ReceivedVote.countP_no.2 rejected
      exact iff_of_true rfl ⟨Nat.le_of_not_lt full, someNo⟩

/-- A ballot takes no notice of votes that come after its decision. -/
theorem late (counts : ballot.Counts others votes) (decided : ballot.status ≠ .inProgress)
    (vote : ReceivedVote) : ballot.Counts others (votes ++ [vote]) := by
  have full : others ≤ votes.length := Nat.le_of_not_lt fun waits =>
    decided (counts.inProgress_iff.2 waits)
  have same : (votes ++ [vote]).take others = votes.take others :=
    List.take_append_of_le_length full
  have longer : ¬ (votes ++ [vote]).length < others := by
    rw [List.length_append, List.length_singleton]
    omega
  refine ⟨same ▸ counts.yes, same ▸ counts.no, ?_⟩
  rw [counts.status, if_neg (Nat.not_lt.2 full), if_neg longer, same]

/-- One more vote on a ballot under way is counted, and decides the ballot if it is the last. -/
theorem add (counts : ballot.Counts others votes) (running : ballot.status = .inProgress)
    (vote : ReceivedVote) :
    let counted := Peer.addVote ballot vote.yes
    Ballot.Counts others (votes ++ [vote]) { counted with
      status := if counted.yes + counted.no < others then .inProgress
        else if counted.no = 0 then .approved else .denied } := by
  have waits := counts.inProgress_iff.1 running
  have whole : votes.take others = votes := List.take_of_length_le (Nat.le_of_lt waits)
  have wholeToo : (votes ++ [vote]).take others = votes ++ [vote] := by
    refine List.take_of_length_le ?_
    rw [List.length_append, List.length_singleton]
    exact waits
  have yes : (Peer.addVote ballot vote.yes).yes = (votes ++ [vote]).countP ReceivedVote.yes := by
    rw [Peer.addVote_yes, counts.yes, whole, List.countP_append, List.countP_singleton]
  have no : (Peer.addVote ballot vote.yes).no =
      (votes ++ [vote]).countP fun cast => !cast.yes := by
    rw [Peer.addVote_no, counts.no, whole, List.countP_append, List.countP_singleton]
    cases vote.yes <;> rfl
  have sum : (Peer.addVote ballot vote.yes).yes + (Peer.addVote ballot vote.yes).no =
      (votes ++ [vote]).length := by
    rw [yes, no, ReceivedVote.countP_add_countP]
  refine ⟨wholeToo.symm ▸ yes, wholeToo.symm ▸ no, ?_⟩
  rw [wholeToo, ← no]
  simp only [sum]

end Ballot.Counts

namespace Peer

/-- Whether the own ballot of a peer, if it has one, stands as the votes that it has heard say. -/
def Counts (others : Nat) (received : List (Rank × Message)) (peer : Peer) : Prop :=
  ∀ ballot, peer.ballot = some ballot →
    ballot.Counts others (ReceivedVote.allOn ballot.number received)

namespace Counts

variable {others : Nat} {received : List (Rank × Message)} {peer : Peer}

/-- What happens to a peer and leaves it its ballot, or takes it away, changes no count. -/
theorem frame (counts : peer.Counts others received) {after : Peer}
    (kept : ∀ ballot, after.ballot = some ballot → peer.ballot = some ballot) :
    after.Counts others received :=
  fun ballot found => counts ballot (kept ballot found)

/-- A delivery that is no vote on the own ballot says nothing about it. -/
theorem concat (counts : peer.Counts others received) {delivery : Rank × Message}
    (other : ∀ ballot, peer.ballot = some ballot → ReceivedVote.on? ballot.number delivery = none) :
    peer.Counts others (received ++ [delivery]) := by
  intro ballot found
  rw [ReceivedVote.allOn_concat, other ballot found, Option.toList_none, List.append_nil]
  exact counts ballot found

/-- A peer that acts on a vote counts it. -/
theorem vote {bus : Bus} (counts : peer.Counts (Peer.others bus) received) (judge : Judge)
    (sender voter : Rank) (number : Nat) (yes : Bool) :
    (handle judge bus peer (.vote voter number yes)).2.Counts (Peer.others bus)
      (received ++ [(sender, .vote voter number yes)]) := by
  rcases vote_cases judge bus peer voter number yes with
    ⟨ignored, -, same⟩ | ⟨ballot, found, rfl, running, outcome⟩
  · rw [same]
    intro ballot found
    by_cases named : number = ballot.number
    · rw [ReceivedVote.allOn_concat, ReceivedVote.on?, if_pos named]
      exact (counts ballot found).late ((ignored ballot found).resolve_left (· named.symm)) _
    · rw [ReceivedVote.allOn_concat, ReceivedVote.on?, if_neg named, Option.toList_none,
        List.append_nil]
      exact counts ballot found
  · have added := (counts ballot found).add running ⟨sender, voter, yes⟩
    have one :
        ReceivedVote.allOn ballot.number
          (received ++ [(sender, .vote voter ballot.number yes)]) =
        ReceivedVote.allOn ballot.number received ++ [⟨sender, voter, yes⟩] := by
      rw [ReceivedVote.allOn_concat, ReceivedVote.on?, if_pos rfl, Option.toList_some]
    rcases outcome with ⟨waits, -, changed⟩ | ⟨full, -, changed⟩
    · rw [changed]
      intro counted here
      cases here
      rw [addVote_number, one]
      simp only [if_pos waits] at added
      rwa [← running, ← addVote_status ballot yes] at added
    · rw [changed]
      intro counted here
      cases here
      simp only [if_neg (Nat.not_lt.2 full), addVote_number] at added
      rw [addVote_number, one]
      exact added

/-- A peer that acts on a delivery counts it if it is a vote on its ballot. -/
theorem handle {bus : Bus} (counts : peer.Counts (Peer.others bus) received) (judge : Judge)
    (sender : Rank) (message : Message) :
    (Peer.handle judge bus peer message).2.Counts (Peer.others bus)
      (received ++ [(sender, message)]) := by
  cases cast : message.vote? with
  | some vote =>
    cases message with
    | vote voter number yes => exact counts.vote judge sender voter number yes
    | _ => cases cast
  | none =>
    have silent : ∀ number, ReceivedVote.on? number (sender, message) = none := by
      intro number
      cases message with
      | vote voter named yes => cases cast
      | _ => rfl
    have kept := ballot_handle_of_not_vote judge bus peer cast
    exact (counts.concat fun ballot _ => silent ballot.number).frame fun _ found =>
      kept.symm.trans found

end Counts

/-- Acting on a message leaves the world as large as it is. -/
theorem worldSize_handle (judge : Judge) (bus : Bus) (peer : Peer) (message : Message) :
    (handle judge bus peer message).1.worldSize = bus.worldSize := by
  rw [handle_fst, Bus.worldSize_sendEach]
  rfl

/-- So does acting on several. -/
theorem worldSize_handleAll (judge : Judge) (bus : Bus) (peer : Peer)
    (messages : List (Rank × Message)) :
    (handleAll judge bus peer messages).1.worldSize = bus.worldSize := by
  induction messages generalizing bus peer with
  | nil => rfl
  | cons delivery rest inductionHypothesis =>
    exact (inductionHypothesis _ _).trans (worldSize_handle judge bus peer delivery.2)

/-- A peer that acts on several deliveries counts the votes among them. -/
theorem Counts.handleAll {bus : Bus} {peer : Peer} {received : List (Rank × Message)}
    (counts : peer.Counts (others bus) received) (judge : Judge)
    (messages : List (Rank × Message)) :
    (Peer.handleAll judge bus peer messages).2.Counts (others bus) (received ++ messages) := by
  induction messages generalizing bus peer received with
  | nil =>
    rw [List.append_nil]
    exact counts
  | cons delivery rest inductionHypothesis =>
    obtain ⟨sender, message⟩ := delivery
    have same : others (Peer.handle judge bus peer message).1 = others bus := by
      rw [others, worldSize_handle, others]
    have handled := counts.handle judge sender message
    rw [← same] at handled
    have counted := inductionHypothesis handled
    rwa [same, List.append_assoc] at counted

/-- On a ballot that has just been held no vote has come. -/
theorem counts_withBallot (bus : Bus) (peer : Peer) (id : ProposalId) (envelope : Bytes) :
    (peer.withBallot bus id envelope).Counts (others bus) [] := by
  rintro ballot ⟨⟩
  refine ⟨by simp [ReceivedVote.allOn], by simp [ReceivedVote.allOn], ?_⟩
  by_cases noOthers : others bus = 0
  · simp [noOthers, ReceivedVote.allOn]
  · simp [noOthers, ReceivedVote.allOn, Nat.pos_of_ne_zero noOthers]

end Peer

/-! ## Whatever is sent -/

/-- A site, and what its peer has heard since it last held a ballot. -/
structure ObservedSite where
  site : Site
  received : List (Rank × Message)

namespace ObservedSite

/-- What a peer has heard once it has answered a request. -/
def after (observed : ObservedSite) : Request → List (Rank × Message)
  | .progress =>
    if observed.site.peer.finalized then observed.received
    else observed.received ++ (observed.site.bus.poll observed.site.peer.rank).1
  | .submitVote _ _ => if observed.site.peer.mayOffer then [] else observed.received
  | _ => observed.received

/-- A site that answers a request. -/
def answer (judge : Judge) (request : Request) (observed : ObservedSite) : ObservedSite :=
  ⟨(Site.answer judge request observed.site).2, observed.after request⟩

/-- A site on another bus. -/
def withBus (observed : ObservedSite) (bus : Bus) : ObservedSite :=
  { observed with site := { observed.site with bus } }

/-- What happens to a site: it answers a request, or others do something to its bus, be it what it
may. -/
inductive Step (observed : ObservedSite) : ObservedSite → Prop where
  | others (bus : Bus) (size : bus.worldSize = observed.site.bus.worldSize) :
      Step observed (observed.withBus bus)
  | answer (judge : Judge) (request : Request) : Step observed (observed.answer judge request)

/-- What can become of a site. -/
inductive Reaches (start : ObservedSite) : ObservedSite → Prop where
  | refl : Reaches start start
  | step {middle final : ObservedSite} (prior : Reaches start middle) (next : Step middle final) :
      Reaches start final

/-- Whether the ballot of the peer stands as the votes say that have reached it since it is held. -/
def Counted (observed : ObservedSite) : Prop :=
  observed.site.peer.Counts (Peer.others observed.site.bus) observed.received

/-- Answering a request leaves the world as large as it is. -/
theorem worldSize_answer (judge : Judge) (request : Request) (site : Site) :
    (Site.answer judge request site).2.bus.worldSize = site.bus.worldSize := by
  cases request with
  | progress =>
    simp only [Site.answer, Peer.progress]
    split
    · rfl
    · exact (Peer.worldSize_handleAll _ _ _ _).trans (Bus.worldSize_poll _ _)
  | submitVote id envelope =>
    cases accepts : site.peer.mayOffer with
    | true =>
      simp only [Site.answer, Peer.submitVote_of_mayOffer accepts]
      exact Bus.worldSize_sendEach _ _ _
    | false =>
      obtain ⟨cause, refused⟩ :=
        @Peer.submitVote_of_not_mayOffer site.bus site.peer accepts id envelope
      simp only [Site.answer, refused]
  | submitBroadcast id envelope =>
    simp only [Site.answer, Peer.submitBroadcast_snd]
    exact Bus.worldSize_sendEach _ _ _
  | _ => rfl

/-- Answering a request keeps the count of the own ballot right. -/
theorem Counted.answer {observed : ObservedSite} (counted : observed.Counted) (judge : Judge)
    (request : Request) : (observed.answer judge request).Counted := by
  have same : Peer.others (observed.answer judge request).site.bus =
      Peer.others observed.site.bus := by
    rw [Peer.others, ObservedSite.answer, worldSize_answer, Peer.others]
  unfold Counted
  rw [same]
  cases request with
  | progress =>
    simp only [ObservedSite.answer, Site.answer, Peer.progress, after]
    split
    · exact counted
    · have polled : Peer.others (observed.site.bus.poll observed.site.peer.rank).2 =
          Peer.others observed.site.bus := by
        rw [Peer.others, Bus.worldSize_poll, Peer.others]
      rw [← polled]
      exact Peer.Counts.handleAll (polled.symm ▸ counted) judge _
  | submitVote id envelope =>
    cases accepts : observed.site.peer.mayOffer with
    | true =>
      simp only [ObservedSite.answer, Site.answer, Peer.submitVote_of_mayOffer accepts,
        after, accepts, if_true]
      exact Peer.counts_withBallot _ _ _ _
    | false =>
      obtain ⟨cause, refused⟩ :=
        @Peer.submitVote_of_not_mayOffer observed.site.bus observed.site.peer accepts id envelope
      simp only [ObservedSite.answer, Site.answer, refused, after, accepts, Bool.false_eq_true,
        if_false]
      exact counted
  | checkout =>
    simp only [ObservedSite.answer, Site.answer, Peer.checkout, after]
    split
    · exact counted
    · exact counted.frame fun _ found => found
  | release => exact counted.frame fun _ found => absurd found.symm (Option.some_ne_none _)
  | _ => exact counted

/-- The count stays right whatever happens. -/
theorem Counted.reaches {start observed : ObservedSite} (counted : start.Counted)
    (reached : Reaches start observed) : observed.Counted := by
  induction reached with
  | refl => exact counted
  | @step middle _ _ next inductionHypothesis =>
    cases next with
    | others bus size =>
      have same : Peer.others bus = Peer.others middle.site.bus := congrArg (· - 1) size
      rw [Counted, withBus, same]
      exact inductionHypothesis
    | answer judge request => exact inductionHypothesis.answer judge request

/-- Whatever is sent to a peer, by whomever, and whatever is asked of it: its ballot is under way
until as many votes on its number have come as there are other processes. These first votes decide
it, approved if all of them are yes and denied otherwise. By whatever name votes are told apart, if
the first ones are of different other processes, then an approved ballot has the own yes of each. -/
theorem first_votes_decide {site : Site} (fresh : site.peer.ballot = none) {observed : ObservedSite}
    (reached : Reaches ⟨site, []⟩ observed) {ballot : Ballot}
    (held : observed.site.peer.ballot = some ballot) :
    let rank := observed.site.peer.rank
    let bus := observed.site.bus
    let votes := ReceivedVote.allOn ballot.number observed.received
    let first := votes.take (Peer.others bus)
    (ballot.status = .inProgress ↔ votes.length < Peer.others bus) ∧
    (ballot.status = .approved ↔
      first.length = Peer.others bus ∧ ∀ vote ∈ first, vote.yes = true) ∧
    (ballot.status = .denied ↔
      first.length = Peer.others bus ∧ ∃ vote ∈ first, vote.yes = false) ∧
    (rank ∈ Rank.all bus.worldSize → ∀ name : ReceivedVote → Rank,
      (first.map name).Nodup → first.map name ⊆ bus.everyoneElse rank →
        ballot.status = .approved → ∀ other ∈ bus.everyoneElse rank,
          ∃ vote ∈ first, name vote = other ∧ vote.yes = true) := by
  intro rank bus votes first
  have opens : Counted ⟨site, []⟩ := fun _ found =>
    absurd (found.symm.trans fresh) (Option.some_ne_none _)
  have counts : ballot.Counts (Peer.others bus) votes := opens.reaches reached ballot held
  refine ⟨counts.inProgress_iff, counts.approved_iff, counts.denied_iff, ?_⟩
  intro listed name distinct others approved other member
  obtain ⟨full, allYes⟩ := counts.approved_iff.1 approved
  have named : other ∈ first.map name :=
    Bus.everyoneElse_subset listed distinct others ((List.length_map _).trans full) member
  obtain ⟨vote, inFirst, same⟩ := List.mem_map.1 named
  exact ⟨vote, inFirst, same, allYes vote inFirst⟩

/-! ## Two votes of one process -/

/-- A site to which others send a yes each, on the ballot with the first number. -/
def sent (observed : ObservedSite) : List Rank → ObservedSite
  | [] => observed
  | sender :: rest =>
    let bus := observed.site.bus
    (observed.withBus (bus.send sender observed.site.peer.rank (.vote sender 1 true))).sent rest

/-- Others may send their votes at any time. -/
theorem Reaches.sent {start observed : ObservedSite} (reached : Reaches start observed)
    (senders : List Rank) : Reaches start (observed.sent senders) := by
  induction senders generalizing observed with
  | nil => exact reached
  | cons sender rest inductionHypothesis =>
    exact inductionHypothesis (reached.step (.others _ (Bus.worldSize_send _ _ _ _)))

/-- The first of three processes. -/
def firstOfThree : Site :=
  ⟨.connect 3 (.startingAt ⟨5000⟩) default .none, .create ⟨0⟩, .create⟩

/-- It holds a ballot, and receives the yes of some others. -/
def voted (senders : List Rank) : ObservedSite :=
  (((⟨firstOfThree, []⟩ : ObservedSite).answer (.staleness 1000) (.submitVote ⟨0⟩ [])).sent
    senders).answer (.staleness 1000) .progress

/-- The runs of the witness, for any senders. -/
theorem reaches_voted (senders : List Rank) : Reaches ⟨firstOfThree, []⟩ (voted senders) :=
  ((Reaches.refl.step (.answer _ _)).sent senders).step (.answer _ _)

/-- A process that votes twice stands in for one that has not voted at all. -/
theorem repeated_vote_approves :
    firstOfThree.peer.ballot = none ∧ Reaches ⟨firstOfThree, []⟩ (voted [⟨1⟩, ⟨1⟩]) ∧
    (voted [⟨1⟩, ⟨1⟩]).site.peer.status ⟨0⟩ = .approved ∧
    (∀ delivery ∈ (voted [⟨1⟩, ⟨1⟩]).received, delivery.1 = ⟨1⟩) ∧
    (⟨2⟩ : Rank) ∈ (voted [⟨1⟩, ⟨1⟩]).site.bus.everyoneElse ⟨0⟩ :=
  ⟨rfl, reaches_voted _, by decide +kernel, by decide +kernel, by decide +kernel⟩

/-- Where both others vote, the yes of each is there. -/
theorem first_votes_decide_both :
    (voted [⟨2⟩, ⟨1⟩]).site.peer.status ⟨0⟩ = .approved ∧
    ∀ other ∈ (voted [⟨2⟩, ⟨1⟩]).site.bus.everyoneElse ⟨0⟩,
      ∃ vote ∈ ReceivedVote.allOn 1 (voted [⟨2⟩, ⟨1⟩]).received, vote.sender = other ∧
        vote.yes = true := by
  have held : (voted [⟨2⟩, ⟨1⟩]).site.peer.ballot = some ⟨⟨0⟩, 1, [], 2, 0, .approved⟩ := by
    decide +kernel
  obtain ⟨-, -, -, everyone⟩ := @first_votes_decide firstOfThree rfl _ (reaches_voted _) _ held
  refine ⟨by decide +kernel, fun other member => ?_⟩
  obtain ⟨vote, inFirst, own⟩ := everyone (by decide +kernel) ReceivedVote.sender
    (by decide +kernel)
    (by decide +kernel) rfl other member
  exact ⟨vote, List.mem_of_mem_take inFirst, own⟩

end ObservedSite

end Concord
