import Concord.Network.Site
import Concord.Proofs.Links
import Mathlib.Data.List.Perm.Subperm

/-!
# Stations

A peer acts on a whole poll at once, and sends to everybody at once. A `Station` is a peer in
the middle of that: it has polled messages that it has not acted on, and messages to send
before anything else. The lemmas here take each act of a peer apart into the change of the
peer and the single messages that it sends, so that processes can be interleaved between any
two of them. `Peer` remains the authority: a station's peer is always changed by its
functions.
-/

namespace Concord

namespace Bus

/-- Every process but one, in the order of ranks. -/
def everyoneElse (bus : Bus) (rank : Rank) : List Rank :=
  (Rank.all bus.worldSize).filter fun other => decide (other ≠ rank)

/-- Send several messages in turn. -/
def sendEach (bus : Bus) (sender : Rank) (outgoing : List (Rank × Message)) : Bus :=
  outgoing.foldl (fun bus item => bus.send sender item.1 item.2) bus

/-- A broadcast sends the same message to each of the others in turn. -/
theorem broadcast_eq_sendEach (bus : Bus) (sender : Rank) (message : Message) :
    bus.broadcast sender message =
      bus.sendEach sender ((bus.everyoneElse sender).map fun receiver => (receiver, message)) := by
  simp only [broadcast, sendEach, everyoneElse, List.foldl_map]

/-- Sending leaves the world as large as it is. -/
@[simp] theorem worldSize_sendEach (bus : Bus) (sender : Rank) (outgoing : List (Rank × Message)) :
    (bus.sendEach sender outgoing).worldSize = bus.worldSize := by
  induction outgoing generalizing bus with
  | nil => rfl
  | cons item rest inductionHypothesis =>
    exact (inductionHypothesis _).trans (worldSize_send _ _ _ _)

/-- The others are the ranks that have joined, except the one. -/
theorem mem_everyoneElse {bus : Bus} (sound : bus.Sound) {rank other : Rank} :
    other ∈ bus.everyoneElse rank ↔ bus.Joined other ∧ other ≠ rank := by
  simp only [everyoneElse, List.mem_filter, mem_all_of_joined sound, decide_eq_true_eq]

/-- No rank is listed twice among the others. -/
theorem nodup_everyoneElse (bus : Bus) (rank : Rank) : (bus.everyoneElse rank).Nodup :=
  (Rank.nodup_all _).filter _

/-- The others are all ranks but the one. -/
theorem everyoneElse_eq_erase (bus : Bus) (rank : Rank) :
    bus.everyoneElse rank = (Rank.all bus.worldSize).erase rank := by
  rw [(Rank.nodup_all _).erase_eq_filter]
  apply List.filter_congr
  intro other _
  by_cases same : other = rank <;> simp [same]

/-- A process has as many others as the world has processes, less one. -/
theorem length_everyoneElse {bus : Bus} (sound : bus.Sound) {rank : Rank}
    (joined : bus.Joined rank) : (bus.everyoneElse rank).length = bus.worldSize - 1 := by
  have listed : rank ∈ Rank.all bus.worldSize := (mem_all_of_joined sound).2 joined
  rw [everyoneElse_eq_erase, List.length_erase_of_mem listed, Rank.length_all,
    Nat.mod_eq_of_lt sound.small]

/-- As many different processes as there are others are all the others. -/
theorem everyoneElse_subset {bus : Bus} {rank : Rank} (listed : rank ∈ Rank.all bus.worldSize)
    {names : List Rank} (distinct : names.Nodup) (others : names ⊆ bus.everyoneElse rank)
    (count : names.length = Peer.others bus) : bus.everyoneElse rank ⊆ names := by
  have few : (bus.everyoneElse rank).length ≤ names.length := by
    rw [everyoneElse_eq_erase, List.length_erase_of_mem listed, Rank.length_all, count]
    exact Nat.sub_le_sub_right (Nat.mod_le _ _) 1
  exact ((distinct.subperm others).perm_of_length_le few).symm.subset

end Bus

namespace Peer

/-- What becomes of the own ballot by one more vote, if the vote settles it: whether it is
approved, and the envelope it was about. -/
def outcome? (bus : Bus) (peer : Peer) (number : Nat) (yes : Bool) : Option (Bool × Bytes) :=
  match peer.ballot with
  | none => none
  | some ballot =>
    if ballot.number ≠ number ∨ ballot.status ≠ .inProgress then none
    else
      let counted := addVote ballot yes
      if counted.yes + counted.no < others bus then none
      else some (decide (counted.no = 0), ballot.envelope)

/-- What a peer sends when it acts on a message. -/
def replies (judge : Judge) (bus : Bus) (peer : Peer) : Message → List (Rank × Message)
  | .propose origin number envelope =>
    [(origin, .vote peer.rank number (judge.judge bus.clock envelope).1.isAccept)]
  | .vote _ number yes =>
    match peer.outcome? bus number yes with
    | none => []
    | some (approved, envelope) =>
      (bus.everyoneElse peer.rank).map fun receiver =>
        (receiver, .decision peer.rank number approved envelope)
  | .decision _ _ _ _ => []
  | .broadcast _ _ => []

/-- The clock once a peer has judged what a message asks it to judge. -/
def clockAfter (judge : Judge) (bus : Bus) : Message → Clock
  | .propose _ _ envelope => (judge.judge bus.clock envelope).2
  | _ => bus.clock

/-- Acting on a message changes the bus by nothing but a reading and the replies. -/
theorem handle_fst (judge : Judge) (bus : Bus) (peer : Peer) (message : Message) :
    (handle judge bus peer message).1 =
      Bus.sendEach { bus with clock := clockAfter judge bus message } peer.rank
        (replies judge bus peer message) := by
  cases message with
  | propose origin number envelope => rfl
  | vote voter number yes =>
    simp only [handle, countVote, replies, outcome?, clockAfter]
    cases peer.ballot with
    | none => rfl
    | some ballot =>
      by_cases ignored : ballot.number ≠ number ∨ ballot.status ≠ .inProgress
      · simp only [if_pos ignored]
        rfl
      · simp only [if_neg ignored]
        by_cases waits : (addVote ballot yes).yes + (addVote ballot yes).no < others bus
        · simp only [if_pos waits]
          rfl
        · simp only [if_neg waits]
          exact Bus.broadcast_eq_sendEach _ _ _
  | decision origin number approved envelope => rfl
  | broadcast origin envelope => rfl

/-- What a vote makes of the peer that it reaches: it is ignored, or counted, or it is the last
one and decides the ballot. -/
theorem vote_cases (judge : Judge) (bus : Bus) (peer : Peer) (voter : Rank) (number : Nat)
    (yes : Bool) :
    ((∀ ballot, peer.ballot = some ballot →
        ballot.number ≠ number ∨ ballot.status ≠ .inProgress) ∧
      peer.outcome? bus number yes = none ∧
      (handle judge bus peer (.vote voter number yes)).2 = peer) ∨
    ∃ ballot, peer.ballot = some ballot ∧ ballot.number = number ∧
      ballot.status = .inProgress ∧
      let counted := addVote ballot yes
      (counted.yes + counted.no < others bus ∧
        peer.outcome? bus number yes = none ∧
        (handle judge bus peer (.vote voter number yes)).2 =
          { peer with ballot := some counted }) ∨
      (others bus ≤ counted.yes + counted.no ∧
        peer.outcome? bus number yes = some (decide (counted.no = 0), ballot.envelope) ∧
        (handle judge bus peer (.vote voter number yes)).2 =
          { peer with
            ballot := some { counted with
              status := if counted.no = 0 then .approved else .denied } }) := by
  simp only [handle, countVote, outcome?]
  cases peer.ballot with
  | none => exact .inl ⟨by simp, rfl, rfl⟩
  | some ballot =>
    by_cases ignored : ballot.number ≠ number ∨ ballot.status ≠ .inProgress
    · left
      simp only [if_pos ignored]
      refine ⟨?_, trivial, trivial⟩
      intro other same
      cases same
      exact ignored
    · right
      simp only [if_neg ignored]
      obtain ⟨same, running⟩ := not_or.1 ignored
      refine ⟨ballot, rfl, not_not.1 same, not_not.1 running, ?_⟩
      by_cases waits :
          (addVote ballot yes).yes + (addVote ballot yes).no < others bus
      · left
        simp only [if_pos waits]
        exact ⟨waits, trivial, trivial⟩
      · right
        simp only [if_neg waits, decide_eq_true_eq]
        exact ⟨Nat.le_of_not_lt waits, trivial, trivial⟩

/-- Counting a vote leaves the ballot its number. -/
@[simp] theorem addVote_number (ballot : Ballot) (yes : Bool) :
    (addVote ballot yes).number = ballot.number := by
  cases yes <;> rfl

/-- It leaves the ballot its envelope. -/
@[simp] theorem addVote_envelope (ballot : Ballot) (yes : Bool) :
    (addVote ballot yes).envelope = ballot.envelope := by
  cases yes <;> rfl

/-- It leaves the ballot its status, which is decided afterwards. -/
@[simp] theorem addVote_status (ballot : Ballot) (yes : Bool) :
    (addVote ballot yes).status = ballot.status := by
  cases yes <;> rfl

/-- A vote for counts as one yes. -/
theorem addVote_yes (ballot : Ballot) (yes : Bool) :
    (addVote ballot yes).yes = ballot.yes + if yes then 1 else 0 := by
  cases yes <;> rfl

/-- A vote against counts as one no. -/
theorem addVote_no (ballot : Ballot) (yes : Bool) :
    (addVote ballot yes).no = ballot.no + if yes then 0 else 1 := by
  cases yes <;> rfl

/-- A vote changes nothing of a peer but its ballot. -/
theorem exists_handle_vote (judge : Judge) (bus : Bus) (peer : Peer) (voter : Rank)
    (number : Nat) (yes : Bool) :
    ∃ ballot, (handle judge bus peer (.vote voter number yes)).2 = { peer with ballot } := by
  rcases vote_cases judge bus peer voter number yes with
    ⟨_, _, same⟩ | ⟨held, _, _, _, ⟨_, _, changed⟩ | ⟨_, _, changed⟩⟩
  · exact ⟨peer.ballot, same⟩
  · exact ⟨_, changed⟩
  · exact ⟨_, changed⟩

/-- The ballot of a peer that is under way. -/
def outstanding (peer : Peer) : Option Ballot :=
  peer.ballot.filter fun ballot => decide (ballot.status = .inProgress)

/-- Whether a peer takes on another ballot. -/
def mayOffer (peer : Peer) : Bool :=
  !peer.finalized && peer.outstanding.isNone

/-- A peer may offer while it is active and has no ballot of its own outstanding. -/
theorem mayOffer_iff {peer : Peer} :
    peer.mayOffer = true ↔ peer.finalized = false ∧ peer.outstanding = none := by
  simp [mayOffer]

/-- What a peer sends when it is given an envelope to hold a ballot on. -/
def offerings (bus : Bus) (peer : Peer) (envelope : Bytes) : List (Rank × Message) :=
  if peer.mayOffer ∧ others bus ≠ 0 then
    (bus.everyoneElse peer.rank).map fun receiver =>
      (receiver, .propose peer.rank (peer.ballotsHeld + 1) envelope)
  else []

/-- What a peer sends when it is given an envelope that needs no vote. -/
def announcements (bus : Bus) (peer : Peer) (envelope : Bytes) : List (Rank × Message) :=
  if peer.finalized then []
  else (bus.everyoneElse peer.rank).map fun receiver => (receiver, .broadcast peer.rank envelope)

/-- What holding a ballot makes of a peer that may. -/
def withBallot (bus : Bus) (peer : Peer) (id : ProposalId) (envelope : Bytes) : Peer :=
  let number := peer.ballotsHeld + 1
  let status : VoteStatus := if others bus = 0 then .approved else .inProgress
  { peer with ballotsHeld := number, ballot := some ⟨id, number, envelope, 0, 0, status⟩ }

/-- A peer that takes on no ballot stays as it is. -/
theorem submitVote_of_not_mayOffer {bus : Bus} {peer : Peer} (refuses : peer.mayOffer = false)
    (id : ProposalId) (envelope : Bytes) :
    ∃ cause, submitVote bus peer id envelope = (.error cause, bus, peer) := by
  have under : peer.ballot.filter (fun ballot => decide (ballot.status = .inProgress)) =
    peer.outstanding := rfl
  unfold submitVote
  rw [under]
  cases closed : peer.finalized with
  | true => exact ⟨.finalized, rfl⟩
  | false =>
    cases busy : peer.outstanding with
    | none => simp [mayOffer, closed, busy] at refuses
    | some ballot => exact ⟨.busy ballot.id, rfl⟩

/-- A peer that may offer sends its proposal to each of the others and opens a ballot on it. -/
theorem submitVote_of_mayOffer {bus : Bus} {peer : Peer} (accepts : peer.mayOffer = true)
    (id : ProposalId) (envelope : Bytes) :
    submitVote bus peer id envelope =
      (.ok (), bus.sendEach peer.rank (peer.offerings bus envelope),
        peer.withBallot bus id envelope) := by
  obtain ⟨opened, free⟩ := mayOffer_iff.1 accepts
  have under : peer.ballot.filter (fun ballot => decide (ballot.status = .inProgress)) =
    peer.outstanding := rfl
  unfold submitVote offerings withBallot
  rw [under, free, accepts]
  by_cases noOthers : others bus = 0
  · simp [opened, noOthers, Bus.sendEach]
  · simp [opened, noOthers, Bus.broadcast_eq_sendEach]

/-- What a peer announces goes to each of the others in turn. -/
theorem submitBroadcast_snd (bus : Bus) (peer : Peer) (envelope : Bytes) :
    (submitBroadcast bus peer envelope).2 =
      bus.sendEach peer.rank (peer.announcements bus envelope) := by
  unfold submitBroadcast announcements
  by_cases closed : peer.finalized
  · simp only [closed, if_true]
    rfl
  · simp only [closed, Bool.false_eq_true, if_false]
    exact Bus.broadcast_eq_sendEach _ _ _

end Peer

/-- A peer in the middle of its work. -/
structure Station where
  peer : Peer
  /-- What was polled and has not been acted on. -/
  batch : List (Rank × Message)
  /-- What is sent before anything else happens. -/
  outbox : List (Rank × Message)

namespace Station

/-- A station between two acts of its peer. -/
def resting (peer : Peer) : Station :=
  ⟨peer, [], []⟩

/-- Whether a station has nothing left to do. -/
def Idle (station : Station) : Prop :=
  station.batch = [] ∧ station.outbox = []

/-- Take on a request. What was polled and what has to be sent stays in the station. -/
def serve (bus : Bus) (station : Station) : Request → Bus × Station
  | .readClock => ({ bus with clock := bus.clock.read.2 }, station)
  | .progress =>
    if station.peer.finalized then (bus, station)
    else ((bus.poll station.peer.rank).2,
      { station with batch := (bus.poll station.peer.rank).1 })
  | .submitVote id envelope =>
    (bus, { station with
      peer := (station.peer.submitVote bus id envelope).2.2
      outbox := station.peer.offerings bus envelope })
  | .submitBroadcast _ envelope =>
    (bus, { station with outbox := station.peer.announcements bus envelope })
  | .readStatus _ => (bus, station)
  | .checkout => (bus, { station with peer := station.peer.checkout.2 })
  | .release => (bus, { station with peer := station.peer.release })
  | .finalize => (bus, { station with peer := station.peer.finalize })
  | .execute _ => (bus, station)

/-- No request but the last one makes a peer leave. -/
theorem finalized_serve (bus : Bus) (station : Station) {request : Request}
    (goesOn : request ≠ .finalize) :
    (station.serve bus request).2.peer.finalized = station.peer.finalized := by
  cases request with
  | finalize => exact absurd rfl goesOn
  | submitVote id envelope =>
    cases accepts : station.peer.mayOffer with
    | true => rw [serve, Peer.submitVote_of_mayOffer accepts]; rfl
    | false =>
      obtain ⟨cause, refused⟩ :=
        @Peer.submitVote_of_not_mayOffer bus station.peer accepts id envelope
      rw [serve, refused]
  | progress =>
    rw [serve]
    split <;> rfl
  | checkout =>
    simp only [serve, Peer.checkout]
    split <;> rfl
  | _ => rfl

/-- Act on the first polled message; its replies are to be sent next. -/
def handle (judge : Judge) (bus : Bus) (station : Station) (message : Message)
    (rest : List (Rank × Message)) : Bus × Station :=
  ({ bus with clock := Peer.clockAfter judge bus message },
    { peer := (Peer.handle judge bus station.peer message).2
      batch := rest
      outbox := station.peer.replies judge bus message })

end Station

end Concord
