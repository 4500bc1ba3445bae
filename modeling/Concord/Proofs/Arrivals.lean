import Concord.Proofs.LedgerContents
import Concord.Proofs.Checkout

/-!
# Arrivals

Where no ballots are held, nothing but announcements makes a process issue anything. If every
process has announced the first proposals of its plan, then what another process has collected
of it are the first proposals of this plan too, although fewer, perhaps.
-/

namespace Concord

namespace Network

/-- Whether no ballot is held and nobody has left. -/
def Plain (network : Network) : Prop :=
  ∀ rank, (network.stations rank).peer.finalized = false ∧
    (network.stations rank).peer.ballot = none

/-- Sending a message makes nobody hold a ballot or leave. -/
theorem Plain.send {network : Network} (plain : network.Plain) (rank receiver : Rank)
    (message : Message) (rest : List (Rank × Message)) :
    (network.send rank receiver message rest).Plain := by
  intro other
  rw [peer_send]
  exact plain other

/-- Acting on a message makes nobody hold a ballot or leave. -/
theorem Plain.handle {network : Network} (plain : network.Plain) (judge : Judge)
    (rank sender : Rank) (message : Message) (rest : List (Rank × Message)) :
    (network.handle judge rank sender message rest).Plain := by
  intro other
  by_cases own : other = rank
  · obtain ⟨active, free⟩ := plain rank
    rw [own, stations_handle_self]
    exact ⟨(Peer.finalized_handle judge network.bus _ message).trans active,
      (Peer.ballot_handle_of_none judge network.bus free message).trans free⟩
  · rw [stations_handle_of_ne network own]
    exact plain other

/-- A message issues nothing where no ballot is held. -/
theorem Plain.issued_handle {network : Network} (plain : network.Plain) (judge : Judge)
    (rank sender : Rank) (message : Message) (rest : List (Rank × Message)) (process : Rank) :
    (network.handle judge rank sender message rest).issued process = network.issued process := by
  have silent :
      (Peer.handleEvents judge network.bus (network.stations rank).peer sender message).filterMap
        (Event.issuedBy? process) = [] := by
    cases message with
    | vote voter number yes =>
      simp [Peer.handleEvents, Peer.outcomeEvents, Peer.outcome?, (plain rank).2, Event.issuedBy?]
    | _ => simp [Peer.handleEvents, Peer.outcomeEvents, Event.issuedBy?]
  rw [Network.issued, Network.handle, put_history, List.filterMap_append, silent]
  exact List.append_nil _

/-- Requests other than for a ballot or for an end keep a network plain. -/
theorem Plain.serve {network : Network} (plain : network.Plain) (rank : Rank) {request : Request}
    (stays : (Station.serve network.bus (network.stations rank) request).2.peer.finalized =
        (network.stations rank).peer.finalized ∧
      (Station.serve network.bus (network.stations rank) request).2.peer.ballot =
        (network.stations rank).peer.ballot) : (network.serve rank request).Plain := by
  intro other
  by_cases own : other = rank
  · rw [own, stations_serve_self]
    exact ⟨stays.1.trans (plain rank).1, stays.2.trans (plain rank).2⟩
  · rw [stations_serve_of_ne network own]
    exact plain other

/-! ## What has arrived of what was issued -/

/-- What the processes have issued, as proposals. -/
structure Sends (network : Network) (sent : Rank → List Proposal) : Prop where
  issued : ∀ rank, network.issued rank = (sent rank).map Envelope.encode
  slotted : ∀ {rank proposal}, proposal ∈ sent rank → proposal.id = .ofRank rank
  /-- A length is a 64-bit number. -/
  fits : ∀ {rank proposal}, proposal ∈ sent rank → proposal.payload.length < 2 ^ 64

namespace Sends

variable {network : Network} {sent : Rank → List Proposal}

/-- What has been issued can be read. -/
theorem decode (sends : network.Sends sent) {rank : Rank} {proposal : Proposal}
    (member : proposal ∈ sent rank) :
    Envelope.decode (Envelope.encode proposal) = .ok proposal :=
  Envelope.decode_encode_of_fits (sends.fits member)

/-- Processes that issue under their own slots sign what they issue. -/
theorem signed (sends : network.Sends sent) : network.Signed := by
  intro rank envelope proposal member read
  rw [sends.issued] at member
  obtain ⟨source, inSent, rfl⟩ := List.mem_map.1 member
  rw [sends.decode inSent] at read
  cases read
  exact sends.slotted inSent

/-- What has reached a process under a slot, up to some point, is the front of what the owner
of the slot has issued. -/
theorem surfaced_front (sends : network.Sends sent) (lawful : network.Lawful)
    {sender receiver : Rank} (linked : network.Linked sender receiver) {seen : List Bytes}
    (isFront : seen <+: network.surfaced receiver) :
    ∃ front, front <+: sent sender ∧
      seen.filter (Envelope.isUnder (.ofRank sender)) = front.map Envelope.encode := by
  have under : seen.filter (Envelope.isUnder (.ofRank sender)) <+:
      (network.surfaced receiver).filter (Envelope.isUnder (.ofRank sender)) :=
    isFront.filter _
  rw [lawful.surfaced_under sends.signed] at under
  have carried := lawful.carried_prefix linked
  rw [sends.issued sender] at carried
  have readable : ((network.handledFrom sender receiver).filterMap Message.carried?).filter
      Envelope.isReadable = (network.handledFrom sender receiver).filterMap Message.carried? := by
    apply List.filter_eq_self.2
    intro envelope member
    obtain ⟨source, inSent, rfl⟩ := List.mem_map.1 (carried.subset member)
    rw [Envelope.isReadable, sends.decode inSent]
    rfl
  rw [readable] at under
  have whole := List.prefix_iff_eq_take.1 (under.trans carried)
  rw [← List.map_take] at whole
  exact ⟨_, List.take_prefix _ _, whole⟩

/-- What a process has collected under a slot is the front of what the owner has issued. -/
theorem collected_under (sends : network.Sends sent) (lawful : network.Lawful)
    (kept : network.Kept) {sender receiver : Rank} (linked : network.Linked sender receiver) :
    ∃ front, front <+: sent sender ∧
      (network.collected receiver).filter (Envelope.isUnder (.ofRank sender)) =
        front.map Envelope.encode := by
  apply sends.surfaced_front lawful linked
  rw [kept receiver]
  exact List.prefix_append _ _

/-- What the front of what was issued is about. -/
theorem content (sends : network.Sends sent) {rank : Rank} {front : List Proposal}
    (isFront : front <+: sent rank) :
    (front.map Envelope.encode).filterMap Envelope.content? = front.map Proposal.bare := by
  rw [List.filterMap_map, ← List.filterMap_eq_map]
  apply List.filterMap_congr
  intro proposal member
  simp only [Function.comp_apply, Envelope.content?, sends.decode (isFront.subset member)]

end Sends

end Network

namespace Plan

/-- An envelope of a plan is an envelope of the planned proposal. -/
theorem decode_offered (plan : Plan) (rank : Rank) (number : Nat) :
    Envelope.decode (Envelope.encode (plan.offered rank number)) =
      .ok (plan.offered rank number) :=
  Envelope.decode_encode_of_fits (plan.fits rank number)

/-- The envelopes of a process's first proposals. -/
def envelopes (plan : Plan) (rank : Rank) (count : Nat) : List Bytes :=
  (List.range count).map fun number => Envelope.encode (plan.offered rank number)

/-- The envelopes of a plan are those of its first proposals. -/
theorem mem_envelopes {plan : Plan} {rank : Rank} {count : Nat} {envelope : Bytes} :
    envelope ∈ plan.envelopes rank count ↔
      ∃ number < count, Envelope.encode (plan.offered rank number) = envelope := by
  simp [envelopes]

/-- What the envelopes of the first proposals are about. -/
theorem content_envelopes (plan : Plan) (rank : Rank) (count : Nat) :
    (plan.envelopes rank count).filterMap Envelope.content? =
      (List.range count).map (plan.bare rank) := by
  rw [envelopes, List.filterMap_map, ← List.filterMap_eq_map]
  apply List.filterMap_congr
  intro number _
  simp only [Function.comp_apply, Envelope.content?, plan.decode_offered]
  rfl

/-- The front of the first proposals are the first of them. -/
theorem eq_range_of_prefix {plan : Plan} {rank : Rank} {count : Nat} {front : List Proposal}
    (isFront : front <+: (List.range count).map (plan.offered rank)) :
    ∃ arrived ≤ count, front = (List.range arrived).map (plan.offered rank) := by
  have short := isFront.length_le
  rw [List.length_map, List.length_range] at short
  refine ⟨front.length, short, ?_⟩
  have taken := List.prefix_iff_eq_take.1 isFront
  rw [← List.map_take, List.take_range, Nat.min_eq_left short] at taken
  exact taken

/-- Where every process has sent the first proposals of its plan, what a process has collected
under a slot are the first of the owner's plan. -/
theorem collected_under {plan : Plan} {network : Network} (lawful : network.Lawful)
    (kept : network.Kept) {sent : Rank → Nat}
    (issued : ∀ rank, network.issued rank = plan.envelopes rank (sent rank))
    {sender receiver : Rank} (linked : network.Linked sender receiver) :
    ∃ arrived ≤ sent sender,
      (network.collected receiver).filter (Envelope.isUnder (.ofRank sender)) =
        plan.envelopes sender arrived := by
  have sends : network.Sends fun rank => (List.range (sent rank)).map (plan.offered rank) := {
    issued := by
      intro rank
      rw [issued rank, envelopes, List.map_map]
      rfl
    slotted := by
      intro rank proposal member
      obtain ⟨number, _, rfl⟩ := List.mem_map.1 member
      exact plan.slotted rank number
    fits := by
      intro rank proposal member
      obtain ⟨number, _, rfl⟩ := List.mem_map.1 member
      exact plan.fits rank number }
  obtain ⟨front, isFront, same⟩ := sends.collected_under lawful kept linked
  obtain ⟨arrived, few, rfl⟩ := eq_range_of_prefix isFront
  refine ⟨arrived, few, ?_⟩
  rw [same, envelopes, List.map_map]
  rfl

end Plan

end Concord
