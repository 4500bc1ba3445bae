import Concord.Proofs.Ballots

/-!
# Checkout

What reaches a process for checkout stays there, in the order in which it came, until it is
checked out: `Network.Kept`. Where every process issues nothing but envelopes under its own
slot, what has reached a process under a slot is what one link brought, so it is the front of
what the owner of the slot has issued.
-/

namespace Concord

/-- Whether bytes are an envelope of a proposal under the given slot. -/
def Envelope.isUnder (id : ProposalId) (envelope : Bytes) : Bool :=
  match Envelope.decode envelope with
  | .error _ => false
  | .ok proposal => decide (proposal.id = id)

/-- Whether bytes are an envelope. -/
def Envelope.isReadable (envelope : Bytes) : Bool :=
  (Envelope.decode envelope).toBool

namespace Network

/-- What has reached a process and has not been checked out is kept for it. -/
def Kept (network : Network) : Prop :=
  ∀ rank, network.surfaced rank =
    network.collected rank ++ (network.stations rank).peer.approved

/-- At the start nothing has surfaced and nothing waits for checkout. -/
theorem Kept.opening (worldSize : Nat) (clock : Clock) (seed : Seed) (jitter : Jitter) :
    (Network.opening worldSize clock seed jitter).Kept :=
  fun _ => rfl

/-- What a message brings to the surface waits for checkout. -/
theorem Kept.handle {network : Network} (kept : network.Kept) (lawful : network.Lawful)
    (judge : Judge) (rank sender : Rank) (message : Message) (rest : List (Rank × Message)) :
    (network.handle judge rank sender message rest).Kept := by
  intro other
  have surfaced : (network.handle judge rank sender message rest).surfaced other =
      network.surfaced other ++ if rank = other then
        (message.carried?.filter Envelope.isReadable).toList else [] := by
    have silent := outcomeEvents_eq_nil judge network.bus (network.stations rank).peer message
      (show ∀ origin number envelope verdict, Event.surfacedAt? other (.judged _ origin number
        envelope verdict) = none from fun _ _ _ _ => rfl) (fun _ _ _ => rfl)
    rw [Network.surfaced, Network.handle, put_history, List.filterMap_append, Peer.handleEvents,
      List.filterMap_cons, silent, lawful.named, Event.surfacedAt?]
    by_cases own : rank = other
    · rw [if_pos own, if_pos own]
      have same : (fun envelope => (Envelope.decode envelope).toBool) = Envelope.isReadable := rfl
      rw [same]
      cases message.carried?.filter Envelope.isReadable <;> rfl
    · rw [if_neg own, if_neg own]
      rfl
  have collected : (network.handle judge rank sender message rest).collected other =
      network.collected other := by
    have silent := outcomeEvents_eq_nil judge network.bus (network.stations rank).peer message
      (show ∀ origin number envelope verdict, Event.collectedBy? other (.judged _ origin number
        envelope verdict) = none from fun _ _ _ _ => rfl) (fun _ _ _ => rfl)
    rw [Network.collected, Network.handle, put_history, List.filterMap_append, Peer.handleEvents,
      List.filterMap_cons_none rfl, silent]
    exact List.append_nil _
  rw [surfaced, collected, kept other, List.append_assoc]
  congr 1
  by_cases own : other = rank
  · subst own
    rw [if_pos rfl, stations_handle_self, Station.handle, Peer.approved_handle]
    rfl
  · rw [stations_handle_of_ne network own, if_neg fun same => own same.symm, List.append_nil]

/-- What a process checks out is the front of what waits there; no other request changes it. -/
theorem collected_serveEvents (bus : Bus) (station : Station) (request : Request) :
    (Peer.serveEvents bus station.peer request).filterMap (Event.collectedBy? station.peer.rank) ++
      (Station.serve bus station request).2.peer.approved = station.peer.approved := by
  cases request with
  | submitVote id envelope =>
    have silent : (Peer.serveEvents bus station.peer (.submitVote id envelope)).filterMap
        (Event.collectedBy? station.peer.rank) = [] := by
      simp only [Peer.serveEvents]
      split
      · split <;> simp [Event.collectedBy?]
      · rfl
    rw [silent]
    cases accepts : station.peer.mayOffer with
    | true => simp [Station.serve, Peer.submitVote_of_mayOffer accepts, Peer.withBallot]
    | false =>
      obtain ⟨cause, refused⟩ :=
        @Peer.submitVote_of_not_mayOffer bus station.peer accepts id envelope
      simp [Station.serve, refused]
  | submitBroadcast id envelope =>
    simp only [Peer.serveEvents, Station.serve]
    split <;> simp [Event.collectedBy?]
  | checkout =>
    simp only [Peer.serveEvents, Station.serve, Peer.checkout]
    cases waits : station.peer.approved with
    | nil => simp [waits]
    | cons envelope others => simp [Event.collectedBy?]
  | progress =>
    simp only [Peer.serveEvents, Station.serve]
    split <;> simp
  | release => simp [Peer.serveEvents, Station.serve, Peer.release]
  | finalize => simp [Peer.serveEvents, Station.serve, Peer.finalize]
  | _ => simp [Peer.serveEvents, Station.serve]

/-- What is checked out has surfaced and waits no longer. -/
theorem Kept.serve {network : Network} (kept : network.Kept) (lawful : network.Lawful)
    (rank : Rank) (request : Request) : (network.serve rank request).Kept := by
  intro other
  have surfaced : (network.serve rank request).surfaced other = network.surfaced other := by
    rw [Network.surfaced, Network.serve, put_history, List.filterMap_append,
      serveEvents_eq_nil _ _ _ _ (fun _ _ => rfl) (fun _ _ _ => rfl) (fun _ => rfl) (fun _ => rfl)]
    exact List.append_nil _
  have collected : (network.serve rank request).collected other =
      network.collected other ++
        (Peer.serveEvents network.bus (network.stations rank).peer request).filterMap
          (Event.collectedBy? other) := by
    rw [Network.collected, Network.serve, put_history, List.filterMap_append]
    rfl
  rw [surfaced, collected, kept other, List.append_assoc]
  congr 1
  have named := lawful.named rank
  by_cases own : other = rank
  · subst own
    have front := collected_serveEvents network.bus (network.stations other) request
    rw [named] at front
    rw [stations_serve_self, front]
  · have foreign : ¬ rank = other := fun same => own same.symm
    have silent : (Peer.serveEvents network.bus (network.stations rank).peer request).filterMap
        (Event.collectedBy? other) = [] := by
      apply serveEvents_eq_nil <;> simp [Event.collectedBy?, named, foreign]
    rw [stations_serve_of_ne network own, silent, List.nil_append]

/-- Sending changes nothing about what has surfaced. -/
theorem Kept.send {network : Network} (kept : network.Kept) (rank receiver : Rank)
    (message : Message) (rest : List (Rank × Message)) :
    (network.send rank receiver message rest).Kept := by
  intro other
  have surfaced : (network.send rank receiver message rest).surfaced other =
      network.surfaced other := by
    simp [Network.surfaced, Network.send, Event.surfacedAt?]
  have collected : (network.send rank receiver message rest).collected other =
      network.collected other := by
    simp [Network.collected, Network.send, Event.collectedBy?]
  rw [surfaced, collected, kept other, peer_send]

/-- Every step accounts for what has surfaced. -/
theorem Kept.step {network after : Network} (kept : network.Kept) (lawful : network.Lawful)
    (next : Step network after) : after.Kept := by
  cases next with
  | time clock => exact kept
  | send next => exact kept.send _ _ _ _
  | handle judge quiet next => exact kept.handle lawful judge _ _ _ _
  | serve rank request joined idle => exact kept.serve lawful rank request

/-- Whatever the processes do, what has surfaced was collected or waits for checkout. -/
theorem Kept.reaches {network after : Network} (kept : network.Kept) (lawful : network.Lawful)
    (steps : Reaches network after) : after.Kept := by
  induction steps with
  | refl => exact kept
  | step prior next inductionHypothesis =>
    exact inductionHypothesis.step (lawful.reaches prior) next

/-- Whether every process issues nothing but envelopes under its own slot. -/
def Signed (network : Network) : Prop :=
  ∀ {rank envelope proposal}, envelope ∈ network.issued rank →
    Envelope.decode envelope = .ok proposal → proposal.id = .ofRank rank

/-- What a process has acted on of what another issued is the front of what that one issued. -/
theorem Lawful.carried_prefix {network : Network} (lawful : network.Lawful)
    {sender receiver : Rank} (linked : network.Linked sender receiver) :
    (network.handledFrom sender receiver).filterMap Message.carried? <+:
      network.issued sender := by
  rw [← carried_written network sender receiver, lawful.pipeline linked, List.filterMap_append]
  exact List.prefix_append _ _

/-- What has reached a process under a slot came from the owner of the slot, in turn. -/
theorem Lawful.surfaced_under {network : Network} (lawful : network.Lawful)
    (signed : network.Signed) {sender receiver : Rank} :
    (network.surfaced receiver).filter (Envelope.isUnder (.ofRank sender)) =
      ((network.handledFrom sender receiver).filterMap Message.carried?).filter
        Envelope.isReadable := by
  simp only [surfaced, handledFrom, List.filter_filterMap, List.filterMap_filterMap]
  apply List.filterMap_congr
  intro event member
  cases event with
  | handled target source message =>
    by_cases there : target = receiver
    · subst there
      cases brought : message.carried? with
      | none =>
        by_cases own : source = sender <;>
          simp [Event.surfacedAt?, Event.handledFrom?, brought, own]
      | some envelope =>
        have issued : envelope ∈ network.issued source := by
          have handled : message ∈ network.handledFrom source target :=
            List.mem_filterMap.2 ⟨_, member, by simp [Event.handledFrom?]⟩
          exact (lawful.carried_prefix (lawful.linked_of_handled handled)).subset
            (List.mem_filterMap.2 ⟨message, handled, brought⟩)
        cases read : Envelope.decode envelope with
        | error cause =>
          by_cases own : source = sender <;>
            simp [Event.surfacedAt?, Event.handledFrom?, brought, own, Option.filter,
              Envelope.isReadable, read, Except.toBool]
        | ok proposal =>
          have slot : proposal.id = .ofRank source := signed issued read
          by_cases own : source = sender
          · simp [Event.surfacedAt?, Event.handledFrom?, brought, own, Option.filter,
              Envelope.isReadable, Envelope.isUnder, read, Except.toBool, slot]
          · have apart : ¬ ProposalId.ofRank source = ProposalId.ofRank sender :=
              fun same => own (ProposalId.ofRank_inj.1 same)
            simp [Event.surfacedAt?, Event.handledFrom?, brought, own, Option.filter,
              Envelope.isUnder, read, Except.toBool, slot, apart]
    · simp [Event.surfacedAt?, Event.handledFrom?, there]
  | _ => rfl

end Network

end Concord
