import Concord.Proofs.Delays

/-!
# Punctuality

A ballot takes three hops: the envelope goes out, the votes come back, the decision goes out.
Where no message lies unpolled for longer than `delay` after it is due, a hop takes at most this
and the largest delay of the bus. `Punctual` says of every message how old the proposal that it
is about can be by now, and every step keeps it: acting on a message starts the next hop.
-/

namespace Concord

/-- Whether the proposal in an envelope was made at most so long before an instant. -/
def Envelope.Fresh (envelope : Bytes) (age : Nat) (moment : Timestamp) : Prop :=
  ∀ {proposal}, Envelope.decode envelope = .ok proposal →
    moment.toNat ≤ proposal.createdAt.toNat + age

/-- What is fresh now has grown older later by no more than the time since. -/
theorem Envelope.Fresh.later {envelope : Bytes} {age : Nat} {moment : Timestamp}
    (fresh : Envelope.Fresh envelope age moment) {after : Timestamp} {more : Nat}
    (soon : after.toNat ≤ moment.toNat + more) : Envelope.Fresh envelope (age + more) after := by
  intro proposal read
  have before := fresh read
  omega

namespace Network

/-- The longest that a hop takes. -/
def hop (network : Network) (delay : Nat) : Nat :=
  network.bus.jitter.maxMicros.toNat + delay

/-- Whether a message from one process to another is about a ballot on a proposal that was put
to the vote within `patience`, and has taken no longer since than its hops allow and `spare`. -/
def InTime (network : Network) (patience hop : Nat) (sender receiver : Rank) (spare : Nat)
    (moment : Timestamp) : Message → Prop
  | .propose _ number envelope =>
    (number, envelope) ∈ network.offers sender ∧ Envelope.Fresh envelope (patience + spare) moment
  | .vote _ number _ =>
    ∃ envelope, (number, envelope) ∈ network.offers receiver ∧
      Envelope.Fresh envelope (patience + hop + spare) moment
  | .decision _ _ _ envelope => Envelope.Fresh envelope (patience + 2 * hop + spare) moment
  | .broadcast _ _ => False

/-- A message that was in time remains so, with as much more to spare as time has gone on. -/
theorem InTime.later {network after : Network} {patience hop spare : Nat}
    {sender receiver : Rank} {moment soon : Timestamp} {message : Message}
    (inTime : network.InTime patience hop sender receiver spare moment message)
    (offers : ∀ rank, network.offers rank ⊆ after.offers rank) (more : Nat)
    (within : soon.toNat ≤ moment.toNat + more) :
    after.InTime patience hop sender receiver (spare + more) soon message := by
  cases message with
  | propose origin number envelope =>
    obtain ⟨offered, fresh⟩ := inTime
    exact ⟨offers sender offered, by rw [← Nat.add_assoc]; exact fresh.later within⟩
  | vote voter number yes =>
    obtain ⟨envelope, offered, fresh⟩ := inTime
    exact ⟨envelope, offers receiver offered, by rw [← Nat.add_assoc]; exact fresh.later within⟩
  | decision origin number approved envelope =>
    show Envelope.Fresh envelope (patience + 2 * hop + (spare + more)) soon
    rw [← Nat.add_assoc]
    exact Envelope.Fresh.later inTime within
  | broadcast origin envelope => exact inTime

/-- A network in which no message is late: what has to be sent is sent at once, and what is due
is polled within `delay`. -/
structure Punctual (delay patience : Nat) (network : Network) : Prop where
  still : network.Still
  withinDelay : network.bus.WithinDelay
  polled : ∀ {rank}, (network.stations rank).peer.finalized = false →
    ∀ packet ∈ network.bus.arriving rank,
      network.bus.clock.time.toNat ≤ packet.deliverAt.toNat + delay
  outgoing : ∀ {rank receiver message},
    (receiver, message) ∈ (network.stations rank).outbox →
      network.InTime patience (network.hop delay) rank receiver 0 network.bus.clock.time message
  travelling : ∀ {receiver packet}, packet ∈ network.bus.arriving receiver →
    network.InTime patience (network.hop delay) packet.sender receiver
      network.bus.jitter.maxMicros.toNat packet.deliverAt packet.message
  incoming : ∀ {rank sender message}, (sender, message) ∈ (network.stations rank).batch →
    network.InTime patience (network.hop delay) sender rank (network.hop delay)
      network.bus.clock.time message

variable {network : Network} {delay patience : Nat}

/-- A network opens punctual, with nothing on its way. -/
theorem Punctual.opening (worldSize : Nat) {clock : Clock} (seed : Seed) (jitter : Jitter)
    (still : clock.stride = 0) :
    (Network.opening worldSize clock seed jitter).Punctual delay patience where
  still
  withinDelay := .connect worldSize clock seed jitter
  polled := by
    intro rank _ packet member
    rw [Network.opening, Bus.arriving_connect] at member
    exact absurd member List.not_mem_nil
  outgoing := fun member => absurd member List.not_mem_nil
  travelling := by
    intro receiver packet member
    rw [Network.opening, Bus.arriving_connect] at member
    exact absurd member List.not_mem_nil
  incoming := fun member => absurd member List.not_mem_nil

/-- Time may go on while nobody has anything to do and nothing has lain for too long. -/
theorem Punctual.retime (punctual : network.Punctual delay patience) (lawful : network.Lawful)
    {clock : Clock} (forward : network.bus.clock.time ≤ clock.time) (still : clock.stride = 0)
    (idle : ∀ rank, network.bus.Joined rank → (network.stations rank).Idle)
    (polled : ∀ rank, network.bus.Joined rank →
      (network.stations rank).peer.finalized = false → ∀ packet ∈ network.bus.arriving rank,
        clock.time.toNat ≤ packet.deliverAt.toNat + delay) :
    (network.retime clock).Punctual delay patience where
  still
  withinDelay := punctual.withinDelay.later forward
  polled := by
    intro rank active packet member
    obtain ⟨endpoint, found⟩ := Bus.arriving_ne_nil (List.ne_nil_of_mem member)
    exact polled rank (Bus.joined_iff_endpoint?.2 ⟨endpoint, found⟩) active packet member
  outgoing := by
    intro rank receiver message member
    have quiet : (network.stations rank).outbox = [] :=
      (idle rank (lawful.addressed member).1).2
    have outbox : (receiver, message) ∈ (network.stations rank).outbox := member
    rw [quiet] at outbox
    exact absurd outbox List.not_mem_nil
  travelling := fun member => punctual.travelling member
  incoming := by
    intro rank sender message member
    have done : (network.stations rank).batch = [] :=
      (idle rank (lawful.linked_of_batch member).2.2.1).1
    have batch : (sender, message) ∈ (network.stations rank).batch := member
    rw [done] at batch
    exact absurd batch List.not_mem_nil

/-- Sending starts the time that a message travels. -/
theorem Punctual.send (punctual : network.Punctual delay patience) (lawful : network.Lawful)
    {rank receiver : Rank} {message : Message} {rest : List (Rank × Message)}
    (next : (network.stations rank).outbox = (receiver, message) :: rest) :
    (network.send rank receiver message rest).Punctual delay patience := by
  have queued : (receiver, message) ∈ (network.stations rank).outbox := by
    rw [next]
    exact List.mem_cons_self
  have clock := punctual.still.clock_send lawful next
  have jitter : (network.send rank receiver message rest).bus.jitter = network.bus.jitter :=
    Bus.jitter_send _ _ _ _
  have hops : (network.send rank receiver message rest).hop delay = network.hop delay := by
    rw [hop, hop, jitter]
  have offers : ∀ other, network.offers other ⊆
      (network.send rank receiver message rest).offers other := by
    intro other
    simp [Network.offers, Network.send, Event.offeredBy?]
  exact {
    still := by
      rw [Still, clock]
      exact punctual.still
    withinDelay := punctual.withinDelay.send punctual.still rank receiver message
    polled := by
      intro other active packet member
      rw [peer_send] at active
      rw [clock]
      rcases Bus.mem_arriving_send member with old | ⟨rfl, rfl⟩
      · exact punctual.polled active packet old
      · exact Nat.le_trans (network.bus.le_deliverAt rank other message) (Nat.le_add_right _ _)
    outgoing := by
      intro other target item member
      rw [clock, hops]
      have before := outbox_send_subset next other member
      exact InTime.later (punctual.outgoing before) offers 0 (Nat.le_refl _)
    travelling := by
      intro other packet member
      rw [jitter, hops]
      rcases Bus.mem_arriving_send member with old | ⟨rfl, rfl⟩
      · exact InTime.later (punctual.travelling old) offers 0 (Nat.le_refl _)
      · have soon := punctual.withinDelay.deliverAt_le rank other message
        have arrives := InTime.later (punctual.outgoing queued) offers _ soon
        rwa [Nat.zero_add] at arrives
    incoming := by
      intro other sender item member
      rw [clock, hops]
      rw [batch_send] at member
      exact InTime.later (punctual.incoming member) offers 0 (Nat.le_refl _) }

/-- What a process sends when it acts on a message begins the next hop of the same ballot. -/
theorem Punctual.replies (punctual : network.Punctual delay patience) (tallied : network.Tallied)
    (judge : Judge) {rank sender target : Rank} {message reply : Message}
    (polled : (sender, message) ∈ (network.stations rank).batch)
    (sends : (target, reply) ∈
      (network.stations rank).peer.replies judge network.bus message) :
    network.InTime patience (network.hop delay) rank target 0 network.bus.clock.time reply := by
  have inTime := punctual.incoming polled
  cases message with
  | propose origin number envelope =>
    have author : origin = sender := tallied.lawful.author_of_batch polled
    obtain ⟨offered, fresh⟩ := inTime
    cases List.mem_singleton.1 sends
    subst author
    exact ⟨envelope, offered, fresh⟩
  | vote voter number yes =>
    obtain ⟨envelope, offered, fresh⟩ := inTime
    simp only [Peer.replies] at sends
    rcases Peer.vote_cases judge network.bus (network.stations rank).peer voter number yes with
      ⟨_, outcome, _⟩ | ⟨ballot, found, named, _, ⟨_, outcome, _⟩ | ⟨_, outcome, _⟩⟩
    · rw [outcome] at sends
      exact absurd sends List.not_mem_nil
    · rw [outcome] at sends
      exact absurd sends List.not_mem_nil
    · rw [outcome] at sends
      obtain ⟨receiver, _, shape⟩ := List.mem_map.1 sends
      cases shape
      -- The vote is about the ballot that it decides, since a number names one envelope.
      have current := ((tallied.accounted rank).current found).2
      rw [named] at current
      cases tallied.envelope_unique current offered
      show Envelope.Fresh ballot.envelope (patience + 2 * network.hop delay + 0) _
      rwa [Nat.add_assoc, ← Nat.two_mul] at fresh
  | decision origin number approved envelope => exact absurd sends List.not_mem_nil
  | broadcast origin envelope => exact inTime.elim

/-- Acting on a message keeps a network punctual: what answers it has one hop less to go. -/
theorem Punctual.handle (punctual : network.Punctual delay patience) (tallied : network.Tallied)
    (window : UInt64) {rank sender : Rank} {message : Message} {rest : List (Rank × Message)}
    (next : (network.stations rank).batch = (sender, message) :: rest) :
    (network.handle (.staleness window) rank sender message rest).Punctual delay patience := by
  have polled : (sender, message) ∈ (network.stations rank).batch := by
    rw [next]
    exact List.mem_cons_self
  have clock := punctual.still.clock_handle window rank sender message rest
  have offers : ∀ other, network.offers other ⊆
      (network.handle (.staleness window) rank sender message rest).offers other := by
    intro other
    rw [offers_handle]
    exact List.Subset.refl _
  exact {
    still := by
      rw [Still, clock]
      exact punctual.still
    withinDelay := by
      have later :=
        punctual.withinDelay.later
          (Nat.le_of_eq (congrArg (Timestamp.toNat ∘ Clock.time) clock.symm))
      exact later
    polled := by
      intro other active packet member
      rw [finalized_handle] at active
      rw [clock]
      exact punctual.polled active packet member
    outgoing := by
      intro other target item member
      rw [clock]
      refine InTime.later ?_ offers 0 (Nat.le_refl _)
      by_cases own : other = rank
      · rw [own, stations_handle_self] at member
        rw [own]
        exact punctual.replies tallied _ polled member
      · rw [stations_handle_of_ne network own] at member
        exact punctual.outgoing member
    travelling := fun member => InTime.later (punctual.travelling member) offers 0 (Nat.le_refl _)
    incoming := by
      intro other origin item member
      rw [clock]
      have before := batch_handle_subset next (.staleness window) other member
      exact InTime.later (punctual.incoming before) offers 0 (Nat.le_refl _) }

/-- No request changes the jitter. -/
theorem jitter_serve (network : Network) (rank : Rank) (request : Request) :
    (network.serve rank request).bus.jitter = network.bus.jitter := by
  cases request with
  | progress =>
    simp only [Network.serve, put_bus, Station.serve]
    split <;> simp
  | _ => rfl

/-- No request changes when the last message on a link is due: the station sends it later. -/
theorem lastDue_serve (network : Network) (rank : Rank) (request : Request)
    (sender receiver : Rank) :
    (network.serve rank request).bus.lastDue sender receiver =
      network.bus.lastDue sender receiver := by
  cases request with
  | progress =>
    simp only [Network.serve, put_bus, Station.serve]
    split
    · rfl
    · exact Bus.lastDue_poll _ _ _ _
  | _ => rfl

/-- Requests put nothing on the way. -/
theorem arriving_serve_subset (network : Network) (rank : Rank) (request : Request)
    (other : Rank) :
    (network.serve rank request).bus.arriving other ⊆ network.bus.arriving other := by
  cases request with
  | progress =>
    simp only [Network.serve, put_bus, Station.serve]
    split
    · exact List.Subset.refl _
    · rw [Bus.arriving_poll]
      split
      · next same =>
        rw [same]
        exact List.filter_subset_self _
      · exact List.Subset.refl _
  | _ => exact List.Subset.refl _

/-- Nobody who has left comes back. -/
theorem active_of_serve {bus : Bus} {station : Station} {request : Request}
    (active : (Station.serve bus station request).2.peer.finalized = false) :
    station.peer.finalized = false := by
  by_cases last : request = .finalize
  · subst last
    cases active
  · rwa [Station.finalized_serve bus station last] at active

/-- A ballot on a fresh proposal begins its first hop. -/
theorem Punctual.proposals (lawful : network.Lawful) {rank target : Rank}
    (idle : (network.stations rank).Idle) {request : Request} {message : Message}
    (voted : ∀ id envelope, request ≠ .submitBroadcast id envelope)
    (fresh : ∀ id envelope, request = .submitVote id envelope →
      Envelope.Fresh envelope patience network.bus.clock.time)
    (sends : (target, message) ∈
      (Station.serve network.bus (network.stations rank) request).2.outbox) :
    (network.serve rank request).InTime patience (network.hop delay) rank target 0
      network.bus.clock.time message := by
  cases request with
  | submitVote id envelope =>
    simp only [Station.serve, Peer.offerings] at sends
    split at sends
    · next accepts =>
      obtain ⟨receiver, _, shape⟩ := List.mem_map.1 sends
      cases shape
      refine ⟨?_, fresh id envelope rfl⟩
      rw [lawful.offers_offer accepts.1]
      simp
    · exact absurd sends List.not_mem_nil
  | submitBroadcast id envelope => exact absurd rfl (voted id envelope)
  | progress =>
    simp only [Station.serve] at sends
    split at sends <;> simp [idle.2] at sends
  | _ => simp [Station.serve, idle.2] at sends

/-- What a process polls has lain no longer than `delay`. -/
theorem Punctual.polledMessages (punctual : network.Punctual delay patience)
    (lawful : network.Lawful) {rank sender : Rank} (idle : (network.stations rank).Idle)
    {request : Request} {message : Message}
    (polled : (sender, message) ∈
      (Station.serve network.bus (network.stations rank) request).2.batch) :
    network.InTime patience (network.hop delay) sender rank (network.hop delay)
      network.bus.clock.time message := by
  cases request with
  | progress =>
    simp only [Station.serve, lawful.named] at polled
    split at polled
    · simp [idle.1] at polled
    · next active =>
      rw [Bus.poll_fst] at polled
      obtain ⟨packet, due, shape⟩ := List.mem_map.1 polled
      cases shape
      have lies := List.mem_of_mem_filter due
      exact InTime.later (punctual.travelling lies) (fun _ => List.Subset.refl _) delay
        (punctual.polled (Bool.eq_false_iff.2 active) packet lies)
  | _ => simp [Station.serve, idle.1] at polled

/-- A request to poll takes what is due; a ballot on a fresh proposal begins its first hop. -/
theorem Punctual.serve (punctual : network.Punctual delay patience) (lawful : network.Lawful)
    {rank : Rank} (idle : (network.stations rank).Idle) {request : Request}
    (voted : ∀ id envelope, request ≠ .submitBroadcast id envelope)
    (fresh : ∀ id envelope, request = .submitVote id envelope →
      Envelope.Fresh envelope patience network.bus.clock.time) :
    (network.serve rank request).Punctual delay patience := by
  have clock := punctual.still.clock_serve rank request
  have offers : ∀ other, network.offers other ⊆ (network.serve rank request).offers other := by
    intro other
    rw [Network.offers, Network.offers, Network.serve, put_history, List.filterMap_append]
    exact List.subset_append_left _ _
  have jitter := jitter_serve network rank request
  have hops : (network.serve rank request).hop delay = network.hop delay := by
    rw [hop, hop, jitter]
  exact {
    still := by
      rw [Still, clock]
      exact punctual.still
    withinDelay := by
      intro sender receiver
      rw [lastDue_serve, clock, jitter]
      exact punctual.withinDelay sender receiver
    polled := by
      intro other active packet member
      have lies := arriving_serve_subset network rank request other member
      rw [clock]
      refine punctual.polled ?_ packet lies
      by_cases own : other = rank
      · rw [own, stations_serve_self] at active
        rw [own]
        exact active_of_serve active
      · rwa [stations_serve_of_ne network own] at active
    outgoing := by
      intro other target item member
      rw [clock, hops]
      by_cases own : other = rank
      · rw [own, stations_serve_self] at member
        rw [own]
        exact Punctual.proposals lawful idle voted fresh member
      · rw [stations_serve_of_ne network own] at member
        exact InTime.later (punctual.outgoing member) offers 0 (Nat.le_refl _)
    travelling := by
      intro other packet member
      rw [jitter, hops]
      have before := arriving_serve_subset network rank request other member
      exact InTime.later (punctual.travelling before) offers 0 (Nat.le_refl _)
    incoming := by
      intro other origin item member
      rw [clock, hops]
      by_cases own : other = rank
      · rw [own, stations_serve_self] at member
        rw [own]
        exact InTime.later (punctual.polledMessages lawful idle member) offers 0 (Nat.le_refl _)
      · rw [stations_serve_of_ne network own] at member
        exact InTime.later (punctual.incoming member) offers 0 (Nat.le_refl _) }

/-! ## The longest hop -/

/-- Every step leaves the jitter as it is. -/
theorem Step.jitter {after : Network} (next : Step network after) :
    after.bus.jitter = network.bus.jitter := by
  cases next with
  | time clock => rfl
  | send next => exact Bus.jitter_send _ _ _ _
  | handle judge quiet next => rfl
  | serve rank request joined idle => exact jitter_serve network rank request

/-- The delays of a bus are what they were set to be. -/
theorem Reaches.jitter {after : Network} (steps : Reaches network after) :
    after.bus.jitter = network.bus.jitter := by
  induction steps with
  | refl => rfl
  | step prior next inductionHypothesis => exact next.jitter.trans inductionHypothesis

end Network

end Concord
