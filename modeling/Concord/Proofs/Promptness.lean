import Concord.Proofs.Horizons
import Concord.Proofs.Punctuality

/-!
# Promptness

A proposal is put to the vote, voted on and decided, and every process has heard of it, before
anybody can take it for aged: as long as processes act promptly. `Awaits` says until when the
clock may run before one of them has to act, and `Orderly` what then holds of all of them.
-/

namespace Concord

/-- The proposal of a submission that has not been put to the vote. -/
def Control.unoffered {Handle : Type} : Control Handle → List Proposal
  | .waiting (.offering proposal) => [proposal]
  | _ => []

/-- The proposal of a submission that has not been put to the vote. -/
def Node.unoffered {State Handle : Type} (node : Node State Handle) : List Proposal :=
  node.call.elim [] Control.unoffered

namespace Coordinator

variable {Handle : Type}

/-- Handing over a batch leaves nothing to offer. -/
theorem unoffered_executeNext (coordinator : Coordinator) (cause : BatchCause)
    (records : List (Executed Handle)) :
    (coordinator.executeNext cause records).2.unoffered = [] := by
  unfold executeNext
  split
  · unfold afterBatch
    split
    · rfl
    · split <;> rfl
    · split <;> rfl
  · rfl

/-- No call comes back to its first stage. -/
theorem unoffered_resume (coordinator : Coordinator) (stage : Stage Handle)
    (answer : stage.request.Answer Handle) :
    (coordinator.resume stage answer).2.unoffered = [] := by
  have round : ∀ (coordinator : Coordinator) (key : OrderKey),
      (coordinator.awaitRound key : Coordinator × Control Handle).2.unoffered = [] := by
    intro coordinator key
    unfold awaitRound
    split
    · rfl
    · simp only
      split
      · rfl
      · exact unoffered_executeNext _ _ _
  have resolved : ∀ (proposal : Proposal) (status : VoteStatus),
      (coordinator.resolve proposal status : Coordinator × Control Handle).2.unoffered = [] := by
    intro proposal status
    unfold resolve
    split
    · rfl
    · rfl
    · split <;> rfl
    · split <;> rfl
  cases stage with
  | absorbing next =>
    simp only [resume]
    split
    · rfl
    · cases next with
      | resolution proposal status => exact resolved proposal status
      | quorum key => exact round _ key
      | _ => rfl
    · split <;> rfl
  | draining cause =>
    simp only [resume, drain]
    split
    · rfl
    · split
      · exact unoffered_executeNext _ _ _
      · split
        · exact unoffered_executeNext _ _ _
        · rfl
  | executing cause records proposal =>
    simp only [resume, record]
    split
    · rfl
    · rfl
    · exact unoffered_executeNext _ _ _
  | broadcasting proposal =>
    simp only [resume, onSuccess]
    split
    · rfl
    · exact round _ _
  | _ =>
    simp only [resume, onSuccess]
    split <;> rfl

end Coordinator

namespace Cluster

variable {State Handle : Type}

/-- Whether the clock may run up to an instant while all processes act promptly: nobody has
anything to act on or to send, nothing that is due has lain for longer than `delay`, and nothing
that was submitted has waited for longer than `patience` to be put to the vote. -/
structure Awaits (delay patience : Nat) (cluster : Cluster State Handle) (moment : Timestamp) :
    Prop where
  idle : ∀ rank ∈ Rank.all cluster.network.bus.worldSize, (cluster.network.stations rank).Idle
  polled : ∀ rank ∈ Rank.all cluster.network.bus.worldSize,
    (cluster.network.stations rank).peer.finalized = false →
      ∀ packet ∈ cluster.network.bus.arriving rank,
        moment.toNat ≤ packet.deliverAt.toNat + delay
  offered : ∀ rank ∈ Rank.all cluster.network.bus.worldSize,
    ∀ proposal ∈ (cluster.nodes rank).unoffered,
      moment.toNat ≤ proposal.createdAt.toNat + patience

variable {window : UInt64} {horizon : Nat} {cluster after : Cluster State Handle} {rank : Rank}

/-- What does not concern a process leaves what it knows of as it is. -/
theorem PartedAt.frame (parted : cluster.PartedAt window.toNat horizon rank)
    (node : after.nodes rank = cluster.nodes rank)
    (handed : after.handed rank = cluster.handed rank)
    (batch : (after.network.stations rank).batch = (cluster.network.stations rank).batch)
    (approved : (after.network.stations rank).peer.approved =
      (cluster.network.stations rank).peer.approved) :
    after.PartedAt window.toNat horizon rank := by
  have same : Parted window.toNat horizon (after.network.stations rank) (cluster.nodes rank)
      (cluster.handed rank) := { parted with
    coming := by
      rw [approved]
      exact parted.coming
    drained := by
      rw [batch, approved]
      exact parted.drained }
  rw [PartedAt, node, handed]
  exact same

/-- A call that begins or ends holds nothing yet, but what it is about is young. -/
theorem PartedAt.put (parted : cluster.PartedAt window.toNat horizon rank)
    (emptyHand : (cluster.nodes rank).inHand = []) {call : Option (Control Handle)}
    (still : call.elim [] Control.inHand = [])
    (undecided : ∀ proposal ∈ call.elim [] Control.undecided,
      horizon < proposal.createdAt.toNat + window.toNat)
    (goesOn : ∀ cause, call ≠ some (.waiting (.draining cause)))
    {entries : List (ClusterEvent Handle)}
    (unhanded : entries.filterMap (ClusterEvent.handedBy? rank) = []) :
    (cluster.put cluster.network rank { cluster.nodes rank with call } entries).PartedAt
      window.toNat horizon rank := by
  have handed : (cluster.put cluster.network rank { cluster.nodes rank with call }
      entries).handed rank = cluster.handed rank := by
    rw [Cluster.handed, Cluster.put, List.filterMap_append, unhanded]
    exact List.append_nil _
  rw [PartedAt, put_nodes, if_pos rfl, handed]
  refine Parted.lead parted (List.Subset.refl _) ?_ undecided
    fun cause draining => absurd draining (goesOn cause)
  rw [emptyHand]
  exact still

end Cluster

/-- What can be said of a cluster in voted mode whose processes act promptly. -/
structure Orderly {State Handle : Type} (window : UInt64) (delay patience : Nat)
    (cluster : Cluster State Handle) : Prop where
  punctual : cluster.network.Punctual delay patience
  offering : ∀ {rank}, cluster.network.bus.Joined rank →
    ∀ proposal ∈ (cluster.nodes rank).unoffered,
      cluster.network.bus.clock.time.toNat ≤ proposal.createdAt.toNat + patience
  parted : ∀ rank, ∃ horizon, horizon ≤ cluster.network.bus.clock.time.toNat ∧
    cluster.PartedAt window.toNat horizon rank

namespace Orderly

variable {State Handle : Type} {worldSize : Nat} {window : UInt64} {delay patience : Nat}
  {cluster : Cluster State Handle}

/-- A cluster opens orderly: nothing has been offered, sent or handed over. -/
theorem opening (worldSize : Nat) {clock : Clock} (seed : Seed) (jitter : Jitter)
    (config : Rank → CoordinatorConfig) (state : Rank → State) (still : clock.stride = 0) :
    Orderly window delay patience
      (Cluster.opening worldSize clock seed jitter config state : Cluster State Handle) where
  punctual := .opening worldSize seed jitter still
  offering := fun _ _ member => absurd member List.not_mem_nil
  parted := fun _ => ⟨0, Nat.zero_le _, {
    aged := fun _ member => absurd member List.not_mem_nil
    young := fun _ member => absurd member List.not_mem_nil
    coming := fun _ member => absurd member List.not_mem_nil
    sorted := .nil
    ahead := fun _ member => absurd member List.not_mem_nil
    drained := fun _ => nofun }⟩

/-- Time may go on as far as the delays and the patience of what waits allow. -/
theorem time (orderly : Orderly window delay patience cluster)
    (lawful : cluster.network.Lawful) {clock : Clock}
    (forward : cluster.network.bus.clock.time ≤ clock.time) (still : clock.stride = 0)
    (awaits : cluster.Awaits delay patience clock.time) :
    Orderly window delay patience
      { cluster with network := cluster.network.retime clock } where
  punctual := orderly.punctual.retime lawful forward still
    (fun rank joined => awaits.idle rank ((Bus.mem_all_of_joined lawful.sound).2 joined))
    (fun rank joined => awaits.polled rank ((Bus.mem_all_of_joined lawful.sound).2 joined))
  offering := fun {rank} joined =>
    awaits.offered rank ((Bus.mem_all_of_joined lawful.sound).2 joined)
  parted := by
    intro rank
    obtain ⟨horizon, past, parted⟩ := orderly.parted rank
    exact ⟨horizon, Nat.le_trans past forward, parted⟩

/-- Sending a message keeps a cluster orderly. -/
theorem send (orderly : Orderly window delay patience cluster)
    (lawful : cluster.network.Lawful) {rank receiver : Rank} {message : Message}
    {rest : List (Rank × Message)}
    (next : (cluster.network.stations rank).outbox = (receiver, message) :: rest) :
    Orderly window delay patience
      { cluster with network := cluster.network.send rank receiver message rest } := by
  have clock := orderly.punctual.still.clock_send lawful next
  have size : (cluster.network.send rank receiver message rest).bus.worldSize =
      cluster.network.bus.worldSize := Bus.worldSize_send _ _ _ _
  exact {
    punctual := orderly.punctual.send lawful next
    offering := by
      intro other joined
      rw [clock]
      rw [Bus.Joined, size] at joined
      exact orderly.offering joined
    parted := by
      intro other
      obtain ⟨horizon, past, parted⟩ := orderly.parted other
      rw [clock]
      refine ⟨horizon, past, parted.frame rfl rfl (Network.batch_send ..) ?_⟩
      rw [Network.peer_send] }

/-- What a polled message brings for checkout is a proposal that has not aged. -/
theorem carried_young (orderly : Orderly window delay patience cluster)
    (bound : patience + 3 * cluster.network.hop delay < window.toNat)
    {rank sender : Rank} {message : Message}
    (polled : (sender, message) ∈ (cluster.network.stations rank).batch) {envelope : Bytes}
    (carried : message.carried? = some envelope) {proposal : Proposal}
    (read : Envelope.decode envelope = .ok proposal) :
    cluster.network.bus.clock.time.toNat < proposal.createdAt.toNat + window.toNat := by
  have inTime := orderly.punctual.incoming polled
  cases message with
  | propose origin number content => exact nomatch carried
  | vote voter number yes => exact nomatch carried
  | decision origin number approved content =>
    cases approved with
    | false => exact nomatch carried
    | true =>
      cases carried
      have age : cluster.network.bus.clock.time.toNat ≤ proposal.createdAt.toNat +
          (patience + 2 * cluster.network.hop delay + cluster.network.hop delay) :=
        inTime read
      omega
  | broadcast origin content => exact inTime.elim

/-- A decision that is acted on is about a proposal that has not aged. -/
theorem handle (orderly : Orderly window delay patience cluster)
    (tallied : cluster.network.Tallied)
    (bound : patience + 3 * cluster.network.hop delay < window.toNat)
    {rank sender : Rank} {message : Message} {rest : List (Rank × Message)}
    (next : (cluster.network.stations rank).batch = (sender, message) :: rest) :
    Orderly window delay patience { cluster with
      network := cluster.network.handle (.staleness window) rank sender message rest } := by
  have clock := orderly.punctual.still.clock_handle window rank sender message rest
  have polled : (sender, message) ∈ (cluster.network.stations rank).batch := by
    rw [next]
    exact List.mem_cons_self
  exact {
    punctual := orderly.punctual.handle tallied window next
    offering := by
      intro other joined
      rw [clock]
      exact orderly.offering joined
    parted := by
      intro other
      obtain ⟨horizon, past, parted⟩ := orderly.parted other
      rw [clock]
      refine ⟨horizon, past, ?_⟩
      by_cases here : other = rank
      · subst here
        have station : (cluster.network.handle (.staleness window) other sender message
            rest).stations other = (Station.handle (.staleness window) cluster.network.bus
              (cluster.network.stations other) message rest).2 := by
          rw [Network.stations_handle_self]
        rw [Cluster.PartedAt, station]
        refine Parted.surface parted ?_ ?_
        · simp only [Station.handle, Peer.approved_handle]
          cases surfaced : message.carried?.filter fun envelope =>
              (Envelope.decode envelope).toBool with
          | none => exact .inl (List.append_nil _)
          | some envelope =>
            refine .inr ⟨envelope, rfl, ?_⟩
            intro proposal read
            have carried := (Option.filter_eq_some_iff.1 surfaced).1
            exact Nat.lt_of_le_of_lt past (orderly.carried_young bound polled carried read)
        · rw [next]
          exact List.cons_ne_nil _ _
      · have station : (cluster.network.handle (.staleness window) rank sender message
            rest).stations other = cluster.network.stations other := by
          rw [Network.stations_handle_of_ne _ here]
        exact parted.frame rfl rfl (congrArg Station.batch station)
          (congrArg (fun found => found.peer.approved) station) }

/-- A call that begins or ends changes one node. -/
theorem of_call (orderly : Orderly window delay patience cluster) {rank : Rank}
    (emptyHand : (cluster.nodes rank).inHand = []) {call : Option (Control Handle)}
    (still : call.elim [] Control.inHand = [])
    (undecided : ∀ proposal ∈ call.elim [] Control.undecided,
      cluster.network.bus.clock.time.toNat < proposal.createdAt.toNat + window.toNat)
    (unoffered : ∀ proposal ∈ call.elim [] Control.unoffered,
      cluster.network.bus.clock.time.toNat ≤ proposal.createdAt.toNat + patience)
    (goesOn : ∀ cause, call ≠ some (.waiting (.draining cause)))
    {entries : List (ClusterEvent Handle)} (own : ∀ entry ∈ entries, entry.rank = rank)
    (unhanded : entries.filterMap (ClusterEvent.handedBy? rank) = []) :
    Orderly window delay patience
      (cluster.put cluster.network rank { cluster.nodes rank with call } entries) where
  punctual := orderly.punctual
  offering := by
    intro other joined proposal member
    rw [Cluster.put_nodes] at member
    split at member
    · exact unoffered proposal member
    · exact orderly.offering joined proposal member
  parted := by
    intro other
    obtain ⟨horizon, past, parted⟩ := orderly.parted other
    refine ⟨horizon, past, ?_⟩
    by_cases here : other = rank
    · subst here
      exact parted.put emptyHand still
        (fun proposal member => Nat.lt_of_le_of_lt past (undecided proposal member)) goesOn unhanded
    · have view : (cluster.put cluster.network rank { cluster.nodes rank with call }
          entries).view other = cluster.view other := cluster.view_put_of_ne _ here own rfl rfl
      exact parted.frame (congrArg ProcessView.node view) (congrArg ProcessView.handed view) rfl rfl

/-- So does submitting a proposal that was made just now. -/
theorem submit (orderly : Orderly window delay patience cluster)
    (invariant : VotedInvariant worldSize window cluster) (wide : 0 < window.toNat) {rank : Rank}
    {proposal : Proposal} (free : cluster.Free rank) (fresh : proposal.state = .initial)
    (stamped : proposal.createdAt = cluster.network.bus.clock.time) :
    Orderly window delay patience (cluster.begin rank
      ((cluster.nodes rank).coordinator.beginSubmit proposal) [.begun rank proposal]) := by
  obtain ⟨_, _, _, _, _, account⟩ := invariant.accounts rank
  have begins : (cluster.nodes rank).coordinator.beginSubmit proposal =
      (.waiting (.offering proposal.onBallot) : Control Handle) :=
    VotedInvariant.beginSubmit_voted account.mode fresh
  have emptyHand : (cluster.nodes rank).inHand = [] := by
    rw [Node.inHand, free.uncalled]
    rfl
  have now : proposal.onBallot.createdAt = cluster.network.bus.clock.time := stamped
  rw [begins]
  refine orderly.of_call emptyHand rfl ?_ ?_ ?_ ?_ rfl
  · intro own member
    rw [List.mem_singleton.1 member, now]
    omega
  · intro own member
    rw [List.mem_singleton.1 member, now]
    exact Nat.le_add_right _ _
  · simp
  · intro entry member
    rw [List.mem_singleton.1 member]
    rfl

/-- So does beginning to make progress. -/
theorem tick (orderly : Orderly window delay patience cluster) {rank : Rank}
    (free : cluster.Free rank) :
    Orderly window delay patience
      (cluster.begin rank (cluster.nodes rank).coordinator.beginProgress []) := by
  have emptyHand : (cluster.nodes rank).inHand = [] := by
    rw [Node.inHand, free.uncalled]
    rfl
  refine
    orderly.of_call emptyHand ?_ ?_ ?_ ?_ (fun _ member => absurd member List.not_mem_nil) rfl <;>
    unfold Coordinator.beginProgress <;> split
  · rfl
  · rfl
  · exact fun _ member => absurd member List.not_mem_nil
  · exact fun _ member => absurd member List.not_mem_nil
  · exact fun _ member => absurd member List.not_mem_nil
  · exact fun _ member => absurd member List.not_mem_nil
  · simp
  · simp

/-- So does beginning to close. -/
theorem close (orderly : Orderly window delay patience cluster) {rank : Rank}
    (free : cluster.Free rank) :
    Orderly window delay patience (cluster.begin rank Coordinator.beginClose []) := by
  have emptyHand : (cluster.nodes rank).inHand = [] := by
    rw [Node.inHand, free.uncalled]
    rfl
  refine orderly.of_call emptyHand rfl (fun _ member => absurd member List.not_mem_nil)
    (fun _ member => absurd member List.not_mem_nil) ?_
    (fun _ member => absurd member List.not_mem_nil) rfl
  simp [Coordinator.beginClose]

/-- So does taking the reply of a call. -/
theorem finish (orderly : Orderly window delay patience cluster) {rank : Rank}
    {reply : Except CoordinatorError (Reply Handle)}
    (returned : (cluster.nodes rank).call = some (.returned reply)) :
    Orderly window delay patience (cluster.finish rank reply) := by
  have emptyHand : (cluster.nodes rank).inHand = [] := by
    rw [Node.inHand, returned]
    rfl
  refine orderly.of_call emptyHand rfl (fun _ member => absurd member List.not_mem_nil)
    (fun _ member => absurd member List.not_mem_nil) ?_ ?_ rfl
  · simp
  · intro entry member
    rw [List.mem_singleton.1 member]
    rfl

/-- What is put to the vote was submitted within `patience`. -/
theorem punctual_serve (orderly : Orderly window delay patience cluster)
    (invariant : VotedInvariant worldSize window cluster) (lawful : cluster.network.Lawful)
    {rank : Rank} {stage : Stage Handle} (joined : cluster.network.bus.Joined rank)
    (idle : (cluster.network.stations rank).Idle)
    (waits : (cluster.nodes rank).call = some (.waiting stage)) :
    (cluster.network.serve rank stage.request).Punctual delay patience := by
  obtain ⟨_, _, _, _, _, account⟩ := invariant.accounts rank
  have callStage := account.callStage
  have call : (cluster.view rank).node.call = some (.waiting stage) := waits
  rw [call] at callStage
  refine orderly.punctual.serve lawful idle ?_ ?_
  · intro id envelope
    cases callStage <;> exact nofun
  · intro id envelope asks proposal read
    cases callStage with
    | @offering own made quiet =>
      cases asks
      rw [Envelope.decode_encode_of_fits made.fits] at read
      cases read
      refine orderly.offering joined proposal ?_
      rw [Node.unoffered, waits]
      exact List.mem_singleton.2 rfl
    | _ => exact nomatch asks

/-- An exchange leaves nothing unoffered at its process: what was to be offered has been. -/
theorem unoffered_exchange (cluster : Cluster State Handle) (executor : Executor State Handle)
    (rank : Rank) (stage : Stage Handle) :
    ((cluster.exchange executor rank stage).nodes rank).unoffered = [] := by
  have node := congrArg ProcessView.node (Cluster.view_exchange cluster executor rank stage)
  rw [show (cluster.exchange executor rank stage).nodes rank = _ from node]
  exact Coordinator.unoffered_resume _ _ _

/-- What one process does in a call is seen at its own station and node only. -/
theorem exchange (orderly : Orderly window delay patience cluster)
    (invariant : VotedInvariant worldSize window cluster)
    (wellFormed : cluster.network.WellFormed worldSize) (wide : 0 < window.toNat)
    (executor : Executor State Handle) {rank : Rank} {stage : Stage Handle}
    (joined : cluster.network.bus.Joined rank) (idle : (cluster.network.stations rank).Idle)
    (waits : (cluster.nodes rank).call = some (.waiting stage)) :
    Orderly window delay patience (cluster.exchange executor rank stage) := by
  have lawful := wellFormed.lawful
  have network : (cluster.exchange executor rank stage).network =
      cluster.network.serve rank stage.request := by
    rw [Cluster.exchange_eq]
    rfl
  have clock := invariant.still.clock_serve rank stage.request
  have size : (cluster.network.serve rank stage.request).bus.worldSize =
      cluster.network.bus.worldSize := Network.worldSize_serve _ _ _
  have views : ∀ other, other ≠ rank →
      (cluster.exchange executor rank stage).view other = cluster.view other :=
    fun other apart => Cluster.view_exchange_of_ne lawful executor apart stage
  exact {
    punctual := by
      rw [network]
      exact orderly.punctual_serve invariant lawful joined idle waits
    offering := by
      intro other there proposal member
      rw [network, Bus.Joined, size] at there
      rw [network, clock]
      by_cases here : other = rank
      · subst here
        rw [unoffered_exchange] at member
        exact absurd member List.not_mem_nil
      · rw [show (cluster.exchange executor rank stage).nodes other = cluster.nodes other from
          congrArg ProcessView.node (views other here)] at member
        exact orderly.offering there proposal member
    parted := by
      intro other
      obtain ⟨horizon, past, parted⟩ := orderly.parted other
      have now : (cluster.exchange executor rank stage).network.bus.clock =
          cluster.network.bus.clock := by
        rw [network, clock]
      rw [now]
      by_cases here : other = rank
      · subst here
        exact invariant.partedAt_exchange executor wellFormed wide idle waits past parted
      · have station : (cluster.exchange executor rank stage).network.stations other =
            cluster.network.stations other := by
          rw [network, Network.stations_serve_of_ne cluster.network here]
        exact ⟨horizon, past, parted.frame (congrArg ProcessView.node (views other here))
          (congrArg ProcessView.handed (views other here)) (congrArg Station.batch station)
          (congrArg (fun found => found.peer.approved) station)⟩ }

/-! ## Runs -/

variable {rules : Rules State Handle}

/-- Every step of prompt processes keeps them orderly. -/
theorem step {after : Cluster State Handle} (orderly : Orderly window delay patience cluster)
    (invariant : VotedInvariant worldSize window cluster)
    (wellFormed : cluster.network.WellFormed worldSize) (voted : rules.Voted window)
    (prompt : ∀ {clock}, rules.passes cluster clock → cluster.Awaits delay patience clock.time)
    (bound : patience + 3 * cluster.network.hop delay < window.toNat)
    (next : Cluster.Step rules cluster after) : Orderly window delay patience after := by
  have wide : 0 < window.toNat := Nat.lt_of_le_of_lt (Nat.zero_le _) bound
  cases next with
  | time clock passes =>
    obtain ⟨forward, still⟩ := voted.forward passes
    exact orderly.time wellFormed.lawful forward still (prompt passes)
  | send next => exact orderly.send wellFormed.lawful next
  | @handle rank sender message rest quiet next =>
    rw [voted.judged rank]
    exact orderly.handle wellFormed.tallied bound next
  | submit rank proposal free submits =>
    obtain ⟨_, fresh, stamped, _⟩ := voted.stamped submits
    exact orderly.submit invariant wide free fresh stamped
  | tick rank free => exact orderly.tick free
  | close rank free leaves => exact orderly.close free
  | exchange rank stage joined idle waits =>
    exact orderly.exchange invariant wellFormed wide (rules.executor rank) joined idle waits
  | finish rank reply returned => exact orderly.finish returned

/-- Whatever prompt processes do, they stay orderly. -/
theorem reaches {clock : Clock} {seed : Seed} {jitter : Jitter}
    {config : Rank → CoordinatorConfig} {state : Rank → State} (still : clock.stride = 0)
    (mode : ∀ rank, (config rank).mode = .voted)
    (width : ∀ rank, (config rank).windowMicros = window) (voted : rules.Voted window)
    (prompt : ∀ {cluster clock}, rules.passes cluster clock →
      cluster.Awaits delay patience clock.time)
    (bound : patience + 3 * (jitter.maxMicros.toNat + delay) < window.toNat)
    {after : Cluster State Handle}
    (steps : Cluster.Reaches rules (.opening worldSize clock seed jitter config state) after) :
    Orderly window delay patience after := by
  have wide : 0 < window.toNat := Nat.lt_of_le_of_lt (Nat.zero_le _) bound
  induction steps with
  | refl => exact .opening worldSize seed jitter config state still
  | @step middle final prior next inductionHypothesis =>
    have hop : middle.network.hop delay = jitter.maxMicros.toNat + delay :=
      congrArg (fun found => found.maxMicros.toNat + delay) prior.network.jitter
    refine inductionHypothesis.step (.reaches still mode width voted wide prior)
      (.of_reaches prior.network) voted prompt ?_ next
    rw [hop]
    exact bound

end Orderly

end Concord
