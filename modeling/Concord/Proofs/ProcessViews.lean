import Concord.Proofs.Clusters

/-!
# Views of single processes

A view is all that concerns one process of a cluster: its node, what the events say of it, and what
it has issued and collected. A step of one process leaves the views of all others alone, so a law
of single views is kept if the process that acts keeps it.
-/

namespace Concord

/-- What concerns one process of a cluster. -/
structure ProcessView (State Handle : Type) where
  node : Node State Handle
  begun : List Proposal
  entered : List Proposal
  handed : List Proposal
  replies : List (Except CoordinatorError (Reply Handle))
  issued : List Bytes
  collected : List Bytes

namespace ClusterEvent

variable {Handle : Type}

/-- The process that an entry is about. -/
def rank : ClusterEvent Handle → Rank
  | .begun rank _ => rank
  | .entered rank _ => rank
  | .handed rank _ _ => rank
  | .replied rank _ => rank

/-- What another process notes starts no submission of this one. -/
theorem begunBy?_of_ne {entry : ClusterEvent Handle} {process : Rank}
    (foreign : entry.rank ≠ process) :
    entry.begunBy? process = none := by
  cases entry with
  | begun rank proposal => exact if_neg foreign
  | _ => rfl

/-- What another process notes enters nothing here. -/
theorem enteredAt?_of_ne {entry : ClusterEvent Handle} {process : Rank}
    (foreign : entry.rank ≠ process) :
    entry.enteredAt? process = none := by
  cases entry with
  | entered rank proposal => exact if_neg foreign
  | _ => rfl

/-- What another process notes hands nothing over here. -/
theorem handedBy?_of_ne {entry : ClusterEvent Handle} {process : Rank}
    (foreign : entry.rank ≠ process) :
    entry.handedBy? process = none := by
  cases entry with
  | handed rank proposal accepted => exact if_neg foreign
  | _ => rfl

/-- What another process notes is no reply to this one. -/
theorem repliedTo?_of_ne {entry : ClusterEvent Handle} {process : Rank}
    (foreign : entry.rank ≠ process) :
    entry.repliedTo? process = none := by
  cases entry with
  | replied rank reply => exact if_neg foreign
  | _ => rfl

end ClusterEvent

/-- The events of a stage are of the process that is at it. -/
theorem Stage.rank_of_mem_clusterEvents {Handle : Type} {rank : Rank} {stage : Stage Handle}
    {answer : stage.request.Answer Handle} {entry : ClusterEvent Handle}
    (member : entry ∈ stage.clusterEvents rank answer) : entry.rank = rank := by
  unfold Stage.clusterEvents at member
  repeat' split at member
  all_goals
    first
    | exact absurd member List.not_mem_nil
    | rw [List.mem_singleton.1 member]
      rfl

/-- What follows a stage that waits until what has arrived is handled. -/
def Stage.polled? {Handle : Type} : Stage Handle → Option (Stage Handle)
  | .awaitingVotes proposal => some (.readingStatus proposal)
  | .awaitingAge key => some (.absorbing (.aging key))
  | .awaitingDrain cause => some (.absorbing (.drain cause))
  | .confirming key result => some (.rereadingStatus key result)
  | .awaitingQuorum key => some (.absorbing (.quorum key))
  | .listening => some (.absorbing .nothing)
  | _ => none

/-- Noting an answer begins nothing. -/
theorem Stage.begun_clusterEvents {Handle : Type} (rank process : Rank) (stage : Stage Handle)
    (answer : stage.request.Answer Handle) :
    (stage.clusterEvents rank answer).filterMap (ClusterEvent.begunBy? process) = [] := by
  unfold Stage.clusterEvents
  repeat' split
  all_goals rfl

/-- Noting an answer replies to nothing. -/
theorem Stage.replied_clusterEvents {Handle : Type} (rank process : Rank) (stage : Stage Handle)
    (answer : stage.request.Answer Handle) :
    (stage.clusterEvents rank answer).filterMap (ClusterEvent.repliedTo? process) = [] := by
  unfold Stage.clusterEvents
  repeat' split
  all_goals rfl

namespace Network

/-! ## What single steps add to the accounts of envelopes -/

/-- Sending issues nothing. -/
theorem issued_send (network : Network) (rank receiver : Rank) (message : Message)
    (rest : List (Rank × Message)) (process : Rank) :
    (network.send rank receiver message rest).issued process = network.issued process := by
  simp [issued, Network.send, Event.issuedBy?]

/-- Sending collects nothing. -/
theorem collected_send (network : Network) (rank receiver : Rank) (message : Message)
    (rest : List (Rank × Message)) (process : Rank) :
    (network.send rank receiver message rest).collected process = network.collected process := by
  simp [collected, Network.send, Event.collectedBy?]

/-- Acting on a message collects nothing. -/
theorem collected_handle (network : Network) (judge : Judge) (rank sender : Rank)
    (message : Message) (rest : List (Rank × Message)) (process : Rank) :
    (network.handle judge rank sender message rest).collected process =
      network.collected process := by
  have silent := outcomeEvents_eq_nil judge network.bus (network.stations rank).peer message
    (show ∀ origin number envelope verdict, Event.collectedBy? process (.judged _ origin number
      envelope verdict) = none from fun _ _ _ _ => rfl) (fun _ _ _ => rfl)
  rw [Network.collected, Network.handle, put_history, List.filterMap_append, Peer.handleEvents,
    List.filterMap_cons_none rfl, silent]
  exact List.append_nil _

/-- By a request a process issues what its peer announces. -/
theorem issued_serve (network : Network) (rank : Rank) (request : Request) (process : Rank) :
    (network.serve rank request).issued process = network.issued process ++
      (Peer.serveEvents network.bus (network.stations rank).peer request).filterMap
        (Event.issuedBy? process) := by
  rw [Network.issued, Network.serve, put_history, List.filterMap_append]
  rfl

/-- By a request a process collects what its peer gives out. -/
theorem collected_serve (network : Network) (rank : Rank) (request : Request) (process : Rank) :
    (network.serve rank request).collected process = network.collected process ++
      (Peer.serveEvents network.bus (network.stations rank).peer request).filterMap
        (Event.collectedBy? process) := by
  rw [Network.collected, Network.serve, put_history, List.filterMap_append]
  rfl

/-- A request of one process adds nothing to what another one has issued. -/
theorem Lawful.issued_serve_of_ne {network : Network} (lawful : network.Lawful)
    {rank process : Rank} (apart : process ≠ rank) (request : Request) :
    (network.serve rank request).issued process = network.issued process := by
  have foreign : ¬ rank = process := fun same => apart same.symm
  rw [issued_serve]
  have silent : (Peer.serveEvents network.bus (network.stations rank).peer request).filterMap
      (Event.issuedBy? process) = [] := by
    apply serveEvents_eq_nil <;> simp [Event.issuedBy?, lawful.named, foreign]
  rw [silent, List.append_nil]

/-- A request of one process adds nothing to what another one has collected. -/
theorem Lawful.collected_serve_of_ne {network : Network} (lawful : network.Lawful)
    {rank process : Rank} (apart : process ≠ rank) (request : Request) :
    (network.serve rank request).collected process = network.collected process := by
  have foreign : ¬ rank = process := fun same => apart same.symm
  rw [collected_serve]
  have silent : (Peer.serveEvents network.bus (network.stations rank).peer request).filterMap
      (Event.collectedBy? process) = [] := by
    apply serveEvents_eq_nil <;> simp [Event.collectedBy?, lawful.named, foreign]
  rw [silent, List.append_nil]

/-- What has reached a process was issued by another one. -/
theorem Lawful.issued_of_surfaced {network : Network} (lawful : network.Lawful) {receiver : Rank}
    {envelope : Bytes} (surfaced : envelope ∈ network.surfaced receiver) :
    ∃ sender, network.Linked sender receiver ∧ envelope ∈ network.issued sender := by
  obtain ⟨event, member, found⟩ := List.mem_filterMap.1 surfaced
  cases event with
  | handled target sender message =>
    rw [Event.surfacedAt?] at found
    split at found
    · next here =>
      subst here
      obtain ⟨brought, _⟩ := Option.filter_eq_some_iff.1 found
      have handled : message ∈ network.handledFrom sender target :=
        List.mem_filterMap.2 ⟨_, member, by simp [Event.handledFrom?]⟩
      have linked := lawful.linked_of_handled handled
      exact ⟨sender, linked, (lawful.carried_prefix linked).subset
        (List.mem_filterMap.2 ⟨message, handled, brought⟩)⟩
    · simp at found
  | _ => simp [Event.surfacedAt?] at found

/-! ## The size of the world -/

/-- Every step leaves the world as large as it is. -/
theorem Step.worldSize {network after : Network} (next : Step network after) :
    after.bus.worldSize = network.bus.worldSize := by
  cases next with
  | time clock => rfl
  | send next => exact Bus.worldSize_send _ _ _ _
  | handle judge quiet next => rfl
  | serve rank request joined idle => exact worldSize_serve _ _ _

/-- The world is always as large as at the start. -/
theorem Reaches.worldSize {network after : Network} (steps : Reaches network after) :
    after.bus.worldSize = network.bus.worldSize := by
  induction steps with
  | refl => rfl
  | step prior next inductionHypothesis => exact next.worldSize.trans inductionHypothesis

/-- The processes that are joined are those that the world began with. -/
theorem Reaches.joined_iff {worldSize : Nat} {clock : Clock} {seed : Seed} {jitter : Jitter}
    {network : Network} (steps : Reaches (.opening worldSize clock seed jitter) network)
    {rank : Rank} : network.bus.Joined rank ↔ rank ∈ Rank.all worldSize := by
  rw [Bus.Joined, steps.worldSize, Rank.mem_all]
  exact Iff.of_eq (congrArg _ (Bus.worldSize_connect worldSize clock seed jitter))

/-- What every network obeys that began with a world of the given size. -/
structure WellFormed (network : Network) (worldSize : Nat) : Prop where
  tallied : network.Tallied
  kept : network.Kept
  world : ∀ rank, network.bus.Joined rank ↔ rank ∈ Rank.all worldSize

/-- A network that came about by steps obeys the laws of delivery. -/
theorem WellFormed.lawful {network : Network} {worldSize : Nat}
    (wellFormed : network.WellFormed worldSize) : network.Lawful :=
  wellFormed.tallied.lawful

/-- Every network that is reached from its opening is well-formed. -/
theorem WellFormed.of_reaches {worldSize : Nat} {clock : Clock} {seed : Seed} {jitter : Jitter}
    {network : Network} (steps : Reaches (.opening worldSize clock seed jitter) network) :
    network.WellFormed worldSize where
  tallied := (Tallied.opening worldSize clock seed jitter).reaches steps
  kept := (Kept.opening worldSize clock seed jitter).reaches
    (Lawful.opening worldSize clock seed jitter) steps
  world := fun _ => steps.joined_iff

end Network

namespace Cluster

variable {State Handle : Type}

/-- What concerns a process. -/
def view (cluster : Cluster State Handle) (rank : Rank) : ProcessView State Handle where
  node := cluster.nodes rank
  begun := cluster.begun rank
  entered := cluster.entered rank
  handed := cluster.handed rank
  replies := cluster.replies rank
  issued := cluster.network.issued rank
  collected := cluster.network.collected rank

/-- A step below the coordinators changes at most what has been issued and collected. -/
theorem view_network (cluster : Cluster State Handle) (network : Network) (rank : Rank) :
    ({ cluster with network } : Cluster State Handle).view rank =
      { cluster.view rank with
        issued := network.issued rank
        collected := network.collected rank } := rfl

/-- What one process does is put behind what it did before. -/
theorem view_put (cluster : Cluster State Handle) (network : Network) (rank : Rank)
    (node : Node State Handle) (entries : List (ClusterEvent Handle)) :
    (cluster.put network rank node entries).view rank = {
      node
      begun := cluster.begun rank ++ entries.filterMap (ClusterEvent.begunBy? rank)
      entered := cluster.entered rank ++ entries.filterMap (ClusterEvent.enteredAt? rank)
      handed := cluster.handed rank ++ entries.filterMap (ClusterEvent.handedBy? rank)
      replies := cluster.replies rank ++ entries.filterMap (ClusterEvent.repliedTo? rank)
      issued := network.issued rank
      collected := network.collected rank } := by
  simp only [view, begun, entered, handed, replies, put, Function.update_self,
    List.filterMap_append]

/-- What one process does concerns no other. -/
theorem view_put_of_ne (cluster : Cluster State Handle) {network : Network} {rank other : Rank}
    (node : Node State Handle) {entries : List (ClusterEvent Handle)} (apart : other ≠ rank)
    (own : ∀ entry ∈ entries, entry.rank = rank)
    (issued : network.issued other = cluster.network.issued other)
    (collected : network.collected other = cluster.network.collected other) :
    (cluster.put network rank node entries).view other = cluster.view other := by
  have foreign : ∀ entry ∈ entries, entry.rank ≠ other := fun entry member same =>
    apart (same.symm.trans (own entry member))
  have begun : entries.filterMap (ClusterEvent.begunBy? other) = [] :=
    List.filterMap_eq_nil_iff.2 fun entry member =>
      ClusterEvent.begunBy?_of_ne (foreign entry member)
  have entered : entries.filterMap (ClusterEvent.enteredAt? other) = [] :=
    List.filterMap_eq_nil_iff.2 fun entry member =>
      ClusterEvent.enteredAt?_of_ne (foreign entry member)
  have handed : entries.filterMap (ClusterEvent.handedBy? other) = [] :=
    List.filterMap_eq_nil_iff.2 fun entry member =>
      ClusterEvent.handedBy?_of_ne (foreign entry member)
  have replied : entries.filterMap (ClusterEvent.repliedTo? other) = [] :=
    List.filterMap_eq_nil_iff.2 fun entry member =>
      ClusterEvent.repliedTo?_of_ne (foreign entry member)
  simp only [view, Cluster.begun, Cluster.entered, Cluster.handed, replies, put,
    Function.update_of_ne apart, List.filterMap_append, begun, entered, handed, replied,
    List.append_nil, issued, collected]

/-- What an exchange adds to what concerns the process. -/
theorem view_exchange (cluster : Cluster State Handle) (executor : Executor State Handle)
    (rank : Rank) (stage : Stage Handle) :
    (cluster.exchange executor rank stage).view rank =
      let answered := answer executor rank stage.request
        (cluster.network, (cluster.nodes rank).state)
      let resumed := (cluster.nodes rank).coordinator.resume stage answered.1
      let clusterEvents := stage.clusterEvents rank answered.1
      let events := Peer.serveEvents cluster.network.bus (cluster.network.stations rank).peer
        stage.request
      { node := ⟨resumed.1, answered.2.2, some resumed.2⟩
        begun := cluster.begun rank
        entered := cluster.entered rank ++ clusterEvents.filterMap (ClusterEvent.enteredAt? rank)
        handed := cluster.handed rank ++ clusterEvents.filterMap (ClusterEvent.handedBy? rank)
        replies := cluster.replies rank
        issued := cluster.network.issued rank ++ events.filterMap (Event.issuedBy? rank)
        collected := cluster.network.collected rank ++
          events.filterMap (Event.collectedBy? rank) } := by
  rw [exchange_eq]
  simp only [view_put, Network.issued_serve, Network.collected_serve, Stage.begun_clusterEvents,
    Stage.replied_clusterEvents, List.append_nil]

/-- An exchange of one process concerns no other. -/
theorem view_exchange_of_ne {cluster : Cluster State Handle} (lawful : cluster.network.Lawful)
    (executor : Executor State Handle) {rank other : Rank} (apart : other ≠ rank)
    (stage : Stage Handle) :
    (cluster.exchange executor rank stage).view other = cluster.view other := by
  rw [exchange_eq]
  exact cluster.view_put_of_ne _ apart (fun entry member => Stage.rank_of_mem_clusterEvents member)
    (lawful.issued_serve_of_ne apart _) (lawful.collected_serve_of_ne apart _)

/-! ## One exchange of each kind -/

/-- Announcing an own proposal enters it into the own ledger. -/
theorem view_broadcasting {cluster : Cluster State Handle} (lawful : cluster.network.Lawful)
    (executor : Executor State Handle) {rank : Rank}
    (active : (cluster.network.stations rank).peer.finalized = false) (proposal : Proposal) :
    (cluster.exchange executor rank (.broadcasting proposal)).view rank =
      let node := cluster.nodes rank
      let ledger := node.coordinator.ledger.add proposal.markLocal
      let resumed := { node.coordinator with ledger }.awaitRound proposal.key
      { cluster.view rank with
        node := ⟨resumed.1, node.state, some resumed.2⟩
        entered := cluster.entered rank ++ [proposal.markLocal]
        issued := cluster.network.issued rank ++ [Envelope.encode proposal] } := by
  rw [view_exchange]
  simp only [answer, Peer.submitBroadcast, active, Coordinator.resume, Coordinator.onSuccess,
    Stage.clusterEvents, List.filterMap_cons, List.filterMap_nil, ClusterEvent.enteredAt?,
    ClusterEvent.handedBy?, Peer.serveEvents, Event.issuedBy?, Event.collectedBy?, lawful.named,
    if_true, if_false,
    Bool.false_eq_true, List.append_nil]
  rfl

/-- Polling leads a call on. -/
theorem view_polling (cluster : Cluster State Handle) (executor : Executor State Handle)
    {rank : Rank} (active : (cluster.network.stations rank).peer.finalized = false)
    {stage next : Stage Handle} (leads : stage.polled? = some next) :
    (cluster.exchange executor rank stage).view rank =
      { cluster.view rank with
        node := { cluster.nodes rank with call := some (.waiting next) } } := by
  rw [view_exchange]
  cases stage <;> simp only [Stage.polled?, reduceCtorEq, Option.some.injEq] at leads
  all_goals
    subst leads
    simp [answer, active, Coordinator.resume, Coordinator.onSuccess, Stage.clusterEvents,
      Peer.serveEvents, view]

/-- Where nothing waits for checkout, a call goes on; only an approval enters anything then. -/
theorem view_absorbing_nil (cluster : Cluster State Handle) (executor : Executor State Handle)
    {rank : Rank} (nothing : (cluster.network.stations rank).peer.approved = [])
    {next : AfterAbsorbing} (other : ∀ proposal, next ≠ .resolution proposal .approved) :
    (cluster.exchange executor rank (.absorbing next)).view rank =
      let node := cluster.nodes rank
      let resumed := node.coordinator.afterAbsorbing next
      { cluster.view rank with node := ⟨resumed.1, node.state, some resumed.2⟩ } := by
  have silent : (Stage.absorbing next : Stage Handle).clusterEvents rank (.ok none) = [] := by
    cases next with
    | resolution proposal status =>
      cases status with
      | approved => exact absurd rfl (other proposal)
      | _ => rfl
    | _ => rfl
  rw [view_exchange]
  simp only [answer, Peer.checkout, nothing, Coordinator.resume, silent, Peer.serveEvents,
    List.filterMap_nil, List.append_nil]
  rfl

/-- An envelope that waits for checkout is absorbed if it is one of a proposal that can be
approved. -/
theorem view_absorbing_cons {cluster : Cluster State Handle} (lawful : cluster.network.Lawful)
    (executor : Executor State Handle) {rank : Rank} {envelope : Bytes} {rest : List Bytes}
    (waits : (cluster.network.stations rank).peer.approved = envelope :: rest)
    {proposal approved : Proposal} (read : Envelope.decode envelope = .ok proposal)
    (advances : proposal.advance .approved = .ok approved) (next : AfterAbsorbing) :
    (cluster.exchange executor rank (.absorbing next)).view rank =
      let node := cluster.nodes rank
      let coordinator := { node.coordinator with ledger := node.coordinator.ledger.add approved }
      { cluster.view rank with
        node := ⟨coordinator, node.state, some (.waiting (.absorbing next))⟩
        entered := cluster.entered rank ++ [approved]
        collected := cluster.network.collected rank ++ [envelope] } := by
  have opened : Proposal.ofEnvelope envelope = .ok proposal := by
    rw [Proposal.ofEnvelope, read]
  rw [view_exchange]
  simp only [answer, Peer.checkout, waits, Coordinator.resume, Coordinator.absorb, opened,
    advances, Stage.clusterEvents, List.filterMap_cons, List.filterMap_nil, ClusterEvent.enteredAt?,
    ClusterEvent.handedBy?, Peer.serveEvents, Event.issuedBy?, Event.collectedBy?, lawful.named,
    if_true, List.append_nil]
  rfl

/-- An executor is asked for one proposal. -/
theorem view_executing (cluster : Cluster State Handle) (executor : Executor State Handle)
    (rank : Rank) (cause : BatchCause) (records : List (Executed Handle)) (proposal : Proposal) :
    (cluster.exchange executor rank (.executing cause records proposal)).view rank =
      let node := cluster.nodes rank
      let executed := executor.execute node.state proposal
      let resumed := node.coordinator.record cause records proposal executed.1
      { cluster.view rank with
        node := ⟨resumed.1, executed.2, some resumed.2⟩
        handed := cluster.handed rank ++ [proposal] } := by
  rw [view_exchange]
  simp only [answer, Coordinator.resume, Stage.clusterEvents, List.filterMap_cons,
    List.filterMap_nil, ClusterEvent.enteredAt?, ClusterEvent.handedBy?, Peer.serveEvents, if_true,
    List.append_nil]
  rfl

/-- Nobody has refused anything up to a step unless somebody has after it. -/
theorem Unrefused.before {rules : Rules State Handle} {cluster after : Cluster State Handle}
    (unrefused : after.Unrefused) (next : Step rules cluster after) : cluster.Unrefused :=
  fun entry member => unrefused entry (next.events.subset member)

end Cluster

end Concord
