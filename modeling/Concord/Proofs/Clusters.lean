import Concord.Coordinator.Run
import Concord.Proofs.Checkout
import Concord.Proofs.Tallies

/-!
# Clusters

A cluster is a network with a coordinator and an executor at every process. A coordinator
is always driven by `Coordinator.exchange`; its requests are answered by its station. The
answer to a poll is known before what was polled is acted on, so the coordinator goes on at
once and its next request waits until the station is idle again: everything between is open
to the other processes. The events are beside the processes and decide nothing.

`Rules` fixes what the environment may do: who judges and executes how, how time passes, and
which calls are made.
-/

namespace Concord

/-- A coordinator with its executor's state and the call that it is in. -/
structure Node (State Handle : Type) where
  coordinator : Coordinator
  state : State
  call : Option (Control Handle)

/-- Something that happened at a process above the network. -/
inductive ClusterEvent (Handle : Type) where
  /-- A submission has been started. -/
  | begun (rank : Rank) (proposal : Proposal)
  /-- A proposal has entered the ledger. -/
  | entered (rank : Rank) (proposal : Proposal)
  /-- The executor has answered for a proposal. -/
  | handed (rank : Rank) (proposal : Proposal) (accepted : Bool)
  /-- A call has returned. -/
  | replied (rank : Rank) (reply : Except CoordinatorError (Reply Handle))

namespace ClusterEvent

variable {Handle : Type}

/-- The proposal whose submission an entry starts. -/
def begunBy? (process : Rank) : ClusterEvent Handle → Option Proposal
  | .begun rank proposal => if rank = process then some proposal else none
  | _ => none

/-- The proposal that enters a process's ledger. -/
def enteredAt? (process : Rank) : ClusterEvent Handle → Option Proposal
  | .entered rank proposal => if rank = process then some proposal else none
  | _ => none

/-- The proposal that a process hands to its executor. -/
def handedBy? (process : Rank) : ClusterEvent Handle → Option Proposal
  | .handed rank proposal _ => if rank = process then some proposal else none
  | _ => none

/-- The reply that a process gets. -/
def repliedTo? (process : Rank) :
    ClusterEvent Handle → Option (Except CoordinatorError (Reply Handle))
  | .replied rank reply => if rank = process then some reply else none
  | _ => none

/-- Whether an entry is a refusal by an executor. -/
def isRefusal : ClusterEvent Handle → Bool
  | .handed _ _ accepted => !accepted
  | _ => false

end ClusterEvent

/-- What happens above the network when a stage gets its answer. -/
def Stage.clusterEvents {Handle : Type} (rank : Rank) :
    (stage : Stage Handle) → stage.request.Answer Handle → List (ClusterEvent Handle)
  | .absorbing next, answer =>
    match answer, next with
    | .ok (some envelope), _ =>
      match Proposal.ofEnvelope envelope with
      | .error _ => []
      | .ok proposal =>
        match proposal.advance .approved with
        | .error _ => []
        | .ok approved => [.entered rank approved]
    | .ok none, .resolution proposal .approved =>
      match proposal.advance .approved with
      | .error _ => []
      | .ok approved => [.entered rank approved.markLocal]
    | _, _ => []
  | .executing _ _ proposal, answer => [.handed rank proposal answer.toBool]
  | .broadcasting proposal, answer =>
    match answer with
    | .ok () => [.entered rank proposal.markLocal]
    | .error _ => []
  | _, _ => []

/-- A network with a coordinator at every process, and what the coordinators have done. -/
structure Cluster (State Handle : Type) where
  network : Network
  nodes : Rank → Node State Handle
  events : List (ClusterEvent Handle)

/-- What surrounds the processes of a cluster. -/
structure Rules (State Handle : Type) where
  executor : Rank → Executor State Handle
  judge : Rank → Judge
  /-- Whether the clock may be set so. -/
  passes : Cluster State Handle → Clock → Prop
  /-- Whether a process may submit a proposal. -/
  submits : Cluster State Handle → Rank → Proposal → Prop
  /-- Whether a process may leave. -/
  leaves : Cluster State Handle → Rank → Prop

namespace Cluster

variable {State Handle : Type}

/-- A cluster before any call. -/
def opening (worldSize : Nat) (clock : Clock) (seed : Seed) (jitter : Jitter)
    (config : Rank → CoordinatorConfig) (state : Rank → State) : Cluster State Handle where
  network := .opening worldSize clock seed jitter
  nodes rank := ⟨⟨config rank, .empty, .empty⟩, state rank, none⟩
  events := []

/-- Answer a request of a process by its station and its executor. -/
def answer (executor : Executor State Handle) (rank : Rank) :
    (request : Request) → Network × State → request.Answer Handle × (Network × State)
  | .readClock, (network, state) =>
    (network.bus.clock.time, (network.serve rank .readClock, state))
  | .progress, (network, state) =>
    (if (network.stations rank).peer.finalized then .error .finalized else .ok (),
      (network.serve rank .progress, state))
  | .submitVote id envelope, (network, state) =>
    (((network.stations rank).peer.submitVote network.bus id envelope).1,
      (network.serve rank (.submitVote id envelope), state))
  | .submitBroadcast id envelope, (network, state) =>
    (((network.stations rank).peer.submitBroadcast network.bus envelope).1,
      (network.serve rank (.submitBroadcast id envelope), state))
  | .readStatus id, (network, state) =>
    (.ok ((network.stations rank).peer.status id), (network.serve rank (.readStatus id), state))
  | .checkout, (network, state) =>
    (.ok (network.stations rank).peer.checkout.1, (network.serve rank .checkout, state))
  | .release, (network, state) => (.ok (), (network.serve rank .release, state))
  | .finalize, (network, state) => (.ok (), (network.serve rank .finalize, state))
  | .execute proposal, (network, state) =>
    let (answer, after) := executor.execute state proposal
    (answer, (network.serve rank (.execute proposal), after))

/-- A station and an executor as surroundings of a coordinator. -/
def surroundings (executor : Executor State Handle) (rank : Rank) :
    Surroundings (Network × State) Handle :=
  ⟨answer executor rank⟩

/-- Change one node and record what has happened there. -/
def put (cluster : Cluster State Handle) (network : Network) (rank : Rank)
    (node : Node State Handle) (entries : List (ClusterEvent Handle)) : Cluster State Handle :=
  ⟨network, Function.update cluster.nodes rank node, cluster.events ++ entries⟩

/-- Start a call. -/
def begin (cluster : Cluster State Handle) (rank : Rank) (control : Control Handle)
    (entries : List (ClusterEvent Handle)) : Cluster State Handle :=
  cluster.put cluster.network rank { cluster.nodes rank with call := some control } entries

/-- Answer the request that a call waits for. -/
def exchange (cluster : Cluster State Handle) (executor : Executor State Handle) (rank : Rank)
    (stage : Stage Handle) : Cluster State Handle :=
  let node := cluster.nodes rank
  let site := (cluster.network, node.state)
  let after := Coordinator.exchange (surroundings executor rank) node.coordinator stage site
  cluster.put after.state.1 rank ⟨after.coordinator, after.state.2, some after.control⟩
    (stage.clusterEvents rank (answer executor rank stage.request site).1)

/-- Take note of the reply to a call. -/
def finish (cluster : Cluster State Handle) (rank : Rank)
    (reply : Except CoordinatorError (Reply Handle)) : Cluster State Handle :=
  cluster.put cluster.network rank { cluster.nodes rank with call := none }
    [.replied rank reply]

/-- Whether a process can start a call. -/
structure Free (cluster : Cluster State Handle) (rank : Rank) : Prop where
  joined : cluster.network.bus.Joined rank
  idle : (cluster.network.stations rank).Idle
  uncalled : (cluster.nodes rank).call = none

/-- What happens next in a cluster. -/
inductive Step (rules : Rules State Handle) (cluster : Cluster State Handle) :
    Cluster State Handle → Prop where
  | time (clock : Clock) (passes : rules.passes cluster clock) :
      Step rules cluster { cluster with network := cluster.network.retime clock }
  | send {rank receiver : Rank} {message : Message} {rest : List (Rank × Message)}
      (next : (cluster.network.stations rank).outbox = (receiver, message) :: rest) :
      Step rules cluster
        { cluster with network := cluster.network.send rank receiver message rest }
  | handle {rank sender : Rank} {message : Message} {rest : List (Rank × Message)}
      (quiet : (cluster.network.stations rank).outbox = [])
      (next : (cluster.network.stations rank).batch = (sender, message) :: rest) :
      Step rules cluster
        { cluster with
          network := cluster.network.handle (rules.judge rank) rank sender message rest }
  | submit (rank : Rank) (proposal : Proposal) (free : cluster.Free rank)
      (submits : rules.submits cluster rank proposal) :
      Step rules cluster (cluster.begin rank
        ((cluster.nodes rank).coordinator.beginSubmit proposal) [.begun rank proposal])
  | tick (rank : Rank) (free : cluster.Free rank) :
      Step rules cluster
        (cluster.begin rank (cluster.nodes rank).coordinator.beginProgress [])
  | close (rank : Rank) (free : cluster.Free rank) (leaves : rules.leaves cluster rank) :
      Step rules cluster (cluster.begin rank Coordinator.beginClose [])
  | exchange (rank : Rank) (stage : Stage Handle) (joined : cluster.network.bus.Joined rank)
      (idle : (cluster.network.stations rank).Idle)
      (waits : (cluster.nodes rank).call = some (.waiting stage)) :
      Step rules cluster (cluster.exchange (rules.executor rank) rank stage)
  | finish (rank : Rank) (reply : Except CoordinatorError (Reply Handle))
      (returned : (cluster.nodes rank).call = some (.returned reply)) :
      Step rules cluster (cluster.finish rank reply)

/-- What can become of a cluster. -/
inductive Reaches (rules : Rules State Handle) (start : Cluster State Handle) :
    Cluster State Handle → Prop where
  | refl : Reaches rules start start
  | step {middle final : Cluster State Handle} (prior : Reaches rules start middle)
      (next : Step rules middle final) : Reaches rules start final

/-! ## What the events say -/

/-- The proposals that a process has begun to submit. -/
def begun (cluster : Cluster State Handle) (rank : Rank) : List Proposal :=
  cluster.events.filterMap (ClusterEvent.begunBy? rank)

/-- The proposals that have entered a process's ledger. -/
def entered (cluster : Cluster State Handle) (rank : Rank) : List Proposal :=
  cluster.events.filterMap (ClusterEvent.enteredAt? rank)

/-- The proposals that a process has handed to its executor. -/
def handed (cluster : Cluster State Handle) (rank : Rank) : List Proposal :=
  cluster.events.filterMap (ClusterEvent.handedBy? rank)

/-- The replies that a process has got. -/
def replies (cluster : Cluster State Handle) (rank : Rank) :
    List (Except CoordinatorError (Reply Handle)) :=
  cluster.events.filterMap (ClusterEvent.repliedTo? rank)

/-- Whether no executor has refused anything. -/
def Unrefused (cluster : Cluster State Handle) : Prop :=
  ∀ entry ∈ cluster.events, entry.isRefusal = false

/-! ## One node changes -/

/-- Acting for one process leaves the nodes of all others as they are. -/
theorem put_nodes (cluster : Cluster State Handle) (network : Network) (rank : Rank)
    (node : Node State Handle) (entries : List (ClusterEvent Handle)) (other : Rank) :
    (cluster.put network rank node entries).nodes other =
      if other = rank then node else cluster.nodes other :=
  Function.update_apply _ _ _ _

/-- Whatever is asked, the network serves it. -/
theorem answer_network (executor : Executor State Handle) (rank : Rank) (request : Request)
    (network : Network) (state : State) :
    (answer executor rank request (network, state)).2.1 = network.serve rank request := by
  cases request <;> rfl

/-- An exchange is a request served by the network and taken note of by the coordinator. -/
theorem exchange_eq (cluster : Cluster State Handle) (executor : Executor State Handle)
    (rank : Rank) (stage : Stage Handle) :
    cluster.exchange executor rank stage =
      let site := (cluster.network, (cluster.nodes rank).state)
      let answered := answer executor rank stage.request site
      let resumed := (cluster.nodes rank).coordinator.resume stage answered.1
      cluster.put (cluster.network.serve rank stage.request) rank
        ⟨resumed.1, answered.2.2, some resumed.2⟩ (stage.clusterEvents rank answered.1) := by
  rw [← answer_network executor rank stage.request cluster.network (cluster.nodes rank).state]
  rfl

/-- Every step of a cluster is a step of its network or leaves the network as it is. -/
theorem Step.network {rules : Rules State Handle} {cluster after : Cluster State Handle}
    (next : Step rules cluster after) :
    after.network = cluster.network ∨ Network.Step cluster.network after.network := by
  cases next with
  | time clock passes => exact .inr (.time clock)
  | send next => exact .inr (.send next)
  | handle quiet next => exact .inr (.handle _ quiet next)
  | submit rank proposal free submits => exact .inl rfl
  | tick rank free => exact .inl rfl
  | close rank free leaves => exact .inl rfl
  | exchange rank stage joined idle waits =>
    right
    rw [exchange_eq]
    exact .serve rank stage.request joined idle
  | finish rank reply returned => exact .inl rfl

/-- Below the coordinators a cluster is a network, so every law of networks holds. -/
theorem Reaches.network {rules : Rules State Handle} {start after : Cluster State Handle}
    (steps : Reaches rules start after) : Network.Reaches start.network after.network := by
  induction steps with
  | refl => exact .refl
  | step prior next inductionHypothesis =>
    rcases next.network with same | stepped
    · rw [same]
      exact inductionHypothesis
    · exact .step inductionHypothesis stepped

/-- Events are only added. -/
theorem Step.events {rules : Rules State Handle} {cluster after : Cluster State Handle}
    (next : Step rules cluster after) : cluster.events <+: after.events := by
  cases next with
  | time clock passes => exact List.prefix_refl _
  | send next => exact List.prefix_refl _
  | handle quiet next => exact List.prefix_refl _
  | submit rank proposal free submits => exact List.prefix_append _ _
  | tick rank free => exact List.prefix_append _ _
  | close rank free leaves => exact List.prefix_append _ _
  | exchange rank stage joined idle waits => exact List.prefix_append _ _
  | finish rank reply returned => exact List.prefix_append _ _

end Cluster

end Concord
