import Concord.Proofs.ParticipantSystems
import Concord.Proofs.ProgramPoints

/-!
# Participants refine clusters

Up to leaving, participants in broadcast mode do what a cluster does whose processes submit by a
plan; a participant that has left is, there, one that does nothing more.
`ParticipantSystem.CorrespondsTo` is this correspondence. The plan is what the participants turn
out to submit, so it is known only from the end: `ParticipantSystem.Refines` is about every plan
that agrees with the times of the proposals so far, and each step of a participant adds at most
one time.
-/

namespace Concord

namespace SimulationConfig

/-- Processes of a simulation that submit by a plan. -/
def planned (config : SimulationConfig) (plan : Plan) : Rules Replica ObjectHandle :=
  plan.rules (fun _ => Replica.executor) fun _ => .staleness config.windowMicros

/-- The processes of a simulation before any call. -/
def cluster (config : SimulationConfig) (clock : Clock) : Cluster Replica ObjectHandle :=
  .opening config.ranks clock config.seed config.jitter config.coordinatorConfig fun _ => .create

end SimulationConfig

/-- Runs of a cluster can be put together. -/
theorem Cluster.Reaches.trans {State Handle : Type} {rules : Rules State Handle}
    {start middle final : Cluster State Handle} (first : Reaches rules start middle)
    (second : Reaches rules middle final) : Reaches rules start final := by
  induction second with
  | refl => exact first
  | step _ next inductionHypothesis => exact .step inductionHypothesis next

/-- Whether the first proposals of a plan are made at these times. -/
def Plan.Stamped (plan : Plan) (stamps : Rank → List Timestamp) : Prop :=
  ∀ rank, stamps rank <+:
    (List.range (plan.count rank)).map fun number => (plan.proposal rank number).createdAt

/-- A plan that has the stamps of a run has those of every earlier point of it. -/
theorem Plan.Stamped.before {plan : Plan} {stamps later : Rank → List Timestamp}
    (stamped : plan.Stamped later) (grown : ∀ rank, stamps rank <+: later rank) :
    plan.Stamped stamps :=
  fun rank => (grown rank).trans (stamped rank)

/-- The time that is added last is that of the next planned proposal. -/
theorem Plan.Stamped.next {plan : Plan} {stamps later : Rank → List Timestamp}
    (stamped : plan.Stamped later) {rank : Rank} {now : Timestamp}
    (last : later rank = stamps rank ++ [now]) :
    (stamps rank).length < plan.count rank ∧
      (plan.proposal rank (stamps rank).length).createdAt = now := by
  obtain ⟨rest, whole⟩ := stamped rank
  have place := congrArg (fun times => times[(stamps rank).length]?) whole
  simp only [last, List.append_assoc, List.singleton_append, List.getElem?_append_right,
    Nat.le_refl, Nat.sub_self, List.getElem?_cons_zero, List.getElem?_map] at place
  obtain ⟨number, found, created⟩ := Option.map_eq_some_iff.1 place.symm
  obtain ⟨inside, rfl⟩ := List.getElem?_eq_some_iff.1 found
  rw [List.length_range] at inside
  rw [List.getElem_range] at created
  exact ⟨inside, created⟩

namespace ParticipantSystem

/-- How participants and a cluster fit together: the stations are the same up to who has left, and
every participant agrees with its process. -/
structure CorrespondsTo (system : ParticipantSystem) (config : SimulationConfig)
    (stamps : Rank → List Timestamp) (cluster : Cluster Replica ObjectHandle) : Prop where
  network : cluster.network = system.network.unsealed
  agrees : ∀ rank, (system.participants rank).AgreesWith config.opsPerRank rank
    (system.network.stations rank) (cluster.view rank) (stamps rank)

variable {config : SimulationConfig} {system : ParticipantSystem} {stamps : Rank → List Timestamp}
  {cluster : Cluster Replica ObjectHandle} {plan : Plan} {clock : Clock}

/-- Participants and the cluster of their configuration correspond to each other at the start. -/
theorem CorrespondsTo.opening (config : SimulationConfig) (clock : Clock) :
    (opening config clock).CorrespondsTo config (fun _ => []) (config.cluster clock) where
  network := rfl
  agrees := fun _ => {
    named := rfl
    coordinator := rfl
    replica := rfl
    begun := rfl
    denied := rfl
    closeRetries := rfl
    point := .working rfl (Nat.zero_le _) (absurd rfl) rfl rfl }

/-- What happens below the participants keeps participants and a cluster together. -/
theorem CorrespondsTo.of_network (corresponds : system.CorrespondsTo config stamps cluster)
    {network : Network} (stations : ∀ rank,
      (network.stations rank).peer.finalized = (system.network.stations rank).peer.finalized ∧
        ((system.network.stations rank).batch = [] → (network.stations rank).batch = [])) :
    ({ system with network } : ParticipantSystem).CorrespondsTo config stamps
      { cluster with network := network.unsealed } where
  network := rfl
  agrees := fun rank =>
    (corresponds.agrees rank).of_station (stations rank).1 (stations rank).2 _ _

/-- The clock runs for both. -/
theorem CorrespondsTo.retime (corresponds : system.CorrespondsTo config stamps cluster)
    (clock : Clock) :
    ∃ after, Cluster.Reaches (config.planned plan) cluster after ∧
      ({ system with network := system.network.retime clock } : ParticipantSystem).CorrespondsTo
        config stamps after := by
  refine ⟨_, .step .refl (.time clock trivial), ?_⟩
  rw [corresponds.network]
  exact corresponds.of_network fun rank => ⟨rfl, id⟩

/-- What a participant has still to send, its process sends. -/
theorem CorrespondsTo.send (corresponds : system.CorrespondsTo config stamps cluster)
    {rank receiver : Rank} {message : Message} {rest : List (Rank × Message)}
    (next : (system.network.stations rank).outbox = (receiver, message) :: rest) :
    ∃ after, Cluster.Reaches (config.planned plan) cluster after ∧
      ({ system with network := system.network.send rank receiver message rest } :
        ParticipantSystem).CorrespondsTo config stamps after := by
  have queued : (cluster.network.stations rank).outbox = (receiver, message) :: rest := by
    rw [corresponds.network]
    exact next
  refine ⟨_, .step .refl (.send queued), ?_⟩
  rw [corresponds.network, ← Network.unsealed_send]
  refine corresponds.of_network fun other => ?_
  rw [Network.peer_send, Network.batch_send]
  exact ⟨rfl, id⟩

/-- What a participant has still to act on, its process acts on: it cannot have left. -/
theorem CorrespondsTo.handle (corresponds : system.CorrespondsTo config stamps cluster)
    {rank sender : Rank} {message : Message} {rest : List (Rank × Message)}
    (quiet : (system.network.stations rank).outbox = [])
    (next : (system.network.stations rank).batch = (sender, message) :: rest) :
    ∃ after, Cluster.Reaches (config.planned plan) cluster after ∧
      ({ system with
          network := system.network.handle (.staleness config.windowMicros) rank sender message
            rest } : ParticipantSystem).CorrespondsTo config stamps after := by
  have active := (corresponds.agrees rank).point.active (by rw [next]; exact List.cons_ne_nil _ _)
  have station := Network.stations_unsealed active
  have empty : (cluster.network.stations rank).outbox = [] := by
    rw [corresponds.network, station]
    exact quiet
  have polled : (cluster.network.stations rank).batch = (sender, message) :: rest := by
    rw [corresponds.network, station]
    exact next
  refine ⟨_, .step .refl (.handle empty polled), ?_⟩
  rw [corresponds.network,
    show (config.planned plan).judge rank = .staleness config.windowMicros from rfl,
    ← Network.unsealed_handle _ active]
  refine corresponds.of_network fun other => ?_
  refine ⟨Network.finalized_handle _ _ _ _ _ _ _, fun none => ?_⟩
  have left := Network.batch_handle_subset next (.staleness config.windowMicros) other
  rw [none] at left
  exact List.subset_nil.1 left

/-- An act of one participant keeps them together if the participant still agrees with its
process. -/
theorem CorrespondsTo.put (corresponds : system.CorrespondsTo config stamps cluster) {rank : Rank}
    {network : Network} {participant : Participant} {after : Cluster Replica ObjectHandle}
    {later : Rank → List Timestamp} (below : after.network = network.unsealed)
    (stations : ∀ other, other ≠ rank → network.stations other = system.network.stations other)
    (views : ∀ other, other ≠ rank → after.view other = cluster.view other)
    (times : ∀ other, other ≠ rank → later other = stamps other)
    (own : participant.AgreesWith config.opsPerRank rank (network.stations rank) (after.view rank)
      (later rank)) : (system.put network rank participant).CorrespondsTo config later after where
  network := below
  agrees := by
    intro other
    by_cases here : other = rank
    · subst here
      rw [put_participants, if_pos rfl]
      exact own
    · rw [put_participants, if_neg here, views other here, times other here]
      exact stations other here ▸ corresponds.agrees other

/-- Answering a request of a participant. A request that is the last one changes nothing in the
cluster. -/
theorem CorrespondsTo.exchange (corresponds : system.CorrespondsTo config stamps cluster)
    (converging : plan.Converging config.ranks cluster)
    (wellFormed : cluster.network.WellFormed config.ranks) {rank : Rank}
    {stage : Stage ObjectHandle} (joined : system.network.bus.Joined rank)
    (idle : (system.network.stations rank).Idle)
    (waits : (system.participants rank).call = some (.waiting stage)) :
    ∃ after, Cluster.Reaches (config.planned plan) cluster after ∧
      (system.exchange rank stage).CorrespondsTo config stamps after := by
  have agrees := corresponds.agrees rank
  have stations (request : Request) : ∀ other, other ≠ rank →
      (system.network.serve rank request).stations other = system.network.stations other :=
    fun _ apart => Network.stations_serve_of_ne _ apart request
  cases known : (cluster.nodes rank).call with
  | none =>
    obtain ⟨_, _, _, ⟨last, active⟩ | ⟨returned, _⟩⟩ := agrees.point.last_call known waits
    · cases last
      refine ⟨cluster, .refl, ?_⟩
      rw [exchange_eq]
      refine corresponds.put (corresponds.network.trans (Network.unsealed_finalize _ _).symm)
        (stations _) (fun _ _ => rfl) (fun _ _ => rfl) ?_
      refine agrees.finalize known waits ?_
      rw [Network.stations_serve_self]
      exact idle.1
    · cases returned
  | some control =>
    obtain ⟨called, active⟩ := agrees.point.known_call known
    cases called.symm.trans waits
    have goesOn : stage.request ≠ .finalize := by
      obtain ⟨_, _, _, _, account⟩ := converging.accounts rank
      have callStage := account.callStage
      rw [show (cluster.view rank).node.call = _ from known] at callStage
      cases callStage <;> simp
    have coordinator : (cluster.nodes rank).coordinator =
        (system.participants rank).coordinator := agrees.coordinator
    have replica : (cluster.nodes rank).state = (system.participants rank).replica :=
      agrees.replica
    have answers := Cluster.answer_unsealed Replica.executor active stage.request
      (system.participants rank).replica
    refine ⟨cluster.exchange Replica.executor rank stage, .step .refl (.exchange rank stage ?_ ?_
      known), ?_⟩
    · rw [corresponds.network]
      exact joined
    · rw [corresponds.network, Network.stations_unsealed active]
      exact idle
    · rw [exchange_eq]
      refine corresponds.put ?_ (stations _) (fun other apart =>
        Cluster.view_exchange_of_ne wellFormed.lawful _ apart stage) (fun _ _ => rfl) ?_
      · rw [Cluster.exchange_eq, corresponds.network, Network.unsealed_serve active goesOn]
        rfl
      · rw [Cluster.view_exchange, coordinator, replica, corresponds.network]
        simp only [answers.1, answers.2]
        refine agrees.exchange (fun none => by cases known.symm.trans none) ?_ _ _ _ _ _ _ _
        rw [Network.stations_serve_self]
        exact Station.finalized_serve _ _ goesOn

/-- Taking note of the reply to a call. -/
theorem CorrespondsTo.reply (corresponds : system.CorrespondsTo config stamps cluster)
    (converging : plan.Converging config.ranks cluster) {rank : Rank}
    {answer : Except CoordinatorError (Reply ObjectHandle)}
    (returned : (system.participants rank).call = some (.returned answer)) :
    ∃ after, Cluster.Reaches (config.planned plan) cluster after ∧
      (system.reply rank answer).CorrespondsTo config stamps after := by
  have agrees := corresponds.agrees rank
  cases known : (cluster.nodes rank).call with
  | none =>
    exact ⟨cluster, .refl, corresponds.put corresponds.network (fun _ _ => rfl) (fun _ _ => rfl)
      (fun _ _ => rfl) (agrees.leave known returned)⟩
  | some control =>
    obtain ⟨called, _⟩ := agrees.point.known_call known
    cases called.symm.trans returned
    refine ⟨cluster.finish rank answer, .step .refl (.finish rank answer known),
      corresponds.put corresponds.network (fun _ _ => rfl) (fun other apart => ?_)
        (fun _ _ => rfl) ?_⟩
    · refine cluster.view_put_of_ne _ apart (fun entry member => ?_) rfl rfl
      rw [List.mem_singleton.1 member]
      rfl
    · rw [Cluster.finish, Cluster.view_put]
      simp only [List.filterMap_cons, List.filterMap_nil, ClusterEvent.begunBy?,
        ClusterEvent.enteredAt?, ClusterEvent.handedBy?, ClusterEvent.repliedTo?, if_true,
        List.append_nil]
      exact agrees.note known (converging.fulfilled known)

/-- What a participant holds that is through its program. -/
theorem CorrespondsTo.through (corresponds : system.CorrespondsTo config stamps cluster)
    (accepted : plan.Accepted config.opsPerRank config.ranks cluster)
    (runs : plan.Runs config.opsPerRank) (wellFormed : cluster.network.WellFormed config.ranks)
    {rank : Rank} (joined : cluster.network.bus.Joined rank)
    (completed : (cluster.view rank).completed = config.opsPerRank + 1)
    (unknown : (cluster.nodes rank).call = none) :
    plan.Through config.opsPerRank config.ranks (system.participants rank).replica := by
  rw [← (corresponds.agrees rank).replica]
  exact accepted.through runs wellFormed joined completed unknown

/-- Going over to the next phase. -/
theorem CorrespondsTo.pass (corresponds : system.CorrespondsTo config stamps cluster)
    (accepted : plan.Accepted config.opsPerRank config.ranks cluster)
    (runs : plan.Runs config.opsPerRank) (wellFormed : cluster.network.WellFormed config.ranks)
    {rank : Rank} (joined : system.network.bus.Joined rank)
    (uncalled : (system.participants rank).call = none)
    (proposing : (system.participants rank).isProposing = false) :
    (system.start config.ranks rank).CorrespondsTo config stamps cluster := by
  have agrees := corresponds.agrees rank
  have closes (phase : (system.participants rank).phase = .waiting) :
      (system.participants rank).replica.closes = config.ranks := by
    obtain ⟨closed, unknown, _⟩ := agrees.point.of_waiting phase
    have inWorld : cluster.network.bus.Joined rank := by
      rw [corresponds.network]
      exact joined
    exact (corresponds.through accepted runs wellFormed inWorld closed unknown).closes
  obtain ⟨phase, control, started, point⟩ :=
    agrees.point.pass uncalled proposing closes system.network.bus
  have step : system.start config.ranks rank = system.put system.network rank
      { system.participants rank with phase, call := control } := by
    rw [start, started]
  rw [step]
  exact corresponds.put corresponds.network (fun _ _ => rfl) (fun _ _ => rfl) (fun _ _ => rfl)
    { agrees with point }

/-- Between calls, a process has completed as many submissions as there are times. -/
theorem CorrespondsTo.completed (corresponds : system.CorrespondsTo config stamps cluster)
    (converging : plan.Converging config.ranks cluster) {rank : Rank}
    (unknown : (cluster.nodes rank).call = none) :
    (cluster.view rank).completed = (stamps rank).length := by
  have agrees := corresponds.agrees rank
  obtain ⟨_, _, _, _, account⟩ := converging.accounts rank
  rw [← agrees.begun, account.begun, List.length_map, List.length_range]
  have callStage := account.callStage
  rw [show (cluster.view rank).node.call = none from unknown] at callStage
  cases callStage
  rfl

/-- A process is free in the cluster when its participant is between two calls. -/
theorem CorrespondsTo.free (corresponds : system.CorrespondsTo config stamps cluster)
    {rank : Rank} (joined : system.network.bus.Joined rank)
    (idle : (system.network.stations rank).Idle)
    (active : (system.network.stations rank).peer.finalized = false)
    (unknown : (cluster.nodes rank).call = none) : cluster.Free rank := by
  refine ⟨?_, ?_, unknown⟩
  · rw [corresponds.network]
    exact joined
  · rw [corresponds.network, Network.stations_unsealed active]
    exact idle

/-- The next proposal of the plan may be submitted. -/
theorem CorrespondsTo.submits (corresponds : system.CorrespondsTo config stamps cluster)
    {rank : Rank} (more : (stamps rank).length < plan.count rank) {proposal : Proposal}
    (planned : proposal = plan.proposal rank (stamps rank).length) :
    (config.planned plan).submits cluster rank proposal := by
  have begun : (cluster.begun rank).length = (stamps rank).length :=
    (corresponds.agrees rank).begun
  rw [← begun] at more planned
  exact ⟨more, planned⟩

/-- Making a proposal: in the cluster the clock is read first, and then the plan submitted. -/
theorem CorrespondsTo.propose (corresponds : system.CorrespondsTo config stamps cluster)
    (converging : plan.Converging config.ranks cluster) (runs : plan.Runs config.opsPerRank)
    {rank : Rank} (joined : system.network.bus.Joined rank)
    (idle : (system.network.stations rank).Idle)
    (uncalled : (system.participants rank).call = none)
    (proposing : (system.participants rank).isProposing = true)
    {later : Rank → List Timestamp} (stamped : plan.Stamped later)
    (last : later = Function.update stamps rank
      (stamps rank ++ [system.network.bus.clock.time])) :
    ∃ after, Cluster.Reaches (config.planned plan) cluster after ∧
      (system.start config.ranks rank).CorrespondsTo config later after := by
  have agrees := corresponds.agrees rank
  obtain ⟨unknown, active, started, point⟩ :=
    agrees.point.propose uncalled proposing config.ranks system.network.bus
  have own : later rank = stamps rank ++ [system.network.bus.clock.time] := by
    rw [last, Function.update_self]
  obtain ⟨more, created⟩ := stamped.next own
  have completed := corresponds.completed converging unknown
  let proposal := Workload.proposalAt config.opsPerRank rank (stamps rank).length
    system.network.bus.clock.time
  have planned : proposal = plan.proposal rank (stamps rank).length := by
    rw [runs more, created]
  let clock := system.network.bus.clock.read.2
  let read : Cluster Replica ObjectHandle :=
    { cluster with network := cluster.network.retime clock }
  have free : read.Free rank :=
    have before := corresponds.free joined idle active unknown
    ⟨before.joined, before.idle, unknown⟩
  have submits : (config.planned plan).submits read rank proposal :=
    corresponds.submits more planned
  have step : system.start config.ranks rank =
      system.put (system.network.retime clock) rank
        { system.participants rank with
          call := some ((system.participants rank).coordinator.beginSubmit proposal)
          lastStamp := some system.network.bus.clock.time } := by
    rw [start, started, completed]
    simp only [Participant.submit, agrees.named]
    rfl
  refine ⟨_, .step (.step .refl (.time clock trivial)) (.submit rank proposal free submits), ?_⟩
  rw [step]
  refine corresponds.put ?_ (fun _ _ => rfl) (fun other apart => ?_) (fun other apart => ?_) ?_
  · show cluster.network.retime clock = _
    rw [corresponds.network]
    rfl
  · refine read.view_put_of_ne _ apart (fun entry member => ?_) rfl rfl
    rw [List.mem_singleton.1 member]
    rfl
  · rw [last, Function.update_of_ne apart]
  · rw [Cluster.begin, Cluster.view_put]
    simp only [List.filterMap_cons, List.filterMap_nil, ClusterEvent.begunBy?,
      ClusterEvent.enteredAt?, ClusterEvent.handedBy?, ClusterEvent.repliedTo?, if_true,
      List.append_nil]
    have control : ((read.nodes rank).coordinator.beginSubmit proposal : Control ObjectHandle) =
        (system.participants rank).coordinator.beginSubmit proposal :=
      congrArg (Coordinator.beginSubmit · proposal) agrees.coordinator
    rw [own, control]
    exact agrees.propose (point _ _) proposal _ _

/-! ## Runs of participants -/

/-- Whether participants have made their proposals at these times. -/
structure Dated (system : ParticipantSystem) (stamps : Rank → List Timestamp) : Prop where
  last : ∀ rank, (system.participants rank).lastStamp = (stamps rank).getLast?
  ascending : ∀ rank, (stamps rank).Pairwise (· < ·)

/-- A participant that makes no proposal leaves the stamps as they are. -/
theorem Dated.put (dated : system.Dated stamps) (network : Network) {rank : Rank}
    {participant : Participant}
    (same : participant.lastStamp = (system.participants rank).lastStamp) :
    (system.put network rank participant).Dated stamps where
  last := by
    intro other
    rw [put_participants]
    split
    · next here => rw [here, same, dated.last]
    · exact dated.last other
  ascending := dated.ascending

/-- A proposal adds its time to the stamps of its participant, later than all before it. -/
theorem Dated.propose (dated : system.Dated stamps) (network : Network) {rank : Rank}
    {participant : Participant} {now : Timestamp} (made : participant.lastStamp = some now)
    (rises : ∀ last, (system.participants rank).lastStamp = some last → last < now) :
    (system.put network rank participant).Dated
      (Function.update stamps rank (stamps rank ++ [now])) where
  last := by
    intro other
    rw [put_participants, Function.update_apply]
    split
    · rw [made, List.getLast?_concat]
    · exact dated.last other
  ascending := by
    intro other
    rw [Function.update_apply]
    split
    · have ascending := dated.ascending rank
      have last := dated.last rank
      rw [last] at rises
      rw [List.pairwise_append]
      refine ⟨ascending, List.pairwise_singleton _ _, ?_⟩
      intro stamp member now' isNow
      rw [List.mem_singleton.1 isNow]
      rcases List.eq_nil_or_concat (stamps rank) with none | ⟨front, final, split⟩
      · rw [none] at member
        cases member
      · rw [split] at member ascending rises
        have finalBefore := rises final (by rw [List.concat_eq_append, List.getLast?_concat])
        rw [List.concat_eq_append] at member ascending
        rcases List.mem_append.1 member with inFront | isFinal
        · have before : stamp < final := (List.pairwise_append.1 ascending).2.2 stamp inFront final
            (List.mem_singleton.2 rfl)
          exact Nat.lt_trans before finalBefore
        · rw [List.mem_singleton.1 isFinal]
          exact finalBefore
    · exact dated.ascending other

/-- Whether, under every plan that agrees with the times so far, what has become of participants has
become of a cluster that submits by the plan. -/
def Refines (system : ParticipantSystem) (config : SimulationConfig) (clock : Clock)
    (stamps : Rank → List Timestamp) : Prop :=
  ∀ plan : Plan, plan.Runs config.opsPerRank → plan.Stamped stamps →
    ∃ cluster, Cluster.Reaches (config.planned plan) (config.cluster clock) cluster ∧
      system.CorrespondsTo config stamps cluster

/-- One step more of the participants is some steps more of each of their clusters. -/
theorem Refines.lift (refines : system.Refines config clock stamps)
    (mode : config.mode = .broadcast) {after : ParticipantSystem} {later : Rank → List Timestamp}
    (grown : ∀ rank, stamps rank <+: later rank)
    (steps : ∀ (plan : Plan) (cluster : Cluster Replica ObjectHandle),
      plan.Runs config.opsPerRank → plan.Stamped later →
      plan.Accepted config.opsPerRank config.ranks cluster →
      cluster.network.WellFormed config.ranks → system.CorrespondsTo config stamps cluster →
      ∃ next, Cluster.Reaches (config.planned plan) cluster next ∧
        after.CorrespondsTo config later next) : after.Refines config clock later := by
  intro plan runs stamped
  obtain ⟨cluster, reached, corresponds⟩ := refines plan runs (stamped.before grown)
  obtain ⟨next, further, correspondsNext⟩ := steps plan cluster runs stamped
    (.reaches (fun _ => mode) (fun _ => rfl) runs reached) (.of_reaches reached.network) corresponds
  exact ⟨next, reached.trans further, correspondsNext⟩

/-- A step at which no proposal is made leaves the times as they are. -/
theorem Refines.lift_same (refines : system.Refines config clock stamps)
    (mode : config.mode = .broadcast) {after : ParticipantSystem}
    (steps : ∀ (plan : Plan) (cluster : Cluster Replica ObjectHandle),
      plan.Runs config.opsPerRank → plan.Accepted config.opsPerRank config.ranks cluster →
      cluster.network.WellFormed config.ranks → system.CorrespondsTo config stamps cluster →
      ∃ next, Cluster.Reaches (config.planned plan) cluster next ∧
        after.CorrespondsTo config stamps next) : after.Refines config clock stamps :=
  refines.lift mode (fun rank => List.prefix_refl (stamps rank))
    fun plan cluster runs _ => steps plan cluster runs

/-- A proposal is the only step that adds a time; the plans that agree with it agreed before. -/
theorem Refines.propose (refines : system.Refines config clock stamps)
    (mode : config.mode = .broadcast) {rank : Rank} (joined : system.network.bus.Joined rank)
    (idle : (system.network.stations rank).Idle)
    (uncalled : (system.participants rank).call = none)
    (proposing : (system.participants rank).isProposing = true) :
    (system.start config.ranks rank).Refines config clock
      (Function.update stamps rank (stamps rank ++ [system.network.bus.clock.time])) := by
  refine refines.lift mode (fun other => ?_) ?_
  · rw [Function.update_apply]
    split
    · next here => exact here ▸ List.prefix_append _ _
    · exact List.prefix_refl _
  · intro plan cluster runs stamped accepted wellFormed corresponds
    exact corresponds.propose accepted.converging runs joined idle uncalled proposing stamped rfl

/-- Whatever happens next to participants that refine clusters, they go on refining them. -/
theorem Refines.step (refines : system.Refines config clock stamps)
    (dated : system.Dated stamps) (mode : config.mode = .broadcast) {after : ParticipantSystem}
    (next : Step config system after) :
    ∃ later, after.Refines config clock later ∧ after.Dated later := by
  cases next with
  | time clock =>
    refine ⟨stamps, refines.lift_same mode ?_, ⟨dated.last, dated.ascending⟩⟩
    exact fun _ _ _ _ _ corresponds => corresponds.retime clock
  | send next =>
    refine ⟨stamps, refines.lift_same mode ?_, ⟨dated.last, dated.ascending⟩⟩
    exact fun _ _ _ _ _ corresponds => corresponds.send next
  | handle quiet next =>
    refine ⟨stamps, refines.lift_same mode ?_, ⟨dated.last, dated.ascending⟩⟩
    exact fun _ _ _ _ _ corresponds => corresponds.handle quiet next
  | start rank joined idle uncalled rises =>
    have made := Participant.lastStamp_start uncalled config.ranks system.network.bus
    cases proposing : (system.participants rank).isProposing with
    | true =>
      rw [proposing, if_pos rfl] at made
      exact ⟨_, refines.propose mode joined idle uncalled proposing,
        dated.propose _ made (rises proposing)⟩
    | false =>
      rw [proposing] at made
      refine ⟨stamps, refines.lift_same mode ?_, dated.put _ made⟩
      intro plan cluster runs accepted wellFormed corresponds
      exact ⟨cluster, .refl, corresponds.pass accepted runs wellFormed joined uncalled proposing⟩
  | exchange rank stage joined idle waits =>
    refine ⟨stamps, refines.lift_same mode ?_, ?_⟩
    · intro plan cluster runs accepted wellFormed corresponds
      exact corresponds.exchange accepted.converging wellFormed joined idle waits
    · rw [exchange_eq]
      exact dated.put _ rfl
  | reply rank answer returned =>
    refine ⟨stamps, refines.lift_same mode ?_, dated.put _ (Participant.lastStamp_noteReply _ _)⟩
    intro plan cluster runs accepted wellFormed corresponds
    exact corresponds.reply accepted.converging returned

/-- Every run of participants refines one of a cluster, whatever they turn out to submit. -/
theorem Reaches.refines (reached : Reaches config (opening config clock) system)
    (mode : config.mode = .broadcast) :
    ∃ stamps, system.Refines config clock stamps ∧ system.Dated stamps := by
  induction reached with
  | refl =>
    refine ⟨fun _ => [], fun plan runs stamped => ⟨_, .refl, .opening config clock⟩, ?_⟩
    exact ⟨fun _ => rfl, fun _ => .nil⟩
  | step prior next inductionHypothesis =>
    obtain ⟨stamps, refines, dated⟩ := inductionHypothesis
    exact refines.step dated mode next

end ParticipantSystem

end Concord
