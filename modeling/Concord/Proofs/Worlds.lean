import Concord.Proofs.Outcomes
import Concord.Proofs.Reports
import Concord.Proofs.Unanimity

/-!
# Worlds as systems of participants

In a world a participant takes a whole step at once, with all that its peer does meanwhile.
`World.Reaches` takes such steps in any order while the clock is set to anything. What can become
of a world is what can become of such a system: `ParticipantSystem.Represents` is the
correspondence, in which all stations rest and have the peers of the participants. So the outcomes
of systems of participants are those of worlds.
-/

namespace Concord

/-! ## Sites -/

namespace PeerSystem

/-- What surrounds a process of a system of peers that has this replica. -/
def site (peerSystem : PeerSystem) (rank : Rank) (replica : Replica) : Site :=
  ⟨peerSystem.bus, peerSystem.peers rank, replica⟩

/-- The site of a peer that was put is the peer with its bus. -/
@[simp] theorem site_put (peerSystem : PeerSystem) (rank : Rank) (bus : Bus) (peer : Peer)
    (events : List Event) (replica : Replica) :
    (peerSystem.put rank bus peer events).site rank replica = ⟨bus, peer, replica⟩ := by
  simp [site, put]

/-- A site answers as station and executor do, and is left as a call leaves it. -/
theorem answer_site (peerSystem : PeerSystem) (judge : Judge) (rank : Rank) (request : Request)
    (replica : Replica) :
    Site.answer judge request (peerSystem.site rank replica) =
      ((Cluster.answer Replica.executor rank request (peerSystem.network, replica)).1,
        (peerSystem.call judge rank request).site rank
          (Cluster.answer Replica.executor rank request (peerSystem.network, replica)).2.2) := by
  cases request with
  | progress =>
    simp only [call, site_put]
    show Site.answer judge .progress ⟨peerSystem.bus, peerSystem.peers rank, replica⟩ =
      (if (peerSystem.peers rank).finalized = true then _ else _, _)
    simp only [Site.answer, Peer.progress]
    split <;> rfl
  | readStatus id => rfl
  | execute proposal => rfl
  | _ =>
    simp only [call, site_put]
    rfl

/-- A call leaves the other peers alone. -/
theorem peers_call_of_ne (peerSystem : PeerSystem) (judge : Judge) {rank other : Rank}
    (apart : other ≠ rank) (request : Request) :
    (peerSystem.call judge rank request).peers other = peerSystem.peers other := by
  cases request with
  | readStatus id => rfl
  | execute proposal => rfl
  | _ => exact Function.update_of_ne apart _ _

end PeerSystem

/-! ## Participants but for their peers -/

namespace Participant

/-- A participant with another peer. -/
def withPeer (participant : Participant) (peer : Peer) : Participant :=
  { participant with peer }

@[simp] theorem call_withPeer (participant : Participant) (peer : Peer) :
    (participant.withPeer peer).call = participant.call := rfl

/-- How a participant starts a call does not depend on its peer. -/
theorem start_withPeer (participant : Participant) (peer : Peer) (worldSize : Nat) (bus : Bus) :
    (participant.withPeer peer).start worldSize bus =
      ((participant.start worldSize bus).1, (participant.start worldSize bus).2.withPeer peer) := by
  obtain ⟨rank, coordinator, own, replica, phase, call, lastStamp, _, _, _⟩ := participant
  cases phase with
  | working remaining => cases remaining <;> rfl
  | waiting =>
    by_cases few : replica.closes < worldSize <;>
      simp only [start, withPeer, few, if_true, if_false]
  | _ => rfl

/-- How it takes a reply does not depend on its peer. -/
theorem noteReply_withPeer (participant : Participant) (peer : Peer)
    (answer : Except CoordinatorError (Reply ObjectHandle)) :
    (participant.withPeer peer).noteReply answer =
      (participant.noteReply answer).withPeer peer := by
  obtain ⟨rank, coordinator, own, replica, phase, call, lastStamp, _, _, _⟩ := participant
  cases answer with
  | error cause => rfl
  | ok reply =>
    cases reply with
    | submitted outcome => cases phase <;> cases outcome <;> rfl
    | executed result => rfl
    | closed => rfl

/-- What starts something reads the clock at most. -/
theorem start_fst (participant : Participant) (worldSize : Nat) (bus : Bus) :
    (participant.start worldSize bus).1 =
      { bus with clock := (participant.start worldSize bus).1.clock } := by
  obtain ⟨rank, coordinator, own, replica, phase, call, lastStamp, _, _, _⟩ := participant
  cases phase with
  | working remaining => cases remaining <;> rfl
  | waiting =>
    simp only [start]
    split <;> rfl
  | _ => rfl

end Participant

/-! ## One step -/

namespace ParticipantSystem

variable {config : SimulationConfig} {clock : Clock} {origin system : ParticipantSystem}
  {peerSystem : PeerSystem} {world : World}

/-- A system of participants goes on while its stations send and act on messages. -/
theorem Reaches.settles {network : Network} (reached : Reaches config origin system)
    (settles : Network.Settles (.staleness config.windowMicros) system.network network) :
    Reaches config origin { system with network } := by
  induction settles with
  | refl => exact reached
  | send _ next inductionHypothesis => exact inductionHypothesis.step (.send next)
  | handle _ quiet next inductionHypothesis => exact inductionHypothesis.step (.handle quiet next)

/-- Whether a system of participants is as a world shows it, between any two steps. -/
structure Represents (system : ParticipantSystem) (config : SimulationConfig) (clock : Clock)
    (peerSystem : PeerSystem) (world : World) : Prop where
  network : system.network = peerSystem.network
  reached : Network.Reaches (.opening config.ranks clock config.seed config.jitter)
    peerSystem.network
  bus : peerSystem.bus = world.bus
  judge : world.judge = .staleness config.windowMicros
  size : world.participants.length = config.ranks
  each : ∀ {rank participant}, world.participants[rank.toNat]? = some participant →
    participant = (system.participants rank).withPeer (peerSystem.peers rank)

/-- A step of one participant. -/
theorem Represents.put (represents : system.Represents config clock peerSystem world) {rank : Rank}
    {participant own : Participant} (listed : world.participants[rank.toNat]? = some participant)
    {after : PeerSystem} (reached : Network.Reaches peerSystem.network after.network)
    (others : ∀ other, other ≠ rank → after.peers other = peerSystem.peers other)
    (stepped : participant.step config.ranks (.staleness config.windowMicros) peerSystem.bus =
      (after.bus, own.withPeer (after.peers rank))) :
    (system.put after.network rank own).Represents config clock after (world.step rank) := by
  have step : world.step rank =
      { world with
        bus := after.bus
        participants := world.participants.set rank.toNat (own.withPeer (after.peers rank)) } := by
    simp only [World.step, listed, represents.size, represents.judge, ← represents.bus, stepped]
  rw [step]
  refine ⟨rfl, represents.reached.trans reached, rfl, represents.judge, ?_, ?_⟩
  · rw [List.length_set, represents.size]
  · intro other found isFound
    rw [put_participants]
    by_cases here : other = rank
    · subst here
      rw [List.getElem?_set_self (List.getElem?_eq_some_iff.1 listed).1] at isFound
      rw [if_pos rfl, Option.some.inj isFound]
    · have apart : rank.toNat ≠ other.toNat := fun same => here (Rank.toNat_inj.1 same).symm
      rw [List.getElem?_set_ne apart] at isFound
      rw [if_neg here, others other here]
      exact represents.each isFound

/-- A participant of a world is in the world, and its station has nothing left to do. -/
theorem Represents.ready (represents : system.Represents config clock peerSystem world)
    (small : config.ranks < 2 ^ 32) {rank : Rank} {participant : Participant}
    (listed : world.participants[rank.toNat]? = some participant) :
    peerSystem.bus.Joined rank ∧ system.network.bus.Joined rank ∧
      (system.network.stations rank).Idle := by
  have wellFormed : peerSystem.network.WellFormed config.ranks := .of_reaches represents.reached
  have inside : rank.toNat < config.ranks := by
    rw [← represents.size]
    exact (List.getElem?_eq_some_iff.1 listed).1
  have joined : peerSystem.network.bus.Joined rank := by
    rwa [wellFormed.world, Rank.mem_all, Nat.mod_eq_of_lt small]
  rw [represents.network]
  exact ⟨joined, joined, rfl, rfl⟩

/-- A participant that starts a call is represented by one that does. -/
theorem Represents.start (represents : system.Represents config clock peerSystem world)
    {rank : Rank} {participant : Participant}
    (listed : world.participants[rank.toNat]? = some participant)
    (uncalled : (system.participants rank).call = none) :
    ∃ peerSystem, (system.start config.ranks rank).Represents config clock peerSystem
      (world.step rank) := by
  let started := (system.participants rank).start config.ranks peerSystem.bus
  let after : PeerSystem := { peerSystem with bus := started.1 }
  have step : system.start config.ranks rank = system.put after.network rank started.2 := by
    rw [ParticipantSystem.start, represents.network]
    rfl
  have timed : after.network = peerSystem.network.retime started.1.clock := by
    rw [Network.retime, show peerSystem.network.bus = peerSystem.bus from rfl,
      ← Participant.start_fst]
    rfl
  refine ⟨after, step ▸ represents.put listed ?_ (fun _ _ => rfl) ?_⟩
  · rw [timed]
    exact .step .refl (.time _)
  · rw [represents.each listed, Participant.step, Participant.call_withPeer, uncalled]
    exact Participant.start_withPeer _ _ _ _

/-- A participant that takes a reply is represented by one that does. -/
theorem Represents.reply (represents : system.Represents config clock peerSystem world)
    {rank : Rank} {participant : Participant}
    (listed : world.participants[rank.toNat]? = some participant)
    {answer : Except CoordinatorError (Reply ObjectHandle)}
    (returned : (system.participants rank).call = some (.returned answer)) :
    (system.reply rank answer).Represents config clock peerSystem (world.step rank) := by
  have step : system.reply rank answer = system.put peerSystem.network rank
      ((system.participants rank).noteReply answer) := by
    rw [ParticipantSystem.reply, represents.network]
  refine step ▸ represents.put listed .refl (fun _ _ => rfl) ?_
  rw [represents.each listed, Participant.step, Participant.call_withPeer, returned]
  exact congrArg (Prod.mk peerSystem.bus) (Participant.noteReply_withPeer _ _ _)

/-- An exchange of a world is one of a participant, and what the peer does meanwhile. -/
theorem Represents.exchange (represents : system.Represents config clock peerSystem world)
    (small : config.ranks < 2 ^ 32) {rank : Rank} {participant : Participant}
    (listed : world.participants[rank.toNat]? = some participant) {stage : Stage ObjectHandle}
    (waits : (system.participants rank).call = some (.waiting stage)) :
    ∃ after peerSystem, Reaches config system after ∧
      after.Represents config clock peerSystem (world.step rank) := by
  obtain ⟨joined, joinedHere, idle⟩ := represents.ready small listed
  have wellFormed : peerSystem.network.WellFormed config.ranks := .of_reaches represents.reached
  have named : (peerSystem.peers rank).rank = rank := wellFormed.lawful.named rank
  let judge : Judge := .staleness config.windowMicros
  let answered := Cluster.answer Replica.executor rank stage.request
    (peerSystem.network, (system.participants rank).replica)
  let resumed := (system.participants rank).coordinator.resume stage answered.1
  let after := peerSystem.call judge rank stage.request
  let own : Participant :=
    { system.participants rank with
      coordinator := resumed.1, replica := answered.2.2, call := some resumed.2 }
  have asked : system.exchange rank stage =
      system.put (peerSystem.network.serve rank stage.request) rank own := by
    rw [exchange_eq, represents.network]
  have first : Reaches config system (system.exchange rank stage) :=
    .step .refl (.exchange rank stage joinedHere idle waits)
  rw [asked] at first
  -- The answer is known at once; what the peer then sends and acts on does not change it.
  refine ⟨system.put after.network rank own, after,
    first.settles (peerSystem.settles_call judge stage.request named), represents.put listed
      (peerSystem.reaches_call judge stage.request joined named)
      (fun other apart => peerSystem.peers_call_of_ne judge apart stage.request) ?_⟩
  have exchanged : Coordinator.exchange (Site.surroundings judge)
      (system.participants rank).coordinator stage
      (peerSystem.site rank (system.participants rank).replica) =
        ⟨resumed.1, resumed.2, after.site rank answered.2.2⟩ := by
    rw [Coordinator.exchange, show (Site.surroundings judge).answer = Site.answer judge from rfl,
      peerSystem.answer_site]
  rw [represents.each listed, Participant.step, Participant.call_withPeer, waits]
  exact congrArg (fun after : Coordinator.Situation Site ObjectHandle =>
    (after.state.bus,
      ({ system.participants rank with
        coordinator := after.coordinator
        peer := after.state.peer
        replica := after.state.replica
        call := some after.control } : Participant))) exchanged

/-- A step of a world is some steps of a system of participants. -/
theorem Represents.step (represents : system.Represents config clock peerSystem world)
    (small : config.ranks < 2 ^ 32) (rank : Rank)
    (rises : ∀ participant, world.participants[rank.toNat]? = some participant →
      participant.Rises world.bus.clock.time) :
    ∃ after peerSystem, Reaches config system after ∧
      after.Represents config clock peerSystem (world.step rank) := by
  cases listed : world.participants[rank.toNat]? with
  | none =>
    refine ⟨system, peerSystem, .refl, ?_⟩
    rw [World.step, listed]
    exact represents
  | some participant =>
    obtain ⟨_, joined, idle⟩ := represents.ready small listed
    cases called : (system.participants rank).call with
    | none =>
      obtain ⟨after, started⟩ := represents.start listed called
      refine ⟨_, after, .step .refl (.start rank joined idle called ?_), started⟩
      rw [represents.network, show peerSystem.network.bus = world.bus from represents.bus]
      have risesHere := rises participant listed
      rw [represents.each listed] at risesHere
      exact risesHere
    | some control =>
      cases control with
      | waiting stage => exact represents.exchange small listed called
      | returned answer =>
        exact ⟨_, peerSystem, .step .refl (.reply rank answer called),
          represents.reply listed called⟩

end ParticipantSystem

/-! ## Runs -/

/-- What can become of a world whose participants take steps in any order while the clock is set to
anything, if none makes two proposals at one time, or a later one at an earlier time. -/
inductive World.Reaches (start : World) : World → Prop where
  | refl : Reaches start start
  | time {middle : World} (prior : Reaches start middle) (clock : Clock) :
      Reaches start { middle with bus := middle.bus.changeClock fun _ => clock }
  | step {middle : World} (prior : Reaches start middle) (rank : Rank)
      (rises : ∀ participant, middle.participants[rank.toNat]? = some participant →
        participant.Rises middle.bus.clock.time) : Reaches start (middle.step rank)

/-- Where all elements of a list are mapped, each has its image at its own place. -/
theorem Except.forall₂_of_mapM {Error Item Image : Type} {change : Item → Except Error Image}
    {items : List Item} {images : List Image} (mapped : items.mapM change = .ok images) :
    List.Forall₂ (fun item image => change item = .ok image) items images := by
  induction items generalizing images with
  | nil =>
    cases mapped
    exact .nil
  | cons item rest inductionHypothesis =>
    rw [List.mapM_cons] at mapped
    cases first : change item with
    | error cause =>
      rw [first] at mapped
      cases mapped
    | ok image =>
      cases others : rest.mapM change with
      | error cause =>
        rw [first, others] at mapped
        cases mapped
      | ok images =>
        rw [first, others] at mapped
        cases mapped
        exact .cons first (inductionHypothesis others)

namespace ParticipantSystem

variable {config : SimulationConfig} {start : Timestamp} {world after : World}

/-- A world that has been set up is an opening system of participants. -/
theorem Represents.opening (small : config.ranks < 2 ^ 32)
    (setUp : Simulation.world config start = .ok world) :
    (opening config (.startingAt start)).Represents config (.startingAt start)
      (.opening config.ranks (.startingAt start) config.seed config.jitter) world := by
  unfold Simulation.world at setUp
  cases mapped : (Rank.all config.ranks).mapM (Simulation.participant config) with
  | error cause =>
    rw [mapped] at setUp
    cases setUp
  | ok participants =>
    rw [mapped] at setUp
    cases setUp
    have places := Except.forall₂_of_mapM mapped
    have size : participants.length = config.ranks := by
      rw [← places.length_eq, Rank.length_all, Nat.mod_eq_of_lt small]
    refine ⟨rfl, .refl, rfl, rfl, size, ?_⟩
    intro rank participant listed
    obtain ⟨inside, isThere⟩ := List.getElem?_eq_some_iff.1 listed
    have inWorld : rank.toNat < config.ranks % 2 ^ 32 := by
      rw [Nat.mod_eq_of_lt small, ← size]
      exact inside
    have place := List.getElem?_eq_some_iff.1 (Rank.getElem?_all inWorld)
    have made := (List.forall₂_iff_get.1 places).2 rank.toNat place.1 inside
    simp only [List.get_eq_getElem, place.2, isThere] at made
    unfold Simulation.participant at made
    split at made
    · cases made
    · next coordinator created =>
      cases made
      unfold Coordinator.create at created
      split at created
      · cases created
      · cases created
        rfl

/-- Whatever becomes of a world can become of a system of participants. -/
theorem exists_represents (small : config.ranks < 2 ^ 32)
    (setUp : Simulation.world config start = .ok world) (reached : world.Reaches after) :
    ∃ system peerSystem,
      Reaches config (ParticipantSystem.opening config (.startingAt start)) system ∧
      system.Represents config (.startingAt start) peerSystem after := by
  induction reached with
  | refl => exact ⟨_, _, .refl, .opening small setUp⟩
  | @time middle _ clock inductionHypothesis =>
    obtain ⟨system, peerSystem, reached, represents⟩ := inductionHypothesis
    refine ⟨_, { peerSystem with bus := { peerSystem.bus with clock } },
      reached.step (.time clock), ?_⟩
    have timed : system.network.retime clock =
        ({ peerSystem with bus := { peerSystem.bus with clock } } : PeerSystem).network := by
      rw [represents.network]
      rfl
    refine ⟨timed, ?_, ?_, represents.judge, represents.size, represents.each⟩
    · exact represents.reached.step (.time clock)
    · show { peerSystem.bus with clock } = { middle.bus with clock }
      rw [represents.bus]
  | step _ rank rises inductionHypothesis =>
    obtain ⟨system, peerSystem, reached, represents⟩ := inductionHypothesis
    obtain ⟨next, peerSystem, further, portrayed⟩ := represents.step small rank rises
    exact ⟨next, peerSystem, reached.trans further, portrayed⟩

end ParticipantSystem

/-- A participant of a world that reports has finished in the system, with the same report. -/
theorem ParticipantSystem.Represents.report {system : ParticipantSystem} {config : SimulationConfig}
    {clock : Clock} {peerSystem : PeerSystem} {world : World} {rank : Rank}
    {participant : Participant} {report : RankReport}
    (represents : system.Represents config clock peerSystem world)
    (listed : world.participants[rank.toNat]? = some participant)
    (reported : World.reportOf participant = .ok report) :
    (system.participants rank).phase = .finished ∧
      (system.participants rank).report = report := by
  rw [represents.each listed] at reported
  unfold World.reportOf at reported
  split at reported
  · next finished => exact ⟨finished, Except.ok.inj reported⟩
  · cases reported
  · cases reported

/-- In broadcast mode a simulation that has come to its end has converged under every schedule, and
every process reports that it is through its program. -/
theorem World.Reaches.converged {config : SimulationConfig} {start : Timestamp}
    {world after : World} {reports : List RankReport} (mode : config.mode = .broadcast)
    (small : config.ranks < 2 ^ 32) (setUp : Simulation.world config start = .ok world)
    (reached : world.Reaches after)
    (ended : after.participants.mapM World.reportOf = .ok reports) :
    (⟨config, reports⟩ : SimulationReport).converged = true ∧
      List.Forall₂ (fun rank (report : RankReport) => report.Complete config rank)
        (Rank.all config.ranks) reports := by
  obtain ⟨system, peerSystem, steps, represents⟩ :=
    ParticipantSystem.exists_represents small setUp reached
  have outcome := steps.outcome mode
  have places := Except.forall₂_of_mapM ended
  have size : reports.length = (Rank.all config.ranks).length := by
    rw [← places.length_eq, represents.size, Rank.length_all, Nat.mod_eq_of_lt small]
  have finished {number : Nat} (known : number < (Rank.all config.ranks).length)
      (inside : number < reports.length) :
      (system.participants (Rank.all config.ranks)[number]).phase = .finished ∧
        (system.participants (Rank.all config.ranks)[number]).report = reports[number] := by
    have here : number < after.participants.length := places.length_eq.symm ▸ inside
    have listed : after.participants[(Rank.all config.ranks)[number].toNat]? =
        some after.participants[number] := by
      rw [Rank.toNat_getElem_all known, List.getElem?_eq_getElem here]
    exact represents.report listed ((List.forall₂_iff_get.1 places).2 number here inside)
  constructor
  · rw [SimulationReport.converged_iff]
    intro first isFirst second isSecond
    obtain ⟨number, inside, rfl⟩ := List.getElem_of_mem isFirst
    obtain ⟨other, within, rfl⟩ := List.getElem_of_mem isSecond
    obtain ⟨done, same⟩ := finished (size ▸ inside) inside
    obtain ⟨doneToo, sameToo⟩ := finished (size ▸ within) within
    rw [← same, ← sameToo]
    exact outcome.alike _ (List.getElem_mem _) _ (List.getElem_mem _) done doneToo
  · rw [List.forall₂_iff_get]
    refine ⟨size.symm, fun number known inside => ?_⟩
    obtain ⟨done, same⟩ := finished known inside
    have complete := outcome.complete _ (List.getElem_mem known) done
    rw [same] at complete
    exact complete

end Concord
