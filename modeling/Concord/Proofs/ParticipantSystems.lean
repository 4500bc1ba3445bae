import Concord.Proofs.VotedCallStages
import Concord.Proofs.Schedules
import Concord.Simulation.World

/-!
# Systems of participants

A system of participants is a network with a participant at every process. Each works off its
program by itself: `ParticipantSystem.Step` says when it goes on, and `Participant` alone what it
does then. Between any two acts of a participant, and while its messages are being sent and acted
on, the others may do anything. All that is asked of the environment is that no participant makes
two proposals at one time, or a later one at an earlier time.
-/

namespace Concord

/-! ## Leaving is the end of it -/

/-- A station as if its peer had not left. -/
def Station.unsealed (station : Station) : Station :=
  { station with peer := { station.peer with finalized := false } }

/-- A station that nobody has left is not changed by forgetting who has. -/
theorem Station.unsealed_of_active {station : Station} (active : station.peer.finalized = false) :
    station.unsealed = station := by
  obtain ⟨⟨rank, held, ballot, approved, finalized⟩, batch, outbox⟩ := station
  cases active
  rfl

namespace Network

/-- A network as if nobody had left. -/
def unsealed (network : Network) : Network :=
  { network with stations := fun rank => (network.stations rank).unsealed }

/-- Forgetting who has left goes through acting for one process. -/
theorem unsealed_put (network : Network) (rank : Rank) (acted : Bus × Station)
    (events : List Event) :
    (network.put rank acted events).unsealed =
      network.unsealed.put rank (acted.1, acted.2.unsealed) events := by
  have stations : (fun other => ((network.put rank acted events).stations other).unsealed) =
      Function.update network.unsealed.stations rank acted.2.unsealed := by
    funext other
    rw [put_stations, Function.update_apply]
    split <;> rfl
  exact congrArg (fun stations => (⟨acted.1, stations, network.history ++ events⟩ : Network))
    stations

/-- The station of a process that has not left is what it was. -/
theorem stations_unsealed {network : Network} {rank : Rank}
    (active : (network.stations rank).peer.finalized = false) :
    network.unsealed.stations rank = network.stations rank :=
  Station.unsealed_of_active active

/-- Sending does not depend on who has left. -/
theorem unsealed_send (network : Network) (rank receiver : Rank) (message : Message)
    (rest : List (Rank × Message)) :
    (network.send rank receiver message rest).unsealed =
      network.unsealed.send rank receiver message rest :=
  network.unsealed_put rank _ _

/-- Acting on a message does not depend on who else has left. -/
theorem unsealed_handle {network : Network} (judge : Judge) {rank : Rank}
    (active : (network.stations rank).peer.finalized = false) (sender : Rank) (message : Message)
    (rest : List (Rank × Message)) :
    (network.handle judge rank sender message rest).unsealed =
      network.unsealed.handle judge rank sender message rest := by
  have stays : (Station.handle judge network.bus (network.stations rank) message rest).2.unsealed =
      (Station.handle judge network.bus (network.stations rank) message rest).2 := by
    refine Station.unsealed_of_active ?_
    rw [Station.handle, Peer.finalized_handle, active]
  rw [handle, unsealed_put, stays, handle, stations_unsealed active]
  rfl

/-- Answering a request that is not the last one does not depend on who else has left. -/
theorem unsealed_serve {network : Network} {rank : Rank}
    (active : (network.stations rank).peer.finalized = false) {request : Request}
    (goesOn : request ≠ .finalize) :
    (network.serve rank request).unsealed = network.unsealed.serve rank request := by
  have stays : (Station.serve network.bus (network.stations rank) request).2.unsealed =
      (Station.serve network.bus (network.stations rank) request).2 := by
    refine Station.unsealed_of_active ?_
    rw [Station.finalized_serve _ _ goesOn, active]
  rw [serve, unsealed_put, stays, serve, stations_unsealed active]
  rfl

/-- Leaving changes nothing else. -/
theorem unsealed_finalize (network : Network) (rank : Rank) :
    (network.serve rank .finalize).unsealed = network.unsealed := by
  have same : (Station.serve network.bus (network.stations rank) .finalize).2.unsealed =
      network.unsealed.stations rank := rfl
  rw [serve, unsealed_put, same, put, Function.update_eq_self]
  simp [Peer.serveEvents, unsealed, Station.serve]

end Network

/-- What a process that has not left is answered does not depend on who has. -/
theorem Cluster.answer_unsealed {State Handle : Type} (executor : Executor State Handle)
    {rank : Rank} {network : Network} (active : (network.stations rank).peer.finalized = false)
    (request : Request) (state : State) :
    (answer executor rank request (network.unsealed, state)).1 =
        (answer executor rank request (network, state)).1 ∧
      (answer executor rank request (network.unsealed, state)).2.2 =
        (answer executor rank request (network, state)).2.2 := by
  have station := Network.stations_unsealed active
  cases request <;> refine ⟨?_, ?_⟩ <;> simp only [answer, station] <;> rfl

/-! ## Systems of participants -/

/-- Whether a participant does not repeat or go back behind the time of its last proposal, if its
next step makes one. -/
def Participant.Rises (participant : Participant) (now : Timestamp) : Prop :=
  participant.isProposing = true → ∀ last, participant.lastStamp = some last → last < now

/-- A network with a participant at every process. The peer of a participant is that of its
station, where it is acted on message by message. -/
structure ParticipantSystem where
  network : Network
  participants : Rank → Participant

namespace ParticipantSystem

/-- The participants of a simulation before they do anything. -/
def opening (config : SimulationConfig) (clock : Clock) : ParticipantSystem where
  network := .opening config.ranks clock config.seed config.jitter
  participants rank := .create ⟨config.coordinatorConfig rank, .empty, .empty⟩
    (Workload.plan rank config.opsPerRank)

/-- Settings that can run set up every participant. -/
theorem participant_eq_opening {config : SimulationConfig} (valid : config.validate = .ok ())
    (clock : Clock) {rank : Rank} (listed : rank ∈ Rank.all config.ranks) :
    Simulation.participant config rank = .ok ((opening config clock).participants rank) := by
  have inside : rank.toNat < config.ranks :=
    Nat.lt_of_lt_of_le (Rank.mem_all.1 listed) (Nat.mod_le _ _)
  have first : (config.coordinatorConfig ⟨0⟩).validate = .ok () := by
    unfold SimulationConfig.validate at valid
    split at valid
    · cases valid
    · next found => exact found
  have own : (config.coordinatorConfig rank).validate = .ok () := by
    unfold CoordinatorConfig.validate at first ⊢
    split at first
    · cases first
    · next inhabited =>
      split at first
      · cases first
      · next lasting =>
        exact (if_neg inhabited).trans ((if_neg lasting).trans (if_neg (Nat.not_le.2 inside)))
  rw [Simulation.participant, Coordinator.create, own]
  rfl

/-- A system in which one participant has acted. -/
def put (system : ParticipantSystem) (network : Network) (rank : Rank) (participant : Participant) :
    ParticipantSystem :=
  ⟨network, Function.update system.participants rank participant⟩

/-- Acting for one participant leaves all others as they are. -/
theorem put_participants (system : ParticipantSystem) (network : Network) (rank : Rank)
    (participant : Participant) (other : Rank) :
    (system.put network rank participant).participants other =
      if other = rank then participant else system.participants other :=
  Function.update_apply _ _ _ _

/-- Let a participant that is in no call start one, or go over to its next phase. -/
def start (system : ParticipantSystem) (worldSize : Nat) (rank : Rank) : ParticipantSystem :=
  let started := (system.participants rank).start worldSize system.network.bus
  system.put { system.network with bus := started.1 } rank started.2

/-- Answer the request that a participant's call waits for. -/
def exchange (system : ParticipantSystem) (rank : Rank) (stage : Stage ObjectHandle) :
    ParticipantSystem :=
  let participant := system.participants rank
  let after := Coordinator.exchange (Cluster.surroundings Replica.executor rank)
    participant.coordinator stage (system.network, participant.replica)
  system.put after.state.1 rank
    { participant with
      coordinator := after.coordinator, replica := after.state.2, call := some after.control }

/-- An exchange is a request served by the network and taken note of by the participant. -/
theorem exchange_eq (system : ParticipantSystem) (rank : Rank) (stage : Stage ObjectHandle) :
    system.exchange rank stage =
      let participant := system.participants rank
      let answered := Cluster.answer Replica.executor rank stage.request
        (system.network, participant.replica)
      let resumed := participant.coordinator.resume stage answered.1
      system.put (system.network.serve rank stage.request) rank
        { participant with
          coordinator := resumed.1, replica := answered.2.2, call := some resumed.2 } := by
  rw [← Cluster.answer_network Replica.executor rank stage.request system.network
    (system.participants rank).replica]
  rfl

/-- Let a participant take note of the reply to its call. -/
def reply (system : ParticipantSystem) (rank : Rank)
    (answer : Except CoordinatorError (Reply ObjectHandle)) : ParticipantSystem :=
  system.put system.network rank ((system.participants rank).noteReply answer)

/-- What happens next in a system of participants. -/
inductive Step (config : SimulationConfig) (system : ParticipantSystem) :
    ParticipantSystem → Prop where
  | time (clock : Clock) : Step config system
      { system with network := system.network.retime clock }
  | send {rank receiver : Rank} {message : Message} {rest : List (Rank × Message)}
      (next : (system.network.stations rank).outbox = (receiver, message) :: rest) :
      Step config system
        { system with network := system.network.send rank receiver message rest }
  | handle {rank sender : Rank} {message : Message} {rest : List (Rank × Message)}
      (quiet : (system.network.stations rank).outbox = [])
      (next : (system.network.stations rank).batch = (sender, message) :: rest) :
      Step config system
        { system with
          network := system.network.handle (.staleness config.windowMicros) rank sender message
            rest }
  | start (rank : Rank) (joined : system.network.bus.Joined rank)
      (idle : (system.network.stations rank).Idle)
      (uncalled : (system.participants rank).call = none)
      (rises : (system.participants rank).Rises system.network.bus.clock.time) :
      Step config system (system.start config.ranks rank)
  | exchange (rank : Rank) (stage : Stage ObjectHandle)
      (joined : system.network.bus.Joined rank) (idle : (system.network.stations rank).Idle)
      (waits : (system.participants rank).call = some (.waiting stage)) :
      Step config system (system.exchange rank stage)
  | reply (rank : Rank) (answer : Except CoordinatorError (Reply ObjectHandle))
      (returned : (system.participants rank).call = some (.returned answer)) :
      Step config system (system.reply rank answer)

/-- What can become of a system of participants. -/
inductive Reaches (config : SimulationConfig) (start : ParticipantSystem) :
    ParticipantSystem → Prop where
  | refl : Reaches config start start
  | step {middle final : ParticipantSystem} (prior : Reaches config start middle)
      (next : Step config middle final) : Reaches config start final

/-- Runs that meet make one run. -/
theorem Reaches.trans {config : SimulationConfig} {start middle final : ParticipantSystem}
    (first : Reaches config start middle) (second : Reaches config middle final) :
    Reaches config start final := by
  induction second with
  | refl => exact first
  | step _ next inductionHypothesis => exact .step inductionHypothesis next

/-! ## Schedules -/

instance (participant : Participant) (now : Timestamp) : Decidable (participant.Rises now) :=
  match held : participant.lastStamp with
  | none => isTrue fun _ _ same => nomatch held.symm.trans same
  | some last =>
    decidable_of_iff (participant.isProposing = true → last < now)
      ⟨fun rises proposing _ same => Option.some.inj (held.symm.trans same) ▸ rises proposing,
        fun rises proposing => rises proposing last held⟩

/-- A step, named by the process that makes it. What a participant does is up to its call. -/
inductive Move where
  | time (clock : Clock)
  | send (rank : Rank)
  | handle (rank : Rank)
  | act (rank : Rank)

/-- Make a move, if it is open. -/
def perform (config : SimulationConfig) (system : ParticipantSystem) :
    Move → Option ParticipantSystem
  | .time clock => some { system with network := system.network.retime clock }
  | .send rank =>
    match (system.network.stations rank).outbox with
    | [] => none
    | (receiver, message) :: rest =>
      some { system with network := system.network.send rank receiver message rest }
  | .handle rank =>
    match (system.network.stations rank).outbox, (system.network.stations rank).batch with
    | [], (sender, message) :: rest =>
      some {
        system with
        network := system.network.handle (.staleness config.windowMicros) rank sender message
          rest }
    | _, _ => none
  | .act rank =>
    match (system.participants rank).call with
    | none =>
      if system.network.bus.Joined rank ∧ (system.network.stations rank).Idle ∧
          (system.participants rank).Rises system.network.bus.clock.time then
        some (system.start config.ranks rank)
      else none
    | some (.waiting stage) =>
      if system.network.bus.Joined rank ∧ (system.network.stations rank).Idle then
        some (system.exchange rank stage)
      else none
    | some (.returned answer) => some (system.reply rank answer)

/-- Make several moves in turn. -/
def follow (config : SimulationConfig) (system : ParticipantSystem) :
    List Move → Option ParticipantSystem
  | [] => some system
  | move :: rest => (system.perform config move).bind fun next => next.follow config rest

/-- Every open move is a step. -/
theorem step_of_perform {config : SimulationConfig} {system after : ParticipantSystem} {move : Move}
    (performed : system.perform config move = some after) : Step config system after := by
  cases move with
  | time clock =>
    cases performed
    exact .time clock
  | send rank =>
    simp only [perform] at performed
    split at performed
    · cases performed
    · next next =>
      cases performed
      exact .send next
  | handle rank =>
    simp only [perform] at performed
    split at performed
    · next quiet next =>
      cases performed
      exact .handle quiet next
    · cases performed
  | act rank =>
    simp only [perform] at performed
    split at performed
    · next uncalled =>
      obtain ⟨⟨joined, idle, rises⟩, same⟩ := Option.ite_none_right_eq_some.1 performed
      cases same
      exact .start rank joined idle uncalled rises
    · next stage waits =>
      obtain ⟨⟨joined, idle⟩, same⟩ := Option.ite_none_right_eq_some.1 performed
      cases same
      exact .exchange rank stage joined idle waits
    · next answer returned =>
      cases performed
      exact .reply rank answer returned

/-- Whatever a schedule arrives at can be reached. -/
theorem reaches_follow {config : SimulationConfig} {start system after : ParticipantSystem}
    {moves : List Move} (prior : Reaches config start system)
    (followed : system.follow config moves = some after) : Reaches config start after := by
  induction moves generalizing system with
  | nil =>
    cases followed
    exact prior
  | cons move rest inductionHypothesis =>
    obtain ⟨next, performed, others⟩ := Option.bind_eq_some_iff.1 followed
    exact inductionHypothesis (prior.step (step_of_perform performed)) others

end ParticipantSystem

end Concord
