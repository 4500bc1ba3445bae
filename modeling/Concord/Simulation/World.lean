import Concord.Simulation.Participant
import Concord.Simulation.Workload

/-!
# Simulated worlds

A world holds all participants of a simulation and the bus between them. `World.step` is
what one participant does next; any order of such steps, with the clock moving on in
between, is a run. `World.run` takes the participants in turn and lets time stand still
while anything happens, except that no process makes two proposals at one time; when nothing
happens, the clock moves on to the next event.
-/

namespace Concord

/-- All participants of a simulation. -/
structure World where
  judge : Judge
  bus : Bus
  participants : List Participant

/-- Why a simulation gave no report. -/
inductive SimulationError where
  | config (cause : DomainError)
  | process (rank : Rank) (cause : CoordinatorError)
  /-- The simulation took more turns than it was given. -/
  | unfinished
deriving DecidableEq, Inhabited

/-- The name of each failure, with the name of its cause. -/
def SimulationError.kind : SimulationError → String
  | .config cause => "Core/" ++ cause.kind
  | .process _ cause => "Rank/" ++ cause.kind
  | .unfinished => "Unfinished"

/-- The wording of each failure. -/
def SimulationError.message : SimulationError → String
  | .config cause => cause.message
  | .process rank cause => rank.name ++ ": " ++ cause.message
  | .unfinished => "simulation did not finish"

namespace World

/-- Let the participant of a rank take a step. -/
def step (world : World) (rank : Rank) : World :=
  match world.participants[rank.toNat]? with
  | none => world
  | some participant =>
    let (bus, after) := participant.step world.participants.length world.judge world.bus
    { world with bus, participants := world.participants.set rank.toNat after }

/-- Let time pass. -/
def advance (world : World) (micros : UInt64) : World :=
  { world with bus := world.bus.changeClock (·.advance micros) }

/-- Let a microsecond pass if the participant of a rank would otherwise make two proposals at
the same time. -/
def pace (world : World) (rank : Rank) : World :=
  match world.participants[rank.toNat]? with
  | none => world
  | some participant =>
    if participant.repeatsStamp world.bus.clock.time then world.advance 1 else world

/-- Let every participant take a step, in the order of ranks. -/
def round (world : World) : World :=
  (Rank.all world.participants.length).foldl (fun world rank => (world.pace rank).step rank) world

/-- Let every participant take as many steps as any loop in a call has. -/
def settle (world : World) : World :=
  Nat.repeat round 8 world

/-- Counts of which at least one changes whenever anything happens. -/
def footprint (world : World) : List Nat :=
  world.participants.flatMap Participant.footprint ++
    world.bus.endpoints.flatMap fun endpoint => [endpoint.inbox.length, endpoint.held.length]

/-- The times at which messages are due and proposals will have aged. -/
def events (world : World) : List Timestamp :=
  (world.bus.endpoints.flatMap fun endpoint =>
    (endpoint.inbox ++ endpoint.held).map Packet.deliverAt) ++
  world.participants.flatMap fun participant =>
    participant.coordinator.ledger.entries.map fun proposal =>
      proposal.createdAt.after participant.coordinator.config.windowMicros

/-- The earlier of two times, of which the first may be missing. -/
def earlier (first : Option Timestamp) (second : Timestamp) : Timestamp :=
  match first with
  | none => second
  | some time => if time ≤ second then time else second

/-- The next time at which something can happen; the next microsecond if nothing is known. -/
def nextEvent (world : World) : Timestamp :=
  let now := world.bus.clock.time
  let coming := world.events.filter fun time => decide (now < time)
  (coming.foldl (fun found time => some (earlier found time)) none).getD (now.after 1)

/-- Move the clock on to the next event. -/
def wait (world : World) : World :=
  let time := world.nextEvent
  { world with bus := world.bus.changeClock (·.setTo time) }

/-- Whether no participant has anything more to do. -/
def isDone (world : World) : Bool :=
  world.participants.all Participant.isDone

/-- Go on until all participants are done, for at most the given number of turns. -/
def run : (turns : Nat) → World → World
  | 0, world => world
  | turns + 1, world =>
    if world.isDone then world
    else
      let settled := world.settle
      run turns (if settled.footprint = world.footprint then settled.wait else settled)

/-- The report of a participant that has finished. -/
def reportOf (participant : Participant) : Except SimulationError RankReport :=
  match participant.phase with
  | .finished => .ok participant.report
  | .failed cause => .error (.process participant.rank cause)
  | _ => .error .unfinished

end World

namespace Simulation

/-- The participant of a rank at the start. -/
def participant (config : SimulationConfig) (rank : Rank) : Except SimulationError Participant :=
  match Coordinator.create (config.coordinatorConfig rank) with
  | .error cause => .error (.process rank cause)
  | .ok coordinator => .ok (.create coordinator (Workload.plan rank config.opsPerRank))

/-- The world at the start. -/
def world (config : SimulationConfig) (start : Timestamp) : Except SimulationError World := do
  let participants ← (Rank.all config.ranks).mapM (participant config)
  return {
    judge := .staleness config.windowMicros
    bus := .connect config.ranks (.startingAt start) config.seed config.jitter
    participants }

/-- More turns than a simulation takes unless closing is denied again and again. -/
def turns (config : SimulationConfig) : Nat :=
  64 * (config.ranks + 1) * (config.ranks + 1) * (config.opsPerRank + 4)

/-- Run a simulation that starts at the given time. -/
def run (config : SimulationConfig) (start : Timestamp) :
    Except SimulationError SimulationReport := do
  match config.validate with
  | .error cause => .error (.config cause)
  | .ok () =>
    let initial ← world config start
    let final := initial.run (turns config)
    let ranks ← final.participants.mapM World.reportOf
    return ⟨config, ranks⟩

end Simulation

end Concord
