import Concord.Config
import Concord.Network.Bus

/-!
# Settings of a simulation

A simulation is set up with the size of its world, the way proposals are agreed on, what
each process proposes, and the delays on the bus. `SimulationConfig.validate` makes sure
that a proposal can reach every process while it may still be admitted.
-/

namespace Concord

/-- The settings of a simulation. -/
structure SimulationConfig where
  ranks : Nat
  mode : Mode
  windowMicros : UInt64
  opsPerRank : Nat
  seed : Seed
  jitter : Jitter
  poll : PollStrategy
deriving DecidableEq, Inhabited

namespace SimulationConfig

/-- The settings for a world of the given size that leave everything else at the default. -/
def ofRanks (ranks : Nat) : SimulationConfig where
  ranks
  mode := .voted
  windowMicros := 50000
  opsPerRank := 4
  seed := .standard
  jitter := .none
  poll := .yield

/-- The settings that leave everything at the default. -/
def standard : SimulationConfig :=
  ofRanks 3

/-- The settings of one process. -/
def coordinatorConfig (config : SimulationConfig) (rank : Rank) : CoordinatorConfig where
  rank
  mode := config.mode
  worldSize := config.ranks
  windowMicros := config.windowMicros
  poll := config.poll

/-- The longest that the messages of one proposal can be delayed in a row, in 64 bits. -/
def worstDelay (config : SimulationConfig) : Nat :=
  min (config.jitter.maxMicros.toNat * config.mode.deliveryHops) (UInt64.size - 1)

/-- Refuse settings that cannot run; the first fault in this order is reported. -/
def validate (config : SimulationConfig) : Except DomainError Unit :=
  match (config.coordinatorConfig ⟨0⟩).validate with
  | .error cause => .error cause
  | .ok () =>
    if config.windowMicros.toNat ≤ config.worstDelay then
      .error (.invalidConfig "jitter"
        (toString config.mode.deliveryHops ++ " hops of up to " ++
          toString config.jitter.maxMicros.toNat ++ "us jitter must stay below the " ++
          toString config.windowMicros.toNat ++ "us window"))
    else .ok ()

/-- Settings as a document. -/
def toJson (config : SimulationConfig) : Json :=
  .record [
    ("ranks", .ofNat config.ranks),
    ("mode", config.mode.toJson),
    ("time_window_us", .ofNat config.windowMicros.toNat),
    ("ops_per_rank", .ofNat config.opsPerRank),
    ("seed", config.seed.toJson),
    ("jitter", config.jitter.toJson),
    ("poll", config.poll.toJson)]

/-- The settings that a document inside `depth` levels of brackets holds; what it leaves out
is at the default. -/
def ofJson? (depth : Nat) (document : Json) : Option SimulationConfig := do
  let fields ← document.fields?
    ["ranks", "mode", "time_window_us", "ops_per_rank", "seed", "jitter", "poll"]
  let ranks ← fields.optional? "ranks" standard.ranks Json.size?
  let mode ← fields.optional? "mode" standard.mode Mode.ofJson?
  let windowMicros ← fields.optional? "time_window_us" standard.windowMicros Json.uint64?
  let opsPerRank ← fields.optional? "ops_per_rank" standard.opsPerRank Json.size?
  let seed ← fields.optional? "seed" standard.seed Seed.ofJson?
  let jitter ← fields.optional? "jitter" standard.jitter Jitter.ofJson?
  let poll ← fields.optional? "poll" standard.poll (PollStrategy.ofJson? (depth + 1))
  return ⟨ranks, mode, windowMicros, opsPerRank, seed, jitter, poll⟩

/-- Read settings that can run. -/
def parse (input : String) : Except DomainError SimulationConfig :=
  match (Json.parse? input).bind (ofJson? 0) with
  | none => .error .invalidEncoding
  | some config =>
    match config.validate with
    | .error cause => .error cause
    | .ok () => .ok config

end SimulationConfig

end Concord
