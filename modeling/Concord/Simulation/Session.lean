import Concord.Network.Site
import Concord.Simulation.Config

/-!
# Sessions

A session is one process of a simulated world whose calls are made one at a time and run
to their ends, while no other process does anything.
-/

namespace Concord

/-- One process of a world. -/
structure Session where
  judge : Judge
  coordinator : Coordinator
  site : Site

namespace Session

/-- Join a world of the given size, on links without jitter. -/
def join (config : SimulationConfig) (worldSize : Nat) (rank : Rank) (clock : Clock) :
    Except CoordinatorError Session :=
  match Coordinator.create (config.coordinatorConfig rank) with
  | .error cause => .error cause
  | .ok coordinator => .ok {
      judge := .staleness config.windowMicros
      coordinator
      site := ⟨.connect worldSize clock config.seed .none, .create rank, .create⟩ }

/-- Run a call for at most `budget` requests; there is no reply if it needs more. -/
def call (session : Session) (budget : Nat) (start : Coordinator → Control ObjectHandle) :
    Option (Except CoordinatorError (Reply ObjectHandle)) × Session :=
  let final := Coordinator.run (Site.surroundings session.judge) budget
    ⟨session.coordinator, start session.coordinator, session.site⟩
  let after := { session with coordinator := final.coordinator, site := final.state }
  match final.control with
  | .waiting _ => (none, after)
  | .returned reply => (some reply, after)

end Session

end Concord
