import Concord.Coordinator.Run
import Concord.Rehearsal.Logbook
import Concord.Rehearsal.Script

/-!
# Rehearsals

A rehearsal runs one coordinator over a scripted voting service, a clock of its own and the
logbook executor. Every request of a call is answered by the script, so the course of a
rehearsal shows each request that the coordinator makes.
-/

namespace Concord

namespace Rehearsal

/-- What answers the coordinator of a rehearsal. -/
structure Stagehand where
  script : Script
  log : Logbook

/-- Answer a request from the script, the clock or the logbook. -/
def answer : (request : Request) → Stagehand → request.Answer Nat × Stagehand
  | .readClock, hand =>
    let (now, clock) := hand.script.clock.read
    (now, { hand with script := { hand.script with clock } })
  | .progress, hand =>
    let (answer, script) := hand.script.progress
    (answer, { hand with script })
  | .submitVote id envelope, hand =>
    let (answer, script) := hand.script.submit .submitVote id envelope
    (answer, { hand with script })
  | .submitBroadcast id envelope, hand =>
    let (answer, script) := hand.script.submit .submitBroadcast id envelope
    (answer, { hand with script })
  | .readStatus _, hand =>
    let (answer, script) := hand.script.readStatus
    (answer, { hand with script })
  | .checkout, hand =>
    let (answer, script) := hand.script.checkout
    (answer, { hand with script })
  | .release, hand =>
    let (answer, script) := hand.script.acknowledge .release
    (answer, { hand with script })
  | .finalize, hand =>
    let (answer, script) := hand.script.acknowledge .finalize
    (answer, { hand with script })
  | .execute proposal, hand =>
    let (answer, log) := logbookExecutor.execute hand.log proposal
    (answer, { hand with log })

/-- The script, the clock and the logbook as surroundings. -/
def surroundings : Surroundings Stagehand Nat :=
  ⟨answer⟩

end Rehearsal

/-- A coordinator over a script, until it is closed. -/
structure Rehearsal where
  coordinator : Option Coordinator
  hand : Rehearsal.Stagehand

namespace Rehearsal

/-- Open a coordinator over a script. -/
def start (config : CoordinatorConfig) (script : Script) : Except CoordinatorError Rehearsal :=
  match Coordinator.create config with
  | .error cause => .error cause
  | .ok coordinator => .ok ⟨some coordinator, ⟨script, []⟩⟩

/-- More requests than a call can make before the script's fuel is used up. -/
def budget (coordinator : Coordinator) (hand : Stagehand) : Nat :=
  8 * (hand.script.fuel + hand.script.deliveries.length + hand.script.incoming.length +
    coordinator.ledger.size + coordinator.queue.size + 8)

/-- Run a call to its end; there is no reply if the coordinator has been closed. -/
def call (rehearsal : Rehearsal) (start : Coordinator → Control Nat) :
    Option (Except CoordinatorError (Reply Nat)) × Rehearsal :=
  match rehearsal.coordinator with
  | none => (none, rehearsal)
  | some coordinator =>
    let final := Coordinator.run surroundings (budget coordinator rehearsal.hand)
      ⟨coordinator, start coordinator, rehearsal.hand⟩
    match final.control with
    | .waiting _ => (none, rehearsal)
    | .returned reply => (some reply, ⟨some final.coordinator, final.state⟩)

/-- Close the coordinator. A failed closing takes the logbook with it. -/
def close (rehearsal : Rehearsal) : Option (Except CoordinatorError Unit) × Rehearsal :=
  match rehearsal.call fun _ => Coordinator.beginClose with
  | (none, after) => (none, after)
  | (some (.ok _), after) => (some (.ok ()), { after with coordinator := none })
  | (some (.error cause), after) =>
    (some (.error cause), ⟨none, { after.hand with log := [] }⟩)

/-- Empty the logbook. -/
def clearLog (rehearsal : Rehearsal) : Rehearsal :=
  { rehearsal with hand := { rehearsal.hand with log := [] } }

/-- Change the script between two calls. -/
def edit (rehearsal : Rehearsal) (change : Script → Script) : Rehearsal :=
  { rehearsal with hand := { rehearsal.hand with script := change rehearsal.hand.script } }

end Rehearsal

end Concord
