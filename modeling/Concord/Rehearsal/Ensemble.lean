import Concord.Network.Site
import Concord.Proposal.Draft
import Concord.Simulation.Config

/-!
# Ensembles

An ensemble runs the coordinators of a whole world one call at a time. Where a submission
waits for progress it gives way: the next submission that has not started yet is run to its
end inside it, and then every other process's peer acts on what is due. The nesting is a
stack of calls, of which only the innermost takes steps.
-/

namespace Concord

namespace Rehearsal

/-- One process of an ensemble. -/
structure Member where
  /-- Missing once the process has closed. -/
  coordinator : Option Coordinator
  peer : Peer
  replica : Replica

/-- A proposal that a process is to submit. -/
structure Entry where
  rank : Rank
  draft : Draft

/-- What became of an entry. -/
inductive Completion where
  /-- The process is inside a submission. -/
  | busy
  | closed
  | replied (createdAt : Timestamp) (reply : Except CoordinatorError (Reply ObjectHandle))

/-- What became of the entry of a process, and when. -/
structure Result where
  rank : Rank
  completion : Completion
  time : Timestamp

/-- A call of a process. -/
structure Call where
  rank : Rank
  createdAt : Timestamp
  control : Control ObjectHandle
  /-- Whether the progress that the call waits for has given way already. -/
  gaveWay : Bool

end Rehearsal

/-- All processes of a world, and the calls under way. -/
structure Ensemble where
  judge : Judge
  bus : Bus
  members : List Rehearsal.Member
  /-- How many more times any process can make progress. -/
  fuel : Nat
  /-- Whether calls give way to one another. -/
  givesWay : Bool
  /-- Submissions that have not started. -/
  queue : List Rehearsal.Entry
  /-- The calls under way, the innermost first. -/
  calls : List Rehearsal.Call
  /-- The ends of submissions, the last one first. -/
  results : List Rehearsal.Result

namespace Ensemble

open Rehearsal

/-- A process at the start. -/
def member (config : SimulationConfig) (rank : Rank) : Except CoordinatorError Member :=
  match Coordinator.create (config.coordinatorConfig rank) with
  | .error cause => .error cause
  | .ok coordinator => .ok ⟨some coordinator, .create rank, .create⟩

/-- A world at the start, with the given clock. -/
def create (config : SimulationConfig) (clock : Clock) : Except CoordinatorError Ensemble := do
  let members ← (Rank.all config.ranks).mapM (member config)
  return {
    judge := .staleness config.windowMicros
    bus := .connect config.ranks clock config.seed config.jitter
    members
    fuel := 0
    givesWay := false
    queue := []
    calls := []
    results := [] }

/-- The process of a rank; one that never joined counts as closed. -/
def memberAt (ensemble : Ensemble) (rank : Rank) : Member :=
  ensemble.members[rank.toNat]?.getD ⟨none, .create rank, .create⟩

/-- Act at the site of a process. -/
def atSite {Value : Type} (ensemble : Ensemble) (rank : Rank) (act : Site → Value × Site) :
    Value × Ensemble :=
  let member := ensemble.memberAt rank
  let (value, site) := act ⟨ensemble.bus, member.peer, member.replica⟩
  let changed := { member with peer := site.peer, replica := site.replica }
  (value, { ensemble with
    bus := site.bus
    members := ensemble.members.set rank.toNat changed })

/-- Let the peer of a process act on what is due, whether or not it can. -/
def nudge (ensemble : Ensemble) (rank : Rank) : Ensemble :=
  match (ensemble.memberAt rank).coordinator with
  | none => ensemble
  | some _ => (ensemble.atSite rank (Site.answer ensemble.judge .progress)).2

/-- Make progress at a process, after all others have if calls give way. Fuel is used up
unless it was when the call gave way. -/
def progress (ensemble : Ensemble) (rank : Rank) (gaveWay : Bool) :
    Except VotingError Unit × Ensemble :=
  if gaveWay = false ∧ ensemble.fuel = 0 then
    (.error (.transport "fuel exhausted"), ensemble)
  else
    let fuelled := if gaveWay then ensemble else { ensemble with fuel := ensemble.fuel - 1 }
    let others := (Rank.all ensemble.members.length).filter (· ≠ rank)
    let nudged := if ensemble.givesWay then others.foldl nudge fuelled else fuelled
    nudged.atSite rank (Site.answer ensemble.judge .progress)

/-- Answer a request of a process. -/
def answer (rank : Rank) (gaveWay : Bool) :
    (request : Request) → Ensemble → request.Answer ObjectHandle × Ensemble
  | .progress, ensemble => ensemble.progress rank gaveWay
  | request, ensemble => ensemble.atSite rank (Site.answer ensemble.judge request)

/-- Note what became of an entry. -/
def note (ensemble : Ensemble) (rank : Rank) (completion : Completion) : Ensemble :=
  { ensemble with results := ⟨rank, completion, ensemble.bus.clock.time⟩ :: ensemble.results }

/-- Start the submission of an entry, unless its process is inside another or has closed. -/
def start (ensemble : Ensemble) (entry : Entry) : Ensemble :=
  if ensemble.calls.any fun call => decide (call.rank = entry.rank) then
    ensemble.note entry.rank .busy
  else
    match (ensemble.memberAt entry.rank).coordinator with
    | none => ensemble.note entry.rank .closed
    | some coordinator =>
      let (proposal, clock) := entry.draft.stamp ensemble.bus.clock
      let call : Call :=
        ⟨entry.rank, proposal.createdAt, coordinator.beginSubmit proposal, false⟩
      { ensemble with
        bus := { ensemble.bus with clock }
        calls := call :: ensemble.calls }

/-- Whether a call is about to make progress for which it has not given way. -/
def mayGiveWay (ensemble : Ensemble) (call : Call) : Bool :=
  match call.control with
  | .waiting stage =>
    ensemble.givesWay && !call.gaveWay && decide (0 < ensemble.fuel) &&
      decide (stage.request = .progress)
  | .returned _ => false

/-- Answer the request that the innermost call waits for. -/
def exchange (ensemble : Ensemble) (call : Call) (outer : List Call)
    (stage : Stage ObjectHandle) : Ensemble :=
  match (ensemble.memberAt call.rank).coordinator with
  | none => { ensemble with calls := outer }
  | some coordinator =>
    let (answer, after) := answer call.rank call.gaveWay stage.request ensemble
    let (coordinator, control) := coordinator.resume stage answer
    let changed := { after.memberAt call.rank with coordinator := some coordinator }
    { after with
      members := after.members.set call.rank.toNat changed
      calls := { call with control, gaveWay := false } :: outer }

/-- Let the innermost call take a step. -/
def step (ensemble : Ensemble) : Ensemble :=
  match ensemble.calls with
  | [] => ensemble
  | call :: outer =>
    match call.control, ensemble.mayGiveWay call, ensemble.queue with
    | .returned reply, _, _ =>
      { ensemble with calls := outer }.note call.rank (.replied call.createdAt reply)
    | .waiting _, true, entry :: queue =>
      let yielded := { ensemble with
        fuel := ensemble.fuel - 1
        queue
        calls := { call with gaveWay := true } :: outer }
      yielded.start entry
    | .waiting stage, _, _ => ensemble.exchange call outer stage

/-- Take up to `budget` steps. -/
def run : (budget : Nat) → Ensemble → Ensemble
  | 0, ensemble => ensemble
  | budget + 1, ensemble =>
    match ensemble.calls with
    | [] => ensemble
    | _ :: _ => run budget ensemble.step

/-- How many times any process can make progress during one call from outside. -/
def fuelPerCall : Nat :=
  3000

/-- More steps than a call from outside takes before its fuel is used up. -/
def stepsPerCall : Nat :=
  1000000

/-- Run submissions: the first directly, the others inside one another. The results and the
entries that never started are given back. -/
def submit (ensemble : Ensemble) (entries : List Entry) :
    List Result × List Entry × Ensemble :=
  match entries with
  | [] => ([], [], ensemble)
  | first :: queue =>
    let ready := { ensemble with
      fuel := fuelPerCall, givesWay := true, queue, calls := [], results := [] }
    let final := run stepsPerCall (ready.start first)
    (final.results.reverse, final.queue, { final with queue := [], calls := [], results := [] })

/-- Run another call of a process; there is no reply if the process has closed. -/
def call (ensemble : Ensemble) (rank : Rank) (start : Coordinator → Control ObjectHandle) :
    Option (Except CoordinatorError (Reply ObjectHandle)) × Ensemble :=
  match (ensemble.memberAt rank).coordinator with
  | none => (none, ensemble)
  | some coordinator =>
    let call : Call := ⟨rank, ensemble.bus.clock.time, start coordinator, false⟩
    let ready := { ensemble with
      fuel := fuelPerCall, givesWay := false, queue := [], calls := [call], results := [] }
    let final := run stepsPerCall ready
    match final.results with
    | ⟨_, .replied _ reply, _⟩ :: _ => (some reply, { final with results := [] })
    | _ => (none, { final with calls := [], results := [] })

/-- Close a process, which leaves the bus; there is no reply if it has closed before. -/
def close (ensemble : Ensemble) (rank : Rank) :
    Option (Except CoordinatorError (Reply ObjectHandle)) × Ensemble :=
  match ensemble.call rank fun _ => Coordinator.beginClose with
  | (none, after) => (none, after)
  | (some reply, after) =>
    let left := { after.memberAt rank with coordinator := none }
    (some reply, { after with
      bus := after.bus.detach rank
      members := after.members.set rank.toNat left })

end Ensemble

end Concord
