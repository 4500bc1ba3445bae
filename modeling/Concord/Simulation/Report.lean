import Concord.Json.Reader
import Concord.Replica
import Concord.Simulation.Config

/-!
# Reports

A report says what each process of a simulation executed. The processes have converged if
all of them executed the same operations in the same order.
-/

namespace Concord

/-- What one process did. -/
structure RankReport where
  rank : Rank
  executed : List LogEntry
  committed : Nat
  denied : Nat
  /-- How often closing was put to the vote again. -/
  closeRetries : Nat
deriving DecidableEq, Inhabited

namespace RankReport

/-- What a process did, as a document. -/
def toJson (report : RankReport) : Json :=
  .record [
    ("rank", .ofNat report.rank.toNat),
    ("executed", .ofList LogEntry.toJson report.executed),
    ("committed", .ofNat report.committed),
    ("denied", .ofNat report.denied),
    ("close_retries", .ofNat report.closeRetries)]

/-- What a document says that a process did. -/
def ofJson? (document : Json) : Option RankReport := do
  let fields ← document.fields? ["rank", "executed", "committed", "denied", "close_retries"]
  let rank ← fields.required? "rank" Json.uint32?
  let executed ← fields.required? "executed" (Json.list? LogEntry.ofJson?)
  let committed ← fields.required? "committed" Json.size?
  let denied ← fields.required? "denied" Json.size?
  let closeRetries ← fields.required? "close_retries" Json.size?
  return ⟨⟨rank⟩, executed, committed, denied, closeRetries⟩

end RankReport

/-- What a simulation did. -/
structure SimulationReport where
  config : SimulationConfig
  ranks : List RankReport
deriving DecidableEq, Inhabited

namespace SimulationReport

/-- Whether a test holds between all neighbours in a list. -/
def chained {Value : Type} (test : Value → Value → Bool) : List Value → Bool
  | first :: second :: rest => test first second && chained test (second :: rest)
  | _ => true

/-- Whether all processes executed the same. -/
def converged (report : SimulationReport) : Bool :=
  chained (fun left right => decide (left.executed = right.executed)) report.ranks

/-- What the first process executed. -/
def referenceOrder (report : SimulationReport) : List LogEntry :=
  (report.ranks.head?.map RankReport.executed).getD []

/-- Whether every process executed in the global order. -/
def totallyOrdered (report : SimulationReport) : Bool :=
  report.ranks.all fun rank =>
    chained (fun left right => decide (left.key ≤ right.key)) rank.executed

/-- A report as a document. -/
def toJson (report : SimulationReport) : Json :=
  .record [
    ("config", report.config.toJson),
    ("ranks", .ofList RankReport.toJson report.ranks)]

/-- The report that a document holds. -/
def ofJson? (document : Json) : Option SimulationReport := do
  let fields ← document.fields? ["config", "ranks"]
  let config ← fields.required? "config" (SimulationConfig.ofJson? 1)
  let ranks ← fields.required? "ranks" (Json.list? RankReport.ofJson?)
  return ⟨config, ranks⟩

/-- Read a report; its settings need not be such as can run. -/
def parse (input : String) : Except DomainError SimulationReport :=
  match (Json.parse? input).bind ofJson? with
  | none => .error .invalidEncoding
  | some report => .ok report

end SimulationReport

end Concord
