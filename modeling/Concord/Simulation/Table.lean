import Concord.Simulation.Report

/-!
# Reports as text

A report is shown as a line about its settings, a table with a line for each process, the
order in which the first process executed, and whether all processes agree.
-/

namespace Concord.SimulationReport

/-- A text with blanks behind it, up to a width. -/
def padRight (width : Nat) (text : String) : String :=
  text ++ String.ofList (List.replicate (width - text.length) ' ')

/-- A text with blanks in front of it, up to a width. -/
def padLeft (width : Nat) (text : String) : String :=
  String.ofList (List.replicate (width - text.length) ' ') ++ text

/-- The line about the settings. -/
def settingsLine (config : SimulationConfig) : String :=
  toString config.ranks ++ " ranks, " ++ config.mode.name ++ " mode, window " ++
    toString config.windowMicros.toNat ++ "us, " ++ toString config.opsPerRank ++
    " ops/rank, seed " ++ toString config.seed.value.toNat ++ ", jitter <= " ++
    toString config.jitter.maxMicros.toNat ++ "us"

/-- A line of the table. -/
def tableLine (rank committed denied closeRetries executed : String) : String :=
  padRight 8 rank ++ " " ++ padLeft 9 committed ++ " " ++ padLeft 7 denied ++ " " ++
    padLeft 13 closeRetries ++ " " ++ padLeft 9 executed

/-- The line of a process. -/
def rankLine (report : RankReport) : String :=
  tableLine report.rank.name (toString report.committed) (toString report.denied)
    (toString report.closeRetries) (toString report.executed.length)

/-- One line of the order: its number, the time, and what was executed. -/
structure OrderLine where
  number : String
  time : String
  operation : String

/-- The line of the entry with a number. -/
def orderLine (entry : LogEntry) (number : Nat) : OrderLine where
  number := padLeft 4 (toString number)
  time := padRight 16 (toString entry.createdAt.toNat)
  operation :=
    " id=" ++ padRight 4 (toString entry.id.toInt) ++ " tag=" ++ toString entry.tag.toInt

/-- A line of the order as it is shown. -/
def OrderLine.render (line : OrderLine) : String :=
  line.number ++ "  t=" ++ line.time ++ line.operation

/-- The lines in front of the order. -/
def openingLines (report : SimulationReport) : List String :=
  [settingsLine report.config, "",
    tableLine "rank" "committed" "denied" "close retries" "executed"] ++
    report.ranks.map rankLine ++ ["", "agreed order:"]

/-- The lines of the order. -/
def orderLines (report : SimulationReport) : List OrderLine :=
  report.referenceOrder.zipIdx.map fun (entry, number) => orderLine entry number

/-- The lines behind the order. -/
def closingLines (report : SimulationReport) : List String :=
  ["", "converged: " ++ (if report.converged then "yes" else "NO")]

/-- All lines of a report. -/
def lines (report : SimulationReport) : List String :=
  report.openingLines ++ report.orderLines.map OrderLine.render ++ report.closingLines

end Concord.SimulationReport
