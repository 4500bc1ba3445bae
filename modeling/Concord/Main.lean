import Concord.CommandLine
import Concord.Json.Writer
import Concord.Simulation.Table
import Std.Time.DateTime.Timestamp

/-!
# The program

Reads the clock and the settings file, runs the command, and prints what came of it. The
simulation starts at the time of the clock and then keeps a time of its own.
-/

namespace Concord

/-- What is printed for those who ask for help. -/
def helpText : String :=
  String.intercalate "\n" [
    "Leaderless ordering of namespace operations",
    "",
    "Usage: simulate [OPTIONS]",
    "",
    "Options:",
    "  -c, --config <FILE>       Read settings from a file",
    "  -r, --ranks <N>           Number of processes",
    "  -m, --mode <MODE>         voted or broadcast",
    "  -w, --window-us <MICROS>  Age at which proposals are executed",
    "  -o, --ops <N>             Operations per process",
    "  -s, --seed <SEED>         A number, a word, or random",
    "  -j, --jitter-us <MICROS>  Largest delay of a message",
    "      --json                Print the report as a document",
    "  -h, --help                Print help"]

/-- The path of the settings file that the arguments name, if they name one. -/
def settingsPath (arguments : List String) : Option String :=
  match CommandLine.read .zero arguments with
  | .simulate options => options.config
  | _ => none

/-- The number of a system error, which may come with its sign changed. -/
def errorNumber (code : UInt32) : Nat :=
  min code.toNat (-code).toNat

/-- The reason for a failure of the system. -/
def fileFailure (failure : IO.Error) : FileFailure :=
  match failure with
  | .noFileOrDirectory _ _ _ => .missing
  | .inappropriateType _ code _ =>
    if errorNumber code = 21 then .isADirectory else .notADirectory
  | .invalidArgument _ code _ =>
    if errorNumber code = 36 then .nameTooLong else .other failure.toString
  | .permissionDenied _ code _ =>
    .other ("Permission denied (os error " ++ toString (errorNumber code) ++ ")")
  | _ => .other failure.toString

/-- The content of a file, or why it cannot be read. -/
def readSettings (path : String) : IO (Except FileFailure String) := do
  try
    let content ← IO.FS.readBinFile path
    match String.fromUTF8? content with
    | none => return .error .notText
    | some text => return .ok text
  catch failure =>
    return .error (fileFailure failure)

/-- The time since 1970, from the system's clock. -/
def systemTime : IO Timestamp := do
  let since1970 ← Std.Time.Timestamp.now
  return ⟨UInt64.ofNat (since1970.toNanosecondsSinceUnixEpoch.toInt.toNat / 1000)⟩

/-- Print an outcome. -/
def present (outcome : CommandLine.Outcome) : IO Unit := do
  match outcome with
  | .help => IO.println helpText
  | .misuse => IO.eprintln helpText
  | .finished report true => IO.println report.toJson.pretty
  | .finished report false =>
    for line in report.lines do
      IO.println line
  | .failed _ => pure ()
  for message in outcome.chain do
    IO.eprintln ("Error: " ++ message)

end Concord

/-- Run the command that the arguments ask for. -/
def main (arguments : List String) : IO UInt32 := do
  let now ← Concord.systemTime
  let content ← match Concord.settingsPath arguments with
    | some path => Concord.readSettings path
    | none => pure (.error .missing)
  let outcome := Concord.CommandLine.run (fun _ => content) now arguments
  Concord.present outcome
  return outcome.status
