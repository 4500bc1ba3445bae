import Concord.CommandLine.Arguments
import Concord.FileTree
import Concord.Simulation.World

/-!
# The command line

`CommandLine.run` does what the arguments ask for and gives an `Outcome`, which says what is
printed and how the program exits. Settings are read from a file, checked, and then changed
by the options. Reading files is left to whoever runs the command.
-/

namespace Concord.CommandLine

/-- What came of a command. -/
inductive Outcome where
  | help
  | misuse
  /-- A report, and whether it is wanted as a document. -/
  | finished (report : SimulationReport) (json : Bool)
  /-- A failure and what caused it, the outermost first. -/
  | failed (chain : List String)
deriving Inhabited

namespace Outcome

/-- The exit status. -/
def status : Outcome → UInt32
  | .help => 0
  | .misuse => 2
  | .finished report _ => if report.converged then 0 else 1
  | .failed _ => 1

/-- What is told about a failure, the outermost first. -/
def chain : Outcome → List String
  | .finished report _ => if report.converged then [] else ["ranks diverged"]
  | .failed chain => chain
  | _ => []

end Outcome

/-- What is told about a simulation that gave no report. -/
def chainOf (failure : SimulationError) : List String :=
  match failure with
  | .process _ cause => [failure.message, cause.message]
  | _ => [failure.message]

/-- The settings to start from: those of the file, or the default ones. -/
def baseConfig (readFile : String → Except FileFailure String) (path : Option String) :
    Except (List String) SimulationConfig :=
  match path with
  | none => .ok .standard
  | some path =>
    match readFile path with
    | .error cause => .error ["reading " ++ path, cause.message]
    | .ok content =>
      match SimulationConfig.parse content with
      | .error cause => .error ["parsing " ++ path, cause.message]
      | .ok config => .ok config

/-- Change settings by the options that were given. -/
def Options.applyTo (options : Options) (config : SimulationConfig) : SimulationConfig where
  ranks := options.ranks.getD config.ranks
  mode := options.mode.getD config.mode
  windowMicros := options.windowMicros.getD config.windowMicros
  opsPerRank := options.opsPerRank.getD config.opsPerRank
  seed := options.seed.getD config.seed
  jitter := (options.jitterMicros.map Jitter.mk).getD config.jitter
  poll := config.poll

/-- Run a simulation with the given options. -/
def simulate (readFile : String → Except FileFailure String) (now : Timestamp) (options : Options) :
    Outcome :=
  match baseConfig readFile options.config with
  | .error chain => .failed chain
  | .ok config =>
    match Simulation.run (options.applyTo config) now with
    | .error failure => .failed (chainOf failure)
    | .ok report => .finished report options.json

/-- Do what the arguments ask for. -/
def run (readFile : String → Except FileFailure String) (now : Timestamp)
    (arguments : List String) : Outcome :=
  match read now arguments with
  | .help => .help
  | .misuse => .misuse
  | .simulate options => simulate readFile now options

end Concord.CommandLine
