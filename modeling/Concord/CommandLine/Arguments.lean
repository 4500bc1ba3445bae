import Concord.Simulation.Config

/-!
# Command-line arguments

The command is `simulate` with its options, each given at most once: by a long name with
its value behind an equals sign or in the next argument, or by a letter with its value right
behind it, behind an equals sign or in the next argument. Arguments are taken from the left
and the first one that is wrong, or that asks for help, decides.
-/

namespace Concord.CommandLine

/-- What an option sets. -/
inductive Setting where
  | config
  | ranks
  | mode
  | window
  | ops
  | seed
  | jitter
deriving DecidableEq

/-- An argument that is not a value. -/
inductive Switch where
  | setting (setting : Setting)
  | json
  | help
deriving DecidableEq

/-- The options as they were given. -/
structure Options where
  config : Option String
  ranks : Option Nat
  mode : Option Mode
  windowMicros : Option UInt64
  opsPerRank : Option Nat
  seed : Option Seed
  jitterMicros : Option UInt64
  json : Bool
deriving DecidableEq, Inhabited

/-- No options at all. -/
def Options.unset : Options :=
  ⟨none, none, none, none, none, none, none, false⟩

/-- What the arguments ask for. -/
inductive Command where
  | help
  | simulate (options : Options)
  /-- The arguments are wrong. -/
  | misuse
deriving DecidableEq

/-- The switch with a long name. -/
def long? (name : String) : Option Switch :=
  match name with
  | "config" => some (.setting .config)
  | "ranks" => some (.setting .ranks)
  | "mode" => some (.setting .mode)
  | "window-us" => some (.setting .window)
  | "ops" => some (.setting .ops)
  | "seed" => some (.setting .seed)
  | "jitter-us" => some (.setting .jitter)
  | "json" => some .json
  | "help" => some .help
  | _ => none

/-- The switch with a letter. -/
def short? (letter : Char) : Option Switch :=
  match letter with
  | 'c' => some (.setting .config)
  | 'r' => some (.setting .ranks)
  | 'm' => some (.setting .mode)
  | 'w' => some (.setting .window)
  | 'o' => some (.setting .ops)
  | 's' => some (.setting .seed)
  | 'j' => some (.setting .jitter)
  | 'h' => some .help
  | _ => none

/-- Set a field that has not been set, to a value that could be read. -/
def fill {Value : Type} (field value : Option Value) : Option (Option Value) :=
  match field, value with
  | none, some value => some (some value)
  | _, _ => none

/-- Set an option from the text of its value. An option that is set already and a text that
is no value of its kind are refused. -/
def Options.set? (options : Options) (now : Timestamp) (setting : Setting) (value : String) :
    Option Options :=
  match setting with
  | .config =>
    (fill options.config (if value.isEmpty then none else some value)).map
      fun config => { options with config }
  | .ranks =>
    (fill options.ranks ((Seed.number? value).map UInt64.toNat)).map
      fun ranks => { options with ranks }
  | .mode =>
    (fill options.mode (Mode.ofWord value).toOption).map fun mode => { options with mode }
  | .window =>
    (fill options.windowMicros (Seed.number? value)).map
      fun windowMicros => { options with windowMicros }
  | .ops =>
    (fill options.opsPerRank ((Seed.number? value).map UInt64.toNat)).map
      fun opsPerRank => { options with opsPerRank }
  | .seed =>
    (fill options.seed (some (Seed.ofWord now value))).map fun seed => { options with seed }
  | .jitter =>
    (fill options.jitterMicros (Seed.number? value)).map
      fun jitterMicros => { options with jitterMicros }

/-- An argument by its form. -/
inductive Form where
  /-- A switch with the value in the same argument, if there is one there. -/
  | switch (switch : Switch) (attached : Option String)
  /-- What follows is not to be taken as options. -/
  | separator
  /-- Not a switch that is known. -/
  | other

/-- The part in front of the first equals sign, and the part behind it if there is one. -/
def splitEquals (characters : List Char) : List Char × Option (List Char) :=
  (characters.takeWhile (· ≠ '='),
    match characters.dropWhile (· ≠ '=') with
    | [] => none
    | _ :: value => some value)

/-- The form of an argument. -/
def formOf (argument : String) : Form :=
  match argument.toList with
  | ['-', '-'] => .separator
  | '-' :: '-' :: body =>
    let (name, attached) := splitEquals body
    match long? (String.ofList name) with
    | some switch => .switch switch (attached.map String.ofList)
    | none => .other
  | '-' :: letter :: rest =>
    match short? letter with
    | none => .other
    | some switch =>
      match rest with
      | [] => .switch switch none
      | '=' :: value => .switch switch (some (String.ofList value))
      | value => .switch switch (some (String.ofList value))
  | _ => .other

/-- Whether an argument can be the value of the option before it. -/
def isValue (argument : String) : Bool :=
  match argument.toList with
  | '-' :: _ :: _ => false
  | _ => true

/-- Read the options of `simulate`. -/
def readOptions (now : Timestamp) (options : Options) : List String → Command
  | [] => .simulate options
  | argument :: rest =>
    match formOf argument with
    | .other => .misuse
    | .separator => if rest.isEmpty then .simulate options else .misuse
    | .switch .help attached =>
      if argument.startsWith "--" && attached.isSome then .misuse else .help
    | .switch .json attached =>
      if options.json || attached.isSome then .misuse
      else readOptions now { options with json := true } rest
    | .switch (.setting setting) (some value) =>
      match options.set? now setting value with
      | none => .misuse
      | some changed => readOptions now changed rest
    | .switch (.setting setting) none =>
      match rest with
      | [] => .misuse
      | value :: remaining =>
        if isValue value then
          match options.set? now setting value with
          | none => .misuse
          | some changed => readOptions now changed remaining
        else .misuse

/-- Read all arguments. -/
def read (now : Timestamp) : List String → Command
  | "simulate" :: rest => readOptions now .unset rest
  | "help" :: [] => .help
  | "help" :: "simulate" :: [] => .help
  | "help" :: "help" :: [] => .help
  | "--help" :: _ => .help
  | first :: _ => if first.startsWith "-h" then .help else .misuse
  | [] => .misuse

end Concord.CommandLine
