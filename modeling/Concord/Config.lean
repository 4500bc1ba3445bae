import Concord.Error
import Concord.Identity
import Concord.Json.Reader
import Concord.Json.Retained
import Concord.Text.Quoted

/-!
# Settings

A coordinator is set up with its place in the world, the way proposals are agreed on, and
the window: the age up to which a proposal may still be admitted and from which on it is
executed. `CoordinatorConfig.validate` says which settings can run.
-/

namespace Concord

/-- How proposals are agreed on. -/
inductive Mode where
  /-- Every other process votes on each proposal. -/
  | voted
  /-- Each round takes one proposal from every process, without a vote. -/
  | broadcast
deriving DecidableEq, Inhabited

namespace Mode

/-- The number of a mode. -/
def code : Mode → Nat
  | .voted => 1
  | .broadcast => 2

/-- The name of a mode. -/
def name : Mode → String
  | .voted => "voted"
  | .broadcast => "broadcast"

/-- The mode with a number. -/
def ofCode (code : UInt32) : Except DomainError Mode :=
  match code.toNat with
  | 1 => .ok .voted
  | 2 => .ok .broadcast
  | other => .error (.invalidConfig "mode" ("unknown mode code " ++ toString other))

/-- The mode that a word names, by name or by number. -/
def ofWord (word : String) : Except DomainError Mode :=
  if word = "voted" ∨ word = "1" then .ok .voted
  else if word = "broadcast" ∨ word = "2" then .ok .broadcast
  else .error (.invalidConfig "mode" ("unknown mode " ++ Text.quoted word))

/-- How many messages in a row a proposal needs before every process holds it: offer, vote
and decision, or the broadcast alone. -/
def deliveryHops : Mode → Nat
  | .voted => 3
  | .broadcast => 1

/-- A mode as a document. -/
def toJson (mode : Mode) : Json :=
  .ofString mode.name

/-- The mode that a document names. -/
def ofJson? (document : Json) : Option Mode := do
  let (word, content) ← document.choice?
  if !Json.isBare content then none
  else if word = "voted" then some .voted
  else if word = "broadcast" then some .broadcast
  else none

end Mode

/-- How a process passes the time between two looks at its inbox. -/
inductive PollStrategy where
  | spin
  | yield
  | sleep (micros : UInt64)
deriving DecidableEq, Inhabited

namespace PollStrategy

/-- A strategy as a document, which is tagged by its kind. -/
def toJson : PollStrategy → Json
  | .spin => .record [("kind", .ofString "spin")]
  | .yield => .record [("kind", .ofString "yield")]
  | .sleep micros => .record [("kind", .ofString "sleep"), ("micros", .ofNat micros.toNat)]

/-- A strategy by its kind; `pause` is the document of its duration, if there is one. -/
def ofKind? (kind : String) (pause : Option Json) : Option PollStrategy :=
  if kind = "spin" then some .spin
  else if kind = "yield" then some .yield
  else if kind = "sleep" then (pause.bind Json.uint64?).map .sleep
  else none

/-- The strategy that a document describes: an object tagged by its kind, whose other
members must be such as can be kept, or an array of the kind and what it needs. The
document lies inside `depth` levels of brackets. -/
def ofJson? (depth : Nat) (document : Json) : Option PollStrategy :=
  if !Json.isRetainable (Json.nestingLimit - depth) document then none
  else match document with
    | .object members =>
      match Json.membersNamed "kind" members, Json.membersNamed "micros" members with
      | [.text (some kind)], pauses =>
        if kind = "sleep" ∧ pauses.length ≠ 1 then none else ofKind? kind pauses.head?
      | _, _ => none
    | .array [.text (some kind)] => ofKind? kind none
    | .array [.text (some kind), pause] =>
      if kind = "sleep" then ofKind? kind (some pause) else none
    | _ => none

end PollStrategy

/-- The settings of one process. -/
structure CoordinatorConfig where
  rank : Rank
  mode : Mode
  worldSize : Nat
  /-- The age up to which a proposal is admitted and from which on it is executed. -/
  windowMicros : UInt64
  poll : PollStrategy
deriving DecidableEq, Inhabited

namespace CoordinatorConfig

/-- The settings of a process that leaves everything but its place at the default. -/
def default (rank : Rank) (worldSize : Nat) : CoordinatorConfig where
  rank
  mode := .voted
  worldSize
  windowMicros := 2000
  poll := .yield

/-- Refuse settings that cannot run; the first fault in this order is reported. -/
def validate (config : CoordinatorConfig) : Except DomainError Unit :=
  if config.worldSize = 0 then
    .error (.invalidConfig "world_size" "must be at least 1")
  else if config.windowMicros = 0 then
    .error (.invalidConfig "time_window_us" "must be positive")
  else if config.worldSize ≤ config.rank.toNat then
    .error (.invalidConfig "rank"
      (config.rank.name ++ " outside world of " ++ toString config.worldSize))
  else .ok ()

/-- Settings as a document. -/
def toJson (config : CoordinatorConfig) : Json :=
  .record [
    ("rank", .ofNat config.rank.toNat),
    ("mode", config.mode.toJson),
    ("world_size", .ofNat config.worldSize),
    ("time_window_us", .ofNat config.windowMicros.toNat),
    ("poll", config.poll.toJson)]

/-- The settings that a document holds. -/
def ofJson? (document : Json) : Option CoordinatorConfig := do
  let fields ← document.fields? ["rank", "mode", "world_size", "time_window_us", "poll"]
  let rank ← fields.required? "rank" Json.uint32?
  let mode ← fields.required? "mode" Mode.ofJson?
  let worldSize ← fields.required? "world_size" Json.size?
  let windowMicros ← fields.required? "time_window_us" Json.uint64?
  let poll ← fields.optional? "poll" .yield (PollStrategy.ofJson? 1)
  return ⟨⟨rank⟩, mode, worldSize, windowMicros, poll⟩

/-- Read settings that can run. -/
def parse (input : String) : Except DomainError CoordinatorConfig :=
  match (Json.parse? input).bind ofJson? with
  | none => .error .invalidEncoding
  | some config =>
    match config.validate with
    | .error cause => .error cause
    | .ok () => .ok config

end CoordinatorConfig

end Concord
