import Concord.Coordinator.Stage
import Concord.Json.Decode
import Concord.Namespace.Payload
import Concord.Network.Message
import Concord.Proposal.Draft
import Concord.Rehearsal.Script

/-!
# Rehearsals as documents

What a rehearsal is given and what it shows, as documents. A proposal is described by its
slot, its time, its tag and its payload, which may also be given as an operation or as a
repeated byte; one without a time is stamped when it is used.
-/

namespace Concord

/-! ## What a rehearsal shows -/

/-- A place in the order as a document. -/
def OrderKey.toJson (key : OrderKey) : Json :=
  .record [("created_at", .ofNat key.createdAt.toNat), ("id", .ofInt key.id.toInt)]

/-- A proposal as a document, with its payload in base sixteen. -/
def Proposal.toJson (proposal : Proposal) : Json :=
  .record [
    ("id", .ofInt proposal.id.toInt),
    ("state", .ofString proposal.state.name),
    ("at", .ofNat proposal.createdAt.toNat),
    ("local", .bool proposal.isLocal),
    ("tag", .ofInt proposal.tag.toInt),
    ("payload", .ofString (Bytes.toHex proposal.payload))]

/-- The record of an executed proposal as a document. -/
def Executed.toJson {Handle : Type} (encode : Handle → Json) (record : Executed Handle) : Json :=
  .record [
    ("key", record.key.toJson),
    ("op_tag", .ofInt record.tag.toInt),
    ("is_local", .bool record.isLocal),
    ("handle", .ofOption encode record.handle)]

/-- The status of a ballot, and the state of the proposal that it stands for. -/
def VoteStatus.toJson (status : VoteStatus) : Json :=
  .record [("status", .ofString status.name), ("state", .ofString status.toState.name)]

/-- How a submission ended, as a document. -/
def SubmitOutcome.toJson {Handle : Type} (encode : Handle → Json) :
    SubmitOutcome Handle → Json
  | .denied => .ofString "Denied"
  | .committed handle => .record [("Committed", .record [("result", .ofOption encode handle)])]

/-- A message as a document, with its envelope in base sixteen. -/
def Message.toJson : Message → Json
  | .propose origin ballot envelope =>
    .array [.ofString "propose", .ofNat origin.toNat, .ofNat ballot,
      .ofString (Bytes.toHex envelope)]
  | .vote voter ballot yes =>
    .array [.ofString "vote", .ofNat voter.toNat, .ofNat ballot, .bool yes]
  | .decision origin ballot approved envelope =>
    .array [.ofString "decision", .ofNat origin.toNat, .ofNat ballot, .bool approved,
      .ofString (Bytes.toHex envelope)]
  | .broadcast origin envelope =>
    .array [.ofString "broadcast", .ofNat origin.toNat, .ofString (Bytes.toHex envelope)]

/-! ## Fields of a request -/

namespace Json

/-- A field that has to be there. -/
def field? {Value : Type} (request : Json) (name : String) (decode : Json → Option Value) :
    Option Value :=
  (request.get? name).bind decode

/-- A field that may be missing, but not wrong. -/
def optionalField? {Value : Type} (request : Json) (name : String)
    (decode : Json → Option Value) : Option (Option Value) :=
  match request.get? name with
  | none => some none
  | some document => (decode document).map some

/-- A field with a default. -/
def fieldOr? {Value : Type} (request : Json) (name : String) (default : Value)
    (decode : Json → Option Value) : Option Value :=
  (request.optionalField? name decode).map fun value => value.getD default

/-- The items of an array, undecoded. -/
def items? : Json → Option (List Json)
  | .array items => some items
  | _ => none

/-- Bytes in base sixteen. -/
def hex? (document : Json) : Option Bytes :=
  document.string?.bind Bytes.ofHex?

/-- A byte and how often it is repeated. -/
def filler? : Json → Option Bytes
  | .array [byte, count] => do
    let byte ← byte.uint8?
    let count ← count.size?
    return List.replicate count byte
  | _ => none

/-- A rank by its number. -/
def rank? (document : Json) : Option Rank :=
  document.uint32?.map Rank.mk

/-- A slot by its number. -/
def id? (document : Json) : Option ProposalId :=
  document.int32?.map ProposalId.mk

/-- An instant in microseconds. -/
def time? (document : Json) : Option Timestamp :=
  document.uint64?.map Timestamp.mk

/-- The one of some values whose name a text gives. -/
def named? {Value : Type} (values : List Value) (name : Value → String) (document : Json) :
    Option Value := do
  let wanted ← document.string?
  values.find? fun value => decide (name value = wanted)

/-- A state by its name. -/
def state? : Json → Option ProposalState :=
  named? [.inProgress, .approved, .denied, .readyExecute, .executed, .initial] ProposalState.name

/-- A status by its name. -/
def status? : Json → Option VoteStatus :=
  named? [.inProgress, .approved, .denied, .unknown] VoteStatus.name

end Json

/-! ## Proposals and envelopes -/

/-- The draft that a document describes. Its slot may be left out if there is a default. -/
def Draft.ofJson? (defaultId : Option ProposalId) (document : Json) : Option Draft := do
  let givenId ← document.optionalField? "id" Json.id?
  let id ← givenId.or defaultId
  let createdAt ← document.optionalField? "at" Json.time?
  let operation ← document.optionalField? "nsop" Operation.ofJson?
  let given ← document.optionalField? "payload" Json.hex?
  let filled ← document.optionalField? "fill" Json.filler?
  let payload := (operation.map Payload.encode).getD ((given.or filled).getD [])
  let code ← document.optionalField? "tag" Json.int32?
  let tag := (code.map OpTag.mk).getD ((operation.map Operation.tag).getD ⟨0⟩)
  let state ← document.fieldOr? "state" .initial Json.state?
  let isLocal ← document.fieldOr? "local" false Json.bool?
  return ⟨⟨id, state, createdAt.getD .zero, isLocal, tag, payload⟩, createdAt⟩

/-- The proposal that a document describes; the clock is read only if it has no time. -/
def Proposal.ofJson? (defaultId : Option ProposalId) (clock : Clock) (document : Json) :
    Option (Proposal × Clock) :=
  (Draft.ofJson? defaultId document).map fun draft => draft.stamp clock

/-- The proposals that documents describe, in turn. -/
def Proposal.listOfJson? (clock : Clock) : List Json → Option (List Proposal × Clock)
  | [] => some ([], clock)
  | document :: rest => do
    let (proposal, after) ← ofJson? none clock document
    let (others, final) ← listOfJson? after rest
    return (proposal :: others, final)

/-- An envelope: bytes in base sixteen, or those of a proposal. -/
def Envelope.ofJson? (defaultId : Option ProposalId) (clock : Clock) (document : Json) :
    Option (Bytes × Clock) :=
  match document with
  | .text _ => document.hex?.map fun bytes => (bytes, clock)
  | _ => (Proposal.ofJson? defaultId clock document).map fun (proposal, after) =>
    (encode proposal, after)

/-- The message that a document describes. -/
def Message.ofJson? (clock : Clock) (document : Json) : Option (Message × Clock) :=
  match document with
  | .array [.text (some "propose"), origin, ballot, envelope] => do
    let (bytes, after) ← Envelope.ofJson? none clock envelope
    return (.propose (← origin.rank?) (← ballot.size?) bytes, after)
  | .array [.text (some "vote"), voter, ballot, yes] => do
    return (.vote (← voter.rank?) (← ballot.size?) (← yes.bool?), clock)
  | .array [.text (some "decision"), origin, ballot, approved, envelope] => do
    let (bytes, after) ← Envelope.ofJson? none clock envelope
    return (.decision (← origin.rank?) (← ballot.size?) (← approved.bool?) bytes, after)
  | .array [.text (some "broadcast"), origin, envelope] => do
    let (bytes, after) ← Envelope.ofJson? none clock envelope
    return (.broadcast (← origin.rank?) bytes, after)
  | _ => none

/-! ## Scripts -/

namespace Rehearsal

/-- The failure that a word asks for; a word without a meaning of its own is the reason of a
failed transport. -/
def scriptedError (word : String) : VotingError :=
  match word with
  | "finalized" => .finalized
  | "busy" => .busy ⟨-7⟩
  | "malformed" => .malformed (.unknownState 9)
  | _ => .transport word

/-- The methods of a voting service. -/
def Method.all : List Method :=
  [.progress, .submitVote, .submitBroadcast, .readStatus, .checkout, .release, .finalize]

/-- A failure: the method by its name, the number of the call and what goes wrong. -/
def Failure.ofJson? (name : Method → String) : Json → Option Failure
  | .array [method, call, word] => do
    let method ← Json.named? Method.all name method
    let call ← call.size?
    let word ← word.string?
    return ⟨method, call, scriptedError word⟩
  | _ => none

namespace Script

/-- Add the delivery that a document describes. -/
def addDelivery? (script : Script) (document : Json) : Option Script := do
  let (envelope, clock) ← (document.get? "env").bind (Envelope.ofJson? none script.clock)
  let fromCall ← document.fieldOr? "call" 0 Json.size?
  let fromTime ← document.fieldOr? "time" .zero Json.time?
  return { script with
    clock
    deliveries := script.deliveries ++ [⟨envelope, fromCall, fromTime⟩] }

/-- The script that a request describes, with given names of the methods and a given clock. -/
def ofJson? (name : Method → String) (clock : Clock) (request : Json) : Option Script := do
  let statuses ← request.fieldOr? "statuses" [] (Json.list? Json.status?)
  let failures ← request.fieldOr? "fail" [] (Json.list? (Failure.ofJson? name))
  let fuel ← request.fieldOr? "fuel" 2000 Json.size?
  let deliveries ← request.fieldOr? "deliver" [] Json.items?
  let script : Script := {
    clock, statuses, failures, fuel
    status := .unknown, deliveries := [], incoming := [], counts := [], submitted := [] }
  deliveries.foldlM addDelivery? script

/-- How often each method has been called, as a document with the given names. -/
def countsJson (name : Method → String) (script : Script) : Json :=
  .record (script.counts.map fun (method, count) => (name method, .ofNat count))

/-- What was submitted, as a document. -/
def submittedJson (script : Script) : Json :=
  .ofList (fun (entry : Submitted) =>
    .array [
      .ofString (if entry.method = .submitVote then "vote" else "broadcast"),
      .ofInt entry.id.toInt,
      .ofString (Bytes.toHex entry.envelope)]) script.submitted

end Script

end Rehearsal

end Concord
