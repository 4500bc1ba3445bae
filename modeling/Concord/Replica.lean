import Concord.Namespace
import Concord.Namespace.Payload

/-!
# Replicas

A replica is one process's copy of the namespace and the executor that keeps it. It logs
every operation carried out, counts those that close a process, and numbers the handles that
it gives for the operations its own process submitted. A refused proposal leaves it as it
was.
-/

namespace Concord

/-- One operation carried out. -/
structure LogEntry where
  id : ProposalId
  createdAt : Timestamp
  tag : OpTag
deriving DecidableEq, Inhabited

namespace LogEntry

/-- An entry as a document. -/
def toJson (entry : LogEntry) : Json :=
  .record [
    ("id", .ofInt entry.id.toInt),
    ("created_at", .ofNat entry.createdAt.toNat),
    ("tag", .ofInt entry.tag.toInt)]

/-- The entry that a document describes. -/
def ofJson? (document : Json) : Option LogEntry := do
  let fields ← document.fields? ["id", "created_at", "tag"]
  let id ← fields.required? "id" Json.int32?
  let createdAt ← fields.required? "created_at" Json.uint64?
  let tag ← fields.required? "tag" Json.int32?
  return ⟨⟨id⟩, ⟨createdAt⟩, ⟨tag⟩⟩

/-- The place of an entry in the global order. -/
def key (entry : LogEntry) : OrderKey :=
  ⟨entry.createdAt, entry.id⟩

end LogEntry

/-- What a process gets back for an operation of its own. -/
structure ObjectHandle where
  serial : Nat
  path : String
deriving DecidableEq, Inhabited

/-- A handle as a document. -/
def ObjectHandle.toJson (handle : ObjectHandle) : Json :=
  .record [("serial", .ofNat handle.serial), ("path", .ofString handle.path)]

/-- One process's copy of the namespace. -/
structure Replica where
  space : Namespace
  log : List LogEntry
  /-- How many processes have closed. -/
  closes : Nat
  /-- How many handles have been given. -/
  handles : Nat

namespace Replica

/-- A replica of the empty namespace. -/
def create : Replica :=
  ⟨.empty, [], 0, 0⟩

/-- The log entry of a proposal that encodes an operation. -/
def entryOf (proposal : Proposal) (operation : Operation) : LogEntry :=
  ⟨proposal.id, proposal.createdAt, operation.tag⟩

/-- Note an operation that has been carried out on the namespace. -/
def note (replica : Replica) (space : Namespace) (proposal : Proposal) (operation : Operation) :
    Option ObjectHandle × Replica :=
  let closes := if operation = .close then replica.closes + 1 else replica.closes
  let log := replica.log ++ [entryOf proposal operation]
  if proposal.isLocal then
    let serial := replica.handles + 1
    (some ⟨serial, operation.path⟩, ⟨space, log, closes, serial⟩)
  else
    (none, ⟨space, log, closes, replica.handles⟩)

/-- Carry out the operation that a proposal encodes. -/
def execute (replica : Replica) (proposal : Proposal) :
    Except ExecutorError (Option ObjectHandle) × Replica :=
  match Payload.decode proposal.tag proposal.payload with
  | .error cause => (.error cause, replica)
  | .ok operation =>
    match replica.space.apply operation with
    | .error cause => (.error (.failed cause.message), replica)
    | .ok space =>
      let (handle, after) := replica.note space proposal operation
      (.ok handle, after)

/-- Replicas as an executor. -/
def executor : Executor Replica ObjectHandle :=
  ⟨execute⟩

/-- What a replica holds, as a document. -/
def toJson (replica : Replica) : Json :=
  .record [
    ("log", .ofList LogEntry.toJson replica.log),
    ("closes", .ofNat replica.closes),
    ("namespace", replica.space.toJson)]

end Replica

end Concord
