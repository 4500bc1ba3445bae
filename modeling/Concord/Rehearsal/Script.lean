import Concord.Coordinator.Request

/-!
# Scripted voting services

A script decides beforehand how a voting service behaves: the statuses that ballots show,
the envelopes that arrive and when, and the calls that fail. It keeps count of the calls and
of what was submitted, so that a rehearsal can be examined afterwards.
-/

namespace Concord.Rehearsal

/-- The calls of a voting service. -/
inductive Method where
  | progress
  | submitVote
  | submitBroadcast
  | readStatus
  | checkout
  | release
  | finalize
deriving DecidableEq

/-- An envelope that becomes available from a call of `progress` on, and at a time. -/
structure Delivery where
  envelope : Bytes
  fromCall : Nat
  fromTime : Timestamp

/-- The failure of one call, by its number among the calls of its method. -/
structure Failure where
  method : Method
  call : Nat
  error : VotingError

/-- An envelope that was submitted. -/
structure Submitted where
  method : Method
  id : ProposalId
  envelope : Bytes

/-- A scripted voting service. -/
structure Script where
  clock : Clock
  /-- The statuses still to be shown; the last one shown is `status`. -/
  statuses : List VoteStatus
  status : VoteStatus
  deliveries : List Delivery
  failures : List Failure
  /-- How many more times the service can make progress. -/
  fuel : Nat
  incoming : List Bytes
  counts : List (Method × Nat)
  submitted : List Submitted

namespace Script

/-- How often a method has been called. -/
def count (script : Script) (method : Method) : Nat :=
  (script.counts.lookup method).getD 0

/-- Count one more call in a list of counts. -/
def increment (method : Method) : List (Method × Nat) → List (Method × Nat)
  | [] => [(method, 1)]
  | (known, number) :: rest =>
    if known = method then (known, number + 1) :: rest else (known, number) :: increment method rest

/-- Count a call, and find the failure that the script has for it. -/
def enter (script : Script) (method : Method) : Script × Option VotingError :=
  let counted := { script with counts := increment method script.counts }
  let number := counted.count method
  let failure := counted.failures.find? fun failure =>
    decide (failure.method = method) && decide (failure.call = number)
  (counted, failure.map Failure.error)

/-- Make every envelope available that is due. -/
def deliver (script : Script) : Script :=
  let isDue := fun (delivery : Delivery) =>
    decide (delivery.fromCall ≤ script.count .progress) &&
      decide (delivery.fromTime ≤ script.clock.time)
  { script with
    incoming := script.incoming ++ (script.deliveries.filter isDue).map Delivery.envelope
    deliveries := script.deliveries.filter fun delivery => !isDue delivery }

/-- Make progress, as long as there is fuel. -/
def progress (script : Script) : Except VotingError Unit × Script :=
  match script.enter .progress with
  | (entered, some error) => (.error error, entered)
  | (entered, none) =>
    match entered.fuel with
    | 0 => (.error (.transport "fuel exhausted"), entered)
    | fuel + 1 => (.ok (), { entered with fuel }.deliver)

/-- Take note of a submitted envelope. -/
def submit (script : Script) (method : Method) (id : ProposalId) (envelope : Bytes) :
    Except VotingError Unit × Script :=
  match script.enter method with
  | (entered, some error) => (.error error, entered)
  | (entered, none) =>
    (.ok (), { entered with submitted := entered.submitted ++ [⟨method, id, envelope⟩] })

/-- Show the next status, or the last one again. -/
def readStatus (script : Script) : Except VotingError VoteStatus × Script :=
  match script.enter .readStatus with
  | (entered, some error) => (.error error, entered)
  | (entered, none) =>
    match entered.statuses with
    | [] => (.ok entered.status, entered)
    | status :: statuses => (.ok status, { entered with status, statuses })

/-- Give the next available envelope. -/
def checkout (script : Script) : Except VotingError (Option Bytes) × Script :=
  match script.enter .checkout with
  | (entered, some error) => (.error error, entered)
  | (entered, none) =>
    match entered.incoming with
    | [] => (.ok none, entered)
    | envelope :: incoming => (.ok (some envelope), { entered with incoming })

/-- Start a proposal's life and submit it. One whose life has begun is refused by its own
process, so no call is counted; a refusal by the service comes after the start. -/
def offer (script : Script) (method : Method) (state : ProposalState) (proposal : Proposal) :
    Except VotingError Unit × Proposal × Script :=
  match proposal.start state with
  | .error cause => (.error cause, proposal, script)
  | .ok started =>
    let (answer, after) := script.submit method started.id (Envelope.encode started)
    (answer, started, after)

/-- Do nothing more than to count the call. -/
def acknowledge (script : Script) (method : Method) : Except VotingError Unit × Script :=
  match script.enter method with
  | (entered, some error) => (.error error, entered)
  | (entered, none) => (.ok (), entered)

end Script

end Concord.Rehearsal
