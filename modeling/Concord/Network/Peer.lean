import Concord.Judge
import Concord.Network.Bus
import Concord.Voting

/-!
# Peers

A peer is the voting service of one process on the bus. It votes on what others propose,
counts the votes on its own ballot, tells everybody the decision, and keeps what others got
approved or broadcast until it is checked out. Ballots are numbered in the order in which
they are held, and a vote counts only for the number it names.
-/

namespace Concord

/-- A vote under way or decided on an own envelope. -/
structure Ballot where
  id : ProposalId
  number : Nat
  envelope : Bytes
  yes : Nat
  no : Nat
  status : VoteStatus
deriving DecidableEq, Inhabited

/-- The voting service of one process. -/
structure Peer where
  rank : Rank
  ballotsHeld : Nat
  ballot : Option Ballot
  /-- Envelopes of other processes that wait to be checked out. -/
  approved : List Bytes
  finalized : Bool
deriving DecidableEq, Inhabited

namespace Peer

/-- A peer that has done nothing yet. -/
def create (rank : Rank) : Peer :=
  ⟨rank, 0, none, [], false⟩

/-- How many other processes there are. -/
def others (bus : Bus) : Nat :=
  bus.worldSize - 1

/-- Keep an envelope for checkout; bytes that are no envelope are dropped. -/
def surface (peer : Peer) (envelope : Bytes) : Peer :=
  match Envelope.decode envelope with
  | .error _ => peer
  | .ok _ => { peer with approved := peer.approved ++ [envelope] }

/-- Add a vote to a ballot. -/
def addVote (ballot : Ballot) (yes : Bool) : Ballot :=
  if yes then { ballot with yes := ballot.yes + 1 } else { ballot with no := ballot.no + 1 }

/-- Count a vote on the own ballot, and tell everybody once all votes are in. Votes for
another ballot or after the decision are ignored. -/
def countVote (bus : Bus) (peer : Peer) (number : Nat) (yes : Bool) : Bus × Peer :=
  match peer.ballot with
  | none => (bus, peer)
  | some ballot =>
    if ballot.number ≠ number ∨ ballot.status ≠ .inProgress then (bus, peer)
    else
      let counted := addVote ballot yes
      if counted.yes + counted.no < others bus then
        (bus, { peer with ballot := some counted })
      else
        let approved := decide (counted.no = 0)
        let status : VoteStatus := if approved then .approved else .denied
        (bus.broadcast peer.rank (.decision peer.rank number approved ballot.envelope),
          { peer with ballot := some { counted with status } })

/-- Act on one message. -/
def handle (judge : Judge) (bus : Bus) (peer : Peer) : Message → Bus × Peer
  | .propose origin ballot envelope =>
    let (verdict, clock) := judge.judge bus.clock envelope
    let voted := { bus with clock }
    (voted.send peer.rank origin (.vote peer.rank ballot verdict.isAccept), peer)
  | .vote _ ballot yes => countVote bus peer ballot yes
  | .decision _ _ approved envelope =>
    (bus, if approved then peer.surface envelope else peer)
  | .broadcast _ envelope => (bus, peer.surface envelope)

/-- Act on several messages in turn. -/
def handleAll (judge : Judge) (bus : Bus) (peer : Peer) : List (Rank × Message) → Bus × Peer
  | [] => (bus, peer)
  | (_, message) :: rest =>
    let (after, changed) := handle judge bus peer message
    handleAll judge after changed rest

/-- Act on everything that is due. -/
def progress (judge : Judge) (bus : Bus) (peer : Peer) : Except VotingError Unit × Bus × Peer :=
  if peer.finalized then (.error .finalized, bus, peer)
  else
    let (messages, polled) := bus.poll peer.rank
    (.ok (), handleAll judge polled peer messages)

/-- Hold a ballot on an envelope. Where nobody else votes it is approved at once. -/
def submitVote (bus : Bus) (peer : Peer) (id : ProposalId) (envelope : Bytes) :
    Except VotingError Unit × Bus × Peer :=
  let outstanding := peer.ballot.filter fun ballot => decide (ballot.status = .inProgress)
  match peer.finalized, outstanding with
  | true, _ => (.error .finalized, bus, peer)
  | false, some ballot => (.error (.busy ballot.id), bus, peer)
  | false, none =>
    let number := peer.ballotsHeld + 1
    let held := fun (status : VoteStatus) =>
      { peer with ballotsHeld := number, ballot := some ⟨id, number, envelope, 0, 0, status⟩ }
    if others bus = 0 then (.ok (), bus, held .approved)
    else (.ok (), bus.broadcast peer.rank (.propose peer.rank number envelope), held .inProgress)

/-- Send an envelope that needs no vote to every other process. -/
def submitBroadcast (bus : Bus) (peer : Peer) (envelope : Bytes) :
    Except VotingError Unit × Bus :=
  if peer.finalized then (.error .finalized, bus)
  else (.ok (), bus.broadcast peer.rank (.broadcast peer.rank envelope))

/-- How the own ballot stands, if it is about the given slot. -/
def status (peer : Peer) (id : ProposalId) : VoteStatus :=
  match peer.ballot with
  | none => .unknown
  | some ballot => if ballot.id = id then ballot.status else .unknown

/-- Take out the next envelope that another process got approved or broadcast. -/
def checkout (peer : Peer) : Option Bytes × Peer :=
  match peer.approved with
  | [] => (none, peer)
  | envelope :: approved => (some envelope, { peer with approved })

/-- Forget the own ballot. -/
def release (peer : Peer) : Peer :=
  { peer with ballot := none }

/-- Take no further part in the voting. -/
def finalize (peer : Peer) : Peer :=
  { peer with finalized := true }

end Peer

end Concord
