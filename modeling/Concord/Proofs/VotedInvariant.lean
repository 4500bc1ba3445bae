import Concord.Proofs.Arrivals
import Concord.Proofs.VotedCallStages
import Concord.Proofs.Holdings

/-!
# The invariant of voted mode

Every process of a cluster in voted mode is at a stage of its call and holds its proposals in
order. What it has issued are the proposals that were approved, each made after the one before it;
what it has collected of another are the first of what that one has issued. `VotedInvariant` says
so of all processes at once, and every step keeps it, whatever time passes, whatever is refused
and whatever fails.
-/

namespace Concord

/-! ## A clock that stands still unless it is set -/

/-- Reading a clock that stands still leaves it as it is. -/
theorem Clock.read_still {clock : Clock} (still : clock.stride = 0) : clock.read.2 = clock := by
  obtain ⟨⟨micros⟩, stride⟩ := clock
  cases still
  simp [Clock.read]

namespace Network

/-- Whether reading the clock leaves it as it is. -/
def Still (network : Network) : Prop :=
  network.bus.clock.stride = 0

/-- So does judging by it. -/
theorem clock_staleness (window : UInt64) {clock : Clock} (still : clock.stride = 0)
    (envelope : Bytes) : ((Judge.staleness window).judge clock envelope).2 = clock := by
  simp only [Judge.staleness]
  split
  · rfl
  · split <;> exact Clock.read_still still

/-- Sending leaves a clock that stands still as it is. -/
theorem Still.clock_send {network : Network} (still : network.Still) (lawful : network.Lawful)
    {rank receiver : Rank} {message : Message} {rest : List (Rank × Message)}
    (next : (network.stations rank).outbox = (receiver, message) :: rest) :
    (network.send rank receiver message rest).bus.clock = network.bus.clock := by
  have queued : (receiver, message) ∈ (network.stations rank).outbox := by
    rw [next]
    exact List.mem_cons_self
  have linked := lawful.addressed queued
  have read : (network.send rank receiver message rest).bus.clock = network.bus.clock.read.2 :=
    Bus.clock_send lawful.sound linked.1 linked.2.1 message
  rw [read, Clock.read_still still]

/-- So does acting on a message. -/
theorem Still.clock_handle {network : Network} (still : network.Still) (window : UInt64)
    (rank sender : Rank) (message : Message) (rest : List (Rank × Message)) :
    (network.handle (.staleness window) rank sender message rest).bus.clock =
      network.bus.clock := by
  cases message with
  | propose origin number envelope => exact clock_staleness window still envelope
  | _ => rfl

/-- So does answering a request. -/
theorem Still.clock_serve {network : Network} (still : network.Still) (rank : Rank)
    (request : Request) : (network.serve rank request).bus.clock = network.bus.clock := by
  cases request with
  | readClock => exact Clock.read_still still
  | progress =>
    simp only [Network.serve, put_bus, Station.serve]
    split
    · rfl
    · rcases Bus.clock_poll network.bus (network.stations rank).peer.rank with same | read
      · exact same
      · rw [read, Clock.read_still still]
  | _ => rfl

end Network

/-! ## The account of a process -/

/-- The proposal that a process has taken out and has no answer for. -/
def Node.inHand {State Handle : Type} (node : Node State Handle) : List Proposal :=
  node.call.elim [] Control.inHand

/-- How a submission ended, if this is a reply to one. -/
def outcome? {Handle : Type} : Except CoordinatorError (Reply Handle) → Option Bool
  | .ok (.submitted outcome) => some outcome.isCommitted
  | _ => none

/-- The submissions that are over, each with whether it was approved, and the one that is under
way. -/
structure SubmissionHistory {Handle : Type} (begun : List Proposal)
    (replies : List (Except CoordinatorError (Reply Handle))) (past : List (Proposal × Bool))
    (settled : List Proposal) (offered : Option Proposal) : Prop where
  settled : settled = (past.filter Prod.snd).map Prod.fst
  begun : begun.map Proposal.onBallot = past.map Prod.fst ++ offered.toList
  /-- Where nothing has failed, the replies tell what was approved. -/
  told : (∀ reply ∈ replies, reply.toBool = true) →
    replies.filterMap outcome? = past.map Prod.snd

/-- What can be said of a process in voted mode. -/
structure VotedAccount {State Handle : Type} (everyone : List Rank) (window : UInt64)
    (rank : Rank) (now : Timestamp) (finalized : Bool) (ballot : Option Ballot)
    (view : ProcessView State Handle) (past : List (Proposal × Bool)) (settled : List Proposal)
    (offered : Option Proposal) (issued entered : List Proposal) : Prop where
  mode : view.node.coordinator.config.mode = .voted
  window : view.node.coordinator.config.windowMicros = window
  slotted : ∀ proposal ∈ settled, proposal.id = .ofRank rank
  started : ∀ proposal ∈ settled, proposal.state = .inProgress
  fits : ∀ proposal ∈ settled, proposal.payload.length < 2 ^ 64
  ascending : settled.Pairwise fun first second => first.createdAt < second.createdAt
  callStage : VotedCallStage rank now finalized ballot settled view.node.call offered issued entered
  submissionHistory : SubmissionHistory view.begun view.replies past settled offered
  sent : view.issued = (settled ++ issued).map Envelope.encode
  own : (Proposal.underSlot rank view.entered).map Proposal.bare =
    (settled ++ entered).map Proposal.bare
  foreign : ∀ other, other ≠ rank →
    (Proposal.underSlot other view.entered).map Proposal.bare =
      (view.collected.filter (Envelope.isUnder (.ofRank other))).filterMap Envelope.content?
  known : ∀ entry ∈ view.entered, ∃ other ∈ everyone, entry.id = .ofRank other
  slotOrder :
    SlotOrder view.entered view.handed view.node.inHand view.node.coordinator.queue.entries
      view.node.coordinator.ledger.entries

section Offered

variable {Handle : Type} {rank : Rank} {now : Timestamp} {finalized : Bool}
  {ballot : Option Ballot} {settled : List Proposal} {call : Option (Control Handle)}
  {offered : Option Proposal} {issued entered : List Proposal}

/-- Nothing but the proposal of a submission can be approved while it is under way. -/
theorem VotedCallStage.made
    (callStage : VotedCallStage rank now finalized ballot settled call offered issued entered) :
    (issued = [] ∧ entered = []) ∨ ∃ proposal, offered = some proposal ∧
      Made rank now settled proposal ∧ (issued = [] ∨ issued = [proposal]) ∧
      (entered = [] ∨ entered = [proposal]) := by
  have some : ∀ {proposal status}, Held rank now finalized ballot settled proposal status →
      ∀ {own : List Proposal}, own = [] ∨ own = [proposal] →
      ∃ other, Option.some proposal = Option.some other ∧ Made rank now settled other ∧
        (approvedBy status proposal = [] ∨ approvedBy status proposal = [other]) ∧
        (own = [] ∨ own = [other]) := by
    intro proposal status held own shape
    refine ⟨proposal, rfl, held.toMade, ?_, shape⟩
    unfold approvedBy
    split
    · exact .inr rfl
    · exact .inl rfl
  have drained : ∀ {cause offered own}, Drains rank now finalized ballot settled cause offered own →
      (own = [] ∧ own = []) ∨ ∃ proposal, offered = Option.some proposal ∧
        Made rank now settled proposal ∧ (own = [] ∨ own = [proposal]) ∧
        (own = [] ∨ own = [proposal]) := by
    intro cause offered own drains
    cases drains with
    | tick quiet => exact .inl ⟨rfl, rfl⟩
    | submission held aged => exact .inr (some held (.inr rfl))
  cases callStage with
  | resting quiet => exact .inl ⟨rfl, rfl⟩
  | returned plain quiet => exact .inl ⟨rfl, rfl⟩
  | finalizing quiet => exact .inl ⟨rfl, rfl⟩
  | offering made quiet => exact .inl ⟨rfl, rfl⟩
  | awaitingVotes held => exact .inr (some held (.inl rfl))
  | readingStatus held => exact .inr (some held (.inl rfl))
  | resolving held saw => exact .inr (some held (.inl rfl))
  | releasingDenied held => exact .inl ⟨rfl, rfl⟩
  | aging held => exact .inr (some held (.inr rfl))
  | awaitingAge held => exact .inr (some held (.inr rfl))
  | absorbingAge held => exact .inr (some held (.inr rfl))
  | awaitingDrain drains => exact drained drains
  | absorbingDrain drains => exact drained drains
  | draining drains => exact drained drains
  | executing records proposal drains => exact drained drains
  | confirming result held aged => exact .inr (some held (.inr rfl))
  | rereadingStatus result held aged => exact .inr (some held (.inr rfl))
  | releasingCommitted result held aged => exact .inr (some held (.inr rfl))
  | concluded ended =>
    refine .inr ⟨_, rfl, ended.toMade, ?_⟩
    cases ended.tells with
    | committed result => exact ⟨.inr rfl, .inr rfl⟩
    | denied => exact ⟨.inl rfl, .inl rfl⟩
    | refused cause => exact ⟨.inl rfl, .inl rfl⟩
    | failed cause => exact ⟨.inr rfl, .inr rfl⟩

end Offered

/-- Rules under which every process judges by age, and stamps what it submits with the time of
one clock that never goes back. -/
structure Rules.Voted {State Handle : Type} (rules : Rules State Handle) (window : UInt64) :
    Prop where
  judged : ∀ rank, rules.judge rank = .staleness window
  forward : ∀ {cluster clock}, rules.passes cluster clock →
    cluster.network.bus.clock.time ≤ clock.time ∧ clock.stride = 0
  stamped : ∀ {cluster rank proposal}, rules.submits cluster rank proposal →
    proposal.id = .ofRank rank ∧ proposal.state = .initial ∧
      proposal.createdAt = cluster.network.bus.clock.time ∧
      proposal.payload.length < 2 ^ 64

/-- The proposal in an envelope, if it is one. -/
def Envelope.proposal? (envelope : Bytes) : Option Proposal :=
  match Envelope.decode envelope with
  | .error _ => none
  | .ok proposal => some proposal

/-- The proposals of a process that have been approved. -/
def Network.approvals (network : Network) (rank : Rank) : List Proposal :=
  (network.issued rank).filterMap Envelope.proposal?

namespace VotedAccount

variable {State Handle : Type} {everyone : List Rank} {window : UInt64} {rank : Rank}
  {now : Timestamp} {finalized : Bool} {ballot : Option Ballot} {view : ProcessView State Handle}
  {past : List (Proposal × Bool)} {settled issued entered : List Proposal}
  {offered : Option Proposal}

/-- Everything that a process has got approved is its own, fits into an envelope, and was put
to the vote. -/
theorem issued_made (account : VotedAccount everyone window rank now finalized ballot view past
      settled offered issued entered) {proposal : Proposal}
    (member : proposal ∈ settled ++ issued) :
    proposal.id = .ofRank rank ∧ proposal.payload.length < 2 ^ 64 ∧
      proposal.state = .inProgress := by
  rcases List.mem_append.1 member with old | current
  · exact ⟨account.slotted proposal old, account.fits proposal old, account.started proposal old⟩
  · rcases account.callStage.made with ⟨rfl, _⟩ | ⟨own, _, made, rfl | rfl, _⟩
    · exact absurd current List.not_mem_nil
    · exact absurd current List.not_mem_nil
    · rw [List.mem_singleton.1 current]
      exact ⟨made.slot, made.fits, made.started⟩

/-- What a process got approved was made one after the other. -/
theorem issued_ascending (account : VotedAccount everyone window rank now finalized ballot view
      past settled offered issued entered) :
    (settled ++ issued).Pairwise fun first second => first.createdAt < second.createdAt := by
  rcases account.callStage.made with ⟨rfl, _⟩ | ⟨own, _, made, rfl | rfl, _⟩
  · rw [List.append_nil]
    exact account.ascending
  · rw [List.append_nil]
    exact account.ascending
  · refine List.pairwise_append.2 ⟨account.ascending, List.pairwise_singleton _ _, ?_⟩
    intro first member second isOwn
    rw [List.mem_singleton.1 isOwn]
    exact made.past first member

/-- What a process got approved is what was settled before its call and what the call has issued. -/
theorem approvals {network : Network} (account : VotedAccount everyone window rank now finalized
      ballot view past settled offered issued entered) (same : view.issued = network.issued rank) :
    network.approvals rank = settled ++ issued := by
  have read : ∀ proposal ∈ settled ++ issued,
      (Envelope.proposal? ∘ Envelope.encode) proposal = some proposal := by
    intro proposal member
    simp only [Function.comp_apply, Envelope.proposal?,
      Envelope.decode_encode_of_fits (account.issued_made member).2.1]
  rw [Network.approvals, ← same, account.sent, List.filterMap_map, List.filterMap_congr read]
  exact List.filterMap_some

/-- Going on with the same coordinator. -/
theorem lead (account : VotedAccount everyone window rank now finalized ballot view past settled
      offered issued entered) {later : Bool} {ballotAfter : Option Ballot} {state : State}
    {call : Option (Control Handle)}
    (callStage : VotedCallStage rank now later ballotAfter settled call offered issued entered)
    (inHand : Node.inHand ⟨view.node.coordinator, state, call⟩ = view.node.inHand) :
    VotedAccount everyone window rank now later ballotAfter
      { view with node := ⟨view.node.coordinator, state, call⟩ } past settled offered issued
      entered :=
  { account with
    callStage
    slotOrder := by
      have slotOrder := account.slotOrder
      rw [← inHand] at slotOrder
      exact slotOrder }

end VotedAccount

/-- What can be said of a cluster in voted mode. -/
structure VotedInvariant {State Handle : Type} (worldSize : Nat) (window : UInt64)
    (cluster : Cluster State Handle) : Prop where
  still : cluster.network.Still
  accounts : ∀ rank, ∃ past settled offered issued entered,
    VotedAccount (Rank.all worldSize) window rank cluster.network.bus.clock.time
      (cluster.network.stations rank).peer.finalized
      (cluster.network.stations rank).peer.ballot (cluster.view rank) past settled offered
      issued entered

namespace VotedInvariant

variable {State Handle : Type} {worldSize : Nat} {window : UInt64}
  {cluster : Cluster State Handle}

/-- A cluster in voted mode opens with nothing submitted and nothing approved. -/
theorem opening (worldSize : Nat) (clock : Clock) (seed : Seed) (jitter : Jitter)
    {config : Rank → CoordinatorConfig} (state : Rank → State) (still : clock.stride = 0)
    (mode : ∀ rank, (config rank).mode = .voted)
    (width : ∀ rank, (config rank).windowMicros = window) :
    VotedInvariant worldSize window
      (Cluster.opening worldSize clock seed jitter config state : Cluster State Handle) where
  still
  accounts := by
    intro rank
    refine ⟨[], [], none, [], [], ?_⟩
    exact {
      mode := mode rank
      window := width rank
      slotted := fun _ member => absurd member List.not_mem_nil
      started := fun _ member => absurd member List.not_mem_nil
      fits := fun _ member => absurd member List.not_mem_nil
      ascending := .nil
      callStage := .resting ⟨nofun, fun _ member => absurd member List.not_mem_nil⟩
      submissionHistory := ⟨rfl, rfl, fun _ => rfl⟩
      sent := rfl
      own := rfl
      foreign := fun _ _ => rfl
      known := fun _ member => absurd member List.not_mem_nil
      slotOrder := .empty }

/-- What the processes issue are their approvals. -/
theorem sends (invariant : VotedInvariant worldSize window cluster) :
    cluster.network.Sends cluster.network.approvals where
  issued := by
    intro rank
    obtain ⟨_, settled, _, issued, _, account⟩ := invariant.accounts rank
    rw [account.approvals rfl]
    exact account.sent
  slotted := by
    intro rank proposal member
    obtain ⟨_, settled, _, issued, _, account⟩ := invariant.accounts rank
    rw [account.approvals rfl] at member
    exact (account.issued_made member).1
  fits := by
    intro rank proposal member
    obtain ⟨_, settled, _, issued, _, account⟩ := invariant.accounts rank
    rw [account.approvals rfl] at member
    exact (account.issued_made member).2.1

/-- Approvals were put to the vote one after the other. -/
theorem approvals_ascending (invariant : VotedInvariant worldSize window cluster)
    (rank : Rank) : (cluster.network.approvals rank).Pairwise
      fun first second => first.createdAt < second.createdAt := by
  obtain ⟨_, settled, _, issued, _, account⟩ := invariant.accounts rank
  rw [account.approvals rfl]
  exact account.issued_ascending

/-- Where one process changes, its account is all that has to be shown. -/
theorem of_view (invariant : VotedInvariant worldSize window cluster)
    {after : Cluster State Handle} (clock : after.network.bus.clock = cluster.network.bus.clock)
    (rank : Rank) (views : ∀ other, other ≠ rank → after.view other = cluster.view other)
    (stations : ∀ other, other ≠ rank →
      (after.network.stations other).peer = (cluster.network.stations other).peer)
    (own : ∃ past settled offered issued entered,
      VotedAccount (Rank.all worldSize) window rank cluster.network.bus.clock.time
        (after.network.stations rank).peer.finalized (after.network.stations rank).peer.ballot
        (after.view rank) past settled offered issued entered) :
    VotedInvariant worldSize window after where
  still := by
    rw [Network.Still, clock]
    exact invariant.still
  accounts := by
    intro other
    rw [clock]
    by_cases here : other = rank
    · subst here
      exact own
    · rw [views other here, stations other here]
      exact invariant.accounts other

end VotedInvariant

end Concord
