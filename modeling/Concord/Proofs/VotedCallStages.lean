import Concord.Proofs.SlotOrder
import Concord.Proofs.ProcessViews

/-!
# Stages of a call in voted mode

In voted mode a process is between submissions, or it has put a proposal to the vote and waits
for the votes, for its age or for its execution. `VotedCallStage` lists the stages with what each
says of the own ballot: whether the proposal has been approved, and whether it has entered the
own ledger yet. Whatever was approved before is older than the proposal of the submission, and
older than the clock where none is under way.
-/

namespace Concord

/-- A proposal as it is put to the vote. -/
def Proposal.onBallot (proposal : Proposal) : Proposal :=
  { proposal with state := .inProgress }

/-- A process that has put nothing to the vote that is undecided; `settled` was approved. -/
structure Quiet (now : Timestamp) (ballot : Option Ballot) (settled : List Proposal) : Prop where
  decided : ∀ {held}, ballot = some held → held.status ≠ .inProgress
  past : ∀ earlier ∈ settled, earlier.createdAt < now

/-- A proposal that is put to the vote by a process. -/
structure Made (rank : Rank) (now : Timestamp) (settled : List Proposal) (proposal : Proposal) :
    Prop where
  slot : proposal.id = .ofRank rank
  started : proposal.state = .inProgress
  /-- A length is a 64-bit number. -/
  fits : proposal.payload.length < 2 ^ 64
  made : proposal.createdAt ≤ now
  past : ∀ earlier ∈ settled, earlier.createdAt < proposal.createdAt

/-- A proposal that is on the ballot of a process. -/
structure Held (rank : Rank) (now : Timestamp) (finalized : Bool) (ballot : Option Ballot)
    (settled : List Proposal) (proposal : Proposal) (status : VoteStatus) : Prop
    extends Made rank now settled proposal where
  active : finalized = false
  known : status ≠ .unknown
  held : ∃ number yes no,
    ballot = some ⟨proposal.id, number, Envelope.encode proposal, yes, no, status⟩

/-- What the reply to a submission says of what has been approved for it. -/
inductive Tells {Handle : Type} (proposal : Proposal) :
    Except CoordinatorError (Reply Handle) → List Proposal → Prop where
  | committed (result : Option Handle) :
      Tells proposal (.ok (.submitted (.committed result))) [proposal]
  | denied : Tells proposal (.ok (.submitted .denied)) []
  | refused (cause : CoordinatorError) : Tells proposal (.error cause) []
  /-- Something failed after the approval. -/
  | failed (cause : CoordinatorError) : Tells proposal (.error cause) [proposal]

/-- A submission that has its reply. -/
structure Over {Handle : Type} (rank : Rank) (now : Timestamp) (ballot : Option Ballot)
    (settled : List Proposal) (proposal : Proposal)
    (reply : Except CoordinatorError (Reply Handle)) (own : List Proposal) : Prop
    extends Made rank now settled proposal where
  decided : ∀ {held}, ballot = some held → held.status ≠ .inProgress
  tells : Tells proposal reply own
  aged : ∀ approved ∈ own, approved.createdAt < now

/-- What has been approved by the ballot on a proposal. -/
def approvedBy (status : VoteStatus) (proposal : Proposal) : List Proposal :=
  if status = .approved then [proposal] else []

section VotedCallStage

variable {Handle : Type} (rank : Rank) (now : Timestamp) (finalized : Bool)
  (ballot : Option Ballot) (settled : List Proposal)

/-- Why a process drains its ledger: it has nothing on a ballot, or its approved proposal has
aged. -/
inductive Drains : DrainCause → Option Proposal → List Proposal → Prop where
  | tick (quiet : Quiet now ballot settled) : Drains .tick none []
  | submission {proposal : Proposal}
      (held : Held rank now finalized ballot settled proposal .approved)
      (aged : proposal.createdAt < now) :
      Drains (.submission proposal.key) (some proposal) [proposal]

/-- The stages of a process: the proposal of its submission, and what of this proposal has been
approved and has entered the own ledger. -/
inductive VotedCallStage :
    Option (Control Handle) → Option Proposal → List Proposal → List Proposal → Prop where
  | resting (quiet : Quiet now ballot settled) : VotedCallStage none none [] []
  | returned {reply : Except CoordinatorError (Reply Handle)}
      (plain : ∀ outcome, reply ≠ .ok (.submitted outcome))
      (quiet : Quiet now ballot settled) : VotedCallStage (some (.returned reply)) none [] []
  | finalizing (quiet : Quiet now ballot settled) :
      VotedCallStage (some (.waiting .finalizing)) none [] []
  | offering {proposal : Proposal} (made : Made rank now settled proposal)
      (quiet : Quiet now ballot settled) :
      VotedCallStage (some (.waiting (.offering proposal))) (some proposal) [] []
  | awaitingVotes {proposal : Proposal} {status : VoteStatus}
      (held : Held rank now finalized ballot settled proposal status) :
      VotedCallStage (some (.waiting (.awaitingVotes proposal))) (some proposal)
        (approvedBy status proposal) []
  | readingStatus {proposal : Proposal} {status : VoteStatus}
      (held : Held rank now finalized ballot settled proposal status) :
      VotedCallStage (some (.waiting (.readingStatus proposal))) (some proposal)
        (approvedBy status proposal) []
  | resolving {proposal : Proposal} {status seen : VoteStatus}
      (held : Held rank now finalized ballot settled proposal status)
      (saw : seen = .inProgress ∨ seen = status) :
      VotedCallStage (some (.waiting (.absorbing (.resolution proposal seen)))) (some proposal)
        (approvedBy status proposal) []
  | releasingDenied {proposal : Proposal}
      (held : Held rank now finalized ballot settled proposal .denied) :
      VotedCallStage (some (.waiting .releasingDenied)) (some proposal) [] []
  | aging {proposal : Proposal}
      (held : Held rank now finalized ballot settled proposal .approved) :
      VotedCallStage (some (.waiting (.aging proposal.key))) (some proposal) [proposal] [proposal]
  | awaitingAge {proposal : Proposal}
      (held : Held rank now finalized ballot settled proposal .approved) :
      VotedCallStage (some (.waiting (.awaitingAge proposal.key))) (some proposal)
        [proposal] [proposal]
  | absorbingAge {proposal : Proposal}
      (held : Held rank now finalized ballot settled proposal .approved) :
      VotedCallStage (some (.waiting (.absorbing (.aging proposal.key)))) (some proposal) [proposal]
        [proposal]
  | awaitingDrain {cause : DrainCause} {offered : Option Proposal} {own : List Proposal}
      (drains : Drains rank now finalized ballot settled cause offered own) :
      VotedCallStage (some (.waiting (.awaitingDrain cause))) offered own own
  | absorbingDrain {cause : DrainCause} {offered : Option Proposal} {own : List Proposal}
      (drains : Drains rank now finalized ballot settled cause offered own) :
      VotedCallStage (some (.waiting (.absorbing (.drain cause)))) offered own own
  | draining {cause : DrainCause} {offered : Option Proposal} {own : List Proposal}
      (drains : Drains rank now finalized ballot settled cause offered own) :
      VotedCallStage (some (.waiting (.draining cause))) offered own own
  | executing {cause : DrainCause} {offered : Option Proposal} {own : List Proposal}
      (records : List (Executed Handle)) (proposal : Proposal)
      (drains : Drains rank now finalized ballot settled cause offered own) :
      VotedCallStage (some (.waiting (.executing (.drained cause) records proposal)))
        offered own own
  | confirming {proposal : Proposal} (result : Option Handle)
      (held : Held rank now finalized ballot settled proposal .approved)
      (aged : proposal.createdAt < now) :
      VotedCallStage (some (.waiting (.confirming proposal.key result))) (some proposal) [proposal]
        [proposal]
  | rereadingStatus {proposal : Proposal} (result : Option Handle)
      (held : Held rank now finalized ballot settled proposal .approved)
      (aged : proposal.createdAt < now) :
      VotedCallStage (some (.waiting (.rereadingStatus proposal.key result)))
        (some proposal) [proposal]
        [proposal]
  | releasingCommitted {proposal : Proposal} (result : Option Handle)
      (held : Held rank now finalized ballot settled proposal .approved)
      (aged : proposal.createdAt < now) :
      VotedCallStage (some (.waiting (.releasingCommitted result))) (some proposal)
        [proposal] [proposal]
  | concluded {proposal : Proposal} {reply : Except CoordinatorError (Reply Handle)}
      {own : List Proposal} (ended : Over rank now ballot settled proposal reply own) :
      VotedCallStage (some (.returned reply)) (some proposal) own own

end VotedCallStage

/-- A process between calls is quiet. -/
theorem VotedCallStage.rests {Handle : Type} {rank : Rank} {now : Timestamp} {finalized : Bool}
    {ballot : Option Ballot} {settled : List Proposal} {offered : Option Proposal}
    {issued entered : List Proposal}
    (callStage : VotedCallStage rank now finalized ballot settled
      (none : Option (Control Handle)) offered issued entered) :
    offered = none ∧ issued = [] ∧ entered = [] ∧ Quiet now ballot settled := by
  cases callStage with
  | resting quiet => exact ⟨rfl, rfl, rfl, quiet⟩

/-! ## Time passes -/

section Time

variable {Handle : Type} {rank : Rank} {now after : Timestamp} {finalized : Bool}
  {ballot : Option Ballot} {settled : List Proposal}

/-- A quiet process is quiet later, too. -/
theorem Quiet.later (quiet : Quiet now ballot settled) (later : now ≤ after) :
    Quiet after ballot settled where
  decided := quiet.decided
  past := fun earlier member => Nat.lt_of_lt_of_le (quiet.past earlier member) later

/-- A proposal that is put to the vote may wait. -/
theorem Made.later {proposal : Proposal} (made : Made rank now settled proposal)
    (later : now ≤ after) : Made rank after settled proposal :=
  { made with made := Nat.le_trans made.made later }

/-- A proposal may be on its ballot for any time. -/
theorem Held.later {proposal : Proposal} {status : VoteStatus}
    (held : Held rank now finalized ballot settled proposal status) (later : now ≤ after) :
    Held rank after finalized ballot settled proposal status :=
  { held with made := Nat.le_trans held.made later }

/-- A submission that has its reply still has it later. -/
theorem Over.later {proposal : Proposal} {reply : Except CoordinatorError (Reply Handle)}
    {own : List Proposal} (ended : Over rank now ballot settled proposal reply own)
    (later : now ≤ after) : Over rank after ballot settled proposal reply own where
  toMade := ended.toMade.later later
  decided := ended.decided
  tells := ended.tells
  aged := fun approved member => Nat.lt_of_lt_of_le (ended.aged approved member) later

/-- A process may take its time to drain. -/
theorem Drains.later {cause : DrainCause} {offered : Option Proposal} {own : List Proposal}
    (drains : Drains rank now finalized ballot settled cause offered own) (later : now ≤ after) :
    Drains rank after finalized ballot settled cause offered own := by
  cases drains with
  | tick quiet => exact .tick (quiet.later later)
  | submission held aged => exact .submission (held.later later) (Nat.lt_of_lt_of_le aged later)

/-- Nothing changes while time passes. -/
theorem VotedCallStage.later {call : Option (Control Handle)} {offered : Option Proposal}
    {issued entered : List Proposal}
    (callStage : VotedCallStage rank now finalized ballot settled call offered issued entered)
    (later : now ≤ after) :
    VotedCallStage rank after finalized ballot settled call offered issued entered := by
  have still : ∀ {proposal : Proposal}, proposal.createdAt < now → proposal.createdAt < after :=
    fun aged => Nat.lt_of_lt_of_le aged later
  cases callStage with
  | resting quiet => exact .resting (quiet.later later)
  | returned plain quiet => exact .returned plain (quiet.later later)
  | finalizing quiet => exact .finalizing (quiet.later later)
  | offering made quiet => exact .offering (made.later later) (quiet.later later)
  | awaitingVotes held => exact .awaitingVotes (held.later later)
  | readingStatus held => exact .readingStatus (held.later later)
  | resolving held saw => exact .resolving (held.later later) saw
  | releasingDenied held => exact .releasingDenied (held.later later)
  | aging held => exact .aging (held.later later)
  | awaitingAge held => exact .awaitingAge (held.later later)
  | absorbingAge held => exact .absorbingAge (held.later later)
  | awaitingDrain drains => exact .awaitingDrain (drains.later later)
  | absorbingDrain drains => exact .absorbingDrain (drains.later later)
  | draining drains => exact .draining (drains.later later)
  | executing records proposal drains => exact .executing records proposal (drains.later later)
  | confirming result held aged => exact .confirming result (held.later later) (still aged)
  | rereadingStatus result held aged =>
    exact .rereadingStatus result (held.later later) (still aged)
  | releasingCommitted result held aged =>
    exact .releasingCommitted result (held.later later) (still aged)
  | concluded ended => exact .concluded (ended.later later)

end Time

/-! ## A vote arrives -/

section Votes

variable {Handle : Type} {rank : Rank} {now : Timestamp} {finalized : Bool}
  {ballot : Option Ballot} {settled : List Proposal}

/-- What a message can make of a ballot: it stays, or one more vote is counted, which may
decide it. -/
inductive Counts : Option Ballot → Option Ballot → List Bytes → Prop where
  | ignored (ballot : Option Ballot) : Counts ballot ballot []
  | counted {ballot : Ballot} (running : ballot.status = .inProgress) (yes no : Nat) :
      Counts (some ballot) (some { ballot with yes, no }) []
  | approved {ballot : Ballot} (running : ballot.status = .inProgress) (yes no : Nat) :
      Counts (some ballot) (some { ballot with yes, no, status := .approved }) [ballot.envelope]
  | denied {ballot : Ballot} (running : ballot.status = .inProgress) (yes no : Nat) :
      Counts (some ballot) (some { ballot with yes, no, status := .denied }) []

variable {after : Option Ballot} {announced : List Bytes}

/-- A decided ballot takes no more votes. -/
theorem Counts.unchanged (counts : Counts ballot after announced)
    (decided : ∀ {held}, ballot = some held → held.status ≠ .inProgress) :
    after = ballot ∧ announced = [] := by
  cases counts with
  | ignored ballot => exact ⟨rfl, rfl⟩
  | counted running yes no => exact absurd running (decided rfl)
  | approved running yes no => exact absurd running (decided rfl)
  | denied running yes no => exact absurd running (decided rfl)


/-- A ballot is decided when its process has read so. -/
theorem Held.decided {proposal : Proposal} {status : VoteStatus}
    (held : Held rank now finalized ballot settled proposal status)
    (decided : status ≠ .inProgress) {other : Ballot} (isBallot : ballot = some other) :
    other.status ≠ .inProgress := by
  obtain ⟨number, yes, no, shape⟩ := held.held
  rw [shape] at isBallot
  cases isBallot
  exact decided

/-- A ballot under way may be decided by a vote. -/
theorem Held.count {proposal : Proposal} {status : VoteStatus}
    (held : Held rank now finalized ballot settled proposal status)
    (counts : Counts ballot after announced) :
    ∃ next, Held rank now finalized after settled proposal next ∧
      (approvedBy next proposal).map Envelope.encode =
        (approvedBy status proposal).map Envelope.encode ++ announced ∧
      (status ≠ .inProgress → next = status) := by
  by_cases decided : status = .inProgress
  · subst decided
    obtain ⟨number, yes, no, rfl⟩ := held.held
    cases counts with
    | ignored ballot => exact ⟨_, held, by simp, fun _ => rfl⟩
    | counted running yes no =>
      exact ⟨.inProgress, { held with held := ⟨number, yes, no, rfl⟩ }, by simp, fun _ => rfl⟩
    | approved running yes no =>
      exact ⟨.approved, { held with known := nofun, held := ⟨number, yes, no, rfl⟩ },
        by simp [approvedBy], fun ended => absurd rfl ended⟩
    | denied running yes no =>
      exact ⟨.denied, { held with known := nofun, held := ⟨number, yes, no, rfl⟩ },
        by simp [approvedBy], fun ended => absurd rfl ended⟩
  · obtain ⟨rfl, rfl⟩ := counts.unchanged (held.decided decided)
    exact ⟨status, held, by simp, fun _ => rfl⟩

/-- A process that drains has no ballot that a vote could change. -/
theorem Drains.unchanged {cause : DrainCause} {offered : Option Proposal} {own : List Proposal}
    (drains : Drains rank now finalized ballot settled cause offered own)
    (counts : Counts ballot after announced) : after = ballot ∧ announced = [] := by
  cases drains with
  | tick quiet => exact counts.unchanged quiet.decided
  | submission held aged => exact counts.unchanged (held.decided nofun)

/-- A vote moves a call on by what it decides and by nothing else. -/
theorem VotedCallStage.count {call : Option (Control Handle)} {offered : Option Proposal}
    {issued entered : List Proposal}
    (callStage : VotedCallStage rank now finalized ballot settled call offered issued entered)
    (counts : Counts ballot after announced) :
    ∃ next, VotedCallStage rank now finalized after settled call offered next entered ∧
      next.map Envelope.encode = issued.map Envelope.encode ++ announced := by
  have stays : after = ballot ∧ announced = [] →
      ∃ next, VotedCallStage rank now finalized after settled call offered next entered ∧
        next.map Envelope.encode = issued.map Envelope.encode ++ announced := by
    rintro ⟨rfl, rfl⟩
    exact ⟨issued, callStage, (List.append_nil _).symm⟩
  cases callStage with
  | resting quiet => exact stays (counts.unchanged quiet.decided)
  | returned plain quiet => exact stays (counts.unchanged quiet.decided)
  | finalizing quiet => exact stays (counts.unchanged quiet.decided)
  | offering made quiet => exact stays (counts.unchanged quiet.decided)
  | awaitingVotes held =>
    obtain ⟨next, heldNext, same, _⟩ := held.count counts
    exact ⟨_, .awaitingVotes heldNext, same⟩
  | readingStatus held =>
    obtain ⟨next, heldNext, same, _⟩ := held.count counts
    exact ⟨_, .readingStatus heldNext, same⟩
  | @resolving proposal status seen held saw =>
    obtain ⟨next, heldNext, same, stable⟩ := held.count counts
    refine ⟨_, .resolving heldNext ?_, same⟩
    by_cases running : status = .inProgress
    · rcases saw with unseen | rfl
      · exact .inl unseen
      · exact .inl running
    · rw [stable running]
      exact saw
  | releasingDenied held => exact stays (counts.unchanged (held.decided nofun))
  | aging held => exact stays (counts.unchanged (held.decided nofun))
  | awaitingAge held => exact stays (counts.unchanged (held.decided nofun))
  | absorbingAge held => exact stays (counts.unchanged (held.decided nofun))
  | awaitingDrain drains => exact stays (drains.unchanged counts)
  | absorbingDrain drains => exact stays (drains.unchanged counts)
  | draining drains => exact stays (drains.unchanged counts)
  | executing records proposal drains => exact stays (drains.unchanged counts)
  | confirming result held aged => exact stays (counts.unchanged (held.decided nofun))
  | rereadingStatus result held aged => exact stays (counts.unchanged (held.decided nofun))
  | releasingCommitted result held aged => exact stays (counts.unchanged (held.decided nofun))
  | concluded ended => exact stays (counts.unchanged ended.decided)

end Votes

namespace Network

/-- A message that a process acts on counts on its ballot at most once, and issues the ballot's
envelope if this approves it. -/
theorem Lawful.counts_handle {network : Network} (lawful : network.Lawful) (judge : Judge)
    (rank sender : Rank) (message : Message) (rest : List (Rank × Message)) :
    ∃ announced, Counts (network.stations rank).peer.ballot
        (Peer.handle judge network.bus (network.stations rank).peer message).2.ballot announced ∧
      (network.handle judge rank sender message rest).issued rank =
        network.issued rank ++ announced := by
  have issued : (network.handle judge rank sender message rest).issued rank =
      network.issued rank ++ (Peer.outcomeEvents judge network.bus (network.stations rank).peer
        message).filterMap (Event.issuedBy? rank) := by
    rw [Network.issued, Network.handle, put_history, List.filterMap_append, handleEvents_view]
    rfl
  rw [issued]
  cases message with
  | vote voter number yes =>
    simp only [Peer.outcomeEvents, lawful.named]
    rcases Peer.vote_cases judge network.bus (network.stations rank).peer voter number yes with
      ⟨_, outcome, same⟩ | ⟨ballot, found, _, running, ⟨_, outcome, counted⟩ |
        ⟨_, outcome, decided⟩⟩
    · rw [outcome, same]
      exact ⟨[], .ignored _, by simp⟩
    · rw [outcome, counted, found]
      refine ⟨[], ?_, by simp⟩
      cases yes
      · exact .counted running ballot.yes (ballot.no + 1)
      · exact .counted running (ballot.yes + 1) ballot.no
    · rw [outcome, decided, found]
      by_cases none : (Peer.addVote ballot yes).no = 0
      · refine ⟨[ballot.envelope], ?_, by simp [none, Event.issuedBy?]⟩
        simp only [if_pos none]
        cases yes
        · exact .approved running ballot.yes (ballot.no + 1)
        · exact .approved running (ballot.yes + 1) ballot.no
      · refine ⟨[], ?_, by simp [none, Event.issuedBy?]⟩
        simp only [if_neg none]
        cases yes
        · exact .denied running ballot.yes (ballot.no + 1)
        · exact .denied running (ballot.yes + 1) ballot.no
  | propose origin number envelope =>
    exact ⟨[], .ignored _, by simp [Peer.outcomeEvents, Event.issuedBy?]⟩
  | decision origin number approved envelope =>
    refine ⟨[], ?_, by simp [Peer.outcomeEvents]⟩
    rw [Peer.ballot_handle_of_not_vote judge network.bus (network.stations rank).peer rfl]
    exact .ignored _
  | broadcast origin envelope =>
    refine ⟨[], ?_, by simp [Peer.outcomeEvents]⟩
    rw [Peer.ballot_handle_of_not_vote judge network.bus (network.stations rank).peer rfl]
    exact .ignored _

/-- What one process acts on makes no other issue anything. -/
theorem Lawful.issued_handle_of_ne {network : Network} (lawful : network.Lawful) (judge : Judge)
    {rank process : Rank} (apart : process ≠ rank) (sender : Rank) (message : Message)
    (rest : List (Rank × Message)) :
    (network.handle judge rank sender message rest).issued process = network.issued process := by
  have foreign : ¬ rank = process := fun same => apart same.symm
  have silent := outcomeEvents_eq_nil judge network.bus (network.stations rank).peer message
    (show ∀ origin number envelope verdict, Event.issuedBy? process (.judged _ origin number
      envelope verdict) = none from fun _ _ _ _ => rfl)
    (show ∀ number approved envelope, Event.issuedBy? process (.decided _ number approved
      envelope) = none from fun _ _ _ => by simp [Event.issuedBy?, lawful.named, foreign])
  rw [Network.issued, Network.handle, put_history, List.filterMap_append, handleEvents_view, silent]
  exact List.append_nil _

end Network

end Concord
