import Concord.Proofs.RoundTaking

/-!
# Holdings

A coordinator holds proposals in four places: an own one that is approved and has not entered
the ledger yet, the ledger, the queue, and the executor's hands. `Holdings.Move` says how a
proposal goes from one place to the next. Whatever answer a call gets, it does nothing to the
proposals but such moves: `Coordinator.resume_movesTo`. The events beside the moves are what
can be observed of them.
-/

namespace Concord

/-- A proposal apart from how far it has come. -/
def Proposal.content (proposal : Proposal) : Proposal :=
  { proposal with state := .initial }

/-- An own proposal once it is approved. -/
def Proposal.owned (proposal : Proposal) : Proposal :=
  { proposal with state := .approved, isLocal := true }

/-- The ledger's entry for an envelope, if there is a proposal in it that can be approved. -/
def Proposal.admitted? (envelope : Bytes) : Option Proposal :=
  (ofEnvelope envelope).toOption.bind fun proposal => (proposal.advance .approved).toOption

/-- Something that happens to the proposals of a coordinator. -/
inductive ProposalEvent where
  /-- The own proposal is reported to be approved. -/
  | approved (proposal : Proposal)
  /-- The own approved proposal enters the ledger. -/
  | settled (proposal : Proposal)
  /-- The own approved proposal is dropped. -/
  | forfeited (proposal : Proposal)
  /-- A proposal that was checked out or sent to everybody enters the ledger. -/
  | admitted (proposal : Proposal)
  /-- What has aged by a time leaves the ledger. -/
  | drained (now : Timestamp)
  /-- The executor has answered for a proposal. -/
  | handed (proposal : Proposal)
deriving DecidableEq

/-- The proposal that the executor has answered for. -/
def ProposalEvent.handed? : ProposalEvent → Option Proposal
  | .handed proposal => some proposal
  | _ => none

/-- The own approved proposal that has not entered the ledger yet. -/
def AfterAbsorbing.pending : AfterAbsorbing → List Proposal
  | .resolution proposal .approved => [proposal.owned]
  | _ => []

section Handle

variable {Handle : Type}

/-- The own approved proposal of a call that has not entered the ledger yet. -/
def Control.pending : Control Handle → List Proposal
  | .waiting (.absorbing next) => next.pending
  | _ => []

/-- The proposal that an executor is asked for. -/
def Control.inHand : Control Handle → List Proposal
  | .waiting (.executing _ _ proposal) => [proposal]
  | _ => []

/-- What happens to proposals when a stage gets its answer. -/
def Stage.events : (stage : Stage Handle) → stage.request.Answer Handle → List ProposalEvent
  | .readingStatus proposal, answer =>
    match answer with
    | .ok .approved => [.approved proposal.owned]
    | _ => []
  | .absorbing next, answer =>
    match answer with
    | .error _ => next.pending.map .forfeited
    | .ok none => next.pending.map .settled
    | .ok (some envelope) =>
      match Proposal.admitted? envelope with
      | none => next.pending.map .forfeited
      | some entry => [.admitted entry]
  | .broadcasting proposal, answer =>
    match answer with
    | .ok () => [.admitted proposal.owned]
    | .error _ => []
  | .draining _, now => [.drained now]
  | .executing _ _ proposal, _ => [.handed proposal]
  | _, _ => []

/-- What a stage knows of the own proposal's life. -/
def Stage.Sound : Stage Handle → Prop
  | .offering proposal => proposal.state = .inProgress
  | .awaitingVotes proposal => proposal.state = .inProgress
  | .readingStatus proposal => proposal.state = .inProgress
  | .absorbing (.resolution proposal _) => proposal.state = .inProgress
  | .broadcasting proposal => proposal.state = .approved
  | _ => True

/-- Whether a stage leads to a round. -/
def Stage.Gathers : Stage Handle → Prop
  | .broadcasting _ => True
  | .awaitingQuorum _ => True
  | .absorbing (.quorum _) => True
  | _ => False

/-- Whether a call stands where it can, and leads to a round only if that is allowed. -/
def Control.Fit (rounds : Prop) : Control Handle → Prop
  | .waiting stage => stage.Sound ∧ (stage.Gathers → rounds)
  | .returned _ => True

end Handle

/-! ## Moves -/

/-- The proposals that a coordinator holds. -/
structure Holdings where
  pending : List Proposal
  ledger : List Proposal
  queue : List Proposal
  inHand : List Proposal

namespace Holdings

/-- How proposals go from one place to the next. The window is the age at which an entry may be
drained; rounds are taken out only where they are allowed. -/
inductive Move (rounds : Prop) (window : Nat) (before : Holdings) :
    List ProposalEvent → Holdings → Prop where
  | approve {own : Proposal} (free : before.pending = []) (approved : own.state = .approved) :
      Move rounds window before [.approved own] { before with pending := [own] }
  | settle {own : Proposal} (waits : before.pending = [own]) :
      Move rounds window before [.settled own]
        { before with pending := [], ledger := before.ledger ++ [own] }
  | forfeit {own : Proposal} (waits : before.pending = [own]) :
      Move rounds window before [.forfeited own] { before with pending := [] }
  | enter {entry : Proposal} (approved : entry.state = .approved) :
      Move rounds window before [.admitted entry]
        { before with ledger := before.ledger ++ [entry] }
  | drain {now : Timestamp} {moved left : List Proposal}
      (perm : (moved ++ left).Perm before.ledger)
      (aged : ∀ entry ∈ moved, window ≤ entry.ageAt now)
      (young : ∀ entry ∈ left, entry.ageAt now < window) :
      Move rounds window before [.drained now]
        { before with ledger := left, queue := before.queue ++ moved.map Proposal.due }
  | round {taken left : List Proposal} (allowed : rounds)
      (perm : (taken ++ left).Perm before.ledger) :
      Move rounds window before []
        { before with ledger := left, queue := before.queue ++ taken.map Proposal.due }
  | take {proposal : Proposal} {left : List Proposal} (free : before.inHand = [])
      (perm : (proposal :: left).Perm before.queue)
      (oldest : ∀ other ∈ before.queue, proposal.key ≤ other.key) :
      Move rounds window before [] { before with queue := left, inHand := [proposal] }
  | hand {proposal : Proposal} (holds : before.inHand = [proposal]) :
      Move rounds window before [.handed proposal] { before with inHand := [] }

/-- Several moves, one after the other. -/
inductive Moves (rounds : Prop) (window : Nat) (before : Holdings) :
    List ProposalEvent → Holdings → Prop where
  | refl : Moves rounds window before [] before
  | step {middle after : Holdings} {earlier later : List ProposalEvent}
      (prior : Moves rounds window before earlier middle)
      (move : Move rounds window middle later after) :
      Moves rounds window before (earlier ++ later) after

variable {rounds : Prop} {window : Nat} {before middle after : Holdings}
  {events earlier later : List ProposalEvent}

/-- One move is a sequence of moves. -/
theorem Move.moves (move : Move rounds window before events after) :
    Moves rounds window before events after :=
  .step .refl move

/-- Moves after moves are moves. -/
theorem Moves.trans (first : Moves rounds window before earlier middle)
    (second : Moves rounds window middle later after) :
    Moves rounds window before (earlier ++ later) after := by
  induction second with
  | refl =>
    rw [List.append_nil]
    exact first
  | step _ move inductionHypothesis =>
    rw [← List.append_assoc]
    exact .step inductionHypothesis move

/-- Nothing but approved proposals is in the ledger or about to enter it. -/
def Approved (holdings : Holdings) : Prop :=
  ∀ entry ∈ holdings.pending ++ holdings.ledger, entry.state = .approved

/-- Nothing enters the ledger by a move that is not approved. -/
theorem Move.approved (move : Move rounds window before events after)
    (sound : before.Approved) : after.Approved := by
  cases move with
  | approve free approved =>
    intro entry member
    rcases List.mem_cons.1 member with rfl | inLedger
    · exact approved
    · exact sound entry (List.mem_append_right _ inLedger)
  | settle waits =>
    intro entry member
    apply sound
    rw [waits]
    exact List.perm_append_comm.mem_iff.1 member
  | forfeit waits =>
    intro entry member
    exact sound entry (List.mem_append_right _ member)
  | enter approved =>
    intro entry member
    rw [← List.append_assoc] at member
    rcases List.mem_append.1 member with old | new
    · exact sound entry old
    · rw [List.mem_singleton.1 new]
      exact approved
  | drain perm aged young =>
    intro entry member
    apply sound entry
    rcases List.mem_append.1 member with waits | stays
    · exact List.mem_append_left _ waits
    · exact List.mem_append_right _ (perm.mem_iff.1 (List.mem_append_right _ stays))
  | round allowed perm =>
    intro entry member
    apply sound entry
    rcases List.mem_append.1 member with waits | stays
    · exact List.mem_append_left _ waits
    · exact List.mem_append_right _ (perm.mem_iff.1 (List.mem_append_right _ stays))
  | take free perm oldest => exact sound
  | hand holds => exact sound

/-- The ledger holds approved proposals only, whatever moves are made. -/
theorem Moves.approved (moves : Moves rounds window before events after)
    (sound : before.Approved) : after.Approved := by
  induction moves with
  | refl => exact sound
  | step _ move inductionHypothesis => exact move.approved inductionHypothesis

end Holdings

/-! ## An answer makes moves -/

namespace Coordinator

variable {Handle : Type} {rounds : Prop}

/-- What a coordinator holds at a point of a call. -/
def holdings (point : Coordinator × Control Handle) : Holdings :=
  ⟨point.2.pending, point.1.ledger.entries, point.1.queue.entries, point.2.inHand⟩

/-- What a coordinator holds while nothing is pending or in hand. -/
def idleHoldings (coordinator : Coordinator) : Holdings :=
  ⟨[], coordinator.ledger.entries, coordinator.queue.entries, []⟩

/-- A point of a call that is reached by moves. -/
structure MovesTo (rounds : Prop) (config : CoordinatorConfig) (before : Holdings)
    (events : List ProposalEvent) (point : Coordinator × Control Handle) : Prop where
  moves : Holdings.Moves rounds config.windowMicros.toNat before events (holdings point)
  config : point.1.config = config
  fit : point.2.Fit rounds

/-- Moves that lead to where others start make one sequence with them. -/
theorem MovesTo.after {config : CoordinatorConfig} {before middle : Holdings}
    {earlier later : List ProposalEvent} {point : Coordinator × Control Handle}
    (first : Holdings.Moves rounds config.windowMicros.toNat before earlier middle)
    (movesTo : MovesTo rounds config middle later point) :
    MovesTo rounds config before (earlier ++ later) point :=
  ⟨first.trans movesTo.moves, movesTo.config, movesTo.fit⟩

/-- A point at which nothing is pending or in hand needs no move. -/
theorem movesTo_idle (coordinator : Coordinator) {control : Control Handle}
    (settled : control.pending = []) (free : control.inHand = []) (fit : control.Fit rounds) :
    MovesTo rounds coordinator.config coordinator.idleHoldings [] (coordinator, control) := by
  refine ⟨?_, rfl, fit⟩
  rw [holdings, settled, free]
  exact .refl

/-- What follows a batch moves no proposal. -/
theorem afterBatch_movesTo (coordinator : Coordinator) (cause : BatchCause)
    (records : List (Executed Handle)) :
    MovesTo rounds coordinator.config coordinator.idleHoldings []
      (coordinator, afterBatch cause records) := by
  cases cause with
  | drained cause =>
    cases cause with
    | tick => exact coordinator.movesTo_idle rfl rfl trivial
    | submission key =>
      rw [afterBatch]
      split
      · exact coordinator.movesTo_idle rfl rfl trivial
      · exact coordinator.movesTo_idle rfl rfl ⟨trivial, False.elim⟩
  | round key =>
    rw [afterBatch]
    split <;> exact coordinator.movesTo_idle rfl rfl trivial

/-- Handing over the next proposal takes the oldest out of the queue. -/
theorem executeNext_movesTo (coordinator : Coordinator) (cause : BatchCause)
    (records : List (Executed Handle)) :
    MovesTo rounds coordinator.config coordinator.idleHoldings []
      (coordinator.executeNext cause records) := by
  rw [executeNext]
  split
  · exact coordinator.afterBatch_movesTo cause records
  · next proposal queue popped =>
    obtain ⟨perm, oldest⟩ := ExecutionQueue.popOldest?_spec popped
    exact ⟨Holdings.Move.moves (.take rfl perm oldest), rfl, trivial, False.elim⟩

/-- Draining moves what has aged into the queue. -/
theorem drain_movesTo (coordinator : Coordinator)
    (approved : ∀ entry ∈ coordinator.ledger.entries, entry.state = .approved)
    (cause : DrainCause) (now : Timestamp) :
    MovesTo rounds coordinator.config coordinator.idleHoldings [.drained now]
      (coordinator.drain cause now : Coordinator × Control Handle) := by
  obtain ⟨moved, left, result, perm, _, aged, young, _⟩ := coordinator.moveAged_spec now approved
  rw [drain, result]
  generalize shape : ({ coordinator with
    ledger := ⟨left⟩
    queue := ⟨coordinator.queue.entries ++ moved.map Proposal.due⟩ } : Coordinator) = after
  have config : after.config = coordinator.config := by rw [← shape]
  have drained : Holdings.Moves rounds after.config.windowMicros.toNat coordinator.idleHoldings
      [.drained now] after.idleHoldings := by
    rw [← shape]
    exact Holdings.Move.moves (.drain perm aged young)
  rw [← config]
  cases cause with
  | tick => exact .after drained (after.executeNext_movesTo _ _)
  | submission key =>
    simp only
    split
    · exact .after drained (after.executeNext_movesTo _ _)
    · exact .after drained (after.movesTo_idle rfl rfl ⟨trivial, False.elim⟩)

/-- A complete round goes over into the queue. -/
theorem awaitRound_movesTo (coordinator : Coordinator)
    (approved : ∀ entry ∈ coordinator.ledger.entries, entry.state = .approved) (allowed : rounds)
    (key : OrderKey) :
    MovesTo rounds coordinator.config coordinator.idleHoldings []
      (coordinator.awaitRound key : Coordinator × Control Handle) := by
  rcases coordinator.awaitRound_cases approved key with ⟨_, waits⟩ | ⟨_, goesOn⟩
  · rw [waits]
    exact coordinator.movesTo_idle rfl rfl ⟨trivial, fun _ => allowed⟩
  · rw [goesOn]
    have gathered :
        Holdings.Moves rounds coordinator.config.windowMicros.toNat coordinator.idleHoldings []
          coordinator.withRound.idleHoldings :=
      Holdings.Move.moves (.round allowed coordinator.ledger.takeRound_spec.1)
    exact .after gathered (coordinator.withRound.executeNext_movesTo _ _)

/-- Once every waiting envelope has entered the ledger, the own approved proposal does. -/
theorem afterAbsorbing_movesTo (coordinator : Coordinator)
    (approved : ∀ entry ∈ coordinator.ledger.entries, entry.state = .approved)
    {next : AfterAbsorbing}
    (fit : (.waiting (.absorbing next) : Control Handle).Fit rounds) :
    MovesTo rounds coordinator.config
      (holdings (coordinator, (.waiting (.absorbing next) : Control Handle)))
      (next.pending.map .settled)
      (coordinator.afterAbsorbing next : Coordinator × Control Handle) := by
  obtain ⟨sound, gathers⟩ := fit
  cases next with
  | resolution proposal status =>
    have started : proposal.state = .inProgress := sound
    cases status with
    | approved =>
      simp only [afterAbsorbing, resolve, Proposal.advance_of_inProgress started (.inl rfl)]
      exact ⟨Holdings.Move.moves (.settle rfl), rfl, trivial, False.elim⟩
    | denied =>
      rw [afterAbsorbing_denied coordinator started]
      exact coordinator.movesTo_idle rfl rfl ⟨trivial, False.elim⟩
    | inProgress => exact coordinator.movesTo_idle rfl rfl ⟨started, False.elim⟩
    | unknown => exact coordinator.movesTo_idle rfl rfl trivial
  | aging key => exact coordinator.movesTo_idle rfl rfl ⟨trivial, False.elim⟩
  | drain cause => exact coordinator.movesTo_idle rfl rfl ⟨trivial, False.elim⟩
  | quorum key => exact coordinator.awaitRound_movesTo approved (gathers trivial) key
  | nothing => exact coordinator.movesTo_idle rfl rfl trivial

/-- A call that fails while it absorbs drops the own approved proposal. -/
theorem forfeit_movesTo (coordinator : Coordinator) (next : AfterAbsorbing)
    (cause : CoordinatorError) :
    MovesTo rounds coordinator.config
      (holdings (coordinator, (.waiting (.absorbing next) : Control Handle)))
      (next.pending.map .forfeited) (coordinator, (.returned (.error cause) : Control Handle)) := by
  cases next with
  | resolution proposal status =>
    cases status with
    | approved => exact ⟨Holdings.Move.moves (.forfeit rfl), rfl, trivial⟩
    | _ => exact coordinator.movesTo_idle rfl rfl trivial
  | _ => exact coordinator.movesTo_idle rfl rfl trivial

/-- An envelope is entered or ends the call. -/
theorem absorb_cases (coordinator : Coordinator) (envelope : Bytes) :
    (∃ entry, Proposal.admitted? envelope = some entry ∧ entry.state = .approved ∧
      coordinator.absorb envelope =
        .ok { coordinator with ledger := coordinator.ledger.add entry }) ∨
    Proposal.admitted? envelope = none ∧ ∃ cause, coordinator.absorb envelope = .error cause := by
  unfold absorb Proposal.admitted?
  cases read : Proposal.ofEnvelope envelope with
  | error cause => exact .inr ⟨rfl, _, rfl⟩
  | ok proposal =>
    cases advanced : proposal.advance .approved with
    | error cause =>
      refine .inr ⟨by simp [Except.toOption, advanced], ?_⟩
      simp only [advanced]
      exact ⟨_, rfl⟩
    | ok approved =>
      refine .inl ⟨approved, by simp [Except.toOption, advanced], ?_, by simp only [advanced]⟩
      unfold Proposal.advance at advanced
      split at advanced <;> cases advanced
      rfl

/-- An answer that says only whether something was done leaves all proposals where they are. -/
theorem onSuccess_movesTo (coordinator : Coordinator) {control : Control Handle}
    (settled : control.pending = []) (free : control.inHand = []) (fit : control.Fit rounds)
    (answer : Except VotingError Unit) :
    MovesTo rounds coordinator.config coordinator.idleHoldings []
      (coordinator.onSuccess answer (coordinator, control)) := by
  cases answer with
  | error cause => exact coordinator.movesTo_idle rfl rfl trivial
  | ok done => exact coordinator.movesTo_idle settled free fit

/-- A proposal that the replica has carried out is in hand no longer. -/
theorem record_movesTo (coordinator : Coordinator) (cause : BatchCause)
    (records : List (Executed Handle)) (proposal : Proposal)
    (result : Except ExecutorError (Option Handle)) :
    MovesTo rounds coordinator.config
      (holdings (coordinator, .waiting (.executing cause records proposal)))
      [.handed proposal] (coordinator.record cause records proposal result) := by
  have handed : Holdings.Moves rounds coordinator.config.windowMicros.toNat
      (holdings (coordinator, .waiting (.executing cause records proposal)))
      [.handed proposal] coordinator.idleHoldings := Holdings.Move.moves (.hand rfl)
  rw [record]
  split
  · exact .after handed (coordinator.movesTo_idle rfl rfl trivial)
  · exact .after handed (coordinator.movesTo_idle rfl rfl trivial)
  · exact .after handed (coordinator.executeNext_movesTo _ _)

/-- A proposal that everybody has been told of enters the own ledger too. -/
theorem announced_movesTo (coordinator : Coordinator)
    (approved : ∀ entry ∈ coordinator.ledger.entries, entry.state = .approved) (allowed : rounds)
    (proposal : Proposal) (key : OrderKey) :
    MovesTo rounds coordinator.config coordinator.idleHoldings [.admitted proposal.owned]
      (({ coordinator with ledger := coordinator.ledger.add proposal.owned } :
        Coordinator).awaitRound key : Coordinator × Control Handle) := by
  generalize shape : ({ coordinator with
    ledger := coordinator.ledger.add proposal.owned } : Coordinator) = entered
  have config : entered.config = coordinator.config := by rw [← shape]
  have admitted : Holdings.Moves rounds entered.config.windowMicros.toNat coordinator.idleHoldings
      [.admitted proposal.owned] entered.idleHoldings := by
    rw [← shape]
    exact Holdings.Move.moves (.enter rfl)
  have stillApproved : ∀ entry ∈ entered.ledger.entries, entry.state = .approved :=
    admitted.approved approved
  rw [← config]
  exact .after admitted (entered.awaitRound_movesTo stillApproved allowed key)

/-- Reading that a ballot is approved makes its proposal an approved one that is pending. -/
theorem readStatus_movesTo (coordinator : Coordinator) {proposal : Proposal}
    (started : proposal.state = .inProgress) (answer : Except VotingError VoteStatus) :
    MovesTo rounds coordinator.config
      (holdings (coordinator, (.waiting (.readingStatus proposal) : Control Handle)))
      ((Stage.readingStatus proposal : Stage Handle).events answer)
      (coordinator.resume (.readingStatus proposal : Stage Handle) answer) := by
  cases answer with
  | error cause => exact coordinator.movesTo_idle rfl rfl trivial
  | ok status =>
    cases status with
    | approved => exact ⟨Holdings.Move.moves (.approve rfl rfl), rfl, started, False.elim⟩
    | _ => exact coordinator.movesTo_idle rfl rfl ⟨started, False.elim⟩

/-- While a call absorbs, an envelope enters the ledger, the last one is followed by what is
pending, and a failure forfeits that. -/
theorem checkedOut_movesTo (coordinator : Coordinator)
    (approved : ∀ entry ∈ coordinator.ledger.entries, entry.state = .approved)
    {next : AfterAbsorbing} (fit : (.waiting (.absorbing next) : Control Handle).Fit rounds)
    (answer : Except VotingError (Option Bytes)) :
    MovesTo rounds coordinator.config
      (holdings (coordinator, (.waiting (.absorbing next) : Control Handle)))
      ((Stage.absorbing next : Stage Handle).events answer)
      (coordinator.resume (.absorbing next : Stage Handle) answer) := by
  cases answer with
  | error cause => exact coordinator.forfeit_movesTo next _
  | ok checkedOut =>
    cases checkedOut with
    | none => exact coordinator.afterAbsorbing_movesTo approved fit
    | some envelope =>
      simp only [resume, Stage.events]
      rcases coordinator.absorb_cases envelope with
        ⟨entry, admitted, state, absorbed⟩ | ⟨refused, cause, failed⟩
      · rw [admitted, absorbed]
        exact ⟨Holdings.Move.moves (.enter state), rfl, fit⟩
      · rw [refused, failed]
        exact coordinator.forfeit_movesTo next cause

/-- Looking once more at a ballot that has been carried out moves no proposal. -/
theorem rereadStatus_movesTo (coordinator : Coordinator) (key : OrderKey) (result : Option Handle)
    (answer : Except VotingError VoteStatus) :
    MovesTo rounds coordinator.config coordinator.idleHoldings []
      (coordinator.resume (.rereadingStatus key result) answer) := by
  cases answer with
  | error cause => exact coordinator.movesTo_idle rfl rfl trivial
  | ok status =>
    cases status with
    | approved => exact coordinator.movesTo_idle rfl rfl ⟨trivial, False.elim⟩
    | _ => exact coordinator.movesTo_idle rfl rfl trivial

/-- A proposal that goes to everybody enters the own ledger, once the others have been told. -/
theorem broadcast_movesTo (coordinator : Coordinator)
    (approved : ∀ entry ∈ coordinator.ledger.entries, entry.state = .approved) (allowed : rounds)
    {proposal : Proposal} (state : proposal.state = .approved)
    (answer : Except VotingError Unit) :
    MovesTo rounds coordinator.config
      (holdings (coordinator, (.waiting (.broadcasting proposal) : Control Handle)))
      ((Stage.broadcasting proposal : Stage Handle).events answer)
      (coordinator.resume (.broadcasting proposal : Stage Handle) answer) := by
  cases answer with
  | error cause => exact coordinator.movesTo_idle rfl rfl trivial
  | ok done =>
    have same : proposal.markLocal = proposal.owned := by
      obtain ⟨id, state, createdAt, isLocal, tag, payload⟩ := proposal
      cases state
      rfl
    simp only [resume, onSuccess, Stage.events, same]
    exact coordinator.announced_movesTo approved allowed proposal _

/-- Whatever answer a stage gets, a call makes moves and nothing else happens to what the
coordinator holds. -/
theorem resume_movesTo {coordinator : Coordinator} {stage : Stage Handle}
    (approved : ∀ entry ∈ coordinator.ledger.entries, entry.state = .approved)
    (fit : (Control.waiting stage).Fit rounds) (answer : stage.request.Answer Handle) :
    MovesTo rounds coordinator.config (holdings (coordinator, .waiting stage))
      (stage.events answer) (coordinator.resume stage answer) := by
  obtain ⟨sound, gathers⟩ := fit
  cases stage with
  | offering | awaitingVotes =>
    exact coordinator.onSuccess_movesTo rfl rfl (by exact ⟨sound, False.elim⟩) answer
  | readingStatus proposal => exact coordinator.readStatus_movesTo sound answer
  | absorbing next => exact coordinator.checkedOut_movesTo approved ⟨sound, gathers⟩ answer
  | aging key =>
    rw [resume]
    split <;> exact coordinator.movesTo_idle rfl rfl ⟨trivial, False.elim⟩
  | awaitingAge | awaitingDrain | confirming | listening =>
    exact coordinator.onSuccess_movesTo rfl rfl (by exact ⟨trivial, False.elim⟩) answer
  | draining cause => exact coordinator.drain_movesTo approved cause answer
  | executing cause records proposal =>
    exact coordinator.record_movesTo cause records proposal answer
  | rereadingStatus key result => exact coordinator.rereadStatus_movesTo key result answer
  | releasingDenied | releasingCommitted | finalizing =>
    exact coordinator.onSuccess_movesTo rfl rfl (by exact trivial) answer
  | broadcasting proposal =>
    exact coordinator.broadcast_movesTo approved (gathers trivial) sound answer
  | awaitingQuorum key =>
    exact coordinator.onSuccess_movesTo rfl rfl (by exact ⟨trivial, gathers⟩) answer

end Coordinator

end Concord
