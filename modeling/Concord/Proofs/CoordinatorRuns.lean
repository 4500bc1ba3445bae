import Concord.Coordinator.Run
import Concord.Proofs.Holdings

/-!
# Runs of a coordinator

A run takes one coordinator through any number of calls, one after the other, with any answer to
any of its requests. Whatever its voting service, its executor and its clock are, what it does is
part of a run: `CoordinatorRun.reaches_run`. The events are beside the coordinator and decide
nothing; `CoordinatorRun.moves` says that they are moves between the places where a coordinator
holds proposals.
-/

namespace Concord

/-- A call on a coordinator. -/
inductive CoordinatorCall where
  | submit (proposal : Proposal)
  | submitVoted (proposal : Proposal)
  | submitBroadcast (proposal : Proposal)
  | progress

namespace CoordinatorCall

variable {Handle : Type}

/-- How a call starts. -/
def begin (call : CoordinatorCall) (coordinator : Coordinator) : Control Handle :=
  match call with
  | .submit proposal => coordinator.beginSubmit proposal
  | .submitVoted proposal => Coordinator.beginVoted proposal
  | .submitBroadcast proposal => Coordinator.beginBroadcast proposal
  | .progress => coordinator.beginProgress

/-- Whether a call waits for a round. -/
def Gathers (config : CoordinatorConfig) : CoordinatorCall → Prop
  | .submit _ => config.mode = .broadcast
  | .submitBroadcast _ => True
  | _ => False

/-- A proposal starts its life in the state that is asked for. -/
theorem state_of_start {proposal started : Proposal} {state : ProposalState}
    (starts : proposal.start state = .ok started) : started.state = state := by
  unfold Proposal.start at starts
  split at starts
  · split at starts
    · next advanced =>
      cases starts
      unfold Proposal.advance at advanced
      split at advanced <;> cases advanced
      rfl
    · cases starts
  · cases starts

/-- Starting a submission to the vote moves no proposal. -/
theorem beginVoted_movesTo {rounds : Prop} (coordinator : Coordinator) (proposal : Proposal) :
    Coordinator.MovesTo rounds coordinator.config coordinator.idleHoldings []
      (coordinator, (Coordinator.beginVoted proposal : Control Handle)) := by
  unfold Coordinator.beginVoted
  split
  · exact coordinator.movesTo_idle rfl rfl trivial
  · next started =>
    exact coordinator.movesTo_idle rfl rfl ⟨state_of_start started, nofun⟩

/-- Starting a submission to everybody moves no proposal. -/
theorem beginBroadcast_movesTo {rounds : Prop} (allowed : rounds) (coordinator : Coordinator)
    (proposal : Proposal) :
    Coordinator.MovesTo rounds coordinator.config coordinator.idleHoldings []
      (coordinator, (Coordinator.beginBroadcast proposal : Control Handle)) := by
  unfold Coordinator.beginBroadcast
  split
  · exact coordinator.movesTo_idle rfl rfl trivial
  · next started =>
    exact coordinator.movesTo_idle rfl rfl ⟨state_of_start started, fun _ => allowed⟩

/-- A call starts with all proposals where they are. -/
theorem begin_movesTo {rounds : Prop} (coordinator : Coordinator) (call : CoordinatorCall)
    (gathers : call.Gathers coordinator.config → rounds) :
    Coordinator.MovesTo rounds coordinator.config coordinator.idleHoldings []
      (coordinator, (call.begin coordinator : Control Handle)) := by
  cases call with
  | submit proposal =>
    simp only [begin, Coordinator.beginSubmit]
    split
    · exact beginVoted_movesTo coordinator proposal
    · next broadcast => exact beginBroadcast_movesTo (gathers broadcast) coordinator proposal
  | submitVoted proposal => exact beginVoted_movesTo coordinator proposal
  | submitBroadcast proposal => exact beginBroadcast_movesTo (gathers trivial) coordinator proposal
  | progress =>
    simp only [begin, Coordinator.beginProgress]
    split <;> exact coordinator.movesTo_idle rfl rfl ⟨trivial, False.elim⟩

end CoordinatorCall

/-- A coordinator with the call that it is in or has last answered, and what has happened to its
proposals. -/
structure CoordinatorRun (Handle : Type) where
  coordinator : Coordinator
  call : Option (Control Handle)
  events : List ProposalEvent

namespace CoordinatorRun

variable {Handle State : Type}

/-- A run before any call. -/
def opening (config : CoordinatorConfig) : CoordinatorRun Handle :=
  ⟨⟨config, .empty, .empty⟩, none, []⟩

/-- The proposals that the executor has answered for, in turn. -/
def handed (run : CoordinatorRun Handle) : List Proposal :=
  run.events.filterMap ProposalEvent.handed?

/-- Whether no call is under way. -/
def Free (run : CoordinatorRun Handle) : Prop :=
  ∀ stage, run.call ≠ some (.waiting stage)

/-- Whether no call is under way, as a test. -/
def isFree (run : CoordinatorRun Handle) : Bool :=
  match run.call with
  | some (.waiting _) => false
  | _ => true

/-- The test for a coordinator that is in no call is sound. -/
theorem free_of_isFree {run : CoordinatorRun Handle} (test : run.isFree = true) : run.Free := by
  intro stage waits
  unfold isFree at test
  rw [waits] at test
  cases test

/-- Start a call. -/
def begin (run : CoordinatorRun Handle) (call : CoordinatorCall) : CoordinatorRun Handle :=
  { run with call := some (call.begin run.coordinator) }

/-- Answer the request that a call waits for. -/
def answered (run : CoordinatorRun Handle) (stage : Stage Handle)
    (answer : stage.request.Answer Handle) : CoordinatorRun Handle :=
  let point := run.coordinator.resume stage answer
  ⟨point.1, some point.2, run.events ++ stage.events answer⟩

/-- What happens next in a run: a call of an allowed kind starts, or a request gets some
answer. -/
inductive Step (allowed : CoordinatorCall → Prop) (run : CoordinatorRun Handle) :
    CoordinatorRun Handle → Prop where
  | begin (call : CoordinatorCall) (allows : allowed call) (free : run.Free) :
      Step allowed run (run.begin call)
  | answer {stage : Stage Handle} (waits : run.call = some (.waiting stage))
      (answer : stage.request.Answer Handle) :
      Step allowed run (run.answered stage answer)

/-- What can become of a run. -/
inductive Reaches (allowed : CoordinatorCall → Prop) (start : CoordinatorRun Handle) :
    CoordinatorRun Handle → Prop where
  | refl : Reaches allowed start start
  | step {middle final : CoordinatorRun Handle} (prior : Reaches allowed start middle)
      (next : Step allowed middle final) : Reaches allowed start final

/-- Answer up to `budget` requests as what has happened so far says. -/
def attend (answer : List ProposalEvent → (request : Request) → request.Answer Handle) :
    (budget : Nat) → CoordinatorRun Handle → CoordinatorRun Handle
  | 0, run => run
  | budget + 1, run =>
    match run.call with
    | some (.waiting stage) =>
      attend answer budget (run.answered stage (answer run.events stage.request))
    | _ => run

/-- Answering the requests of a call, as long as the budget lasts, is a part of a run. -/
theorem reaches_attend {allowed : CoordinatorCall → Prop}
    (answer : List ProposalEvent → (request : Request) → request.Answer Handle) (budget : Nat)
    {start run : CoordinatorRun Handle} (reached : Reaches allowed start run) :
    Reaches allowed start (run.attend answer budget) := by
  induction budget generalizing run with
  | zero => exact reached
  | succ budget inductionHypothesis =>
    unfold attend
    split
    · next waits => exact inductionHypothesis (.step reached (.answer waits _))
    · exact reached

/-- Whatever surrounds a coordinator, a call that runs is part of a run. -/
theorem reaches_run {allowed : CoordinatorCall → Prop} (surroundings : Surroundings State Handle)
    (budget : Nat) {start run : CoordinatorRun Handle} (reached : Reaches allowed start run)
    (state : State) {control : Control Handle} (called : run.call = some control) :
    ∃ after : CoordinatorRun Handle, Reaches allowed start after ∧
      let ran := Coordinator.run surroundings budget ⟨run.coordinator, control, state⟩
      after.coordinator = ran.coordinator ∧ after.call = some ran.control := by
  induction budget generalizing run control state with
  | zero => exact ⟨run, reached, rfl, called⟩
  | succ budget inductionHypothesis =>
    cases control with
    | returned reply => exact ⟨run, reached, rfl, called⟩
    | waiting stage =>
      generalize answers : surroundings.answer stage.request state = answered
      have next : Reaches allowed start (run.answered stage answered.1) :=
        .step reached (.answer called _)
      obtain ⟨after, reaches, same⟩ := inductionHypothesis next answered.2 rfl
      refine ⟨after, reaches, ?_⟩
      simp only [Coordinator.run, Coordinator.exchange, answers]
      exact same

/-- What the coordinator of a run holds. -/
def holdings (run : CoordinatorRun Handle) : Holdings :=
  run.call.elim run.coordinator.idleHoldings fun control =>
    Coordinator.holdings (run.coordinator, control)

/-- What a run holds during a call is what the coordinator holds at that point. -/
theorem holdings_of_call {run : CoordinatorRun Handle} {control : Control Handle}
    (called : run.call = some control) :
    run.holdings = Coordinator.holdings (run.coordinator, control) := by
  rw [holdings, called]
  rfl

/-- Between calls nothing is pending or in hand. -/
theorem holdings_of_free {run : CoordinatorRun Handle} (free : run.Free) :
    run.holdings = run.coordinator.idleHoldings := by
  unfold holdings
  cases called : run.call with
  | none => rfl
  | some control =>
    cases control with
    | returned reply => rfl
    | waiting stage => exact absurd called (free stage)

/-- What holds all along a run: everything that the coordinator holds has come there by
moves. -/
structure Moved (rounds : Prop) (config : CoordinatorConfig) (run : CoordinatorRun Handle) :
    Prop where
  settings : run.coordinator.config = config
  moves : Holdings.Moves rounds config.windowMicros.toNat ⟨[], [], [], []⟩ run.events
    run.holdings
  fit : ∀ control, run.call = some control → control.Fit rounds

/-- All along a run everything in the ledger is approved. -/
theorem Moved.approved {rounds : Prop} {config : CoordinatorConfig} {run : CoordinatorRun Handle}
    (moved : Moved rounds config run) :
    ∀ entry ∈ run.coordinator.ledger.entries, entry.state = .approved := by
  have sound : run.holdings.Approved :=
    moved.moves.approved fun _ member => absurd member List.not_mem_nil
  have ledger : run.holdings.ledger = run.coordinator.ledger.entries := by
    unfold holdings
    cases run.call <;> rfl
  intro entry member
  apply sound
  rw [ledger]
  exact List.mem_append_right _ member

/-- One step more, and still everything has come where it is by moves. -/
theorem Moved.step {allowed : CoordinatorCall → Prop} {rounds : Prop} {config : CoordinatorConfig}
    {run after : CoordinatorRun Handle} (moved : Moved rounds config run)
    (gathers : ∀ call, allowed call → call.Gathers config → rounds)
    (next : Step allowed run after) : Moved rounds config after := by
  have settings := moved.settings
  cases next with
  | begin call allows free =>
    subst settings
    obtain ⟨moves, _, fit⟩ :=
      @CoordinatorCall.begin_movesTo Handle rounds run.coordinator call (gathers call allows)
    refine ⟨rfl, ?_, ?_⟩
    · have stood := moved.moves
      rw [holdings_of_free free] at stood
      have begun : (run.begin call).call = some (call.begin run.coordinator) := rfl
      rw [holdings_of_call begun, ← List.append_nil (run.begin call).events]
      exact stood.trans moves
    · intro control same
      cases same
      exact fit
  | @answer stage waits answer =>
    subst settings
    obtain ⟨moves, config, fit⟩ :=
      Coordinator.resume_movesTo moved.approved (moved.fit _ waits) answer
    refine ⟨config, ?_, ?_⟩
    · have stood := moved.moves
      rw [holdings_of_call waits] at stood
      have resumed : (run.answered stage answer).call =
          some (run.coordinator.resume stage answer).2 := rfl
      rw [holdings_of_call resumed]
      exact stood.trans moves
    · intro control same
      cases same
      exact fit

/-- Through any number of calls, proposals go from place to place by moves only. -/
theorem moves {allowed : CoordinatorCall → Prop} {rounds : Prop} {config : CoordinatorConfig}
    {run : CoordinatorRun Handle} (gathers : ∀ call, allowed call → call.Gathers config → rounds)
    (reached : Reaches allowed (opening config) run) : Moved rounds config run := by
  induction reached with
  | refl => exact ⟨rfl, .refl, fun _ called => nomatch called⟩
  | step _ next inductionHypothesis => exact inductionHypothesis.step gathers next

end CoordinatorRun

end Concord
