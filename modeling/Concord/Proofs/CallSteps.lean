import Concord.Proofs.CoordinatorRuns

/-!
# Steps of a call

An exchange is a request with the answer that it gets. `CallSteps` are zero or more exchanges of one
call and where they take the coordinator. Requests and answers are all that the surroundings of
a coordinator see of it, so what a call does to them is said of its exchanges. Whatever answers a
call, as far as it runs it is made of such steps: `Coordinator.callSteps_run`.

Whatever calls a coordinator has been through, each proposal that it holds has come as far in its
life as its place says, and steps keep this (`CallSteps.regular`).
-/

namespace Concord

/-- A proposal that the executor was asked to carry out, with its answer. -/
structure Execution (Handle : Type) where
  proposal : Proposal
  answer : Except ExecutorError (Option Handle)
deriving DecidableEq

/-- A request with the answer that it gets. -/
structure Exchange (Handle : Type) where
  request : Request
  answer : request.Answer Handle

namespace Exchange

variable {Handle : Type}

/-- The time that the clock shows. -/
def reading? : Exchange Handle → Option Timestamp
  | ⟨.readClock, now⟩ => some now
  | _ => none

/-- The envelope that is checked out. -/
def checkedOut? : Exchange Handle → Option Bytes
  | ⟨.checkout, .ok found⟩ => found
  | _ => none

/-- The ledger's entry for the envelope that is checked out. -/
def arrival? (exchange : Exchange Handle) : Option Proposal :=
  exchange.checkedOut?.bind Proposal.admitted?

/-- What the executor is asked to carry out. -/
def execution? : Exchange Handle → Option (Execution Handle)
  | ⟨.execute proposal, answer⟩ => some ⟨proposal, answer⟩
  | _ => none

/-- The times that the clock showed. -/
def readings (exchanges : List (Exchange Handle)) : List Timestamp :=
  exchanges.filterMap reading?

/-- What has come into the ledger from other processes. -/
def arrivals (exchanges : List (Exchange Handle)) : List Proposal :=
  exchanges.filterMap arrival?

/-- What the executor was asked to carry out, in turn. -/
def executions (exchanges : List (Exchange Handle)) : List (Execution Handle) :=
  exchanges.filterMap execution?

variable (earlier later : List (Exchange Handle))

/-- What the clock showed during two parts of a call, in turn. -/
@[simp] theorem readings_append :
    readings (earlier ++ later) = readings earlier ++ readings later :=
  List.filterMap_append ..

/-- What came in during two parts of a call, in turn. -/
@[simp] theorem arrivals_append :
    arrivals (earlier ++ later) = arrivals earlier ++ arrivals later :=
  List.filterMap_append ..

/-- What was executed during two parts of a call, in turn. -/
@[simp] theorem executions_append :
    executions (earlier ++ later) = executions earlier ++ executions later :=
  List.filterMap_append ..

variable {exchanges : List (Exchange Handle)} {exchange : Exchange Handle}

/-- An exchange that brings nothing leaves what has come in as it is. -/
theorem arrivals_concat_of_none (nothing : exchange.arrival? = none) :
    arrivals (exchanges ++ [exchange]) = arrivals exchanges := by
  simp [arrivals, nothing]

/-- An envelope that can be approved brings its proposal in. -/
theorem arrivals_checkout {envelope : Bytes} {entry : Proposal}
    (admitted : Proposal.admitted? envelope = some entry) :
    arrivals (exchanges ++ [⟨.checkout, .ok (some envelope)⟩]) = arrivals exchanges ++ [entry] := by
  simp [arrivals, arrival?, checkedOut?, admitted]

/-- An exchange that is no execution leaves what was executed as it is. -/
theorem executions_concat_of_none (unasked : exchange.execution? = none) :
    executions (exchanges ++ [exchange]) = executions exchanges := by
  simp [executions, unasked]

/-- The clock stays unread as long as no exchange reads it. -/
theorem unread_concat (unread : readings exchanges = []) (timeless : exchange.reading? = none) :
    readings (exchanges ++ [exchange]) = [] := by
  rw [readings_append, unread]
  simp [readings, timeless]

/-- What the clock once showed is still among its readings after further exchanges. -/
theorem mem_readings_concat {now : Timestamp} (read : now ∈ readings exchanges) :
    now ∈ readings (exchanges ++ [exchange]) := by
  rw [readings_append]
  exact List.mem_append_left _ read

end Exchange

/-- The request for an execution, with its answer. -/
def Execution.exchange {Handle : Type} (execution : Execution Handle) : Exchange Handle :=
  ⟨.execute execution.proposal, execution.answer⟩

namespace Execution

variable {Handle : Type} (executions : List (Execution Handle))

/-- Executing brings nothing in. -/
@[simp] theorem arrivals_map_exchange : Exchange.arrivals (executions.map exchange) = [] := by
  induction executions with
  | nil => rfl
  | cons first rest inductionHypothesis => exact inductionHypothesis

/-- The executions among exchanges that are all executions are these. -/
@[simp] theorem executions_map_exchange :
    Exchange.executions (executions.map exchange) = executions := by
  induction executions with
  | nil => rfl
  | cons first rest inductionHypothesis =>
    exact congrArg (List.cons first) inductionHypothesis

end Execution

/-- Zero or more exchanges of one call, from a point of it to another. -/
inductive CallSteps {Handle : Type} (start : Coordinator × Control Handle) :
    List (Exchange Handle) → Coordinator × Control Handle → Prop where
  | refl : CallSteps start [] start
  | step {coordinator : Coordinator} {stage : Stage Handle} {earlier : List (Exchange Handle)}
      (prior : CallSteps start earlier (coordinator, .waiting stage))
      (answer : stage.request.Answer Handle) :
      CallSteps start (earlier ++ [⟨stage.request, answer⟩]) (coordinator.resume stage answer)

/-- What a call has given back. -/
def Control.reply? {Handle : Type} :
    Control Handle → Option (Except CoordinatorError (Reply Handle))
  | .returned reply => some reply
  | .waiting _ => none

/-- A call with a reply has returned it. -/
theorem Control.returned_of_reply? {Handle : Type} {control : Control Handle}
    {reply : Except CoordinatorError (Reply Handle)} (replied : control.reply? = some reply) :
    control = .returned reply := by
  cases control with
  | returned given => exact congrArg Control.returned (Option.some.inj replied)
  | waiting stage => cases replied

namespace CallSteps

variable {Handle : Type} {start middle final : Coordinator × Control Handle}
  {exchanges earlier later : List (Exchange Handle)}

/-- Two parts of a call that meet at a point make one. -/
theorem trans (first : CallSteps start earlier middle) (second : CallSteps middle later final) :
    CallSteps start (earlier ++ later) final := by
  induction second with
  | refl =>
    rw [List.append_nil]
    exact first
  | step _ answer inductionHypothesis =>
    rw [← List.append_assoc]
    exact .step inductionHypothesis answer

end CallSteps

/-! ## Where proposals are in their lives -/

namespace Holdings

variable {rounds : Prop} {window : Nat} {before after : Holdings} {events : List ProposalEvent}

/-- Nothing but proposals that are due is in the queue or in the executor's hands. -/
def Ready (holdings : Holdings) : Prop :=
  ∀ entry ∈ holdings.queue ++ holdings.inHand, entry.state = .readyExecute

/-- What is put into the queue becomes due with this. -/
theorem Ready.queue {holdings : Holdings} (ready : holdings.Ready) (moved left : List Proposal) :
    Ready { holdings with ledger := left, queue := holdings.queue ++ moved.map Proposal.due } := by
  intro entry member
  rcases List.mem_append.1 member with queued | inHand
  · rcases List.mem_append.1 queued with old | new
    · exact ready entry (List.mem_append_left _ old)
    · obtain ⟨source, _, rfl⟩ := List.mem_map.1 new
      rfl
  · exact ready entry (List.mem_append_right _ inHand)

/-- A move puts nothing into the queue that is not due. -/
theorem Move.ready (move : Move rounds window before events after) (ready : before.Ready) :
    after.Ready := by
  cases move with
  | approve free approved => exact ready
  | settle waits => exact ready
  | forfeit waits => exact ready
  | enter approved => exact ready
  | drain perm aged young => exact ready.queue _ _
  | round allowed perm => exact ready.queue _ _
  | take free perm oldest =>
    intro entry member
    have queued := perm.mem_iff.1 (List.perm_append_comm.mem_iff.1 member)
    exact ready entry (List.mem_append_left _ queued)
  | hand holds =>
    intro entry member
    rw [List.append_nil] at member
    exact ready entry (List.mem_append_left _ member)

/-- What is queued stays due whatever moves are made. -/
theorem Moves.ready (moves : Moves rounds window before events after) (ready : before.Ready) :
    after.Ready := by
  induction moves with
  | refl => exact ready
  | step _ move inductionHypothesis => exact move.ready inductionHypothesis

end Holdings

/-- A point of a call at which each proposal has come as far in its life as its place says. -/
structure Regular {Handle : Type} (point : Coordinator × Control Handle) : Prop where
  approved : (Coordinator.holdings point).Approved
  ready : (Coordinator.holdings point).Ready
  fit : point.2.Fit True

namespace Regular

variable {Handle : Type}

/-- Moves from holdings that are in order lead to a regular point. -/
theorem of_movesTo {config : CoordinatorConfig} {before : Holdings} {events : List ProposalEvent}
    {point : Coordinator × Control Handle} (approved : before.Approved) (ready : before.Ready)
    (movesTo : Coordinator.MovesTo True config before events point) : Regular point :=
  ⟨movesTo.moves.approved approved, movesTo.moves.ready ready, movesTo.fit⟩

/-- A call starts at a regular point if it finds what is held so. -/
theorem begins {coordinator : Coordinator}
    (kept : coordinator.idleHoldings.Approved ∧ coordinator.idleHoldings.Ready)
    (call : CoordinatorCall) :
    Regular (coordinator, (call.begin coordinator : Control Handle)) :=
  .of_movesTo kept.1 kept.2
    (CoordinatorCall.begin_movesTo coordinator call fun _ => trivial)

/-- At a regular point everything in the ledger is approved. -/
theorem ledger {point : Coordinator × Control Handle} (regular : Regular point) :
    ∀ entry ∈ point.1.ledger.entries, entry.state = .approved :=
  fun entry member => regular.approved entry (List.mem_append_right _ member)

/-- An answer takes a regular point to a regular point. -/
theorem resume {coordinator : Coordinator} {stage : Stage Handle}
    (regular : Regular (coordinator, .waiting stage)) (answer : stage.request.Answer Handle) :
    Regular (coordinator.resume stage answer) :=
  of_movesTo regular.approved regular.ready
    (Coordinator.resume_movesTo regular.ledger regular.fit answer)

end Regular

namespace CallSteps

variable {Handle : Type} {start point : Coordinator × Control Handle}
  {exchanges : List (Exchange Handle)}

/-- A call that starts at a regular point stays at regular points. -/
theorem regular (callSteps : CallSteps start exchanges point) (regular : Regular start) :
    Regular point := by
  induction callSteps with
  | refl => exact regular
  | step _ answer inductionHypothesis => exact inductionHypothesis.resume answer

/-- What holds of the requests so far and the point reached holds all along if it holds at the
start and each answer keeps it. -/
theorem keeps {Holds : List (Exchange Handle) → Coordinator × Control Handle → Prop}
    (callSteps : CallSteps start exchanges point) (regular : Regular start)
    (begins : Holds [] start)
    (movesTo :
      ∀ {coordinator : Coordinator} {stage : Stage Handle} {earlier : List (Exchange Handle)},
        Regular (coordinator, .waiting stage) → Holds earlier (coordinator, .waiting stage) →
        ∀ answer, Holds (earlier ++ [⟨stage.request, answer⟩]) (coordinator.resume stage answer)) :
    Holds exchanges point := by
  induction callSteps with
  | refl => exact begins
  | step prior answer inductionHypothesis =>
    exact movesTo (prior.regular regular) inductionHypothesis answer

end CallSteps

namespace CoordinatorRun

variable {Handle : Type} {config : CoordinatorConfig} {run : CoordinatorRun Handle}

/-- Through any number of calls, what is in the ledger is approved and what is queued is due. -/
theorem regular (reached : Reaches (fun _ => True) (opening config) run) :
    run.coordinator.idleHoldings.Approved ∧ run.coordinator.idleHoldings.Ready := by
  have moved : Moved True config run := moves (fun _ _ _ => trivial) reached
  have ready : run.holdings.Ready :=
    moved.moves.ready fun _ member => absurd member List.not_mem_nil
  have queue : run.holdings.queue = run.coordinator.queue.entries := by
    unfold holdings
    cases run.call <;> rfl
  refine ⟨moved.approved, fun entry member => ready entry ?_⟩
  have queued : entry ∈ run.coordinator.queue.entries := by
    simpa [Coordinator.idleHoldings] using member
  exact List.mem_append_left _ (queue ▸ queued)

/-- The next call starts at a regular point. -/
theorem regular_begin (reached : Reaches (fun _ => True) (opening config) run)
    (call : CoordinatorCall) :
    Regular (run.coordinator, (call.begin run.coordinator : Control Handle)) :=
  .begins (regular reached) call

end CoordinatorRun

/-! ## Whatever answers -/

namespace Coordinator

variable {State Handle : Type}

/-- Up to `budget` requests of a call with the answers of some surroundings, and the point
reached with them. -/
def converse (surroundings : Surroundings State Handle) :
    (budget : Nat) → Coordinator × Control Handle → State →
      List (Exchange Handle) × (Coordinator × Control Handle)
  | 0, point, _ => ([], point)
  | budget + 1, point, state =>
    match point.2 with
    | .returned _ => ([], point)
    | .waiting stage =>
      let (answer, after) := surroundings.answer stage.request state
      let (later, final) := converse surroundings budget (point.1.resume stage answer) after
      (⟨stage.request, answer⟩ :: later, final)

/-- What a call does in given surroundings is made of its steps. -/
theorem callSteps_converse (surroundings : Surroundings State Handle) (budget : Nat)
    (point : Coordinator × Control Handle) (state : State) :
    CallSteps point (converse surroundings budget point state).1
      (converse surroundings budget point state).2 := by
  induction budget generalizing point state with
  | zero => exact .refl
  | succ budget inductionHypothesis =>
    obtain ⟨coordinator, control⟩ := point
    cases control with
    | returned reply => exact .refl
    | waiting stage =>
      generalize answers : surroundings.answer stage.request state = answered
      have first : CallSteps (coordinator, .waiting stage) [⟨stage.request, answered.1⟩]
          (coordinator.resume stage answered.1) := .step .refl _
      simp only [converse, answers]
      exact first.trans (inductionHypothesis _ answered.2)

/-- A conversation in which the call returns is made of steps to what it gives back. -/
theorem callSteps_of_reply (surroundings : Surroundings State Handle) (budget : Nat)
    (point : Coordinator × Control Handle) (state : State)
    {reply : Except CoordinatorError (Reply Handle)}
    (replied : (converse surroundings budget point state).2.2.reply? = some reply) :
    CallSteps point (converse surroundings budget point state).1
      ((converse surroundings budget point state).2.1, .returned reply) := by
  rw [← Control.returned_of_reply? replied]
  exact callSteps_converse surroundings budget point state

/-- The conversation takes a call as far as running it does. -/
theorem converse_run (surroundings : Surroundings State Handle) (budget : Nat)
    (coordinator : Coordinator) (control : Control Handle) (state : State) :
    (converse surroundings budget (coordinator, control) state).2 =
      let ran := run surroundings budget ⟨coordinator, control, state⟩
      (ran.coordinator, ran.control) := by
  induction budget generalizing coordinator control state with
  | zero => rfl
  | succ budget inductionHypothesis =>
    cases control with
    | returned reply => rfl
    | waiting stage => exact inductionHypothesis _ _ _

/-- What becomes of a call that runs, it becomes by steps. -/
theorem callSteps_run (surroundings : Surroundings State Handle) (budget : Nat)
    (coordinator : Coordinator) (control : Control Handle) (state : State) :
    let ran := run surroundings budget ⟨coordinator, control, state⟩
    ∃ exchanges, CallSteps (coordinator, control) exchanges (ran.coordinator, ran.control) := by
  have callSteps := callSteps_converse surroundings budget (coordinator, control) state
  rw [converse_run] at callSteps
  exact ⟨_, callSteps⟩

end Coordinator

end Concord
