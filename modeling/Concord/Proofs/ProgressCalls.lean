import Concord.Proofs.Batches
import Concord.Proofs.VotedSubmissions

/-!
# Progress calls

In voted mode a progress call reads the clock once. What has aged by then is executed, with what
an earlier failure has left in the queue, and nothing else leaves the ledger:
`VotedProgressOutcome`. In broadcast mode it takes in what has arrived and executes nothing.

Through any number of calls that wait for no round, the queue and the executor's hands hold
nothing that had not aged at a drain before: `Holdings.Aged`.
-/

namespace Concord

variable {Handle : Type}

/-! ## What has aged -/

namespace Holdings

variable {window : Nat} {before after : Holdings} {earlier later : List ProposalEvent}

/-- Whether each proposal that is queued or in hand had aged at some drain. -/
def Aged (window : Nat) (events : List ProposalEvent) (holdings : Holdings) : Prop :=
  ∀ entry ∈ holdings.queue ++ holdings.inHand,
    ∃ now, .drained now ∈ events ∧ window ≤ entry.ageAt now

/-- What had aged at some drain remains so. -/
theorem Aged.append (aged : before.Aged window earlier) (later : List ProposalEvent) :
    before.Aged window (earlier ++ later) := by
  intro entry member
  obtain ⟨now, drained, old⟩ := aged entry member
  exact ⟨now, List.mem_append_left _ drained, old⟩

/-- Where no round is taken out, nothing but a drain puts anything into the queue. -/
theorem Move.aged (move : Move False window before later after)
    (aged : before.Aged window earlier) : after.Aged window (earlier ++ later) := by
  have still := aged.append later
  cases move with
  | approve free approved => exact still
  | settle waits => exact still
  | forfeit waits => exact still
  | enter approved => exact still
  | drain perm old young =>
    intro entry member
    rcases List.mem_append.1 member with queued | inHand
    · rcases List.mem_append.1 queued with before | wasMoved
      · exact still entry (List.mem_append_left _ before)
      · obtain ⟨source, inMoved, rfl⟩ := List.mem_map.1 wasMoved
        exact ⟨_, List.mem_append_right _ List.mem_cons_self, old source inMoved⟩
    · exact still entry (List.mem_append_right _ inHand)
  | round allowed perm => exact allowed.elim
  | take free perm oldest =>
    intro entry member
    have queued := perm.mem_iff.1 (List.perm_append_comm.mem_iff.1 member)
    exact still entry (List.mem_append_left _ queued)
  | hand holds =>
    intro entry member
    rw [List.append_nil] at member
    exact still entry (List.mem_append_left _ member)

/-- Without rounds, whatever is queued or in hand had aged at some drain, and this survives any
moves. -/
theorem Moves.aged (moves : Moves False window before later after)
    (aged : before.Aged window []) : after.Aged window later := by
  induction moves with
  | refl => exact aged
  | step _ move inductionHypothesis => exact move.aged inductionHypothesis

end Holdings

/-- An age that is not zero is how long ago the proposal was made. -/
theorem Proposal.createdAt_add_le {proposal : Proposal} {window : Nat} {now : Timestamp}
    (aged : window ≤ proposal.ageAt now) (positive : 0 < window) :
    proposal.createdAt.toNat + window ≤ now.toNat := by
  unfold ageAt Timestamp.since at aged
  omega

/-- If no round is taken out, whatever the executor is asked for had aged at some drain. -/
theorem CoordinatorRun.aged {config : CoordinatorConfig} {run : CoordinatorRun Handle}
    (reached : Reaches (fun call => ¬ call.Gathers config) (opening config) run) :
    run.holdings.Aged config.windowMicros.toNat run.events := by
  have moved : Moved False config run := moves (fun _ => id) reached
  exact moved.moves.aged fun _ member => absurd member List.not_mem_nil

/-! ## A progress call in voted mode -/

/-- A bag that is parted by a test holds on each side what the test says. -/
theorem perm_filter_of_parted {Entry : Type} {passes : Entry → Bool}
    {inside outside bag : List Entry} (perm : (inside ++ outside).Perm bag)
    (pass : ∀ entry ∈ inside, passes entry = true)
    (fail : ∀ entry ∈ outside, passes entry = false) :
    inside.Perm (bag.filter passes) ∧ outside.Perm (bag.filter fun entry => !passes entry) := by
  have kept := perm.filter passes
  have dropped := perm.filter fun entry => !passes entry
  have none : outside.filter passes = [] :=
    List.filter_eq_nil_iff.2 fun entry member => by simp [fail entry member]
  have noneInside : inside.filter (fun entry => !passes entry) = [] :=
    List.filter_eq_nil_iff.2 fun entry member => by simp [pass entry member]
  rw [List.filter_append, none, List.filter_eq_self.2 pass, List.append_nil] at kept
  rw [List.filter_append, noneInside,
    List.filter_eq_self.2 fun entry member => by simp [fail entry member]] at dropped
  exact ⟨kept, dropped⟩

/-- Whether a proposal has reached the age at which a coordinator executes it. -/
def Coordinator.ripe (coordinator : Coordinator) (now : Timestamp) (proposal : Proposal) : Bool :=
  decide (coordinator.config.windowMicros.toNat ≤ proposal.ageAt now)

/-- The one drain of a progress call: what is ripe becomes due and what is not stays. -/
structure Drained (start : Coordinator) (arriving : List (Exchange Handle)) (now : Timestamp)
    (due left : List Proposal) : Prop where
  idle : Exchange.executions arriving = []
  unread : Exchange.readings arriving = []
  due : due.Perm (start.queue.entries ++
    ((start.ledger.entries ++ Exchange.arrivals arriving).filter (start.ripe now)).map Proposal.due)
  left : left.Perm
    ((start.ledger.entries ++ Exchange.arrivals arriving).filter fun entry => !start.ripe now entry)

/-- How far a progress call in voted mode has come. -/
inductive VotedProgressCall (start : Coordinator) (exchanges : List (Exchange Handle)) :
    Coordinator × Control Handle → Prop where
  | awaiting {coordinator : Coordinator} (collected : Collected start coordinator exchanges)
      (unread : Exchange.readings exchanges = []) :
      VotedProgressCall start exchanges (coordinator, .waiting (.awaitingDrain .tick))
  | absorbing {coordinator : Coordinator} (collected : Collected start coordinator exchanges)
      (unread : Exchange.readings exchanges = []) :
      VotedProgressCall start exchanges (coordinator, .waiting (.absorbing (.drain .tick)))
  | draining {coordinator : Coordinator} (collected : Collected start coordinator exchanges)
      (unread : Exchange.readings exchanges = []) :
      VotedProgressCall start exchanges (coordinator, .waiting (.draining .tick))
  | executing {coordinator : Coordinator} {arriving : List (Exchange Handle)} {now : Timestamp}
      {executions : List (Execution Handle)} {records : List (Executed Handle)}
      {due : List Proposal} {proposal : Proposal}
      (whole : exchanges = arriving ++ ⟨.readClock, now⟩ :: executions.map Execution.exchange)
      (drained : Drained start arriving now due coordinator.ledger.entries)
      (performing : Performing due executions records proposal coordinator.queue.entries) :
      VotedProgressCall start exchanges
        (coordinator, .waiting (.executing (.drained .tick) records proposal))
  | ended {coordinator : Coordinator} {arriving : List (Exchange Handle)} {now : Timestamp}
      {executions : List (Execution Handle)} {records : List (Executed Handle)}
      {due : List Proposal}
      (whole : exchanges = arriving ++ ⟨.readClock, now⟩ :: executions.map Execution.exchange)
      (drained : Drained start arriving now due coordinator.ledger.entries)
      (performed : Performed due executions records) (empty : coordinator.queue.entries = []) :
      VotedProgressCall start exchanges (coordinator, .returned (.ok (.executed records.length)))
  | failed {coordinator : Coordinator} {cause : CoordinatorError} :
      VotedProgressCall start exchanges (coordinator, .returned (.error cause))

namespace VotedProgressCall

variable {start : Coordinator} {exchanges : List (Exchange Handle)}

/-- A progress call in voted mode starts by waiting for what arrives. -/
theorem begins (start : Coordinator) (voted : start.config.mode = .voted) :
    VotedProgressCall start [] (start, (start.beginProgress : Control Handle)) := by
  rw [Coordinator.beginProgress, voted]
  exact .awaiting (.begins start) rfl

/-- A batch goes on, or its records are counted. -/
theorem proceeds {coordinator : Coordinator} {point : Coordinator × Control Handle}
    {arriving : List (Exchange Handle)} {now : Timestamp} {executions : List (Execution Handle)}
    {records : List (Executed Handle)} {due : List Proposal}
    (proceeds : Proceeds due executions records (.drained .tick) coordinator point)
    (whole : exchanges = arriving ++ ⟨.readClock, now⟩ :: executions.map Execution.exchange)
    (drained : Drained start arriving now due coordinator.ledger.entries) :
    VotedProgressCall start exchanges point := by
  cases proceeds with
  | ended none performed => exact .ended whole drained performed none
  | next performing => exact .executing whole drained performing

/-- The drain parts the ledger by age. -/
theorem drain {coordinator : Coordinator} (collected : Collected start coordinator exchanges)
    (unread : Exchange.readings exchanges = [])
    (approved : ∀ entry ∈ coordinator.ledger.entries, entry.state = .approved) (now : Timestamp) :
    VotedProgressCall start (exchanges ++ [⟨.readClock, now⟩]) (coordinator.drain .tick now) := by
  obtain ⟨aged, left, result, perm, _, old, young, _⟩ := coordinator.moveAged_spec now approved
  rw [collected.config] at old young
  rw [collected.ledger] at perm
  have ripe : ∀ entry ∈ aged, start.ripe now entry = true :=
    fun entry member => decide_eq_true (old entry member)
  have unripe : ∀ entry ∈ left, start.ripe now entry = false :=
    fun entry member => decide_eq_false (Nat.not_le.2 (young entry member))
  obtain ⟨moved, stays⟩ := perm_filter_of_parted perm ripe unripe
  simp only [Coordinator.drain, result]
  refine proceeds (Coordinator.executeNext_begins _ _) rfl ⟨collected.idle, unread, ?_, stays⟩
  rw [collected.queue]
  exact (moved.map _).append_left _

/-- Every answer takes a progress call in voted mode one stage further. -/
theorem step {coordinator : Coordinator} {stage : Stage Handle}
    (regular : Regular (coordinator, .waiting stage))
    (look : VotedProgressCall start exchanges (coordinator, .waiting stage))
    (answer : stage.request.Answer Handle) :
    VotedProgressCall start (exchanges ++ [⟨stage.request, answer⟩])
      (coordinator.resume stage answer) := by
  cases look with
  | awaiting collected unread =>
    exact Coordinator.onSuccess_goes_on (VotedProgressCall start _) answer (fun _ _ => .failed)
      fun _ => .absorbing (collected.quiet rfl rfl) (Exchange.unread_concat unread rfl)
  | absorbing collected unread =>
    refine Coordinator.resume_absorbing (VotedProgressCall start) ?_ ?_ ?_ answer
    · exact fun _ _ _ => .failed
    · exact .draining (collected.quiet rfl rfl) (Exchange.unread_concat unread rfl)
    · exact fun admitted =>
        .absorbing (collected.enter admitted) (Exchange.unread_concat unread rfl)
  | draining collected unread => exact drain collected unread regular.ledger answer
  | executing whole drained performing =>
    rcases Coordinator.resume_executing regular performing answer with
      ⟨failure, _, fails⟩ | ⟨handle, rfl, goesOn⟩
    · rw [fails]
      exact .failed
    · refine proceeds goesOn ?_ drained
      rw [whole, List.map_append, List.append_assoc]
      rfl

end VotedProgressCall

/-- What a progress call in voted mode has done. -/
structure VotedProgressOutcome (start after : Coordinator)
    (exchanges arriving : List (Exchange Handle)) (now : Timestamp)
    (executions : List (Execution Handle)) : Prop where
  /-- The clock is read once, after all has arrived and before anything is executed. -/
  whole : exchanges = arriving ++ ⟨.readClock, now⟩ :: executions.map Execution.exchange
  unread : Exchange.readings arriving = []
  idle : Exchange.executions arriving = []
  /-- What was queued and what is ripe by that time is executed. -/
  handed : (executions.map Execution.proposal).Perm (start.queue.entries ++
    ((start.ledger.entries ++ Exchange.arrivals exchanges).filter (start.ripe now)).map
      Proposal.due)
  /-- What is not ripe stays in the ledger. -/
  left : after.ledger.entries.Perm
    ((start.ledger.entries ++ Exchange.arrivals exchanges).filter fun entry =>
      !start.ripe now entry)
  queue : after.queue.entries = []
  ascending : (executions.map Execution.proposal).Pairwise fun first second =>
    first.key ≤ second.key
  succeeded : ∀ execution ∈ executions, ∃ handle, execution.answer = .ok handle

/-! ## A progress call in broadcast mode -/

/-- How far a progress call in broadcast mode has come: it does nothing but take in what has
arrived. -/
inductive BroadcastProgressCall (start : Coordinator) (exchanges : List (Exchange Handle)) :
    Coordinator × Control Handle → Prop where
  | listening {coordinator : Coordinator} (collected : Collected start coordinator exchanges) :
      BroadcastProgressCall start exchanges (coordinator, .waiting .listening)
  | absorbing {coordinator : Coordinator} (collected : Collected start coordinator exchanges) :
      BroadcastProgressCall start exchanges (coordinator, .waiting (.absorbing .nothing))
  | ended {coordinator : Coordinator} {reply : Except CoordinatorError (Reply Handle)}
      (collected : Collected start coordinator exchanges) :
      BroadcastProgressCall start exchanges (coordinator, .returned reply)

namespace BroadcastProgressCall

variable {start : Coordinator} {exchanges : List (Exchange Handle)}

/-- A progress call in broadcast mode starts by waiting for what arrives. -/
theorem begins (start : Coordinator) (broadcast : start.config.mode = .broadcast) :
    BroadcastProgressCall start [] (start, (start.beginProgress : Control Handle)) := by
  rw [Coordinator.beginProgress, broadcast]
  exact .listening (.begins start)

/-- Every answer takes a progress call in broadcast mode one stage further. -/
theorem step {coordinator : Coordinator} {stage : Stage Handle}
    (progressCall : BroadcastProgressCall start exchanges (coordinator, .waiting stage))
    (answer : stage.request.Answer Handle) :
    BroadcastProgressCall start (exchanges ++ [⟨stage.request, answer⟩])
      (coordinator.resume stage answer) := by
  cases progressCall with
  | listening collected =>
    exact Coordinator.onSuccess_goes_on (BroadcastProgressCall start _) answer
      (fun _ _ => .ended (collected.quiet rfl rfl)) fun _ => .absorbing (collected.quiet rfl rfl)
  | absorbing collected =>
    refine Coordinator.resume_absorbing (BroadcastProgressCall start) ?_ ?_ ?_ answer
    · exact fun nothing _ _ => .ended (collected.quiet nothing rfl)
    · exact .ended (collected.quiet rfl rfl)
    · exact fun admitted => .absorbing (collected.enter admitted)

/-- It asks the executor for nothing. -/
theorem idle {point : Coordinator × Control Handle}
    (progressCall : BroadcastProgressCall start exchanges point) :
    Exchange.executions exchanges = [] ∧ point.2.inHand = [] := by
  cases progressCall with
  | listening collected => exact ⟨collected.idle, rfl⟩
  | absorbing collected => exact ⟨collected.idle, rfl⟩
  | ended collected => exact ⟨collected.idle, rfl⟩

end BroadcastProgressCall

/-! ## Any progress call, any run -/

/-- Whatever calls a coordinator has been through and whatever answers it: a progress call in
voted mode executes what is queued and what has aged by the one time at which it reads the clock,
and nothing else; through calls that wait for no round, in voted mode submissions and progress
calls, the executor is asked for nothing that had not aged when the clock was read before; and a
progress call in broadcast mode asks the executor for nothing. -/
theorem aged_exactly {config : CoordinatorConfig} {run : CoordinatorRun Handle}
    (reached : CoordinatorRun.Reaches (fun _ => True) (.opening config) run) :
    (config.mode = .voted → ∀ (exchanges : List (Exchange Handle)) after reply,
      CallSteps (run.coordinator, run.coordinator.beginProgress) exchanges
          (after, .returned (.ok reply)) →
        ∃ arriving now executions,
          VotedProgressOutcome run.coordinator after exchanges arriving now executions ∧
            reply = .executed executions.length) ∧
    (CoordinatorRun.Reaches (fun call => ¬ call.Gathers config) (.opening config) run →
      ∀ proposal ∈ run.holdings.inHand, ∃ now, .drained now ∈ run.events ∧
        config.windowMicros.toNat ≤ proposal.ageAt now ∧
        (0 < config.windowMicros.toNat →
          proposal.createdAt.toNat + config.windowMicros.toNat ≤ now.toNat)) ∧
    (config.mode = .broadcast → ∀ (exchanges : List (Exchange Handle)) point,
      CallSteps (run.coordinator, run.coordinator.beginProgress) exchanges point →
        Exchange.executions exchanges = [] ∧ point.2.inHand = []) := by
  have moved : CoordinatorRun.Moved True config run :=
    CoordinatorRun.moves (fun _ _ _ => trivial) reached
  have settings := moved.settings
  have regular : Regular
      (run.coordinator, (run.coordinator.beginProgress : Control Handle)) :=
    CoordinatorRun.regular_begin reached .progress
  refine ⟨?_, ?_, ?_⟩
  · intro voted exchanges after reply callSteps
    have look : VotedProgressCall run.coordinator exchanges (after, .returned (.ok reply)) :=
      callSteps.keeps regular (.begins _ (settings ▸ voted)) VotedProgressCall.step
    cases look with
    | @ended _ arriving now executions records due whole drained performed empty =>
      have arrivals : Exchange.arrivals exchanges = Exchange.arrivals arriving := by
        have none :
            Exchange.arrivals (⟨.readClock, now⟩ :: executions.map Execution.exchange) = [] :=
          Execution.arrivals_map_exchange executions
        rw [whole, Exchange.arrivals_append, none, List.append_nil]
      refine ⟨arriving, now, executions, ?_, ?_⟩
      · exact {
          whole
          unread := drained.unread
          idle := drained.idle
          handed := arrivals ▸ performed.perm.trans drained.due
          left := arrivals ▸ drained.left
          queue := empty
          ascending := performed.handover.ascending
          succeeded := performed.recorded.succeeded }
      · have count := congrArg List.length performed.recorded
        rw [List.length_map, List.length_map] at count
        rw [count]
  · intro calls proposal member
    obtain ⟨now, drained, old⟩ :=
      CoordinatorRun.aged calls proposal (List.mem_append_right _ member)
    exact ⟨now, drained, old, Proposal.createdAt_add_le old⟩
  · intro broadcast exchanges point callSteps
    have progressCall : BroadcastProgressCall run.coordinator exchanges point :=
      callSteps.keeps regular (.begins _ (settings ▸ broadcast)) fun _ => BroadcastProgressCall.step
    exact progressCall.idle

/-! ## A progress call after a failure -/

namespace VotedProgressCall

/-- A progress call after one that has failed; a proposal comes in that has not aged. -/
def second : List (Exchange Unit) × (Coordinator × Control Unit) :=
  Coordinator.converse (VotedSubmission.answering .approved 1 (VotedSubmission.foreign 4900)) 20
    (VotedSubmission.leftover.coordinator, VotedSubmission.leftover.coordinator.beginProgress) 0

/-- The progress call that fails, at the request that the executor refuses. -/
def handing : CoordinatorRun Unit :=
  ((CoordinatorRun.opening (.default ⟨0⟩ 1)).begin .progress).attend VotedSubmission.refusing 6

/-- Settings for rounds. -/
def rounds : CoordinatorConfig :=
  { CoordinatorConfig.default ⟨0⟩ 1 with mode := .broadcast }

/-- A progress call in broadcast mode to which an old proposal comes. -/
def broadcastProgress : List (Exchange Unit) × (Coordinator × Control Unit) :=
  let coordinator := (CoordinatorRun.opening rounds : CoordinatorRun Unit).coordinator
  Coordinator.converse (VotedSubmission.answering .approved 1 (VotedSubmission.foreign 10)) 20
    (coordinator, coordinator.beginProgress) 0

/-- What the failure has left is executed and what comes in is not; the refused one had aged; and
in broadcast mode even what is old stays. -/
theorem aged_exactly_second :
    (Exchange.executions second.1).map (fun execution => execution.proposal.createdAt) =
      [⟨20⟩, ⟨900⟩] ∧
    second.2.1.ledger.entries.map Proposal.createdAt = [⟨4900⟩] ∧
    (∃ arriving now executions,
      VotedProgressOutcome VotedSubmission.leftover.coordinator second.2.1 second.1 arriving
        now executions ∧
        Reply.executed 2 = (.executed executions.length : Reply Unit)) ∧
    (VotedSubmission.foreign 10).due ∈ handing.holdings.inHand ∧
    (∃ now, .drained now ∈ handing.events ∧ 2000 ≤ (VotedSubmission.foreign 10).due.ageAt now) ∧
    Exchange.executions broadcastProgress.1 = [] ∧ broadcastProgress.2.1.ledger.size = 1 := by
  have replies : second.2.2.reply? = some (.ok (.executed 2)) := by decide +kernel
  have hears : broadcastProgress.2.2.reply? = some (.ok (.executed 0)) := by decide +kernel
  have hands : ∀ allowed : CoordinatorCall → Prop, allowed .progress →
      CoordinatorRun.Reaches allowed (.opening (.default ⟨0⟩ 1)) handing :=
    fun _ allows => CoordinatorRun.reaches_attend _ _ (.step .refl (.begin _ allows fun _ => nofun))
  have inHand : (VotedSubmission.foreign 10).due ∈ handing.holdings.inHand := by decide +kernel
  refine ⟨by decide +kernel, by decide +kernel, ?_, inHand, ?_, ?_, by decide +kernel⟩
  · obtain ⟨looks, _, _⟩ := aged_exactly VotedSubmission.reaches_leftover
    exact looks rfl _ _ _ (Coordinator.callSteps_of_reply _ _ _ _ replies)
  · obtain ⟨_, ages, _⟩ := aged_exactly (hands _ trivial)
    obtain ⟨now, drained, old, _⟩ := ages (hands _ not_false) _ inHand
    exact ⟨now, drained, old⟩
  · have opens : CoordinatorRun.Reaches (fun _ => True) (.opening rounds)
      (.opening rounds : CoordinatorRun Unit) :=
      .refl
    obtain ⟨_, _, idle⟩ := aged_exactly opens
    exact (idle rfl _ _ (Coordinator.callSteps_of_reply _ _ _ _ hears)).1

end VotedProgressCall

end Concord
