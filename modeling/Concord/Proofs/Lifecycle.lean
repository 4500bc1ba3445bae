import Concord.Proofs.VotedSubmissions

/-!
# What cannot go wrong

Each proposal that a coordinator holds has come as far in its life as its place says, so queueing
one and marking one as executed never fail, and a submission to the vote always finds its own
proposal among those executed. Of the breaches that are about a proposal's life only one can be
met: an envelope that is checked out holds a proposal that cannot become approved. This ends the
call, and nothing else ends a call so.
-/

namespace Concord

variable {Handle : Type}

/-- Whether a breach is not about the life of a proposal. -/
def Breach.IsForeign : Breach → Prop
  | .notExecuted _ => True
  | .statusChanged _ _ => True
  | _ => False

/-- Whether a call has not ended with a breach about the life of a proposal. -/
def Control.Sane : Control Handle → Prop
  | .returned (.error (.invariant breach)) => breach.IsForeign
  | _ => True

namespace Coordinator

/-- What follows a batch breaks no rule about the life of a proposal. -/
theorem sane_afterBatch (cause : BatchCause) (records : List (Executed Handle)) :
    (afterBatch cause records).Sane := by
  cases cause with
  | drained cause =>
    cases cause with
    | tick => trivial
    | submission key =>
      rw [afterBatch]
      split <;> trivial
  | round key =>
    rw [afterBatch]
    split <;> trivial

/-- Going on with a batch breaks no rule about the life of a proposal. -/
theorem sane_executeNext (coordinator : Coordinator) (cause : BatchCause)
    (records : List (Executed Handle)) : (coordinator.executeNext cause records).2.Sane := by
  rw [executeNext]
  split
  · exact sane_afterBatch cause records
  · trivial

/-- A due proposal that the executor answers for can be marked as executed. -/
theorem sane_record (coordinator : Coordinator) {proposal : Proposal}
    (ready : proposal.state = .readyExecute) (cause : BatchCause)
    (records : List (Executed Handle)) (answer : Except ExecutorError (Option Handle)) :
    (coordinator.record cause records proposal answer).2.Sane := by
  cases answer with
  | error failure => trivial
  | ok handle =>
    simp only [record, ExecutionQueue.conclude_of_ready ready]
    exact sane_executeNext ..

/-- Approved proposals can be queued. -/
theorem sane_drain (coordinator : Coordinator)
    (approved : ∀ entry ∈ coordinator.ledger.entries, entry.state = .approved) (cause : DrainCause)
    (now : Timestamp) :
    (coordinator.drain cause now : Coordinator × Control Handle).2.Sane := by
  obtain ⟨moved, left, result, _⟩ := coordinator.moveAged_spec now approved
  simp only [drain, result]
  cases cause with
  | tick => exact sane_executeNext ..
  | submission key =>
    simp only
    split
    · exact sane_executeNext ..
    · trivial

/-- An approved round can be made due. -/
theorem sane_awaitRound (coordinator : Coordinator)
    (approved : ∀ entry ∈ coordinator.ledger.entries, entry.state = .approved) (key : OrderKey) :
    (coordinator.awaitRound key : Coordinator × Control Handle).2.Sane := by
  rcases coordinator.awaitRound_cases approved key with ⟨_, waits⟩ | ⟨_, goesOn⟩
  · rw [waits]
    trivial
  · rw [goesOn]
    exact sane_executeNext ..

/-- A proposal on the ballot can be decided. -/
theorem sane_resolve (coordinator : Coordinator) {proposal : Proposal}
    (started : proposal.state = .inProgress) (status : VoteStatus) :
    (coordinator.resolve proposal status : Coordinator × Control Handle).2.Sane := by
  cases status with
  | inProgress => trivial
  | unknown => trivial
  | denied =>
    simp only [resolve, Proposal.advance_of_inProgress started (.inr rfl)]
    trivial
  | approved =>
    simp only [resolve, Proposal.advance_of_inProgress started (.inl rfl)]
    trivial

/-- An answer that says only whether something was done breaks no rule of its own. -/
theorem sane_onSuccess (coordinator : Coordinator) {next : Coordinator × Control Handle}
    (sane : next.2.Sane) (answer : Except VotingError Unit) :
    (coordinator.onSuccess answer next).2.Sane := by
  cases answer with
  | error cause => trivial
  | ok done => exact sane

/-- At a regular point the own proposal can be approved or denied as its ballot says. -/
theorem sane_afterAbsorbing {coordinator : Coordinator} {next : AfterAbsorbing}
    (regular : Regular (coordinator, (.waiting (.absorbing next) : Control Handle))) :
    (coordinator.afterAbsorbing next : Coordinator × Control Handle).2.Sane := by
  cases next with
  | resolution proposal status => exact coordinator.sane_resolve regular.fit.1 status
  | aging key => trivial
  | drain cause => trivial
  | quorum key => exact coordinator.sane_awaitRound regular.ledger key
  | nothing => trivial

/-- Unless an envelope is checked out whose proposal cannot become approved, an answer does not
lead to a breach about the life of a proposal. -/
theorem sane_resume {coordinator : Coordinator} {stage : Stage Handle}
    (regular : Regular (coordinator, .waiting stage)) (answer : stage.request.Answer Handle)
    (approvable : ¬ (⟨stage.request, answer⟩ : Exchange Handle).Unapprovable) :
    (coordinator.resume stage answer).2.Sane := by
  cases stage with
  | readingStatus proposal => cases answer <;> trivial
  | absorbing next =>
    cases answer with
    | error cause => trivial
    | ok found =>
      cases found with
      | none => exact sane_afterAbsorbing regular
      | some envelope =>
        have absorbs := coordinator.absorb_absorbs envelope
        simp only [resume]
        generalize coordinator.absorb envelope = absorbed at absorbs
        cases absorbs with
        | malformed read => trivial
        | refused read past => exact absurd ⟨envelope, _, rfl, read, past⟩ approvable
        | entered read free => trivial
  | aging key =>
    rw [resume]
    split <;> trivial
  | draining cause => exact coordinator.sane_drain regular.ledger cause answer
  | executing cause records proposal =>
    have ready := regular.ready proposal (List.mem_append_right _ List.mem_cons_self)
    exact coordinator.sane_record ready cause records answer
  | rereadingStatus key result =>
    cases answer with
    | error cause => trivial
    | ok status => cases status <;> trivial
  | broadcasting proposal =>
    refine coordinator.sane_onSuccess ?_ answer
    refine sane_awaitRound _ ?_ _
    intro entry member
    rcases List.mem_append.1 member with held | isOwn
    · exact regular.ledger entry held
    · rw [List.mem_singleton.1 isOwn]
      exact regular.fit.1
  | _ =>
    refine coordinator.sane_onSuccess ?_ answer
    trivial

/-- Such an envelope does. -/
theorem resume_of_unapprovable {coordinator : Coordinator} {stage : Stage Handle}
    {answer : stage.request.Answer Handle}
    (past : (⟨stage.request, answer⟩ : Exchange Handle).Unapprovable) :
    ∃ id cause, (coordinator.resume stage answer).2 =
      .returned (.error (.invariant (.transition id cause))) := by
  obtain ⟨envelope, proposal, found, read, past⟩ := past
  cases stage with
  | absorbing next =>
    cases answer with
    | error cause => cases found
    | ok checkedOut =>
      cases found
      have absorbs := coordinator.absorb_absorbs envelope
      simp only [resume]
      generalize coordinator.absorb envelope = absorbed at absorbs
      cases absorbs with
      | malformed unread => rw [read] at unread; cases unread
      | refused => exact ⟨_, _, rfl⟩
      | entered same free =>
        rw [read] at same
        cases same
        exact absurd past free
  | _ => cases found

end Coordinator

/-- A point of a call at which an envelope that could not be approved has ended it, or none has
come and it has not ended as if one had. -/
inductive Honest (exchanges : List (Exchange Handle)) (point : Coordinator × Control Handle) :
    Prop where
  | sane (approvable : ∀ exchange ∈ exchanges, ¬ exchange.Unapprovable) (sane : point.2.Sane)
  | refused (past : ∃ exchange ∈ exchanges, exchange.Unapprovable)
      (ends : ∃ id cause, point.2 = .returned (.error (.invariant (.transition id cause))))

namespace Honest

variable {exchanges : List (Exchange Handle)}

/-- Every answer takes an honest point to an honest point. -/
theorem step {coordinator : Coordinator} {stage : Stage Handle}
    (regular : Regular (coordinator, .waiting stage))
    (honest : Honest exchanges (coordinator, .waiting stage))
    (answer : stage.request.Answer Handle) :
    Honest (exchanges ++ [⟨stage.request, answer⟩]) (coordinator.resume stage answer) := by
  cases honest with
  | sane approvable _ =>
    by_cases past : (⟨stage.request, answer⟩ : Exchange Handle).Unapprovable
    · exact .refused ⟨_, List.mem_append_right _ List.mem_cons_self, past⟩
        (Coordinator.resume_of_unapprovable past)
    · refine .sane ?_ (Coordinator.sane_resume regular answer past)
      intro exchange member
      rcases List.mem_append.1 member with before | latest
      · exact approvable exchange before
      · rw [List.mem_singleton.1 latest]
        exact past
  | refused past ends =>
    obtain ⟨id, cause, ended⟩ := ends
    cases ended

/-- A call ends with a breach of a transition exactly if such an envelope has come. -/
theorem transition_iff {coordinator : Coordinator} {reply : Except CoordinatorError (Reply Handle)}
    (honest : Honest exchanges (coordinator, .returned reply)) :
    (∃ id cause, reply = .error (.invariant (.transition id cause))) ↔
      ∃ exchange ∈ exchanges, exchange.Unapprovable := by
  cases honest with
  | sane approvable sane =>
    constructor
    · rintro ⟨id, cause, rfl⟩
      exact sane.elim
    · rintro ⟨exchange, member, past⟩
      exact absurd past (approvable exchange member)
  | refused past ends =>
    obtain ⟨id, cause, ended⟩ := ends
    exact ⟨fun _ => past, fun _ => ⟨id, cause, Control.returned.inj ended⟩⟩

/-- A call does not end because something cannot be queued or marked as executed. -/
theorem breach {coordinator : Coordinator} {breach : Breach}
    (honest : Honest exchanges
      (coordinator, (.returned (.error (.invariant breach)) : Control Handle))) :
    (∀ id cause, breach ≠ .notQueued id cause) ∧ ∀ cause, breach ≠ .notMarked cause := by
  cases honest with
  | sane _ sane =>
    refine ⟨?_, ?_⟩
    · rintro id cause rfl
      exact sane.elim
    · rintro cause rfl
      exact sane.elim
  | refused _ ends =>
    obtain ⟨id, cause, ended⟩ := ends
    cases ended
    exact ⟨nofun, nofun⟩

end Honest

/-- How a call starts, be it the last one. -/
inductive Coordinator.Opens (coordinator : Coordinator) : Control Handle → Prop where
  | call (call : CoordinatorCall) : Opens coordinator (call.begin coordinator)
  | close : Opens coordinator Coordinator.beginClose

/-- Whatever call a run starts next, it starts at a regular point. -/
theorem CoordinatorRun.regular_opens {config : CoordinatorConfig} {run : CoordinatorRun Handle}
    (reached : Reaches (fun _ => True) (opening config) run) {control : Control Handle}
    (opens : run.coordinator.Opens control) : Regular (run.coordinator, control) := by
  cases opens with
  | call call => exact regular_begin reached call
  | close => exact ⟨(regular reached).1, (regular reached).2, trivial, nofun⟩

/-- A call starts without a breach. -/
theorem Honest.begins {coordinator : Coordinator} {control : Control Handle}
    (opens : coordinator.Opens control) : Honest [] (coordinator, control) := by
  refine .sane (fun _ member => absurd member List.not_mem_nil) ?_
  have voted : ∀ own, (Coordinator.beginVoted own : Control Handle).Sane := by
    intro own
    rw [Coordinator.beginVoted]
    split <;> trivial
  have broadcast : ∀ own, (Coordinator.beginBroadcast own : Control Handle).Sane := by
    intro own
    rw [Coordinator.beginBroadcast]
    split <;> trivial
  cases opens with
  | call call =>
    cases call with
    | submit proposal =>
      simp only [CoordinatorCall.begin, Coordinator.beginSubmit]
      split
      · exact voted proposal
      · exact broadcast proposal
    | submitVoted proposal => exact voted proposal
    | submitBroadcast proposal => exact broadcast proposal
    | progress =>
      simp only [CoordinatorCall.begin, Coordinator.beginProgress]
      split <;> trivial
  | close => trivial

/-- Whatever calls a coordinator has been through, its ledger holds approved proposals and its
queue those that are due, also in the middle of a call. So no call fails because something cannot
be queued or marked as executed, no submission to the vote because its proposal was not executed,
and one fails because of a transition exactly if it checks out an envelope whose proposal cannot
become approved. -/
theorem lifecycle_kept {config : CoordinatorConfig} {run : CoordinatorRun Handle}
    (reached : CoordinatorRun.Reaches (fun _ => True) (.opening config) run) :
    (∀ entry ∈ run.coordinator.ledger.entries, entry.state = .approved) ∧
    (∀ entry ∈ run.coordinator.queue.entries, entry.state = .readyExecute) ∧
    ∀ (control : Control Handle) (exchanges : List (Exchange Handle)) (after : Coordinator)
      (reply : Except CoordinatorError (Reply Handle)), run.coordinator.Opens control →
      CallSteps (run.coordinator, control) exchanges (after, .returned reply) →
        (∀ id cause, reply ≠ .error (.invariant (.notQueued id cause))) ∧
        (∀ cause, reply ≠ .error (.invariant (.notMarked cause))) ∧
        (∀ own key, control = Coordinator.beginVoted own →
          reply ≠ .error (.invariant (.notExecuted key))) ∧
        ((∃ id cause, reply = .error (.invariant (.transition id cause))) ↔
          ∃ exchange ∈ exchanges, exchange.Unapprovable) := by
  have kept := CoordinatorRun.regular reached
  refine ⟨fun entry member => kept.1 entry member,
    fun entry member => kept.2 entry (List.mem_append_left _ member), ?_⟩
  intro control exchanges after reply opens callSteps
  have regular := CoordinatorRun.regular_opens reached opens
  have honest : Honest exchanges (after, .returned reply) :=
    callSteps.keeps regular (.begins opens) Honest.step
  refine ⟨?_, ?_, ?_, honest.transition_iff⟩
  · rintro id cause rfl
    exact honest.breach.1 id cause rfl
  · rintro cause rfl
    exact honest.breach.2 cause rfl
  · rintro own key rfl rfl
    cases VotedSubmission.of_callSteps callSteps regular with
    | failed honest => cases honest

namespace VotedSubmission

/-- A progress call after a failure, to which a proposal comes that claims to be executed. -/
def executedArrival : List (Exchange Unit) × (Coordinator × Control Unit) :=
  Coordinator.converse (answering .approved 1 { foreign 30 with state := .executed }) 5
    (leftover.coordinator, CoordinatorCall.progress.begin leftover.coordinator) 0

/-- It fails because of that proposal. -/
theorem lifecycle_kept_executedArrival :
    leftover.coordinator.ledger.size = 1 ∧ leftover.coordinator.queue.size = 1 ∧
    (∀ entry ∈ leftover.coordinator.ledger.entries, entry.state = .approved) ∧
    (∀ entry ∈ leftover.coordinator.queue.entries, entry.state = .readyExecute) ∧
    executedArrival.2.2.reply? = some (.error
      (.invariant (.transition ⟨2⟩ (.invalidTransition "EXECUTED" "APPROVED")))) ∧
    ∃ exchange ∈ executedArrival.1, exchange.Unapprovable := by
  have fails : executedArrival.2.2.reply? = some (.error
      (.invariant (.transition ⟨2⟩ (.invalidTransition "EXECUTED" "APPROVED")))) := by
    decide +kernel
  obtain ⟨approved, due, calls⟩ := lifecycle_kept reaches_leftover
  obtain ⟨_, _, _, transition⟩ :=
    calls _ _ _ _ (.call .progress) (Coordinator.callSteps_of_reply _ _ _ _ fails)
  exact ⟨by decide +kernel, by decide +kernel, approved, due, fails,
    transition.1 ⟨_, _, rfl⟩⟩

end VotedSubmission

end Concord
