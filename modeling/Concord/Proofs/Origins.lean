import Concord.Proofs.Conservation
import Concord.Proofs.Retries

/-!
# Where executed proposals come from

A proposal is marked as own if it was submitted here, and the mark decides whether the executor
gives a handle for it and what is taken for the result of a submission. But an envelope says for
itself whether its proposal is marked, and a coordinator enters it as it came. So whatever is
executed is a proposal that was submitted here, marked, or one that has arrived, marked or not
(`CallSequence.executions_subperm`); and the mark tells the first from the second only as long as
nothing arrives that is marked.
-/

namespace Concord

open Proposal

variable {Handle : Type}

namespace Exchange

variable (earlier : List (Exchange Handle)) (exchange : Exchange Handle)

/-- One more exchange brings at most one proposal more. -/
theorem arrivals_concat :
    arrivals (earlier ++ [exchange]) = arrivals earlier ++ exchange.arrival?.toList := by
  rw [arrivals_append]
  rfl

/-- One more exchange is at most one execution more. -/
theorem executions_concat :
    executions (earlier ++ [exchange]) = executions earlier ++ exchange.execution?.toList := by
  rw [executions_append]
  rfl

end Exchange

/-! ## What can follow a batch -/

/-- Where a call can stand once the ledger has been drained or the executor has answered. -/
inductive Control.Onward (records : List (Executed Handle)) : Control Handle → Prop where
  | returned {reply : Except CoordinatorError (Reply Handle)} : Onward records (.returned reply)
  | executing {cause : BatchCause} {proposal : Proposal} :
      Onward records (.waiting (.executing cause records proposal))
  | confirming {key : OrderKey} {result : Option Handle} :
      Onward records (.waiting (.confirming key result))
  | awaitingDrain {cause : DrainCause} : Onward records (.waiting (.awaitingDrain cause))
  | awaitingQuorum {key : OrderKey} : Onward records (.waiting (.awaitingQuorum key))

namespace Coordinator

/-- A batch goes on to its next execution or to what may follow it. -/
theorem onward_executeNext (coordinator : Coordinator) (cause : BatchCause)
    (records : List (Executed Handle)) :
    (coordinator.executeNext cause records).2.Onward records := by
  rw [executeNext]
  split
  · cases cause with
    | drained cause =>
      cases cause with
      | tick => exact .returned
      | submission key =>
        simp only [afterBatch]
        split
        · exact .returned
        · exact .confirming
    | round key =>
      simp only [afterBatch]
      split <;> exact .returned
  · exact .executing

/-- Counting the slots leads on to a batch or to waiting once more. -/
theorem onward_awaitRound (coordinator : Coordinator) (key : OrderKey) :
    (coordinator.awaitRound key : Coordinator × Control Handle).2.Onward [] := by
  rw [awaitRound]
  split
  · exact .awaitingQuorum
  · simp only
    split
    · exact .returned
    · exact onward_executeNext ..

/-- A drain leads on to a batch or to waiting for the own proposal to age. -/
theorem onward_drain (coordinator : Coordinator) (cause : DrainCause) (now : Timestamp) :
    (coordinator.drain cause now : Coordinator × Control Handle).2.Onward [] := by
  rw [drain]
  split
  · exact .returned
  · cases cause with
    | tick => exact onward_executeNext ..
    | submission key =>
      simp only
      split
      · exact onward_executeNext ..
      · exact .awaitingDrain

/-- What can follow once every waiting envelope has come in. -/
inductive Follows : AfterAbsorbing → Control Handle → Prop where
  | onward {next : AfterAbsorbing} {control : Control Handle} (onward : control.Onward []) :
      Follows next control
  | awaitingVotes {own : Proposal} :
      Follows (.resolution own .inProgress) (.waiting (.awaitingVotes own))
  | releasingDenied {next : AfterAbsorbing} : Follows next (.waiting .releasingDenied)
  | aging {next : AfterAbsorbing} {key : OrderKey} : Follows next (.waiting (.aging key))
  | draining {next : AfterAbsorbing} {cause : DrainCause} :
      Follows next (.waiting (.draining cause))

/-- What a call goes on with once nothing is left to check out. -/
theorem follows_afterAbsorbing (coordinator : Coordinator) (next : AfterAbsorbing) :
    Follows next (coordinator.afterAbsorbing next : Coordinator × Control Handle).2 := by
  cases next with
  | resolution own status =>
    cases status with
    | inProgress => exact .awaitingVotes
    | unknown => exact .onward .returned
    | denied =>
      simp only [afterAbsorbing, resolve]
      split
      · exact .onward .returned
      · exact .releasingDenied
    | approved =>
      simp only [afterAbsorbing, resolve]
      split
      · exact .onward .returned
      · exact .aging
  | aging key => exact .aging
  | drain cause => exact .draining
  | quorum key => exact .onward (coordinator.onward_awaitRound key)
  | nothing => exact .onward .returned

/-- The executor's answer ends the call or leaves a record. -/
theorem onward_record (coordinator : Coordinator) (cause : BatchCause)
    (records : List (Executed Handle)) (proposal : Proposal)
    (answer : Except ExecutorError (Option Handle)) :
    (coordinator.record cause records proposal answer).2.Onward [] ∨
      ∃ record, Execution.record? ⟨proposal, answer⟩ = some record ∧
        (coordinator.record cause records proposal answer).2.Onward (records ++ [record]) := by
  rw [record]
  cases answer with
  | error failure => exact .inl .returned
  | ok handle =>
    simp only [ExecutionQueue.conclude]
    split
    · exact .inl .returned
    · exact .inl .returned
    · next concluded =>
      unfold Proposal.advance at concluded
      split at concluded
      · cases concluded
      · next advanced =>
        split at advanced <;> cases advanced
        cases concluded
        exact .inr ⟨_, rfl, onward_executeNext ..⟩

end Coordinator

/-! ## The own proposal on its way -/

/-- The own proposal that is not approved yet and may still be. -/
def AfterAbsorbing.prospects : AfterAbsorbing → List Proposal
  | .resolution _ .approved => []
  | .resolution own _ => [own.owned]
  | _ => []

namespace Control

/-- The own proposal that a call may still bring in. -/
def prospects : Control Handle → List Proposal
  | .waiting (.offering own) => [own.owned]
  | .waiting (.awaitingVotes own) => [own.owned]
  | .waiting (.readingStatus own) => [own.owned]
  | .waiting (.broadcasting own) => [own.owned]
  | .waiting (.absorbing next) => next.prospects
  | _ => []

/-- The records of the batch that is being executed. -/
def records : Control Handle → List (Executed Handle)
  | .waiting (.executing _ records _) => records
  | _ => []

/-- Past the drain, the own proposal has come in or never will. -/
theorem Onward.prospects {records : List (Executed Handle)} {control : Control Handle}
    (onward : control.Onward records) : control.prospects = [] := by
  cases onward <;> rfl

/-- Past the drain, no records are there but those of the batch. -/
theorem Onward.records {records : List (Executed Handle)} {control : Control Handle}
    (onward : control.Onward records) : ∀ record ∈ control.records, record ∈ records := by
  cases onward with
  | executing => exact fun _ member => member
  | _ => exact fun _ member => absurd member List.not_mem_nil

end Control

namespace Coordinator

/-- Going on after absorbing makes no proposal expected that was not before. -/
theorem Follows.prospects {next : AfterAbsorbing} {control : Control Handle}
    (follows : Follows next control) : control.prospects.Sublist next.prospects := by
  cases follows with
  | onward onward =>
    rw [onward.prospects]
    exact List.nil_sublist _
  | awaitingVotes => exact .refl _
  | _ => exact List.nil_sublist _

/-- Going on after absorbing starts with no records. -/
theorem Follows.records {next : AfterAbsorbing} {control : Control Handle}
    (follows : Follows next control) : ∀ record ∈ control.records, record ∈ [] := by
  cases follows with
  | onward onward => exact onward.records
  | _ => exact fun _ member => member

/-- No proposal arrives by a pending one's entering the ledger, or by its being dropped. -/
theorem arrivals_pending (next : AfterAbsorbing) :
    (next.pending.map ProposalEvent.settled).filterMap ProposalEvent.arrival? = [] ∧
      (next.pending.map ProposalEvent.forfeited).filterMap ProposalEvent.arrival? = [] := by
  rw [List.filterMap_map, List.filterMap_map]
  exact ⟨List.filterMap_eq_nil_iff.2 fun _ _ => rfl, List.filterMap_eq_nil_iff.2 fun _ _ => rfl⟩

/-- While a call absorbs, what arrives comes in, and the own proposal at the end if it still may. -/
theorem checkedOut_brings_sublist (coordinator : Coordinator) (next : AfterAbsorbing)
    (answer : Except VotingError (Option Bytes)) :
    ((coordinator.resume (.absorbing next : Stage Handle) answer).2.prospects ++
        ((Stage.absorbing next : Stage Handle).events answer).filterMap
          ProposalEvent.arrival?).Sublist
      (next.prospects ++ (⟨.checkout, answer⟩ : Exchange Handle).arrival?.toList) := by
  obtain ⟨settles, forfeits⟩ := arrivals_pending next
  cases answer with
  | error cause =>
    simp only [resume, Stage.events, forfeits]
    exact List.nil_sublist _
  | ok found =>
    cases found with
    | none =>
      simp only [resume, Stage.events, settles]
      exact (coordinator.follows_afterAbsorbing next).prospects.append_right []
    | some envelope =>
      simp only [resume, Stage.events]
      rcases coordinator.absorb_cases envelope with
        ⟨entry, admitted, _, absorbed⟩ | ⟨refused, cause, stuck⟩
      · simp only [absorbed, admitted, Exchange.arrival?, Exchange.checkedOut?, Option.bind_some]
        exact .refl _
      · simp only [stuck, refused, forfeits]
        exact List.nil_sublist _

/-- Nothing is to be expected any more once a batch goes on. -/
theorem prospects_record (coordinator : Coordinator) (cause : BatchCause)
    (records : List (Executed Handle)) (proposal : Proposal)
    (answer : Except ExecutorError (Option Handle)) :
    (coordinator.record cause records proposal answer).2.prospects = [] := by
  rcases onward_record coordinator cause records proposal answer with ends | ⟨_, _, goesOn⟩
  · exact ends.prospects
  · exact goesOn.prospects

/-- An answer brings in nothing but the own proposal, once, and what arrives with it. -/
theorem brings_sublist (coordinator : Coordinator) {stage : Stage Handle}
    (answer : stage.request.Answer Handle) :
    ((coordinator.resume stage answer).2.prospects ++
        (stage.events answer).filterMap ProposalEvent.arrival?).Sublist
      ((Control.waiting stage).prospects ++
        (⟨stage.request, answer⟩ : Exchange Handle).arrival?.toList) := by
  cases stage with
  | offering | awaitingVotes =>
    cases answer with
    | error cause => exact List.nil_sublist _
    | ok done => exact .refl _
  | readingStatus own =>
    cases answer with
    | error cause => exact List.nil_sublist _
    | ok status => cases status <;> exact .refl _
  | absorbing next => exact coordinator.checkedOut_brings_sublist next answer
  | draining cause =>
    simp only [resume]
    rw [(onward_drain coordinator cause answer).prospects]
    exact List.nil_sublist _
  | executing cause records proposal =>
    simp only [resume]
    rw [coordinator.prospects_record cause records proposal answer]
    exact List.nil_sublist _
  | broadcasting own =>
    cases answer with
    | error cause => exact List.nil_sublist _
    | ok sent =>
      simp only [resume, onSuccess]
      rw [(onward_awaitRound _ own.key).prospects]
      exact .refl _
  | aging key =>
    rw [resume]
    split <;> exact List.nil_sublist _
  | rereadingStatus key result =>
    cases answer with
    | error cause => exact List.nil_sublist _
    | ok status => cases status <;> exact List.nil_sublist _
  | _ => cases answer <;> exact List.nil_sublist _

/-- A record is there already or that of the proposal that the executor has answered for. -/
theorem records_resume (coordinator : Coordinator) {stage : Stage Handle}
    (answer : stage.request.Answer Handle) {record : Executed Handle}
    (member : record ∈ (coordinator.resume stage answer).2.records) :
    record ∈ (Control.waiting stage).records ∨
      ∃ execution, (⟨stage.request, answer⟩ : Exchange Handle).execution? = some execution ∧
        execution.record? = some record := by
  cases stage with
  | executing cause records proposal =>
    rcases onward_record coordinator cause records proposal answer with
      ends | ⟨latest, left, goesOn⟩
    · exact absurd (ends.records record member) List.not_mem_nil
    · rcases List.mem_append.1 (goesOn.records record member) with before | isLatest
      · exact .inl before
      · rw [List.mem_singleton.1 isLatest]
        exact .inr ⟨_, rfl, left⟩
  | absorbing next =>
    cases answer with
    | error cause => cases member
    | ok found =>
      cases found with
      | none =>
        exact absurd ((coordinator.follows_afterAbsorbing next).records record member)
          List.not_mem_nil
      | some envelope =>
        simp only [resume] at member
        split at member <;> cases member
  | draining cause => exact absurd ((onward_drain ..).records record member) List.not_mem_nil
  | broadcasting own =>
    cases answer with
    | error cause => cases member
    | ok sent => exact absurd ((onward_awaitRound ..).records record member) List.not_mem_nil
  | readingStatus own => cases answer <;> cases member
  | aging key =>
    simp only [resume] at member
    split at member <;> cases member
  | rereadingStatus key result =>
    cases answer with
    | error cause => cases member
    | ok status => cases status <;> cases member
  | _ => cases answer <;> cases member

/-- What an answer takes is what it hands over, and more only if a proposal is dropped. -/
theorem handed_sublist {stage : Stage Handle} (answer : stage.request.Answer Handle) :
    ((⟨stage.request, answer⟩ : Exchange Handle).execution?.toList.map Execution.proposal).Sublist
      ((stage.events answer).filterMap ProposalEvent.departure?) := by
  cases stage with
  | executing cause records proposal => exact .refl _
  | _ => exact List.nil_sublist _

end Coordinator

/-! ## What calls execute -/

/-- How often a content is among what a call holds or may still bring in. -/
def carried (content : Proposal) (point : Coordinator × Control Handle) : Nat :=
  tally content point.2.prospects + tally content (Coordinator.holdings point).all

/-- Whatever a call is answered, it executes and keeps no more than it held, brings in and takes
in. -/
theorem CallSteps.accounted {start point : Coordinator × Control Handle}
    {exchanges : List (Exchange Handle)} (callSteps : CallSteps start exchanges point)
    (regular : Regular start) (content : Proposal) :
    carried content point +
        tally content ((Exchange.executions exchanges).map Execution.proposal) ≤
      carried content start + tally content (Exchange.arrivals exchanges) := by
  induction callSteps with
  | refl => exact Nat.le_refl _
  | @step coordinator stage earlier prior answer inductionHypothesis =>
    have regularHere : Regular (coordinator, .waiting stage) := prior.regular regular
    have moves : Holdings.Moves True coordinator.config.windowMicros.toNat
        (Coordinator.holdings (coordinator, .waiting stage)) (stage.events answer)
        (Coordinator.holdings (coordinator.resume stage answer)) :=
      (Coordinator.resume_movesTo regularHere.ledger regularHere.fit answer).moves
    have conserved := moves.conserved content
    have brings := tally_le_of_sublist (coordinator.brings_sublist answer) content
    have hands := tally_le_of_sublist (Coordinator.handed_sublist answer) content
    simp only [carried, Exchange.executions_concat, Exchange.arrivals_concat, List.map_append,
      tally_append] at inductionHypothesis brings ⊢
    omega

/-- A call starts with nothing in hand, and it may bring in the proposal that it submits. -/
inductive Control.Starts : Option Proposal → Control Handle → Prop where
  | failed {own? : Option Proposal} {reply : Except CoordinatorError (Reply Handle)} :
      Starts own? (.returned reply)
  | voted {own : Proposal} :
      Starts (some own) (.waiting (.offering { own with state := .inProgress }))
  | broadcast {own : Proposal} :
      Starts (some own) (.waiting (.broadcasting { own with state := .approved }))
  | tick : Starts none (.waiting (.awaitingDrain .tick))
  | listening : Starts none (.waiting .listening)

namespace Control.Starts

/-- A submission to the vote starts with its own proposal. -/
theorem beginVoted (own : Proposal) :
    (Coordinator.beginVoted own : Control Handle).Starts (some own) := by
  rcases Coordinator.start_cases own .inProgress with ⟨cause, busy⟩ | started
  · rw [Coordinator.beginVoted, busy]
    exact .failed
  · rw [Coordinator.beginVoted, started]
    exact .voted

/-- A submission to everybody starts with its own proposal. -/
theorem beginBroadcast (own : Proposal) :
    (Coordinator.beginBroadcast own : Control Handle).Starts (some own) := by
  rcases Coordinator.start_cases own .approved with ⟨cause, busy⟩ | started
  · rw [Coordinator.beginBroadcast, busy]
    exact .failed
  · rw [Coordinator.beginBroadcast, started]
    exact .broadcast

/-- Every call starts with the proposal that it submits, if it submits one. -/
theorem begin (call : CoordinatorCall) (coordinator : Coordinator) :
    (call.begin coordinator : Control Handle).Starts call.own? := by
  cases call with
  | submit own =>
    simp only [CoordinatorCall.begin, Coordinator.beginSubmit]
    split
    · exact beginVoted own
    · exact beginBroadcast own
  | submitVoted own => exact beginVoted own
  | submitBroadcast own => exact beginBroadcast own
  | progress =>
    simp only [CoordinatorCall.begin, Coordinator.beginProgress]
    split
    · exact .tick
    · exact .listening

/-- What a call carries when it starts is held or submitted. -/
theorem carried_le {own? : Option Proposal} {control : Control Handle}
    (starts : control.Starts own?) (coordinator : Coordinator) (content : Proposal) :
    carried content (coordinator, control) ≤
      tally content (own?.toList.map Proposal.owned) +
        tally content coordinator.idleHoldings.all := by
  cases starts with
  | failed => exact Nat.add_le_add_right (Nat.zero_le _) _
  | _ => exact Nat.le_refl _

/-- A call starts with no records. -/
theorem records {own? : Option Proposal} {control : Control Handle}
    (starts : control.Starts own?) : control.records = [] := by
  cases starts <;> rfl

end Control.Starts

namespace CallSequence

variable {config : CoordinatorConfig} {calls : List (CompletedCall Handle)}
  {coordinator after : Coordinator} {call : CoordinatorCall} {exchanges : List (Exchange Handle)}
  {point : Coordinator × Control Handle}

/-- A further call executes and keeps no more than was held, is submitted and arrives. -/
theorem underway (sequence : CallSequence config calls coordinator)
    (callSteps : CallSteps (coordinator, call.begin coordinator) exchanges point)
    (content : Proposal) :
    carried content point +
        tally content ((Exchange.executions exchanges).map Execution.proposal) ≤
      tally content (call.own?.toList.map Proposal.owned) +
        tally content coordinator.idleHoldings.all +
        tally content (Exchange.arrivals exchanges) := by
  have accounted := callSteps.accounted (sequence.regular_begin call) content
  have starts : (call.begin coordinator : Control Handle).Starts _ := .begin call coordinator
  have carries := starts.carried_le coordinator content
  omega

/-- Whatever has been executed or is held was submitted or has arrived. -/
theorem accounted (sequence : CallSequence config calls coordinator) (content : Proposal) :
    tally content coordinator.idleHoldings.all +
        tally content ((Exchange.executions (CompletedCall.asked calls)).map Execution.proposal) ≤
      tally content ((CompletedCall.owns calls).map Proposal.owned) +
        tally content (Exchange.arrivals (CompletedCall.asked calls)) := by
  induction sequence with
  | opening => exact Nat.le_refl _
  | @call coordinator after earlier completed prior callSteps inductionHypothesis =>
    have latest := prior.underway callSteps content
    have held : carried content (after, (.returned completed.reply : Control Handle)) =
        tally content after.idleHoldings.all := Nat.zero_add _
    rw [held] at latest
    simp only [CompletedCall.owns_concat, CompletedCall.asked_concat, Exchange.executions_append,
      Exchange.arrivals_append, List.map_append, tally_append]
    omega

/-- Each execution, those of a call under way included, is of a proposal that was submitted here or
has arrived, and of each at most once. -/
theorem executions_subperm (sequence : CallSequence config calls coordinator)
    (callSteps : CallSteps (coordinator, call.begin coordinator) exchanges point) :
    ((Exchange.executions (CompletedCall.asked calls ++ exchanges)).map
        fun execution => execution.proposal.content).Subperm
      (((CompletedCall.owns calls ++ call.own?.toList).map Proposal.owned ++
        Exchange.arrivals (CompletedCall.asked calls ++ exchanges)).map Proposal.content) := by
  refine List.subperm_iff_count.2 fun content => ?_
  have before := sequence.accounted content
  have latest := sequence.underway callSteps content
  have total : tally content
      ((Exchange.executions (CompletedCall.asked calls ++ exchanges)).map Execution.proposal) ≤
        tally content ((CompletedCall.owns calls ++ call.own?.toList).map Proposal.owned ++
          Exchange.arrivals (CompletedCall.asked calls ++ exchanges)) := by
    simp only [Exchange.executions_append, Exchange.arrivals_append, List.map_append, tally_append]
    omega
  unfold tally at total
  rwa [List.map_map] at total

end CallSequence

/-- The records of a batch are those of executions that the call has asked for. -/
theorem CallSteps.records {start point : Coordinator × Control Handle}
    {exchanges : List (Exchange Handle)} (callSteps : CallSteps start exchanges point)
    (fresh : start.2.records = []) : ∀ record ∈ point.2.records,
      ∃ execution ∈ Exchange.executions exchanges, execution.record? = some record := by
  induction callSteps with
  | refl =>
    rw [fresh]
    exact fun _ member => absurd member List.not_mem_nil
  | @step coordinator stage earlier _ answer inductionHypothesis =>
    intro record member
    rw [Exchange.executions_concat]
    rcases coordinator.records_resume answer member with before | ⟨execution, asked, left⟩
    · obtain ⟨execution, inEarlier, left⟩ := inductionHypothesis record before
      exact ⟨execution, List.mem_append_left _ inEarlier, left⟩
    · exact ⟨execution, List.mem_append_right _ (by simp [asked]), left⟩

/-! ## What is given back for a submission -/

/-- Whether a result is the answer to the execution of a proposal that is marked as own and at the
place of the one submitted. -/
def Backed (own : Proposal) (exchanges : List (Exchange Handle)) (result : Option Handle) : Prop :=
  ∃ execution ∈ Exchange.executions exchanges, execution.proposal.isLocal = true ∧
    execution.proposal.key = own.key ∧ execution.answer = .ok result

namespace Backed

variable {coordinator after : Coordinator} {exchanges : List (Exchange Handle)} {own : Proposal}
  {result : Option Handle}

/-- The result of a submission to the vote is that of the execution of a marked proposal at its own
place. -/
theorem of_voted
    (callSteps : CallSteps (coordinator, Coordinator.beginVoted own) exchanges
      (after, .returned (.ok (.submitted (.committed result)))))
    (regular : Regular (coordinator, (Coordinator.beginVoted own : Control Handle))) :
    Backed own exchanges result := by
  cases VotedSubmission.of_callSteps callSteps regular with
  | committed whole resulted =>
    obtain ⟨_, _, due, records, _, performed, found⟩ := resulted
    obtain ⟨execution, member, answered⟩ := performed.recorded.ownResult found
    refine ⟨execution, ?_, answered⟩
    rw [whole, Exchange.executions_append, Exchange.executions_append,
      Execution.executions_map_exchange]
    exact List.mem_append_left _ (List.mem_append_right _ member)

/-- The result of a submission to everybody is that of the execution of a marked proposal at its own
place. -/
theorem of_broadcast
    (callSteps : CallSteps (coordinator, Coordinator.beginBroadcast own) exchanges
      (after, .returned (.ok (.submitted (.committed result)))))
    (regular : Regular (coordinator, (Coordinator.beginBroadcast own : Control Handle))) :
    Backed own exchanges result := by
  cases BroadcastReply.of_callSteps callSteps regular with
  | completed whole quorum performed given =>
    simp only [Coordinator.afterBatch] at given
    split at given
    · cases given
    · next found =>
      cases given
      obtain ⟨execution, member, answered⟩ := performed.recorded.ownResult found
      exact ⟨execution, (quorum.executions_eq whole).symm ▸ member, answered⟩

/-- Whatever call submits a proposal, its result is backed. -/
theorem of_callSteps {call : CoordinatorCall} (submits : call.own? = some own)
    (callSteps : CallSteps (coordinator, call.begin coordinator) exchanges
      (after, .returned (.ok (.submitted (.committed result)))))
    (regular : Regular (coordinator, (call.begin coordinator : Control Handle))) :
    Backed own exchanges result := by
  cases call with
  | submit proposal =>
    cases submits
    simp only [CoordinatorCall.begin, Coordinator.beginSubmit] at callSteps regular
    split at callSteps
    · next voted =>
      rw [voted] at regular
      exact of_voted callSteps regular
    · next broadcast =>
      rw [broadcast] at regular
      exact of_broadcast callSteps regular
  | submitVoted proposal =>
    cases submits
    exact of_voted callSteps regular
  | submitBroadcast proposal =>
    cases submits
    exact of_broadcast callSteps regular
  | progress => cases submits

end Backed

/-! ## What the mark says -/

/-- Where everything that a coordinator has executed comes from. -/
structure Origins (submitted : List Proposal) (told : List (Exchange Handle)) : Prop where
  /-- Each execution is of a proposal that was submitted, and so marked, or that has arrived, and of
  each at most once. -/
  once : ((Exchange.executions told).map fun execution => execution.proposal.content).Subperm
    ((submitted.map Proposal.owned ++ Exchange.arrivals told).map Proposal.content)
  /-- It is marked exactly if it was submitted or has arrived marked. -/
  marked : ∀ execution ∈ Exchange.executions told, execution.proposal.isLocal = true ↔
    (∃ own ∈ submitted, execution.proposal.content = own.owned.content) ∨
      ∃ entry ∈ Exchange.arrivals told, entry.isLocal = true ∧
        execution.proposal.content = entry.content
  /-- If nothing that has arrived is marked, exactly what was submitted is. -/
  unforged : (∀ entry ∈ Exchange.arrivals told, entry.isLocal = false) →
    ∀ execution ∈ Exchange.executions told, execution.proposal.isLocal = true ↔
      ∃ own ∈ submitted, execution.proposal.content = own.owned.content

/-- Where nothing is executed but what was submitted or has arrived, every execution has its origin.
-/
theorem Origins.of_subperm {submitted : List Proposal} {told : List (Exchange Handle)}
    (once : ((Exchange.executions told).map fun execution => execution.proposal.content).Subperm
      ((submitted.map Proposal.owned ++ Exchange.arrivals told).map Proposal.content)) :
    Origins submitted told := by
  have marks : ∀ {first second : Proposal}, first.content = second.content →
      first.isLocal = second.isLocal := by
    intro first second same
    exact (congrArg Proposal.isLocal same : first.content.isLocal = second.content.isLocal)
  have marked : ∀ execution ∈ Exchange.executions told, execution.proposal.isLocal = true ↔
      (∃ own ∈ submitted, execution.proposal.content = own.owned.content) ∨
        ∃ entry ∈ Exchange.arrivals told, entry.isLocal = true ∧
          execution.proposal.content = entry.content := by
    intro execution member
    constructor
    · intro isLocal
      obtain ⟨source, isSource, same⟩ := List.mem_map.1 (once.subset
        (List.mem_map_of_mem (f := fun execution => execution.proposal.content) member))
      rcases List.mem_append.1 isSource with isOwn | arrived
      · obtain ⟨own, inSubmitted, rfl⟩ := List.mem_map.1 isOwn
        exact .inl ⟨own, inSubmitted, same.symm⟩
      · exact .inr ⟨source, arrived, (marks same).trans isLocal, same.symm⟩
    · rintro (⟨own, _, same⟩ | ⟨entry, _, isLocal, same⟩)
      · exact marks same
      · exact (marks same).trans isLocal
  refine ⟨once, marked, fun unmarked execution member => ?_⟩
  rw [marked execution member]
  refine or_iff_left ?_
  rintro ⟨entry, arrived, isLocal, _⟩
  rw [unmarked entry arrived] at isLocal
  cases isLocal

/-- Whatever calls a coordinator has been through, and in the middle of another: what it has
executed is what was submitted to it, marked as own, and what has arrived, marked as it came. The
records say the same of what they are of. What is given back for a submission is the answer to an
execution that is marked and at its place. -/
theorem executed_origins {config : CoordinatorConfig} {calls : List (CompletedCall Handle)}
    {coordinator after : Coordinator} {call : CoordinatorCall} {exchanges : List (Exchange Handle)}
    {control : Control Handle} (sequence : CallSequence config calls coordinator)
    (callSteps : CallSteps (coordinator, call.begin coordinator) exchanges (after, control)) :
    Origins (CompletedCall.owns calls ++ call.own?.toList)
      (CompletedCall.asked calls ++ exchanges) ∧
    (∀ record ∈ control.records, ∃ execution ∈ Exchange.executions exchanges,
      execution.record? = some record ∧ record.isLocal = execution.proposal.isLocal) ∧
    ∀ own result, call.own? = some own →
      control = .returned (.ok (.submitted (.committed result))) →
        Backed own exchanges result := by
  refine ⟨.of_subperm (sequence.executions_subperm callSteps), ?_, ?_⟩
  · intro record member
    have starts : (call.begin coordinator : Control Handle).Starts _ := .begin call coordinator
    obtain ⟨execution, asked, left⟩ := callSteps.records starts.records record member
    refine ⟨execution, asked, left, ?_⟩
    obtain ⟨handle, _, rfl⟩ := Option.map_eq_some_iff.1 left
    rfl
  · rintro own result submits rfl
    exact .of_callSteps submits callSteps (sequence.regular_begin call)

/-! ## An envelope that is marked -/

namespace Origins

/-- A proposal of another process at the place of an own one, marked before it was sent. -/
def forged : Proposal :=
  { VotedSubmission.submitted with state := .inProgress, isLocal := true, payload := [1] }

/-- Surroundings in which it arrives, with an executor that gives a handle for the own one only. -/
def forging : Surroundings Nat Unit where
  answer
    | .execute proposal, count =>
      (.ok (if proposal.payload = [] then some () else none), count + 1)
    | request, count => (VotedSubmission.answering .approved 3 forged).answer request count

/-- A first submission to the vote in these surroundings. -/
def withForged : List (Exchange Unit) × (Coordinator × Control Unit) :=
  Coordinator.converse forging 30 (⟨.default ⟨0⟩ 1, .empty, .empty⟩,
    CoordinatorCall.begin (.submitVoted VotedSubmission.submitted)
      ⟨.default ⟨0⟩ 1, .empty, .empty⟩) 0

/-- The submission that meets the forged proposal is told that it is committed. -/
theorem withForged_reply :
    withForged.2.2.reply? = some (.ok (.submitted (.committed none))) := by
  decide +kernel

/-- It has executed the forged proposal first, as if it were its own, and then its own. -/
theorem withForged_executions : Exchange.executions withForged.1 =
    [⟨{ forged with state := .readyExecute }, .ok none⟩,
      ⟨VotedSubmission.submitted.owned.due, .ok (some ())⟩] := by
  decide +kernel

/-- That submission is made of the steps of a call. -/
theorem callSteps_withForged : CallSteps (⟨.default ⟨0⟩ 1, .empty, .empty⟩,
      CoordinatorCall.begin (.submitVoted VotedSubmission.submitted)
        ⟨.default ⟨0⟩ 1, .empty, .empty⟩)
    withForged.1 (withForged.2.1, .returned (.ok (.submitted (.committed none)))) :=
  Coordinator.callSteps_of_reply _ _ _ _ withForged_reply

end Origins

/-- The submission gives back what the executor answered for the other one. -/
theorem executed_origins_forged :
    Origins [VotedSubmission.submitted] Origins.withForged.1 ∧
    Backed VotedSubmission.submitted Origins.withForged.1 none ∧
    Exchange.executions Origins.withForged.1 =
      [⟨{ Origins.forged with state := .readyExecute }, .ok none⟩,
        ⟨VotedSubmission.submitted.owned.due, .ok (some ())⟩] := by
  obtain ⟨origins, _, backed⟩ := executed_origins .opening Origins.callSteps_withForged
  exact ⟨origins, backed _ _ rfl rfl, Origins.withForged_executions⟩

/-- A proposal can be executed as own that was not submitted. -/
theorem mark_forged :
    ¬ ∀ (config : CoordinatorConfig) (calls : List (CompletedCall Unit))
      (coordinator after : Coordinator) (call : CoordinatorCall) (exchanges : List (Exchange Unit))
      (control : Control Unit), CallSequence config calls coordinator →
      CallSteps (coordinator, call.begin coordinator) exchanges (after, control) →
      ∀ execution ∈ Exchange.executions (CompletedCall.asked calls ++ exchanges),
        execution.proposal.isLocal = true ↔
          ∃ own ∈ CompletedCall.owns calls ++ call.own?.toList,
            execution.proposal.content = own.owned.content := by
  intro law
  have executed : (⟨{ Origins.forged with state := .readyExecute }, .ok none⟩ : Execution Unit) ∈
      Exchange.executions Origins.withForged.1 := by
    rw [Origins.withForged_executions]
    exact List.mem_cons_self
  have marked := law _ [] _ _ _ _ _ .opening Origins.callSteps_withForged _ executed
  obtain ⟨own, submitted, same⟩ := marked.1 rfl
  rw [List.mem_singleton.1 submitted] at same
  revert same
  decide

end Concord
