import Concord.Proofs.CallSequences
import Concord.Proofs.Quorums

/-!
# Submitting again after a failure

A submission to everybody can fail after its proposal has been sent. The proposal is then in the
ledger, as it is in those of the others, and whoever called may submit another. What becomes of
that one depends on the whole sequence of calls. A round takes the oldest proposal of every slot,
so as long as a call has missed its quorum, each later one executes the proposal of an earlier one
in place of its own, which stays behind in turn: it fails although nothing else did
(`Retry.outcome`).
-/

namespace Concord

variable {Handle : Type}

/-- Whether a request was answered as it should be. Bytes that hold no proposal that could be
approved are a failure to check one out. -/
def Exchange.succeeds : Exchange Handle → Bool
  | ⟨.readClock, _⟩ => true
  | ⟨.checkout, .ok (some envelope)⟩ => (Proposal.admitted? envelope).isSome
  | ⟨.checkout, .ok none⟩ => true
  | ⟨.checkout, .error _⟩ => false
  | ⟨.readStatus _, answer⟩ => answer.isOk
  | ⟨.execute _, answer⟩ => answer.isOk
  | ⟨.progress, answer⟩ => answer.isOk
  | ⟨.submitVote _ _, answer⟩ => answer.isOk
  | ⟨.submitBroadcast _ _, answer⟩ => answer.isOk
  | ⟨.release, answer⟩ => answer.isOk
  | ⟨.finalize, answer⟩ => answer.isOk

/-! ## How a submission returns -/

/-- How a submission to everybody has left the coordinator when it returns. -/
inductive LeavesBehind (own : Proposal) (start after : Coordinator)
    (exchanges : List (Exchange Handle)) : Prop where
  /-- It has not been sent. -/
  | unsent (unaccepted : Exchange.acceptance own ∉ exchanges) (same : after = start)
  /-- It has been sent and has not found its quorum. -/
  | missedQuorum (accepted : Exchange.acceptance own ∈ exchanges)
      (idle : Exchange.executions exchanges = []) (queue : after.queue = start.queue)
      (ledger : after.ledger.entries =
        start.ledger.entries ++ [own.owned] ++ Exchange.arrivals exchanges)
  /-- It has taken out a round. -/
  | round {taken : List Proposal} (busy : Exchange.executions exchanges ≠ [])
      (round : IsRound (start.ledger.entries ++ [own.owned] ++ Exchange.arrivals exchanges) taken
        after.ledger.entries)
      (queue : ∀ entry ∈ after.queue.entries,
        entry ∈ start.queue.entries ++ taken.map Proposal.due)

/-- What a submission to everybody gives back: an error if something failed, and otherwise what
follows the batch. -/
inductive BroadcastReply (own : Proposal) (start after : Coordinator)
    (exchanges : List (Exchange Handle)) :
    Except CoordinatorError (Reply Handle) → Prop where
  | failed {cause : CoordinatorError}
      (reason : own.state ≠ .initial ∨ ∃ exchange ∈ exchanges, exchange.succeeds = false) :
      BroadcastReply own start after exchanges (.error cause)
  | completed {gathering : List (Exchange Handle)} {executions : List (Execution Handle)}
      {records : List (Executed Handle)} {taken : List Proposal}
      {reply : Except CoordinatorError (Reply Handle)}
      (whole : exchanges = gathering ++ executions.map Execution.exchange)
      (quorum : Quorum own start gathering taken after.ledger.entries)
      (performed : Performed (start.queue.entries ++ taken.map Proposal.due) executions records)
      (result : Coordinator.afterBatch (.round own.key) records = .returned reply) :
      BroadcastReply own start after exchanges reply

/-- After a quorum the executor has been asked for something. -/
theorem Quorum.leaves {own : Proposal} {start after : Coordinator}
    {exchanges gathering : List (Exchange Handle)} {executions : List (Execution Handle)}
    {taken : List Proposal} (quorum : Quorum own start gathering taken after.ledger.entries)
    (whole : exchanges = gathering ++ executions.map Execution.exchange)
    (handover : Handover (start.queue.entries ++ taken.map Proposal.due) executions
      after.queue.entries) (busy : executions ≠ []) :
    LeavesBehind own start after exchanges := by
  refine .round ((quorum.executions_eq whole).symm ▸ busy) ?_ fun entry member =>
    handover.whole.mem_iff.1 (List.mem_append_right _ member)
  rw [Quorum.arrivals_eq whole]
  exact quorum.round

namespace BroadcastSubmission

variable {own : Proposal} {start after : Coordinator} {exchanges : List (Exchange Handle)}

/-- A submission to everybody that has returned has left something behind as `LeavesBehind` says. -/
theorem leaves {reply : Except CoordinatorError (Reply Handle)}
    (gathering : BroadcastSubmission own start exchanges (after, .returned reply)) :
    LeavesBehind own start after exchanges := by
  cases gathering with
  | refused collected unaccepted few => exact .unsent unaccepted rfl
  | failed sent =>
    exact .missedQuorum sent.accepted sent.collected.idle sent.collected.queue sent.collected.ledger
  | stopped whole quorum handover fails =>
    refine quorum.leaves whole handover ?_
    rintro rfl
    obtain ⟨_, member, _⟩ := fails
    cases member
  | @ended _ _ executions taken _ whole quorum handover empty =>
    refine quorum.leaves whole (empty ▸ handover) ?_
    rintro rfl
    -- Nothing was executed, so nothing was due; but something was taken.
    obtain ⟨first, member, _⟩ := quorum.exists_own
    have due := handover.whole.mem_iff.2
      (List.mem_append_right start.queue.entries (List.mem_map_of_mem (f := Proposal.due) member))
    cases due

end BroadcastSubmission

namespace BroadcastReply

variable {own : Proposal} {start : Coordinator} {exchanges : List (Exchange Handle)}
  {reply : Except CoordinatorError (Reply Handle)}

/-- A call that returns from an answer that is a failure. -/
theorem of_failure {after : Coordinator} {exchange : Exchange Handle} {cause : CoordinatorError}
    (fails : exchange.succeeds = false) :
    BroadcastReply own start after (exchanges ++ [exchange]) (.error cause) :=
  .failed (.inr ⟨exchange, List.mem_append_right _ List.mem_cons_self, fails⟩)

/-- A batch goes on, or the call gives back what follows it. -/
theorem proceeds {coordinator : Coordinator} {point : Coordinator × Control Handle}
    {gathering : List (Exchange Handle)} {executions : List (Execution Handle)}
    {records : List (Executed Handle)} {taken : List Proposal}
    (proceeds : Proceeds (start.queue.entries ++ taken.map Proposal.due) executions records
      (.round own.key) coordinator point)
    (whole : exchanges = gathering ++ executions.map Execution.exchange)
    (quorum : Quorum own start gathering taken coordinator.ledger.entries)
    (returned : point.2 = .returned reply) : BroadcastReply own start point.1 exchanges reply := by
  cases proceeds with
  | ended none performed => exact .completed whole quorum performed returned
  | next performing => cases returned

/-- Counting the slots does not end a call: if there are enough, there is something to execute. -/
theorem awaitRound_waits {coordinator : Coordinator} {entry : Proposal}
    (approved : ∀ entry ∈ coordinator.ledger.entries, entry.state = .approved)
    (held : entry ∈ coordinator.ledger.entries) (key : OrderKey) :
    (coordinator.awaitRound key : Coordinator × Control Handle).2 ≠ .returned reply := by
  rcases coordinator.awaitRound_cases approved key with ⟨_, waits⟩ | ⟨_, goesOn⟩
  · rw [waits]
    intro same
    cases same
  · rw [goesOn, Coordinator.executeNext]
    split
    · next none =>
      have empty := ExecutionQueue.popOldest?_eq_none.1 none
      obtain ⟨first, member, _⟩ := coordinator.ledger.takeRound_isRound.oldest entry held
      have due : first.due ∈ coordinator.withRound.queue.entries :=
        List.mem_append_right _ (List.mem_map_of_mem member)
      rw [empty] at due
      cases due
    · intro same
      cases same

/-- While a submission absorbs, only a failure ends it: the own proposal is there to be executed. -/
theorem of_absorbing {coordinator : Coordinator}
    (approved : ∀ entry ∈ coordinator.ledger.entries, entry.state = .approved)
    (sent : Sent own start coordinator exchanges) (answer : Except VotingError (Option Bytes))
    (returned : (coordinator.resume (.absorbing (.quorum own.key) : Stage Handle) answer).2 =
      .returned reply) :
    BroadcastReply own start
      (coordinator.resume (.absorbing (.quorum own.key) : Stage Handle) answer).1
      (exchanges ++ [⟨.checkout, answer⟩]) reply := by
  cases answer with
  | error cause =>
    cases returned
    exact .of_failure rfl
  | ok found =>
    cases found with
    | none =>
      have held : own.owned ∈ coordinator.ledger.entries := by
        rw [sent.collected.ledger]
        exact List.mem_append_left _ (List.mem_append_right _ List.mem_cons_self)
      exact absurd returned (awaitRound_waits approved held _)
    | some envelope =>
      simp only [Coordinator.resume] at returned ⊢
      rcases coordinator.absorb_cases envelope with
        ⟨entry, _, _, absorbed⟩ | ⟨refused, cause, stuck⟩
      · rw [absorbed] at returned
        cases returned
      · rw [stuck] at returned ⊢
        cases returned
        exact .of_failure (by simp only [Exchange.succeeds, refused, Option.isSome_none])

/-- A submission returns only because something failed or because its batch is over. -/
theorem step {coordinator : Coordinator} {stage : Stage Handle}
    (regular : Regular (coordinator, .waiting stage))
    (gathering : BroadcastSubmission own start exchanges (coordinator, .waiting stage))
    (answer : stage.request.Answer Handle)
    (returned : (coordinator.resume stage answer).2 = .returned reply) :
    BroadcastReply own start (coordinator.resume stage answer).1
      (exchanges ++ [⟨stage.request, answer⟩]) reply := by
  cases gathering with
  | broadcasting first =>
    cases answer with
    | error cause =>
      cases returned
      exact .of_failure rfl
    | ok sent =>
      have held : own.owned ∈ (start.entering own).ledger.entries :=
        List.mem_append_right _ List.mem_cons_self
      refine absurd returned (awaitRound_waits ?_ held _)
      intro entry member
      rcases List.mem_append.1 member with before | isOwn
      · exact regular.ledger entry before
      · rw [List.mem_singleton.1 isOwn]
        rfl
  | awaitingQuorum sent =>
    cases answer with
    | error cause =>
      cases returned
      exact .of_failure rfl
    | ok progressed => cases returned
  | absorbing sent => exact of_absorbing regular.ledger sent answer returned
  | @executing _ gathering executions records taken proposal whole quorum performing =>
    rcases Coordinator.resume_executing regular performing answer with
      ⟨failure, rfl, fails⟩ | ⟨handle, rfl, goesOn⟩
    · rw [fails] at returned ⊢
      cases returned
      exact .of_failure rfl
    · have longer : exchanges ++ [(⟨.execute proposal, .ok handle⟩ : Exchange Handle)] =
          gathering ++ (executions ++ [(⟨proposal, .ok handle⟩ : Execution Handle)]).map
            Execution.exchange := by
        rw [whole, List.map_append, ← List.append_assoc]
        rfl
      exact proceeds goesOn longer quorum returned

/-- What a submission gives back, from wherever it starts. -/
theorem of_callSteps {after : Coordinator}
    (callSteps : CallSteps (start, Coordinator.beginBroadcast own) exchanges
      (after, .returned reply))
    (regular : Regular (start, (Coordinator.beginBroadcast own : Control Handle))) :
    BroadcastReply own start after exchanges reply := by
  generalize begun : (start, (Coordinator.beginBroadcast own : Control Handle)) = point at callSteps
  generalize ended : (after, (.returned reply : Control Handle)) = final at callSteps
  cases callSteps with
  | refl =>
    rw [← begun] at ended
    have returned := (Prod.mk.inj ended).2
    unfold Coordinator.beginBroadcast at returned
    split at returned
    · next busy =>
      cases returned
      refine .failed (.inl fun fresh => ?_)
      simp [Proposal.start, Proposal.advance, fresh, ProposalState.canAdvanceTo,
        ProposalState.stage] at busy
    · cases returned
  | step prior answer =>
    subst begun
    have come := BroadcastSubmission.of_callSteps prior regular
    have gives := step (prior.regular regular) come answer (congrArg Prod.snd ended).symm
    rwa [← ended] at gives

end BroadcastReply

/-! ## A sequence of submissions -/

/-- Whether a call has sent its proposal and not found its quorum. -/
def CompletedCall.MissedQuorum (completed : CompletedCall Handle) : Prop :=
  ∃ own, completed.call.own? = some own ∧ Exchange.acceptance own ∈ completed.exchanges ∧
    Exchange.executions completed.exchanges = []

/-- A submission has missed its quorum exactly if its proposal was accepted and nothing was
executed. -/
theorem CompletedCall.missedQuorum_iff {completed : CompletedCall Handle} {own : Proposal}
    (call : completed.call = .submitBroadcast own) :
    completed.MissedQuorum ↔
      Exchange.acceptance own ∈ completed.exchanges ∧
        Exchange.executions completed.exchanges = [] := by
  unfold MissedQuorum
  rw [call]
  constructor
  · rintro ⟨_, same, rest⟩
    cases same
    exact rest
  · exact fun rest => ⟨own, rfl, rest⟩

/-- What earlier submissions under a slot have left. -/
structure Backlog (slot : ProposalId) (calls : List (CompletedCall Handle))
    (coordinator : Coordinator) : Prop where
  ledger : ∀ entry ∈ coordinator.ledger.entries, entry.id = slot →
    ∃ own ∈ CompletedCall.owns calls, entry = own.owned
  queue : ∀ entry ∈ coordinator.queue.entries, entry.id = slot →
    ∃ own ∈ CompletedCall.owns calls, entry = own.owned.due
  /-- The ledger holds one of them exactly if a call missed its quorum. -/
  left : (∃ entry ∈ coordinator.ledger.entries, entry.id = slot) ↔
    ∃ completed ∈ calls, completed.MissedQuorum

/-- Submissions to everybody under one slot, one after the other in time, whose slot nobody else
uses. -/
structure Submitting (slot : ProposalId) (calls : List (CompletedCall Handle)) : Prop where
  broadcasts : ∀ completed ∈ calls, ∃ own, completed.call = .submitBroadcast own ∧ own.id = slot
  increasing : (CompletedCall.owns calls).Pairwise fun first second =>
    first.createdAt.toNat < second.createdAt.toNat
  foreign : ∀ entry ∈ Exchange.arrivals (CompletedCall.asked calls), entry.id ≠ slot

namespace Submitting

variable {slot : ProposalId} {calls : List (CompletedCall Handle)}
  {completed : CompletedCall Handle}

/-- Without the last of them, submissions under a slot still are such. -/
theorem prior (submitting : Submitting slot (calls ++ [completed])) :
    Submitting slot calls where
  broadcasts := fun other member => submitting.broadcasts other (List.mem_append_left _ member)
  increasing := by
    have increasing := submitting.increasing
    rw [CompletedCall.owns_concat] at increasing
    exact (List.pairwise_append.1 increasing).1
  foreign := by
    intro entry member
    refine submitting.foreign entry ?_
    rw [CompletedCall.asked_concat, Exchange.arrivals_append]
    exact List.mem_append_left _ member

/-- The last of the submissions is later than all others, and finds nothing foreign under its slot.
-/
theorem latest (submitting : Submitting slot (calls ++ [completed])) :
    (∃ own, completed.call = .submitBroadcast own ∧ own.id = slot ∧
        ∀ earlier ∈ CompletedCall.owns calls, earlier.createdAt.toNat < own.createdAt.toNat) ∧
      ∀ entry ∈ Exchange.arrivals completed.exchanges, entry.id ≠ slot := by
  obtain ⟨own, call, named⟩ :=
    submitting.broadcasts completed (List.mem_append_right _ List.mem_cons_self)
  have increasing := submitting.increasing
  rw [CompletedCall.owns_concat, call] at increasing
  refine ⟨⟨own, call, named, fun earlier member => ?_⟩, fun entry member => ?_⟩
  · exact (List.pairwise_append.1 increasing).2.2 earlier member own List.mem_cons_self
  · refine submitting.foreign entry ?_
    rw [CompletedCall.asked_concat, Exchange.arrivals_append]
    exact List.mem_append_right _ member

end Submitting

/-! ## What a round takes -/

section Round

variable {own : Proposal} {held arrived taken left : List Proposal}

/-- What a round finds under the own slot is the own proposal or was there before. -/
theorem eq_own_or_mem (foreign : ∀ entry ∈ arrived, entry.id ≠ own.id) {entry : Proposal}
    (member : entry ∈ held ++ [own.owned] ++ arrived) (named : entry.id = own.id) :
    entry = own.owned ∨ entry ∈ held := by
  rcases List.mem_append.1 member with before | isArrival
  · rcases List.mem_append.1 before with inLedger | isOwn
    · exact .inr inLedger
    · exact .inl (List.mem_singleton.1 isOwn)
  · exact absurd named (foreign entry isArrival)

namespace IsRound

variable (round : IsRound (held ++ [own.owned] ++ arrived) taken left)
  (foreign : ∀ entry ∈ arrived, entry.id ≠ own.id)
include round foreign

/-- If an earlier one is there under its slot, the own proposal waits for a later round. -/
theorem own_waits (older : ∃ entry ∈ held, entry.id = own.id)
    (earlier : ∀ entry ∈ held, entry.id = own.id → entry.key < own.key) :
    own.owned ∈ left ∧ ∀ entry ∈ taken, entry.id = own.id → entry ∈ held := by
  have absent : own.owned ∉ taken := by
    intro isTaken
    obtain ⟨entry, inHeld, named⟩ := older
    have inAll := List.mem_append_left arrived (List.mem_append_left [own.owned] inHeld)
    exact OrderKey.not_lt.2 (round.key_le isTaken inAll named.symm) (earlier entry inHeld named)
  have inAll : own.owned ∈ held ++ [own.owned] ++ arrived :=
    List.mem_append_left _ (List.mem_append_right _ List.mem_cons_self)
  refine ⟨(List.mem_append.1 (round.parted.mem_iff.2 inAll)).resolve_left absent, ?_⟩
  intro entry member named
  rcases eq_own_or_mem foreign (round.mem_held member) named with rfl | inHeld
  · exact absurd member absent
  · exact inHeld

/-- Otherwise it is taken, and nothing is left under its slot. -/
theorem own_goes (first : ∀ entry ∈ held, entry.id ≠ own.id) :
    own.owned ∈ taken ∧ ∀ entry ∈ left, entry.id ≠ own.id := by
  have only : ∀ entry ∈ held ++ [own.owned] ++ arrived, entry.id = own.id →
      entry = own.owned := by
    intro entry member named
    exact (eq_own_or_mem foreign member named).resolve_right fun inHeld => first entry inHeld named
  have inAll : own.owned ∈ held ++ [own.owned] ++ arrived :=
    List.mem_append_left _ (List.mem_append_right _ List.mem_cons_self)
  obtain ⟨oldest, isTaken, named, _⟩ := round.oldest own.owned inAll
  have taken : own.owned ∈ taken := only oldest (round.mem_held isTaken) named ▸ isTaken
  refine ⟨taken, fun entry isLeft slot => ?_⟩
  -- It is there once only, so it cannot be left as well.
  have same := only entry (round.parted.mem_iff.1 (List.mem_append_right _ isLeft)) slot
  have once := round.parted.count_eq own.owned
  have inHeld : List.count own.owned held = 0 :=
    List.count_eq_zero.2 fun member => first _ member rfl
  have inArrived : List.count own.owned arrived = 0 :=
    List.count_eq_zero.2 fun member => foreign _ member rfl
  have isTakenOnce := List.count_pos_iff.2 taken
  have isLeftOnce := List.count_pos_iff.2 (same ▸ isLeft)
  simp only [List.count_append, inHeld, inArrived, List.count_singleton_self] at once
  omega

end IsRound

end Round

namespace Backlog

variable {own : Proposal} {calls : List (CompletedCall Handle)} {coordinator after : Coordinator}
  {completed : CompletedCall Handle}

/-- At the start nothing is left of any slot. -/
theorem opening (slot : ProposalId) (config : CoordinatorConfig) :
    Backlog slot ([] : List (CompletedCall Handle)) ⟨config, .empty, .empty⟩ where
  ledger := fun _ member => absurd member List.not_mem_nil
  queue := fun _ member => absurd member List.not_mem_nil
  left := by
    constructor
    · rintro ⟨_, member, _⟩
      cases member
    · rintro ⟨_, member, _⟩
      cases member

/-- All that is left is earlier than the next. -/
theorem earlier (backlog : Backlog own.id calls coordinator)
    (later : ∀ earlier ∈ CompletedCall.owns calls, earlier.createdAt.toNat < own.createdAt.toNat) :
    ∀ entry ∈ coordinator.ledger.entries, entry.id = own.id → entry.key < own.key := by
  intro entry member named
  obtain ⟨earlier, submitted, rfl⟩ := backlog.ledger entry member named
  exact .inl (later earlier submitted)

/-- Another submission adds its proposal to those that were submitted. -/
theorem owns_concat (call : completed.call = .submitBroadcast own) :
    CompletedCall.owns (calls ++ [completed]) = CompletedCall.owns calls ++ [own] := by
  rw [CompletedCall.owns_concat, call]
  rfl

/-- What a further call finds in the ledger under its slot has been submitted. -/
theorem source_of_held (backlog : Backlog own.id calls coordinator)
    (call : completed.call = .submitBroadcast own) {entry : Proposal}
    (held : entry = own.owned ∨ entry ∈ coordinator.ledger.entries) (named : entry.id = own.id) :
    ∃ source ∈ CompletedCall.owns (calls ++ [completed]), entry = source.owned := by
  rw [owns_concat call]
  rcases held with rfl | inLedger
  · exact ⟨own, List.mem_append_right _ List.mem_cons_self, rfl⟩
  · obtain ⟨source, submitted, same⟩ := backlog.ledger entry inLedger named
    exact ⟨source, List.mem_append_left _ submitted, same⟩

/-- So has what it finds in the queue. -/
theorem source_of_queued (backlog : Backlog own.id calls coordinator)
    (call : completed.call = .submitBroadcast own) {entry : Proposal}
    (queued : entry ∈ coordinator.queue.entries) (named : entry.id = own.id) :
    ∃ source ∈ CompletedCall.owns (calls ++ [completed]), entry = source.owned.due := by
  rw [owns_concat call]
  obtain ⟨source, submitted, same⟩ := backlog.queue entry queued named
  exact ⟨source, List.mem_append_left _ submitted, same⟩

/-- A call that does not miss its quorum leaves something under its slot only if there was
something. -/
theorem left_of_not_missedQuorum (backlog : Backlog own.id calls coordinator)
    (calm : ¬ completed.MissedQuorum)
    (same : (∃ entry ∈ after.ledger.entries, entry.id = own.id) ↔
      ∃ entry ∈ coordinator.ledger.entries, entry.id = own.id) :
    (∃ entry ∈ after.ledger.entries, entry.id = own.id) ↔
      ∃ other ∈ calls ++ [completed], other.MissedQuorum := by
  rw [same, backlog.left]
  constructor
  · rintro ⟨other, member, missedQuorum⟩
    exact ⟨other, List.mem_append_left _ member, missedQuorum⟩
  · rintro ⟨other, member, missedQuorum⟩
    rcases List.mem_append.1 member with before | latest
    · exact ⟨other, before, missedQuorum⟩
    · exact absurd (List.mem_singleton.1 latest ▸ missedQuorum) calm

/-- A further call that is not sent leaves everything as it was. -/
theorem unsent (backlog : Backlog own.id calls coordinator)
    (call : completed.call = .submitBroadcast own)
    (unaccepted : Exchange.acceptance own ∉ completed.exchanges) :
    Backlog own.id (calls ++ [completed]) coordinator where
  ledger := fun _ member => backlog.source_of_held call (.inr member)
  queue := fun _ member => backlog.source_of_queued call member
  left := backlog.left_of_not_missedQuorum
    (fun missedQuorum => unaccepted ((CompletedCall.missedQuorum_iff call).1 missedQuorum).1) .rfl

/-- One that misses its quorum leaves its own proposal. -/
theorem missedQuorum (backlog : Backlog own.id calls coordinator)
    (call : completed.call = .submitBroadcast own)
    (foreign : ∀ entry ∈ Exchange.arrivals completed.exchanges, entry.id ≠ own.id)
    (missedQuorum : completed.MissedQuorum) (queue : after.queue = coordinator.queue)
    (ledger : after.ledger.entries =
      coordinator.ledger.entries ++ [own.owned] ++ Exchange.arrivals completed.exchanges) :
    Backlog own.id (calls ++ [completed]) after where
  ledger := by
    rw [ledger]
    exact fun entry member named =>
      backlog.source_of_held call (eq_own_or_mem foreign member named) named
  queue := by
    rw [queue]
    exact fun _ member => backlog.source_of_queued call member
  left := by
    rw [ledger]
    refine ⟨fun _ => ⟨completed, List.mem_append_right _ List.mem_cons_self, missedQuorum⟩,
      fun _ => ⟨own.owned, ?_, rfl⟩⟩
    exact List.mem_append_left _ (List.mem_append_right _ List.mem_cons_self)

/-- One that takes out a round takes the oldest of the backlog. -/
theorem round (backlog : Backlog own.id calls coordinator)
    (call : completed.call = .submitBroadcast own)
    (later : ∀ earlier ∈ CompletedCall.owns calls, earlier.createdAt.toNat < own.createdAt.toNat)
    (foreign : ∀ entry ∈ Exchange.arrivals completed.exchanges, entry.id ≠ own.id)
    (busy : Exchange.executions completed.exchanges ≠ []) {taken : List Proposal}
    (round : IsRound (coordinator.ledger.entries ++ [own.owned] ++
      Exchange.arrivals completed.exchanges) taken after.ledger.entries)
    (queue : ∀ entry ∈ after.queue.entries,
      entry ∈ coordinator.queue.entries ++ taken.map Proposal.due) :
    Backlog own.id (calls ++ [completed]) after where
  ledger := by
    intro entry member named
    have held := round.parted.mem_iff.1 (List.mem_append_right _ member)
    exact backlog.source_of_held call (eq_own_or_mem foreign held named) named
  queue := by
    intro entry member named
    rcases List.mem_append.1 (queue entry member) with before | due
    · exact backlog.source_of_queued call before named
    · obtain ⟨first, isTaken, rfl⟩ := List.mem_map.1 due
      have held := eq_own_or_mem foreign (round.mem_held isTaken) named
      obtain ⟨source, submitted, rfl⟩ := backlog.source_of_held call held named
      exact ⟨source, submitted, rfl⟩
  left := by
    refine backlog.left_of_not_missedQuorum
      (fun missedQuorum => busy ((CompletedCall.missedQuorum_iff call).1 missedQuorum).2) ⟨?_, ?_⟩
    · rintro ⟨entry, member, named⟩
      by_contra none
      have first : ∀ entry ∈ coordinator.ledger.entries, entry.id ≠ own.id :=
        fun entry member named => none ⟨entry, member, named⟩
      exact (round.own_goes foreign first).2 entry member named
    · intro older
      exact ⟨own.owned, (round.own_waits foreign older (backlog.earlier later)).1, rfl⟩

/-- What one more submission leaves. -/
theorem step (backlog : Backlog own.id calls coordinator)
    (call : completed.call = .submitBroadcast own)
    (later : ∀ earlier ∈ CompletedCall.owns calls, earlier.createdAt.toNat < own.createdAt.toNat)
    (foreign : ∀ entry ∈ Exchange.arrivals completed.exchanges, entry.id ≠ own.id)
    (leaves : LeavesBehind own coordinator after completed.exchanges) :
    Backlog own.id (calls ++ [completed]) after := by
  cases leaves with
  | unsent unaccepted same => exact same ▸ backlog.unsent call unaccepted
  | missedQuorum accepted idle queue ledger =>
    exact backlog.missedQuorum call foreign
      ((CompletedCall.missedQuorum_iff call).2 ⟨accepted, idle⟩) queue
      ledger
  | round busy round queue => exact backlog.round call later foreign busy round queue

end Backlog

/-- What submissions to everybody leave, whatever they are answered. -/
theorem CallSequence.backlog {config : CoordinatorConfig} {calls : List (CompletedCall Handle)}
    {coordinator : Coordinator} {slot : ProposalId}
    (sequence : CallSequence config calls coordinator) (submitting : Submitting slot calls) :
    Backlog slot calls coordinator := by
  induction sequence with
  | opening => exact .opening slot config
  | @call coordinator after earlier completed prior callSteps inductionHypothesis =>
    obtain ⟨⟨own, call, rfl, later⟩, foreign⟩ := submitting.latest
    rw [call] at callSteps
    have regular : Regular (coordinator, (Coordinator.beginBroadcast own : Control Handle)) :=
      prior.regular_begin (.submitBroadcast own)
    exact (inductionHypothesis submitting.prior).step call later foreign
      (BroadcastSubmission.of_callSteps callSteps regular).leaves

/-! ## The next submission -/

/-- A submission to everybody after others, in which nothing fails. -/
structure Retry (config : CoordinatorConfig) (calls : List (CompletedCall Handle))
    (coordinator : Coordinator) (own : Proposal) (exchanges : List (Exchange Handle))
    (after : Coordinator) (reply : Except CoordinatorError (Reply Handle)) : Prop where
  sequence : CallSequence config calls coordinator
  callSteps : CallSteps (coordinator, Coordinator.beginBroadcast own) exchanges
    (after, .returned reply)
  submitting : Submitting own.id (calls ++ [⟨.submitBroadcast own, exchanges, reply⟩])
  fresh : own.state = .initial
  smooth : ∀ exchange ∈ exchanges, exchange.succeeds = true

namespace Retry

variable {config : CoordinatorConfig} {calls : List (CompletedCall Handle)}
  {coordinator after : Coordinator} {own : Proposal} {exchanges : List (Exchange Handle)}
  {reply : Except CoordinatorError (Reply Handle)}

/-- What is submitted again is later than all that was submitted before. -/
theorem later (retry : Retry config calls coordinator own exchanges after reply) :
    ∀ earlier ∈ CompletedCall.owns calls, earlier.createdAt.toNat < own.createdAt.toNat := by
  obtain ⟨⟨same, call, _, later⟩, _⟩ := retry.submitting.latest
  cases call
  exact later

/-- A submission in which nothing fails executes a round and gives back what follows it. -/
theorem completed (retry : Retry config calls coordinator own exchanges after reply) :
    ∃ records taken,
      IsRound (coordinator.ledger.entries ++ [own.owned] ++ Exchange.arrivals exchanges) taken
        after.ledger.entries ∧
      Performed (coordinator.queue.entries ++ taken.map Proposal.due)
        (Exchange.executions exchanges) records ∧
      Coordinator.afterBatch (.round own.key) records = .returned reply := by
  have regular : Regular (coordinator, (Coordinator.beginBroadcast own : Control Handle)) :=
    retry.sequence.regular_begin (.submitBroadcast own)
  cases BroadcastReply.of_callSteps retry.callSteps regular with
  | failed reason =>
    rcases reason with begun | ⟨exchange, member, fails⟩
    · exact absurd retry.fresh begun
    · rw [retry.smooth exchange member] at fails
      cases fails
  | completed whole quorum performed result =>
    refine ⟨_, _, ?_, (quorum.executions_eq whole).symm ▸ performed, result⟩
    rw [Quorum.arrivals_eq whole]
    exact quorum.round

/-- No proposal of an earlier call can be taken for the own one. -/
theorem queue_key_ne (retry : Retry config calls coordinator own exchanges after reply) :
    ∀ entry ∈ coordinator.queue.entries, entry.key ≠ own.key := by
  intro entry member same
  have backlog := retry.sequence.backlog retry.submitting.prior
  obtain ⟨earlier, submitted, rfl⟩ := backlog.queue entry member (congrArg OrderKey.id same)
  have before := retry.later earlier submitted
  rw [show earlier.createdAt = own.createdAt from congrArg OrderKey.createdAt same] at before
  exact lt_irrefl _ before

/-- If no call missed its quorum, the own proposal is executed, and its result given back. -/
theorem committed (retry : Retry config calls coordinator own exchanges after reply)
    (none : ∀ completed ∈ calls, ¬ completed.MissedQuorum) :
    ∃ result, reply = .ok (.submitted (.committed result)) ∧
      (Exchange.executions exchanges).filter
          (fun execution => decide (execution.proposal = own.owned.due)) =
        [⟨own.owned.due, .ok result⟩] := by
  have backlog := retry.sequence.backlog retry.submitting.prior
  obtain ⟨records, taken, round, performed, given⟩ := retry.completed
  have first : ∀ entry ∈ coordinator.ledger.entries, entry.id ≠ own.id := by
    intro entry member named
    obtain ⟨completed, inCalls, missedQuorum⟩ := backlog.left.1 ⟨entry, member, named⟩
    exact none completed inCalls missedQuorum
  have isTaken := (round.own_goes retry.submitting.latest.2 first).1
  obtain ⟨before, behind, rfl⟩ := List.append_of_mem isTaken
  -- What is due besides the own proposal is at another place in the order.
  have split : (coordinator.queue.entries ++ (before ++ own.owned :: behind).map Proposal.due).Perm
      (coordinator.queue.entries ++ (before ++ behind).map Proposal.due ++ [own.owned.due]) := by
    rw [List.append_assoc, List.map_append, List.map_append, List.map_cons]
    exact (List.perm_middle.trans (List.perm_append_singleton _ _).symm).append_left _
  have distinct : ∀ other ∈ coordinator.queue.entries ++ (before ++ behind).map Proposal.due,
      other.isLocal = true → other.key ≠ own.owned.due.key := by
    intro other member _ same
    rcases List.mem_append.1 member with queued | due
    · exact retry.queue_key_ne other queued same
    · obtain ⟨source, inRound, rfl⟩ := List.mem_map.1 due
      have ids := round.distinct
      rw [List.map_append, List.map_cons, List.nodup_middle, ← List.map_append] at ids
      refine (List.nodup_cons.1 ids).1 (List.mem_map.2 ⟨source, inRound, ?_⟩)
      exact congrArg OrderKey.id same
  obtain ⟨result, found⟩ :=
    performed.exists_ownResult (split.mem_iff.2 (List.mem_append_right _ List.mem_cons_self)) rfl
  have found : Coordinator.ownResult? own.key records = some result := found
  refine ⟨result, ?_, performed.filter_of_ownResult split distinct rfl found⟩
  simp only [Coordinator.afterBatch, found] at given
  cases given
  rfl

/-- If a call missed its quorum, an earlier proposal is executed in place of the own, which is
left. -/
theorem missed (retry : Retry config calls coordinator own exchanges after reply)
    (missedQuorum : ∃ completed ∈ calls, completed.MissedQuorum) :
    reply = .error (.invariant (.notExecuted own.key)) ∧ own.owned ∈ after.ledger.entries ∧
      ∃ earlier ∈ CompletedCall.owns calls, ∃ execution ∈ Exchange.executions exchanges,
        execution.proposal = earlier.owned.due := by
  have backlog := retry.sequence.backlog retry.submitting.prior
  obtain ⟨records, taken, round, performed, given⟩ := retry.completed
  have older := backlog.left.2 missedQuorum
  obtain ⟨waits, inLedger⟩ :=
    round.own_waits retry.submitting.latest.2 older (backlog.earlier retry.later)
  have absent : ∀ entry ∈ coordinator.queue.entries ++ taken.map Proposal.due,
      entry.key ≠ own.key := by
    intro entry member same
    rcases List.mem_append.1 member with queued | due
    · exact retry.queue_key_ne entry queued same
    · obtain ⟨source, isTaken, rfl⟩ := List.mem_map.1 due
      have named : source.id = own.id := congrArg OrderKey.id same
      have before := backlog.earlier retry.later source (inLedger source isTaken named) named
      exact OrderKey.lt_irrefl _ (same ▸ before)
  have lost : Coordinator.ownResult? own.key records = none := by
    cases found : Coordinator.ownResult? own.key records with
    | none => rfl
    | some result =>
      obtain ⟨execution, member, _, same, _⟩ := performed.recorded.ownResult found
      exact absurd same
        (absent _ (performed.perm.mem_iff.1 (List.mem_map_of_mem member)))
  refine ⟨?_, waits, ?_⟩
  · simp only [Coordinator.afterBatch, lost] at given
    cases given
    rfl
  · obtain ⟨first, isTaken, named, _⟩ := round.oldest own.owned
      (List.mem_append_left _ (List.mem_append_right _ List.mem_cons_self))
    obtain ⟨earlier, submitted, rfl⟩ := backlog.ledger first (inLedger first isTaken named) named
    have executed := performed.perm.mem_iff.2
      (List.mem_append_right coordinator.queue.entries
        (List.mem_map_of_mem (f := Proposal.due) isTaken))
    obtain ⟨execution, member, same⟩ := List.mem_map.1 executed
    exact ⟨earlier, submitted, execution, member, same⟩

end Retry

/-- Whatever has become of earlier submissions of one process, a later one in which nothing fails is
committed with the result of its own proposal if none of them missed its quorum. If one
did, it fails, because an earlier proposal is executed in place of its own. -/
theorem retried_submission_outcome {config : CoordinatorConfig}
    {calls : List (CompletedCall Handle)} {coordinator after : Coordinator} {own : Proposal}
    {exchanges : List (Exchange Handle)} {reply : Except CoordinatorError (Reply Handle)}
    (retry : Retry config calls coordinator own exchanges after reply) :
    ((∀ completed ∈ calls, ¬ completed.MissedQuorum) →
      ∃ result, reply = .ok (.submitted (.committed result)) ∧
        (Exchange.executions exchanges).filter
            (fun execution => decide (execution.proposal = own.owned.due)) =
          [⟨own.owned.due, .ok result⟩]) ∧
    ((∃ completed ∈ calls, completed.MissedQuorum) →
      reply = .error (.invariant (.notExecuted own.key)) ∧ own.owned ∈ after.ledger.entries ∧
        ∃ earlier ∈ CompletedCall.owns calls, ∃ execution ∈ Exchange.executions exchanges,
          execution.proposal = earlier.owned.due) :=
  ⟨retry.committed, retry.missed⟩

/-! ## After a broken link -/

namespace Retry

/-- Settings for rounds of two. -/
def settings : CoordinatorConfig :=
  { CoordinatorConfig.default ⟨1⟩ 2 with mode := .broadcast }

/-- A link that breaks after a proposal has been sent, or while it is. -/
def breaking (sent : Except VotingError Unit) : Surroundings Nat Unit where
  answer
    | .submitBroadcast _ _, count => (sent, count + 1)
    | .progress, count => (.error (.transport "link down"), count + 1)
    | request, count =>
      (VotedSubmission.answering .approved 0 (VotedSubmission.foreign 900)).answer request count

/-- A proposal that is submitted first. -/
def first : Proposal :=
  .create ⟨1⟩ ⟨0⟩ [] ⟨100⟩

/-- Its submission. -/
def withBrokenLink (sent : Except VotingError Unit) :
    List (Exchange Unit) × (Coordinator × Control Unit) :=
  Coordinator.converse (breaking sent) 5
    (⟨settings, .empty, .empty⟩, Coordinator.beginBroadcast first) 0

/-- The submission of another after it, when the link works. -/
def afterRepair (sent : Except VotingError Unit) :
    List (Exchange Unit) × (Coordinator × Control Unit) :=
  Coordinator.converse (VotedSubmission.answering .approved 2 (VotedSubmission.foreign 900)) 20
    ((withBrokenLink sent).2.1, Coordinator.beginBroadcast VotedSubmission.submitted) 0

/-- The first submission as a call, which the broken link has failed. -/
def brokenCall (sent : Except VotingError Unit) : CompletedCall Unit :=
  ⟨.submitBroadcast first, (withBrokenLink sent).1, .error (.voting (.transport "link down"))⟩

/-- The two calls are a retry whatever the broken link let through, given how they have ended. -/
theorem of_afterRepair {sent : Except VotingError Unit}
    {reply : Except CoordinatorError (Reply Unit)}
    (breaks : (withBrokenLink sent).2.2.reply? = some (.error (.voting (.transport "link down"))))
    (replies : (afterRepair sent).2.2.reply? = some reply)
    (arrived : Exchange.arrivals ((withBrokenLink sent).1 ++ (afterRepair sent).1) =
      [{ VotedSubmission.foreign 900 with state := .approved }])
    (smooth : (afterRepair sent).1.all Exchange.succeeds = true) :
    Retry settings [brokenCall sent] (withBrokenLink sent).2.1 VotedSubmission.submitted
      (afterRepair sent).1
      (afterRepair sent).2.1 reply where
  sequence := by
    have begins : CallSequence settings ([] : List (CompletedCall Unit))
        ⟨settings, .empty, .empty⟩ :=
      .opening
    exact begins.converse _ _ (.submitBroadcast first) _ breaks
  callSteps := Coordinator.callSteps_of_reply _ _ _ _ replies
  submitting := {
    broadcasts := by
      intro other member
      rcases List.mem_cons.1 member with rfl | last
      · exact ⟨first, rfl, rfl⟩
      · rw [List.mem_singleton.1 last]
        exact ⟨VotedSubmission.submitted, rfl, rfl⟩
    increasing := by
      refine List.pairwise_cons.2 ⟨?_, List.pairwise_singleton _ _⟩
      intro later member
      rw [List.mem_singleton.1 member]
      decide
    foreign := by
      intro entry member
      simp only [CompletedCall.asked, brokenCall, List.cons_append, List.nil_append,
        List.flatMap_cons, List.flatMap_nil, List.append_nil] at member
      rw [arrived] at member
      rw [List.mem_singleton.1 member]
      decide }
  fresh := rfl
  smooth := List.all_eq_true.1 smooth

/-- The first proposal has been sent when the link breaks. -/
theorem of_sent : Retry settings [brokenCall (.ok ())]
    (withBrokenLink (.ok ())).2.1 VotedSubmission.submitted (afterRepair (.ok ())).1
    (afterRepair (.ok ())).2.1
      (.error (.invariant (.notExecuted VotedSubmission.submitted.key))) :=
  of_afterRepair (by cbv) (by cbv) (by cbv) (by cbv)

/-- The call whose proposal was sent has missed its quorum. -/
theorem missedQuorum_sent : (brokenCall (.ok ())).MissedQuorum := by
  have accepted : (withBrokenLink (.ok ())).1.head? = some (Exchange.acceptance first) := rfl
  exact ⟨first, rfl, List.mem_of_mem_head? accepted, by cbv⟩

/-- It has not been sent when the link breaks. -/
theorem of_unsent : Retry settings [brokenCall (.error (.transport "link down"))]
    (withBrokenLink (.error (.transport "link down"))).2.1 VotedSubmission.submitted
    (afterRepair (.error (.transport "link down"))).1
    (afterRepair (.error (.transport "link down"))).2.1
      (.ok (.submitted (.committed (some ())))) :=
  of_afterRepair (by cbv) (by cbv) (by cbv) (by cbv)

/-- The call whose proposal was not sent has not missed its quorum. -/
theorem not_missedQuorum_unsent :
    ¬ (brokenCall (.error (.transport "link down"))).MissedQuorum := by
  rintro ⟨own, _, accepted, _⟩
  have refused := congrArg Exchange.succeeds (List.mem_singleton.1 accepted)
  cases refused

end Retry

/-- Two sequences that differ only in whether the first proposal has been sent. -/
theorem retried_submission_outcome_withBrokenLink :
    (∃ result, (some () : Option Unit) = result ∧
      (Exchange.executions (Retry.afterRepair (.error (.transport "link down"))).1).filter
          (fun execution => decide (execution.proposal = VotedSubmission.submitted.owned.due)) =
        [⟨VotedSubmission.submitted.owned.due, .ok result⟩]) ∧
    VotedSubmission.submitted.owned ∈ (Retry.afterRepair (.ok ())).2.1.ledger.entries ∧
    ∃ execution ∈ Exchange.executions (Retry.afterRepair (.ok ())).1,
      execution.proposal = Retry.first.owned.due := by
  have unsent := (retried_submission_outcome Retry.of_unsent).1
  have sent := (retried_submission_outcome Retry.of_sent).2
  refine ⟨?_, ?_⟩
  · obtain ⟨result, same, executed⟩ := unsent fun completed member =>
      List.mem_singleton.1 member ▸ Retry.not_missedQuorum_unsent
    cases same
    exact ⟨_, rfl, executed⟩
  · obtain ⟨_, waits, earlier, submitted, executed⟩ :=
      sent ⟨_, List.mem_singleton.2 rfl, Retry.missedQuorum_sent⟩
    cases List.mem_singleton.1 submitted
    exact ⟨waits, executed⟩

/-- A submission in which nothing fails may fail because its voting service did in an earlier one.
-/
theorem retry_not_committed :
    ¬ ∀ (config : CoordinatorConfig) (calls : List (CompletedCall Unit))
      (coordinator after : Coordinator) (own : Proposal) (exchanges : List (Exchange Unit))
      (reply : Except CoordinatorError (Reply Unit)), config.mode = .broadcast →
      Retry config calls coordinator own exchanges after reply →
      (∀ completed ∈ calls, ∀ cause, completed.reply = .error cause →
        ∃ failure, cause = .voting failure) →
      ∃ result, reply = .ok (.submitted (.committed result)) := by
  intro commits
  obtain ⟨result, same⟩ := commits _ _ _ _ _ _ _ rfl Retry.of_sent (by
    intro completed member cause failed
    rw [List.mem_singleton.1 member] at failed
    cases failed
    exact ⟨_, rfl⟩)
  cases same

end Concord
