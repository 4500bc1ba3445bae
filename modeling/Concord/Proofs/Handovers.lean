import Concord.Proofs.CallSteps

/-!
# Handing over a batch

Once a batch is due, the coordinator asks the executor for one proposal after the other, the
oldest first, until the queue is empty or an execution fails. `Handover` says how far it has come,
and `Proceeds` what follows the next answer. A batch that is over has asked for everything that
was due, each once and in the global order, and its records tell what the executor made of it.
-/

namespace Concord

variable {Handle : Type}

/-- How far a batch of due proposals has been handed to the executor. -/
structure Handover (due : List Proposal) (executions : List (Execution Handle))
    (waiting : List Proposal) : Prop where
  whole : (executions.map Execution.proposal ++ waiting).Perm due
  ascending : (executions.map Execution.proposal).Pairwise fun first second =>
    first.key ≤ second.key
  ahead : ∀ first ∈ executions.map Execution.proposal, ∀ second ∈ waiting,
    first.key ≤ second.key

/-- Before anything is handed over, everything that is due is waiting. -/
theorem Handover.begins (due : List Proposal) :
    Handover due ([] : List (Execution Handle)) due where
  whole := .refl _
  ascending := .nil
  ahead := fun _ member => absurd member List.not_mem_nil

/-- What waits can be in any order. -/
theorem Handover.of_perm {due waiting queued : List Proposal}
    {executions : List (Execution Handle)} (handover : Handover due executions waiting)
    (perm : queued.Perm waiting) : Handover due executions queued where
  whole := (perm.append_left _).trans handover.whole
  ascending := handover.ascending
  ahead := fun first member second waits =>
    handover.ahead first member second (perm.mem_iff.1 waits)

/-- The oldest that waits may be handed over next. -/
theorem Handover.hand {due waiting : List Proposal} {executions : List (Execution Handle)}
    {proposal : Proposal} (handover : Handover due executions (proposal :: waiting))
    (oldest : ∀ other ∈ waiting, proposal.key ≤ other.key)
    (answer : Except ExecutorError (Option Handle)) :
    Handover due (executions ++ [⟨proposal, answer⟩]) waiting where
  whole := by
    rw [List.map_append, List.append_assoc]
    exact handover.whole
  ascending := by
    rw [List.map_append]
    refine List.pairwise_append.2 ⟨handover.ascending, List.pairwise_singleton _ _, ?_⟩
    intro first member second isProposal
    rw [List.mem_singleton.1 isProposal]
    exact handover.ahead first member proposal List.mem_cons_self
  ahead := by
    intro first member second waits
    rw [List.map_append] at member
    rcases List.mem_append.1 member with before | isProposal
    · exact handover.ahead first before second (List.mem_cons_of_mem _ waits)
    · rw [List.mem_singleton.1 isProposal]
      exact oldest second waits

/-- The record of an execution that succeeded. -/
def Execution.record? (execution : Execution Handle) : Option (Executed Handle) :=
  execution.answer.toOption.map
    (Executed.ofProposal { execution.proposal with state := .executed })

/-- Whether all executions succeeded and left these records. -/
def Recorded (executions : List (Execution Handle)) (records : List (Executed Handle)) : Prop :=
  executions.map Execution.record? = records.map some

/-- An execution that succeeds leaves one record more. -/
theorem Recorded.concat {executions : List (Execution Handle)} {records : List (Executed Handle)}
    (recorded : Recorded executions records) (proposal : Proposal) (handle : Option Handle) :
    Recorded (executions ++ [⟨proposal, .ok handle⟩])
      (records ++ [.ofProposal { proposal with state := .executed } handle]) := by
  unfold Recorded at recorded ⊢
  rw [List.map_append, List.map_append, recorded]
  rfl

/-- Executions that left a record each have all succeeded. -/
theorem Recorded.succeeded {executions : List (Execution Handle)}
    {records : List (Executed Handle)} (recorded : Recorded executions records) :
    ∀ execution ∈ executions, ∃ handle, execution.answer = .ok handle := by
  intro execution member
  have recordedOne : execution.record? ∈ records.map some :=
    recorded ▸ List.mem_map_of_mem member
  obtain ⟨record, _, same⟩ := List.mem_map.1 recordedOne
  unfold Execution.record? at same
  cases answered : execution.answer with
  | error cause => simp [answered, Except.toOption] at same
  | ok handle => exact ⟨handle, rfl⟩

/-- A record is that of an execution. -/
theorem Recorded.execution {executions : List (Execution Handle)}
    {records : List (Executed Handle)} (recorded : Recorded executions records)
    {record : Executed Handle} (member : record ∈ records) :
    ∃ execution ∈ executions, execution.proposal.key = record.key ∧
      execution.proposal.isLocal = record.isLocal ∧ execution.answer = .ok record.handle := by
  have recordedOne : some record ∈ executions.map Execution.record? := by
    rw [recorded]
    exact List.mem_map_of_mem member
  obtain ⟨execution, inExecutions, same⟩ := List.mem_map.1 recordedOne
  refine ⟨execution, inExecutions, ?_⟩
  unfold Execution.record? at same
  cases answered : execution.answer with
  | error cause => simp [answered, Except.toOption] at same
  | ok handle =>
    rw [answered] at same
    cases Option.some.inj same
    exact ⟨rfl, rfl, rfl⟩

/-- What is taken for the result of an own proposal is what the executor answered for one that is
marked as own and at its place in the order. -/
theorem Recorded.ownResult {executions : List (Execution Handle)}
    {records : List (Executed Handle)} (recorded : Recorded executions records) {key : OrderKey}
    {result : Option Handle} (found : Coordinator.ownResult? key records = some result) :
    ∃ execution ∈ executions, execution.proposal.isLocal = true ∧ execution.proposal.key = key ∧
      execution.answer = .ok result := by
  obtain ⟨record, isFirst, rfl⟩ := Option.map_eq_some_iff.1 found
  have named := List.find?_some isFirst
  have matching : record.isLocal = true ∧ decide (record.key = key) = true :=
    Bool.and_eq_true_iff.1 named
  obtain ⟨execution, member, sameKey, sameMark, answered⟩ :=
    recorded.execution (List.mem_of_find?_eq_some isFirst)
  exact ⟨execution, member, sameMark.trans matching.1,
    sameKey.trans (of_decide_eq_true matching.2), answered⟩

/-- A batch whose next proposal is in the executor's hands. -/
structure Performing (due : List Proposal) (executions : List (Execution Handle))
    (records : List (Executed Handle)) (proposal : Proposal) (queue : List Proposal) : Prop where
  recorded : Recorded executions records
  handover : Handover due executions (proposal :: queue)
  oldest : ∀ other ∈ queue, proposal.key ≤ other.key

/-- A batch that is over. -/
structure Performed (due : List Proposal) (executions : List (Execution Handle))
    (records : List (Executed Handle)) : Prop where
  recorded : Recorded executions records
  handover : Handover due executions []

/-- How a batch goes on: with the next proposal, or with what follows the batch. -/
inductive Proceeds (due : List Proposal) (executions : List (Execution Handle))
    (records : List (Executed Handle)) (cause : BatchCause) (coordinator : Coordinator) :
    Coordinator × Control Handle → Prop where
  | ended (empty : coordinator.queue.entries = []) (performed : Performed due executions records) :
      Proceeds due executions records cause coordinator
        (coordinator, Coordinator.afterBatch cause records)
  | next {proposal : Proposal} {queue : ExecutionQueue}
      (performing : Performing due executions records proposal queue.entries) :
      Proceeds due executions records cause coordinator
        ({ coordinator with queue }, .waiting (.executing cause records proposal))

namespace Coordinator

variable {due : List Proposal} {executions : List (Execution Handle)}
  {records : List (Executed Handle)} {coordinator : Coordinator}

/-- A batch goes on with the oldest proposal that is due, or it is over. -/
theorem executeNext_proceeds (recorded : Recorded executions records)
    (handover : Handover due executions coordinator.queue.entries) (cause : BatchCause) :
    Proceeds due executions records cause coordinator
      (coordinator.executeNext cause records) := by
  unfold executeNext
  split
  · next none =>
    have empty := ExecutionQueue.popOldest?_eq_none.1 none
    exact .ended empty ⟨recorded, empty ▸ handover⟩
  · next proposal queue popped =>
    obtain ⟨perm, oldest⟩ := ExecutionQueue.popOldest?_spec popped
    exact .next ⟨recorded, handover.of_perm perm, fun other member =>
      oldest other (perm.mem_iff.1 (List.mem_cons_of_mem _ member))⟩

/-- A batch starts with all that is queued. -/
theorem executeNext_begins (coordinator : Coordinator) (cause : BatchCause) :
    Proceeds coordinator.queue.entries [] ([] : List (Executed Handle)) cause coordinator
      (coordinator.executeNext cause []) :=
  executeNext_proceeds (show Recorded [] [] from rfl) (.begins _) cause

/-- A failure of the executor ends the call with it; else the batch goes on. -/
theorem resume_executing {proposal : Proposal} {cause : BatchCause}
    (regular : Regular (coordinator, .waiting (.executing cause records proposal)))
    (performing : Performing due executions records proposal coordinator.queue.entries)
    (answer : Except ExecutorError (Option Handle)) :
    (∃ failure, answer = .error failure ∧
        coordinator.resume (.executing cause records proposal) answer =
          (coordinator, .returned (.error (.executor failure)))) ∨
      ∃ handle, answer = .ok handle ∧
        Proceeds due (executions ++ [⟨proposal, .ok handle⟩])
          (records ++ [.ofProposal { proposal with state := .executed } handle]) cause coordinator
          (coordinator.resume (.executing cause records proposal) answer) := by
  have ready := regular.ready proposal (List.mem_append_right _ List.mem_cons_self)
  cases answer with
  | error failure => exact .inl ⟨failure, rfl, rfl⟩
  | ok handle =>
    refine .inr ⟨handle, rfl, ?_⟩
    simp only [resume, record, ExecutionQueue.conclude_of_ready ready]
    exact executeNext_proceeds (performing.recorded.concat proposal handle)
      (performing.handover.hand performing.oldest _) cause

end Coordinator

namespace Performed

variable {due : List Proposal} {executions : List (Execution Handle)}
  {records : List (Executed Handle)}

/-- A batch that is over has executed everything that was due, once each. -/
theorem perm (performed : Performed due executions records) :
    (executions.map Execution.proposal).Perm due := by
  have whole := performed.handover.whole
  rwa [List.append_nil] at whole

/-- The result of an own proposal that was due is among the records. -/
theorem exists_ownResult (performed : Performed due executions records) {own : Proposal}
    (member : own ∈ due) (isLocal : own.isLocal = true) :
    ∃ result, Coordinator.ownResult? own.key records = some result := by
  obtain ⟨execution, inExecutions, rfl⟩ := List.mem_map.1 (performed.perm.mem_iff.2 member)
  have found : execution.record? ∈ records.map some :=
    performed.recorded ▸ List.mem_map_of_mem inExecutions
  obtain ⟨record, inRecords, same⟩ := List.mem_map.1 found
  obtain ⟨handle, answered⟩ := performed.recorded.succeeded execution inExecutions
  have shape : record = .ofProposal { execution.proposal with state := .executed } handle := by
    simpa [Execution.record?, answered, Except.toOption] using same
  have some : (records.find? fun record =>
      record.isLocal && decide (record.key = execution.proposal.key)).isSome = true := by
    rw [List.find?_isSome]
    refine ⟨record, inRecords, ?_⟩
    rw [shape]
    exact Bool.and_eq_true_iff.2 ⟨isLocal, decide_eq_true rfl⟩
  obtain ⟨first, isFirst⟩ := Option.isSome_iff_exists.1 some
  exact ⟨first.handle, by rw [Coordinator.ownResult?, isFirst, Option.map_some]⟩

/-- The result of an own proposal is what the executor answered for it if nothing else that was
due could be taken for it. -/
theorem filter_of_ownResult (performed : Performed due executions records) {own : Proposal}
    {others : List Proposal} (split : due.Perm (others ++ [own]))
    (distinct : ∀ other ∈ others, other.isLocal = true → other.key ≠ own.key)
    (isLocal : own.isLocal = true) {result : Option Handle}
    (found : Coordinator.ownResult? own.key records = some result) :
    executions.filter (fun execution => decide (execution.proposal = own)) =
      [⟨own, .ok result⟩] := by
  obtain ⟨execution, member, marked, key, answered⟩ := performed.recorded.ownResult found
  -- The execution that left the record is the only one that could be that of the own proposal.
  have isOwn : execution.proposal = own := by
    have inDue : execution.proposal ∈ others ++ [own] :=
      (performed.perm.trans split).mem_iff.1 (List.mem_map_of_mem member)
    rcases List.mem_append.1 inDue with other | isOwn
    · exact absurd key (distinct _ other marked)
    · exact List.mem_singleton.1 isOwn
  have fresh : own ∉ others := fun other => distinct own other isLocal rfl
  have once : (executions.map Execution.proposal).count own = 1 := by
    rw [(performed.perm.trans split).count_eq, List.count_append, List.count_eq_zero.2 fresh]
    simp
  have length : (executions.filter fun execution =>
      decide (execution.proposal = own)).length = 1 := by
    rw [← once, List.count_eq_length_filter, List.filter_map, List.length_map]
    congr 1
  obtain ⟨only, isOnly⟩ := List.length_eq_one_iff.1 length
  have kept : execution ∈ executions.filter fun execution =>
      decide (execution.proposal = own) :=
    List.mem_filter.2 ⟨member, decide_eq_true isOwn⟩
  rw [isOnly] at kept ⊢
  rw [← List.mem_singleton.1 kept, ← isOwn, ← answered]

end Performed

end Concord
