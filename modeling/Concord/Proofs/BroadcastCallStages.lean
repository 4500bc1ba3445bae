import Concord.Proofs.LedgerContents
import Concord.Proofs.ProcessViews

/-!
# Stages of a call in broadcast mode

In broadcast mode a process is at one of a few stages: between calls, about to send its next
proposal, waiting for a round, executing one, or taking in what arrived. `Plan.BroadcastCallStage`
lists them, and `Plan.Account` joins them to the contents of its ledger. What a coordinator does
by itself leads from one stage to another, given what has arrived.
-/

namespace Concord

/-- Whether the own proposal has been executed in a batch or is about to be. -/
def OwnDue {Handle : Type} (key : OrderKey) (records : List (Executed Handle))
    (due : List Proposal) : Prop :=
  (Coordinator.ownResult? key records).isSome = true ∨
    ∃ entry ∈ due, entry.isLocal = true ∧ entry.key = key

/-- Whether the own proposal is due does not depend on the order of what is due. -/
theorem OwnDue.of_perm {Handle : Type} {key : OrderKey} {records : List (Executed Handle)}
    {due other : List Proposal} (own : OwnDue key records due) (perm : due.Perm other) :
    OwnDue key records other := by
  rcases own with recorded | ⟨entry, member, same⟩
  · exact .inl recorded
  · exact .inr ⟨entry, perm.mem_iff.1 member, same⟩

/-- A proposal that leaves what is due for the records is found there. -/
theorem OwnDue.record {Handle : Type} {key : OrderKey} {records : List (Executed Handle)}
    {proposal : Proposal} {due : List Proposal} (own : OwnDue key records (proposal :: due))
    (handle : Option Handle) :
    OwnDue key (records ++ [Executed.ofProposal { proposal with state := .executed } handle])
      due := by
  have found : (Coordinator.ownResult? key
      (records ++ [Executed.ofProposal { proposal with state := .executed } handle])).isSome =
        true ↔ (Coordinator.ownResult? key records).isSome = true ∨
          (proposal.isLocal = true ∧ proposal.key = key) := by
    simp only [Coordinator.ownResult?, Option.isSome_map, List.find?_isSome, List.mem_append,
      List.mem_singleton, Bool.and_eq_true, decide_eq_true_eq]
    constructor
    · rintro ⟨record, before | rfl, same⟩
      · exact .inl ⟨record, before, same⟩
      · exact .inr same
    · rintro (⟨record, before, same⟩ | same)
      · exact ⟨record, .inl before, same⟩
      · exact ⟨_, .inr rfl, same⟩
  rcases own with recorded | ⟨entry, member, same⟩
  · exact .inl (found.2 (.inl recorded))
  · rcases List.mem_cons.1 member with rfl | later
    · exact .inl (found.2 (.inr same))
    · exact .inr ⟨entry, later, same⟩

/-- The reply of a call that went as it should: a progress call, or a submission whose
round has been executed. -/
inductive Fulfilled {Handle : Type} : Except CoordinatorError (Reply Handle) → Prop where
  | progressed : Fulfilled (.ok (.executed 0))
  | committed (result : Option Handle) : Fulfilled (.ok (.submitted (.committed result)))

/-- Whether a reply is one to a submission. -/
def ofSubmission {Handle : Type} : Except CoordinatorError (Reply Handle) → Bool
  | .ok (.submitted _) => true
  | _ => false

/-- How many submissions of a process have been replied to. -/
def ProcessView.completed {State Handle : Type} (view : ProcessView State Handle) : Nat :=
  (view.replies.filter ofSubmission).length

namespace Plan

variable {State Handle : Type}

/-- Where a process stands when `completed` submissions are over: what it has begun and sent,
how many rounds it has taken out, and what it has in hand. -/
inductive BroadcastCallStage (plan : Plan) (rank : Rank) (completed : Nat)
    (coordinator : Coordinator) :
    Option (Control Handle) → Nat → Nat → Nat → List Proposal → Prop where
  | resting (emptyQueue : coordinator.queue.entries = []) :
      BroadcastCallStage plan rank completed coordinator none completed completed completed []
  | broadcasting (emptyQueue : coordinator.queue.entries = [])
      (more : completed < plan.count rank) :
      BroadcastCallStage plan rank completed coordinator
        (some (.waiting (.broadcasting (plan.offered rank completed))))
        (completed + 1) completed completed []
  | awaitingQuorum (emptyQueue : coordinator.queue.entries = [])
      (short : coordinator.ledger.distinctIds < coordinator.config.worldSize) :
      BroadcastCallStage plan rank completed coordinator
        (some (.waiting (.awaitingQuorum (plan.bare rank completed).key)))
        (completed + 1) (completed + 1) completed []
  | gathering (emptyQueue : coordinator.queue.entries = []) :
      BroadcastCallStage plan rank completed coordinator
        (some (.waiting (.absorbing (.quorum (plan.bare rank completed).key))))
        (completed + 1) (completed + 1) completed []
  | executing (records : List (Executed Handle)) (proposal : Proposal)
      (own : OwnDue (plan.bare rank completed).key records
        (proposal :: coordinator.queue.entries)) :
      BroadcastCallStage plan rank completed coordinator
        (some (.waiting (.executing (.round (plan.bare rank completed).key) records proposal)))
        (completed + 1) (completed + 1) (completed + 1) [proposal]
  | committed (emptyQueue : coordinator.queue.entries = []) (result : Option Handle) :
      BroadcastCallStage plan rank completed coordinator
        (some (.returned (.ok (.submitted (.committed result)))))
        (completed + 1) (completed + 1) (completed + 1) []
  | listening (emptyQueue : coordinator.queue.entries = []) :
      BroadcastCallStage plan rank completed coordinator (some (.waiting .listening))
        completed completed completed []
  | absorbing (emptyQueue : coordinator.queue.entries = []) :
      BroadcastCallStage plan rank completed coordinator (some (.waiting (.absorbing .nothing)))
        completed completed completed []
  | progressed (emptyQueue : coordinator.queue.entries = []) :
      BroadcastCallStage plan rank completed coordinator (some (.returned (.ok (.executed 0))))
        completed completed completed []

/-- What can be said of a process that works off a plan. -/
structure Account (plan : Plan) (everyone : List Rank) (rank : Rank) (worldSize : Nat)
    (view : ProcessView State Handle) (asked sent taken : Nat) (inHand : List Proposal) : Prop where
  mode : view.node.coordinator.config.mode = .broadcast
  size : view.node.coordinator.config.worldSize = worldSize
  begun : view.begun = (List.range asked).map (plan.proposal rank)
  replied : ∀ reply ∈ view.replies, Fulfilled reply
  contents : plan.Contents everyone rank view.node.coordinator view.entered view.handed view.issued
    view.collected sent taken inHand
  callStage : plan.BroadcastCallStage rank view.completed view.node.coordinator view.node.call
    asked sent taken
    inHand

/-- Where a coordinator may be while it works off a round of its own: it waits for the round,
executes it, or is through. -/
def Working (plan : Plan) (everyone : List Rank) (rank : Rank) (config : CoordinatorConfig)
    (completed : Nat) (entered handed : List Proposal) (issued collected : List Bytes)
    (after : Coordinator × Control Handle) : Prop :=
  after.1.config = config ∧ ∃ taken inHand,
    plan.Contents everyone rank after.1 entered handed issued collected
      (completed + 1) taken inHand ∧
    plan.BroadcastCallStage rank completed after.1 (some after.2) (completed + 1)
      (completed + 1) taken inHand

variable {plan : Plan} {everyone : List Rank} {rank : Rank} {coordinator : Coordinator}
  {entered handed : List Proposal} {issued collected : List Bytes} {completed : Nat}

/-- What a stage of a call leaves is the account of the process that has come to it. -/
theorem Working.account {view : ProcessView State Handle} {config : CoordinatorConfig}
    {after : Coordinator × Control Handle} {worldSize : Nat}
    (working : plan.Working everyone rank config view.completed view.entered view.handed
      view.issued view.collected after)
    (coordinatorIs : view.node.coordinator = after.1) (callIs : view.node.call = some after.2)
    (mode : config.mode = .broadcast) (size : config.worldSize = worldSize)
    (begun : view.begun = (List.range (view.completed + 1)).map (plan.proposal rank))
    (replied : ∀ reply ∈ view.replies, Fulfilled reply) :
    ∃ asked sent taken inHand,
      plan.Account everyone rank worldSize view asked sent taken inHand := by
  obtain ⟨same, taken, inHand, contents, callStage⟩ := working
  refine ⟨view.completed + 1, view.completed + 1, taken, inHand, ?_⟩
  exact {
    mode := by rw [coordinatorIs, same, mode]
    size := by rw [coordinatorIs, same, size]
    begun
    replied
    contents := by rw [coordinatorIs]; exact contents
    callStage := by rw [coordinatorIs, callIs]; exact callStage }

/-- Going on with a round that has been taken out. -/
theorem Contents.executeNext
    (contents : plan.Contents everyone rank coordinator entered handed issued collected
      (completed + 1) (completed + 1) []) {records : List (Executed Handle)}
    (own : OwnDue (plan.bare rank completed).key records coordinator.queue.entries) :
    plan.Working everyone rank coordinator.config completed entered handed issued collected
      (coordinator.executeNext (.round (plan.bare rank completed).key) records) := by
  cases popped : coordinator.queue.popOldest? with
  | none =>
    have emptyQueue : coordinator.queue.entries = [] := ExecutionQueue.popOldest?_eq_none.1 popped
    rcases own with recorded | ⟨entry, member, _⟩
    · obtain ⟨result, found⟩ := Option.isSome_iff_exists.1 recorded
      have next : coordinator.executeNext (.round (plan.bare rank completed).key) records =
          (coordinator, .returned (.ok (.submitted (.committed result)))) := by
        simp only [Coordinator.executeNext, popped, Coordinator.afterBatch, found]
      rw [next]
      exact ⟨rfl, _, _, contents, .committed emptyQueue result⟩
    · rw [emptyQueue] at member
      exact absurd member List.not_mem_nil
  | some taken =>
    obtain ⟨proposal, queue⟩ := taken
    obtain ⟨perm, _⟩ := ExecutionQueue.popOldest?_spec popped
    have next : coordinator.executeNext (.round (plan.bare rank completed).key) records =
        ({ coordinator with queue },
          .waiting (.executing (.round (plan.bare rank completed).key) records proposal)) := by
      simp only [Coordinator.executeNext, popped]
    rw [next]
    exact ⟨rfl, _, _, contents.pop popped, .executing records proposal (own.of_perm perm.symm)⟩

/-- Going on once a proposal of the round has been accepted. -/
theorem Contents.record {proposal : Proposal}
    (contents : plan.Contents everyone rank coordinator entered handed issued collected
      (completed + 1) (completed + 1) [proposal])
    {records : List (Executed Handle)}
    (own : OwnDue (plan.bare rank completed).key records
      (proposal :: coordinator.queue.entries)) (handle : Option Handle) :
    plan.Working everyone rank coordinator.config completed entered
      (handed ++ [proposal]) issued collected
      (coordinator.record (.round (plan.bare rank completed).key) records proposal
        (.ok handle)) := by
  have ready : proposal.state = .readyExecute :=
    contents.ready proposal (List.mem_append_left _ (List.mem_singleton.2 rfl))
  simp only [Coordinator.record, ExecutionQueue.conclude_of_ready ready]
  exact contents.hand.executeNext (own.record handle)

/-- Waiting for a round, or taking it out if it is complete. -/
theorem Contents.awaitRound
    (contents : plan.Contents everyone rank coordinator entered handed issued collected
      (completed + 1) completed []) (distinct : everyone.Nodup)
    (inWorld : rank ∈ everyone) (emptyQueue : coordinator.queue.entries = [])
    (size : everyone.length ≤ coordinator.config.worldSize) {arrived : Rank → Nat}
    (planned : ∀ other ∈ everyone, arrived other ≤ plan.count other ∧
      (Proposal.underSlot other entered).map Proposal.bare =
        (List.range (arrived other)).map (plan.bare other)) :
    plan.Working everyone rank coordinator.config completed entered handed issued collected
      (coordinator.awaitRound (plan.bare rank completed).key : Coordinator × Control Handle) := by
  rcases coordinator.awaitRound_cases contents.approved (plan.bare rank completed).key with
    ⟨short, waits⟩ | ⟨full, goesOn⟩
  · rw [waits]
    exact ⟨rfl, _, _, contents, .awaitingQuorum emptyQueue short⟩
  · have enough := Nat.le_trans size full
    obtain ⟨round, _⟩ := contents.round_next distinct planned enough
    rw [goesOn]
    simp only [Coordinator.withRound, emptyQueue, List.nil_append]
    exact (contents.takeRound distinct emptyQueue planned enough).executeNext
      (.inr (contents.own_in_round inWorld round))

end Plan

end Concord
