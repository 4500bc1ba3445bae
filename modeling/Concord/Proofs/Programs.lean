import Concord.Proofs.VotedExchanges
import Concord.Proofs.Workloads
import Concord.Replica
import Concord.Simulation.Config

/-!
# Programs

A process of a simulation submits the operations of its workload one after the other, then its
closing until this is approved, and makes progress calls until all processes have closed.
`SimulationConfig.rules` fixes that much and leaves the order of everything to the environment.
As long as nothing fails, what a process has begun is told by its program, and its replica by
what has been handed over.
-/

namespace Concord

/-- The operation that a process submits after submissions that ended like this: the next one of
its plan, and after these its closing until it is approved. -/
def Workload.next? (plan : List Operation) (outcomes : List Bool) : Option Operation :=
  match plan[outcomes.length]? with
  | some operation => some operation
  | none => if (outcomes.drop plan.length).any id then none else some .close

/-- How the submissions of a process have ended. -/
def ProcessView.outcomes {State Handle : Type} (view : ProcessView State Handle) : List Bool :=
  view.replies.filterMap outcome?

namespace SimulationConfig

/-- The rules of a simulation in voted mode: one clock that never goes back, and processes that
follow their programs. -/
def rules (config : SimulationConfig) : Rules Replica ObjectHandle where
  executor _ := Replica.executor
  judge _ := .staleness config.windowMicros
  passes cluster clock := cluster.network.bus.clock.time ≤ clock.time ∧ clock.stride = 0
  submits cluster rank proposal :=
    ∃ operation, Workload.next? (Workload.plan rank config.opsPerRank)
        (cluster.view rank).outcomes = some operation ∧
      proposal = .create (.ofRank rank) operation.tag (Payload.encode operation)
        cluster.network.bus.clock.time
  leaves cluster rank :=
    Workload.next? (Workload.plan rank config.opsPerRank) (cluster.view rank).outcomes = none ∧
      config.ranks ≤ (cluster.nodes rank).state.closes

/-- The processes of a simulation before any call. -/
def opening (config : SimulationConfig) (start : Timestamp) : Cluster Replica ObjectHandle :=
  .opening config.ranks (.startingAt start) config.seed config.jitter config.coordinatorConfig
    fun _ => .create

end SimulationConfig

namespace Workload

/-- The next operation is that of the plan, or the closing once the plan is used up and no closing
has been approved. -/
theorem next?_eq_some {plan : List Operation} {outcomes : List Bool} {operation : Operation}
    (next : next? plan outcomes = some operation) :
    operation = plan[outcomes.length]?.getD .close ∧
      (plan.length ≤ outcomes.length → ∀ approved ∈ outcomes.drop plan.length,
        approved = false) := by
  unfold next? at next
  split at next
  · next planned found =>
    cases next
    refine ⟨by rw [found]; rfl, fun ended => ?_⟩
    rw [List.getElem?_eq_none ended] at found
    cases found
  · next missing =>
    split at next
    · cases next
    · next denied =>
      cases next
      refine ⟨by rw [missing]; rfl, fun _ approved member => ?_⟩
      cases approved with
      | false => rfl
      | true => exact absurd (List.any_eq_true.2 ⟨true, member, rfl⟩) denied

/-- What a program submits fits into an envelope. -/
theorem length_encode_next (rank : Rank) {count : Nat} (small : count ≤ 2 ^ 64) (number : Nat) :
    (Payload.encode ((plan rank count)[number]?.getD .close)).length < 2 ^ 64 := by
  rw [getElem?_plan]
  split
  · next inside =>
    have short := length_encode_le rank (Nat.lt_of_lt_of_le inside small)
    exact Nat.lt_of_le_of_lt short (by decide)
  · exact Nat.lt_of_le_of_lt (Payload.length_encode_le_fields .close) (by decide)

end Workload

/-- The rules of a simulation are those of voted mode. -/
theorem SimulationConfig.rules_voted {config : SimulationConfig}
    (small : config.opsPerRank ≤ 2 ^ 64) : config.rules.Voted config.windowMicros where
  judged := fun _ => rfl
  forward := fun passes => passes
  stamped := by
    rintro cluster rank proposal ⟨operation, next, rfl⟩
    refine ⟨rfl, rfl, rfl, ?_⟩
    rw [(Workload.next?_eq_some next).1]
    exact Workload.length_encode_next rank small _

/-! ## What a process has begun -/

/-- Submissions as a program makes them, with how they ended. -/
structure Follows (plan : List Operation) (begun : List Proposal) (outcomes : List Bool) :
    Prop where
  kinds : ∀ {number : Nat} {proposal : Proposal}, begun[number]? = some proposal →
    proposal.tag = (plan[number]?.getD .close).tag
  /-- A closing that is followed by another one was denied. -/
  patient : ∀ {number : Nat}, number + 1 < begun.length → plan.length ≤ number →
    outcomes[number]? = some false

namespace Follows

variable {plan : List Operation} {begun : List Proposal} {outcomes : List Bool}

/-- Submitting the next operation goes on with the program. -/
theorem submit (follows : Follows plan begun outcomes) (all : outcomes.length = begun.length)
    {operation : Operation} (next : Workload.next? plan outcomes = some operation)
    {proposal : Proposal} (tag : proposal.tag = operation.tag) :
    Follows plan (begun ++ [proposal]) outcomes := by
  obtain ⟨planned, denied⟩ := Workload.next?_eq_some next
  constructor
  · intro number found lies
    rcases Nat.lt_or_ge number begun.length with before | last
    · rw [List.getElem?_append_left before] at lies
      exact follows.kinds lies
    · rw [List.getElem?_append_right last] at lies
      obtain ⟨only, isProposal⟩ := List.getElem?_eq_some_iff.1 lies
      have position : number = begun.length := by
        rw [List.length_singleton] at only
        omega
      have same : proposal = found := by simpa [position] using lies
      rw [← same, tag, planned, all, position]
  · intro number followed ended
    rw [List.length_append, List.length_singleton] at followed
    have inside : number < outcomes.length := by omega
    have dropped : outcomes[number] ∈ outcomes.drop plan.length := by
      refine List.mem_iff_getElem.2 ⟨number - plan.length, ?_, ?_⟩
      · rw [List.length_drop]
        omega
      · rw [List.getElem_drop]
        congr 1
        omega
    rw [List.getElem?_eq_getElem inside, denied (by omega) _ dropped]

/-- A further outcome changes nothing about what has been submitted. -/
theorem reply (follows : Follows plan begun outcomes) (more : List Bool) :
    Follows plan begun (outcomes ++ more) where
  kinds := follows.kinds
  patient := by
    intro number followed ended
    have found := follows.patient followed ended
    obtain ⟨inside, _⟩ := List.getElem?_eq_some_iff.1 found
    rw [List.getElem?_append_left inside]
    exact found

end Follows

/-! ## What a replica holds -/

/-- Whether a proposal closes a process. -/
def Proposal.isClosing (proposal : Proposal) : Bool :=
  decide (proposal.tag = Operation.close.tag)

/-- The log entry for a proposal. -/
def LogEntry.ofProposal (proposal : Proposal) : LogEntry :=
  ⟨proposal.id, proposal.createdAt, proposal.tag⟩

/-- What a replica carries out is logged, and a closing is counted. -/
theorem Replica.note_spec (replica : Replica) (space : Namespace) (proposal : Proposal)
    (operation : Operation) :
    (replica.note space proposal operation).2.log =
        replica.log ++ [entryOf proposal operation] ∧
      (replica.note space proposal operation).2.closes =
        if operation = .close then replica.closes + 1 else replica.closes := by
  unfold note
  cases proposal.isLocal <;> exact ⟨rfl, rfl⟩

/-- A replica logs and counts what it carries out. -/
theorem Replica.execute_ok {replica after : Replica} {proposal : Proposal}
    {handle : Option ObjectHandle} (executed : replica.execute proposal = (.ok handle, after)) :
    after.log = replica.log ++ [LogEntry.ofProposal proposal] ∧
      after.closes = replica.closes + (if proposal.isClosing then 1 else 0) := by
  unfold execute at executed
  split at executed
  · simp at executed
  · next operation read =>
    split at executed
    · simp at executed
    · next space _ =>
      have tag := Payload.tag_of_decode read
      have isClose : proposal.isClosing = decide (operation = .close) := by
        rw [Proposal.isClosing, ← tag]
        exact decide_eq_decide.2 Operation.tag_eq_close
      have entry : entryOf proposal operation = LogEntry.ofProposal proposal := by
        rw [entryOf, tag]
        rfl
      obtain ⟨logged, counted⟩ := replica.note_spec space proposal operation
      have outcome : (replica.note space proposal operation).2 = after :=
        congrArg Prod.snd executed
      rw [← outcome, logged, counted, entry, isClose]
      refine ⟨rfl, ?_⟩
      by_cases closing : operation = .close <;> simp [closing]

/-- A replica that has carried out whatever was handed over. -/
structure Faithful (view : ProcessView Replica ObjectHandle) : Prop where
  log : view.node.state.log = view.handed.map LogEntry.ofProposal
  closes : view.node.state.closes = (view.handed.filter Proposal.isClosing).length

/-- A process to which nothing has failed. -/
structure ProcessView.Untroubled {State Handle : Type}
    (view : ProcessView State Handle) : Prop where
  replied : ∀ reply ∈ view.replies, reply.toBool = true
  calling : ∀ cause, view.node.call ≠ some (.returned (.error cause))

/-- What a program has made of a process, as long as nothing fails. -/
structure Programmed (config : SimulationConfig) (rank : Rank)
    (view : ProcessView Replica ObjectHandle) : Prop where
  follows : (∀ reply ∈ view.replies, reply.toBool = true) →
    Follows (Workload.plan rank config.opsPerRank) view.begun view.outcomes
  faithful : view.Untroubled → Faithful view

namespace Programmed

variable {config : SimulationConfig} {rank : Rank} {view : ProcessView Replica ObjectHandle}

/-- Before any call nothing has been submitted and the replica is new. -/
theorem empty (config : SimulationConfig) (rank : Rank) (coordinator : Coordinator) :
    Programmed config rank ⟨⟨coordinator, .create, none⟩, [], [], [], [], [], []⟩ where
  follows := fun _ => ⟨nofun, fun within => absurd within (Nat.not_lt_zero _)⟩
  faithful := fun _ => ⟨rfl, rfl⟩

/-- What is issued and collected does not matter, nor where a call stands that did not fail. -/
theorem lead (programmed : Programmed config rank view) {coordinator : Coordinator}
    {call : Option (Control ObjectHandle)} {entered : List Proposal}
    {issued collected : List Bytes}
    (fine : ∀ cause, view.node.call ≠ some (.returned (.error cause))) :
    Programmed config rank
      { view with node := ⟨coordinator, view.node.state, call⟩, entered, issued, collected } where
  follows := programmed.follows
  faithful := fun untroubled =>
    have before := programmed.faithful ⟨untroubled.replied, fine⟩
    ⟨before.log, before.closes⟩

/-- A submission of the next operation goes on with the program. -/
theorem submit (programmed : Programmed config rank view)
    (all : (∀ reply ∈ view.replies, reply.toBool = true) →
      view.outcomes.length = view.begun.length)
    (uncalled : view.node.call = none) {operation : Operation}
    (next : Workload.next? (Workload.plan rank config.opsPerRank) view.outcomes = some operation)
    {proposal : Proposal} (tag : proposal.tag = operation.tag)
    {call : Option (Control ObjectHandle)} :
    Programmed config rank
      { view with node := { view.node with call }, begun := view.begun ++ [proposal] } where
  follows := fun fine => (programmed.follows fine).submit (all fine) next tag
  faithful := by
    intro untroubled
    have before := programmed.faithful
      ⟨untroubled.replied, fun cause failed => by rw [uncalled] at failed; cases failed⟩
    exact ⟨before.log, before.closes⟩

/-- A call that ends with a refused proposal fails. -/
theorem execute (programmed : Programmed config rank view) {cause : BatchCause}
    {records : List (Executed ObjectHandle)} {proposal : Proposal}
    (waits : view.node.call = some (.waiting (.executing cause records proposal)))
    {coordinator : Coordinator} {control : Control ObjectHandle}
    (goesOn : coordinator = (view.node.coordinator.record cause records proposal
        (Replica.executor.execute view.node.state proposal).1).1 ∧
      control = (view.node.coordinator.record cause records proposal
        (Replica.executor.execute view.node.state proposal).1).2) :
    Programmed config rank
      { view with
        node := ⟨coordinator, (Replica.executor.execute view.node.state proposal).2, some control⟩
        handed := view.handed ++ [proposal] } where
  follows := programmed.follows
  faithful := by
    intro untroubled
    have before := programmed.faithful
      ⟨untroubled.replied, fun failure failed => by rw [waits] at failed; cases failed⟩
    obtain ⟨_, rfl⟩ := goesOn
    cases executed : (view.node.state.execute proposal).1 with
    | error failure =>
      have failing : Control.returned (.error (.executor failure)) =
          (view.node.coordinator.record cause records proposal
            (Replica.executor.execute view.node.state proposal).1).2 := by
        simp only [Replica.executor, executed, Coordinator.record, ExecutionQueue.conclude]
      exact absurd (congrArg some failing.symm) (untroubled.calling (.executor failure))
    | ok handle =>
      obtain ⟨logged, counted⟩ := Replica.execute_ok (Prod.ext executed rfl)
      constructor
      · show (view.node.state.execute proposal).2.log = _
        rw [logged, before.log, List.map_append]
        rfl
      · show (view.node.state.execute proposal).2.closes = _
        rw [counted, before.closes, List.filter_append, List.length_append]
        cases closing : proposal.isClosing <;> simp [closing]

/-- A reply changes nothing about what a process has submitted and executed. -/
theorem finish (programmed : Programmed config rank view)
    {reply : Except CoordinatorError (Reply ObjectHandle)}
    (returned : view.node.call = some (.returned reply)) :
    Programmed config rank
      { view with
        node := { view.node with call := none }, replies := view.replies ++ [reply] } where
  follows := by
    intro fine
    have before := programmed.follows fun other member => fine other (List.mem_append_left _ member)
    have outcomes : ProcessView.outcomes { view with
        node := { view.node with call := none }, replies := view.replies ++ [reply] } =
        view.outcomes ++ [reply].filterMap outcome? := List.filterMap_append
    rw [outcomes]
    exact before.reply _
  faithful := by
    intro untroubled
    have last := untroubled.replied reply (List.mem_append_right _ (List.mem_singleton.2 rfl))
    have before := programmed.faithful {
      replied := fun other member => untroubled.replied other (List.mem_append_left _ member)
      calling := by
        intro cause failed
        rw [returned] at failed
        cases failed
        exact absurd last Bool.false_ne_true }
    exact ⟨before.log, before.closes⟩

end Programmed

/-- Where nothing has failed, a process without a call has been told of all its submissions. -/
theorem VotedInvariant.outcomes_length {worldSize : Nat} {window : UInt64} {State Handle : Type}
    {cluster : Cluster State Handle} (invariant : VotedInvariant worldSize window cluster)
    {rank : Rank} (uncalled : (cluster.nodes rank).call = none)
    (fine : ∀ reply ∈ cluster.replies rank, reply.toBool = true) :
    (cluster.view rank).outcomes.length = (cluster.begun rank).length := by
  obtain ⟨past, settled, offered, issued, entered, account⟩ := invariant.accounts rank
  have call : (cluster.view rank).node.call = none := uncalled
  have callStage := account.callStage
  rw [call] at callStage
  obtain ⟨rfl, _⟩ := callStage.rests
  have lengths := congrArg List.length account.submissionHistory.begun
  rw [List.length_map, Option.toList_none, List.append_nil, List.length_map] at lengths
  have told := congrArg List.length (account.submissionHistory.told fine)
  rw [List.length_map] at told
  exact told.trans lengths.symm

/-- Noting the answer to anything but an execution hands nothing over. -/
theorem Stage.handed_clusterEvents {Handle : Type} (rank process : Rank) {stage : Stage Handle}
    (other : ∀ cause records proposal, stage ≠ .executing cause records proposal)
    (answer : stage.request.Answer Handle) :
    (stage.clusterEvents rank answer).filterMap (ClusterEvent.handedBy? process) = [] := by
  unfold Stage.clusterEvents
  repeat' split
  all_goals first | rfl | exact absurd rfl (other _ _ _)

section Steps

variable {config : SimulationConfig} {cluster after : Cluster Replica ObjectHandle}

/-- Only executing changes a replica and what has been handed to it. -/
theorem Programmed.exchange {process : Rank}
    (before : Programmed config process (cluster.view process)) {stage : Stage ObjectHandle}
    (waits : (cluster.nodes process).call = some (.waiting stage)) :
    Programmed config process
      ((cluster.exchange Replica.executor process stage).view process) := by
  have fine : ∀ cause, (cluster.view process).node.call ≠ some (.returned (.error cause)) := by
    intro cause failed
    rw [show (cluster.view process).node.call = some (.waiting stage) from waits] at failed
    cases failed
  by_cases executing : ∃ cause records proposal, stage = .executing cause records proposal
  · obtain ⟨cause, records, proposal, rfl⟩ := executing
    rw [Cluster.view_executing]
    exact before.execute waits ⟨rfl, rfl⟩
  · have other : ∀ cause records proposal, stage ≠ .executing cause records proposal :=
      fun cause records proposal same => executing ⟨cause, records, proposal, same⟩
    have kept : (Cluster.answer Replica.executor process stage.request
        (cluster.network, (cluster.nodes process).state)).2.2 =
          (cluster.nodes process).state := by
      cases stage with
      | executing cause records proposal => exact absurd rfl (other cause records proposal)
      | _ => rfl
    rw [Cluster.view_exchange]
    simp only [kept, Stage.handed_clusterEvents process process other, List.append_nil]
    exact before.lead fine

/-- A call that carries no proposal begins with the program as it is. -/
theorem Programmed.beginPlain {process : Rank}
    (before : Programmed config process (cluster.view process)) (free : cluster.Free process)
    (control : Control ObjectHandle) :
    Programmed config process ((cluster.begin process control []).view process) := by
  rw [Cluster.begin, Cluster.view_put]
  simp only [List.filterMap_nil, List.append_nil]
  refine before.lead fun cause failed => ?_
  rw [show (cluster.view process).node.call = none from free.uncalled] at failed
  cases failed

/-- Every step keeps to the programs. -/
theorem Programmed.step
    (programmed : ∀ rank, Programmed config rank (cluster.view rank))
    (invariant : VotedInvariant config.ranks config.windowMicros cluster)
    (lawful : cluster.network.Lawful)
    (next : Cluster.Step config.rules cluster after) (process : Rank) :
    Programmed config process (after.view process) := by
  have before := programmed process
  have network : ∀ network : Network, Programmed config process
      (({ cluster with network } : Cluster Replica ObjectHandle).view process) := by
    intro network
    exact ⟨before.follows, fun untroubled =>
      have faithful := before.faithful ⟨untroubled.replied, untroubled.calling⟩
      ⟨faithful.log, faithful.closes⟩⟩
  have others : ∀ {rank node entries}, process ≠ rank →
      (∀ entry ∈ entries, entry.rank = rank) →
      Programmed config process
        ((cluster.put cluster.network rank node entries).view process) := by
    intro rank node entries apart own
    rw [Cluster.view_put_of_ne cluster node apart own rfl rfl]
    exact before
  cases next with
  | time clock passes => exact network _
  | send next => exact network _
  | handle quiet next => exact network _
  | submit rank proposal free submits =>
    obtain ⟨operation, planned, rfl⟩ := submits
    by_cases here : process = rank
    · subst here
      rw [Cluster.begin, Cluster.view_put]
      simp only [List.filterMap_cons, List.filterMap_nil, ClusterEvent.begunBy?,
        ClusterEvent.enteredAt?, ClusterEvent.handedBy?, ClusterEvent.repliedTo?, if_true,
        List.append_nil]
      exact before.submit (invariant.outcomes_length free.uncalled) free.uncalled planned rfl
    · exact others here fun entry member => by rw [List.mem_singleton.1 member]; rfl
  | tick rank free =>
    by_cases here : process = rank
    · subst here
      exact before.beginPlain free _
    · exact others here fun entry member => absurd member List.not_mem_nil
  | close rank free leaves =>
    by_cases here : process = rank
    · subst here
      exact before.beginPlain free _
    · exact others here fun entry member => absurd member List.not_mem_nil
  | exchange rank stage joined idle waits =>
    by_cases here : process = rank
    · subst here
      exact Programmed.exchange before waits
    · rw [Cluster.view_exchange_of_ne lawful _ here stage]
      exact before
  | finish rank reply returned =>
    by_cases here : process = rank
    · subst here
      rw [Cluster.finish, Cluster.view_put]
      simp only [List.filterMap_cons, List.filterMap_nil, ClusterEvent.begunBy?,
        ClusterEvent.enteredAt?, ClusterEvent.handedBy?, ClusterEvent.repliedTo?, if_true,
        List.append_nil]
      exact before.finish returned
    · exact others here fun entry member => by rw [List.mem_singleton.1 member]; rfl

/-- Whatever can become of a simulation keeps to the programs. -/
theorem Programmed.reaches {start : Timestamp} (mode : config.mode = .voted)
    (wide : 0 < config.windowMicros.toNat) (small : config.opsPerRank ≤ 2 ^ 64)
    (steps : Cluster.Reaches config.rules (config.opening start) after) :
    VotedInvariant config.ranks config.windowMicros after ∧
      ∀ rank, Programmed config rank (after.view rank) := by
  induction steps with
  | refl =>
    refine ⟨?_, fun rank => .empty config rank _⟩
    exact VotedInvariant.opening config.ranks (.startingAt start) config.seed config.jitter
      (fun _ => Replica.create) rfl (fun _ => mode) (fun _ => rfl)
  | step prior next inductionHypothesis =>
    obtain ⟨invariant, programmed⟩ := inductionHypothesis
    have wellFormed := Network.WellFormed.of_reaches prior.network
    exact ⟨invariant.step wellFormed (SimulationConfig.rules_voted small) wide next,
      Programmed.step programmed invariant wellFormed.lawful next⟩

end Steps

end Concord
