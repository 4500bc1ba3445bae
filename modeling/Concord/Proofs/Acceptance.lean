import Concord.Proofs.Convergence
import Concord.Proofs.WorkloadSeparation
import Concord.Proofs.Replicas

/-!
# Rounds of workloads are accepted

In broadcast mode the proposals of different processes are executed round by round, whatever their
times. Where every process submits its workload and then its closing, each replica has carried out
the same front of every other process's program as of its own, up to one round, so no executor
refuses anything.
-/

namespace Concord

namespace Workload

/-- The operation with a number in the program of a process: those of its workload come first, and
then it closes. -/
def programAt (count : Nat) (rank : Rank) (number : Nat) : Operation :=
  if number < count then operationAt rank number else .close

/-- An operation of a program as a proposal made at a time. -/
def proposalAt (count : Nat) (rank : Rank) (number : Nat) (stamp : Timestamp) : Proposal :=
  .create (.ofRank rank) (programAt count rank number).tag
    (Payload.encode (programAt count rank number)) stamp

/-- Every operation of a program, the closing included, fits into an envelope. -/
theorem length_encode_programAt (count : Nat) (rank : Rank) {number : Nat}
    (small : number < 2 ^ 64) :
    (Payload.encode (programAt count rank number)).length < 2 ^ 64 := by
  unfold programAt
  split
  · exact Nat.lt_of_le_of_lt (length_encode_le rank small) (by decide)
  · exact Nat.lt_of_le_of_lt (Payload.length_encode_le_fields .close) (by decide)

/-- A program closes once its operations are used up, and not before. -/
theorem isClosing_proposalAt (count : Nat) (rank : Rank) (number : Nat) (stamp : Timestamp) :
    (proposalAt count rank number stamp).isClosing = decide (count ≤ number) := by
  apply decide_eq_decide.2
  refine Operation.tag_eq_close.trans ?_
  unfold programAt
  split
  · next working => exact iff_of_false (operationAt_ne_close rank number) (Nat.not_le.2 working)
  · next ended => exact iff_of_true rfl (Nat.le_of_not_lt ended)

/-- The next operation of any program can be carried out. -/
theorem Built.applyProgram {count : Nat} {submitted : Rank → Nat} {space : Namespace}
    (built : Built (fun other => min (submitted other) count) space) (rank : Rank) :
    ∃ after, space.apply (programAt count rank (submitted rank)) = .ok after ∧
      Built (fun other => min (Function.update submitted rank (submitted rank + 1) other) count)
        after := by
  unfold programAt
  split
  · next working =>
    obtain ⟨after, applied, grown⟩ := built.apply rank
    rw [Nat.min_eq_left (Nat.le_of_lt working)] at applied grown
    refine ⟨after, applied, ?_⟩
    convert grown using 1
    funext other
    by_cases here : other = rank
    · subst here
      rw [Function.update_self, Function.update_self]
      exact Nat.min_eq_left working
    · rw [Function.update_of_ne here, Function.update_of_ne here]
  · next ended =>
    refine ⟨space, rfl, ?_⟩
    convert built using 1
    funext other
    by_cases here : other = rank
    · subst here
      rw [Function.update_self]
      omega
    · rw [Function.update_of_ne here]

end Workload

/-- One more proposal is one more under its own slot. -/
theorem Proposal.length_underSlot_concat (proposals : List Proposal) {proposal : Proposal}
    {rank : Rank} (slot : proposal.id = .ofRank rank) :
    (fun other => (underSlot other (proposals ++ [proposal])).length) =
      Function.update (fun other => (underSlot other proposals).length) rank
        ((underSlot rank proposals).length + 1) := by
  funext other
  rw [underSlot_append, underSlot_of_slot slot]
  by_cases here : other = rank
  · subst here
    rw [if_pos rfl, Function.update_self, List.length_append, List.length_singleton]
  · rw [if_neg here, Function.update_of_ne here, List.append_nil]

namespace Replica

/-- What a replica is that has carried out proposals of programs with so many operations. -/
structure CarriedOut (count : Nat) (proposals : List Proposal) (replica : Replica) : Prop where
  log : replica.log = proposals.map LogEntry.ofProposal
  closes : replica.closes = (proposals.filter Proposal.isClosing).length
  space : Workload.Built (fun rank => min (Proposal.underSlot rank proposals).length count)
    replica.space

/-- A new replica has carried out nothing. -/
theorem CarriedOut.create (count : Nat) : CarriedOut count [] .create :=
  have none : (fun rank => min (Proposal.underSlot rank []).length count) = fun _ => 0 :=
    funext fun _ => Nat.zero_min count
  ⟨rfl, rfl, none ▸ Workload.Built.empty⟩

/-- Whatever is the next operation of a process can be carried out. -/
theorem CarriedOut.execute {count : Nat} {proposals : List Proposal} {replica : Replica}
    (before : CarriedOut count proposals replica) {proposal : Proposal} {rank : Rank} {number : Nat}
    {stamp : Timestamp} (next : (Proposal.underSlot rank proposals).length = number)
    (small : number < 2 ^ 64)
    (planned : proposal.bare = Workload.proposalAt count rank number stamp) :
    ∃ handle after, replica.execute proposal = (.ok handle, after) ∧
      CarriedOut count (proposals ++ [proposal]) after := by
  have slot : proposal.id = .ofRank rank := congrArg Proposal.id planned
  have tag : proposal.tag = (Workload.programAt count rank number).tag :=
    congrArg Proposal.tag planned
  have payload : proposal.payload = Payload.encode (Workload.programAt count rank number) :=
    congrArg Proposal.payload planned
  have read : Payload.decode proposal.tag proposal.payload =
      .ok (Workload.programAt count rank number) := by
    rw [tag, payload, ← List.append_nil (Payload.encode _)]
    exact Payload.decode_encode (Workload.length_encode_programAt count rank small) []
  obtain ⟨space, changed, built⟩ := before.space.applyProgram rank
  rw [next] at changed
  have executed : replica.execute proposal =
      (.ok (replica.note space proposal (Workload.programAt count rank number)).1,
        (replica.note space proposal (Workload.programAt count rank number)).2) := by
    simp only [Replica.execute, read, changed]
  obtain ⟨logged, counted⟩ := Replica.execute_ok executed
  refine ⟨_, _, executed, ?_, ?_, ?_⟩
  · rw [logged, before.log, List.map_append]
    rfl
  · rw [counted, before.closes, List.filter_append, List.length_append]
    cases closing : proposal.isClosing <;> simp [closing]
  · rw [Replica.space_note]
    simpa only [← Proposal.length_underSlot_concat proposals slot] using built

end Replica

/-! ## Rounds of programs -/

namespace Plan

/-- Whether every process submits a front of its program. -/
def Runs (plan : Plan) (count : Nat) : Prop :=
  ∀ {rank number}, number < plan.count rank → plan.proposal rank number =
    Workload.proposalAt count rank number (plan.proposal rank number).createdAt

/-- Times ascend, so there are no more proposals than times. -/
theorem number_le_createdAt {plan : Plan} {rank : Rank} {number : Nat}
    (inside : number < plan.count rank) :
    number ≤ (plan.proposal rank number).createdAt.toNat := by
  induction number with
  | zero => exact Nat.zero_le _
  | succ number inductionHypothesis =>
    have earlier := inductionHypothesis (Nat.lt_of_succ_lt inside)
    have later : (plan.proposal rank number).createdAt.toNat <
        (plan.proposal rank (number + 1)).createdAt.toNat :=
      plan.ascending (Nat.lt_succ_self number) inside
    omega

/-- A round holds one proposal of every process. -/
theorem underSlot_round (plan : Plan) {everyone : List Rank} (distinct : everyone.Nodup)
    {rank : Rank} (listed : rank ∈ everyone) (number : Nat) :
    Proposal.underSlot rank (plan.round everyone number) = [plan.bare rank number] := by
  have own : Proposal.underSlot rank (everyone.map fun other => plan.bare other number) =
      [plan.bare rank number] := by
    have slots : (fun other => decide ((plan.bare other number).id = .ofRank rank)) =
        fun other => decide (other = rank) := by
      funext other
      rw [plan.id_bare, decide_eq_decide]
      exact ProposalId.ofRank_inj
    rw [Proposal.underSlot, List.filter_map, Function.comp_def, slots, List.filter_eq,
      List.count_eq_one_of_mem distinct listed]
    rfl
  have perm := (plan.round_perm everyone number).filter fun proposal =>
    decide (proposal.id = .ofRank rank)
  rw [← Proposal.underSlot, ← Proposal.underSlot, own] at perm
  exact List.perm_singleton.1 perm

/-- The first rounds hold the first proposals of every process, in their order. -/
theorem underSlot_rounds (plan : Plan) {everyone : List Rank} (distinct : everyone.Nodup)
    {rank : Rank} (listed : rank ∈ everyone) (count : Nat) :
    Proposal.underSlot rank (plan.rounds everyone count) =
      (List.range count).map (plan.bare rank) := by
  induction count with
  | zero => rfl
  | succ count inductionHypothesis =>
    rw [plan.rounds_succ, Proposal.underSlot_append, inductionHypothesis,
      plan.underSlot_round distinct listed, List.range_succ, List.map_append]
    rfl

/-- Which slot a proposal is under does not depend on its state or mark. -/
theorem underSlot_map_bare (rank : Rank) (proposals : List Proposal) :
    Proposal.underSlot rank (proposals.map Proposal.bare) =
      (Proposal.underSlot rank proposals).map Proposal.bare := by
  rw [Proposal.underSlot, List.filter_map]
  rfl

/-- What a process takes in hand is the next proposal of some process. -/
theorem Contents.next_in_hand {plan : Plan} {everyone : List Rank} {rank : Rank}
    {coordinator : Coordinator} {entered handed : List Proposal} {issued collected : List Bytes}
    {sent taken : Nat} {proposal : Proposal}
    (contents : plan.Contents everyone rank coordinator entered handed issued collected sent taken
      [proposal]) (distinct : everyone.Nodup) :
    ∃ other ∈ everyone, (Proposal.underSlot other handed).length < taken ∧
      proposal.bare = plan.bare other (Proposal.underSlot other handed).length := by
  obtain ⟨rest, _, _, done⟩ := contents.rounds
  have planned : proposal.bare ∈ plan.rounds everyone taken := by
    rw [← done]
    exact List.mem_append_left _ (List.mem_map_of_mem (List.mem_append_right _
      (List.mem_singleton.2 rfl)))
  obtain ⟨round, _, inRound⟩ := List.mem_flatMap.1 planned
  obtain ⟨other, listed, same⟩ := mem_round.1 inRound
  have slot : proposal.id = .ofRank other := by
    rw [← Proposal.bare_id, ← same, plan.id_bare]
  have own : (Proposal.underSlot other handed).map Proposal.bare ++ proposal.bare ::
      Proposal.underSlot other rest = (List.range taken).map (plan.bare other) := by
    rw [← plan.underSlot_rounds distinct listed, ← done, Proposal.underSlot_append,
      underSlot_map_bare, Proposal.underSlot_append, Proposal.underSlot_singleton, if_pos slot]
    simp
  have position :=
    congrArg (fun proposals => proposals[(Proposal.underSlot other handed).length]?) own
  simp only [List.getElem?_append_right, List.length_map, Nat.le_refl, Nat.sub_self,
    List.getElem?_cons_zero, List.getElem?_map] at position
  obtain ⟨number, found, planned⟩ := Option.map_eq_some_iff.1 position.symm
  obtain ⟨inside, rfl⟩ := List.getElem?_eq_some_iff.1 found
  rw [List.length_range] at inside
  rw [List.getElem_range] at planned
  exact ⟨other, listed, inside, planned.symm⟩

/-- What is in the ledger is under slots of the world. -/
theorem Contents.distinctIds_le {plan : Plan} {everyone : List Rank} {rank : Rank}
    {coordinator : Coordinator} {entered handed : List Proposal} {issued collected : List Bytes}
    {sent taken : Nat} {inHand : List Proposal}
    (contents : plan.Contents everyone rank coordinator entered handed issued collected sent taken
      inHand) : coordinator.ledger.distinctIds ≤ everyone.length := by
  obtain ⟨perm, _, once, size, _⟩ := Ledger.takeRound_spec coordinator.ledger
  have subset : coordinator.ledger.takeRound.1.map Proposal.id ⊆ everyone.map .ofRank := by
    intro id member
    obtain ⟨entry, inRound, rfl⟩ := List.mem_map.1 member
    obtain ⟨other, listed, slot⟩ :=
      contents.known entry (perm.mem_iff.1 (List.mem_append_left _ inRound))
    exact List.mem_map.2 ⟨other, listed, slot.symm⟩
  have fewer := (List.subperm_of_subset once subset).length_le
  rwa [List.length_map, List.length_map, size] at fewer

end Plan

/-- Whether a call has taken out a round. -/
def Control.hasRound {Handle : Type} : Control Handle → Bool
  | .waiting (.executing _ _ _) => true
  | .returned (.ok (.submitted _)) => true
  | _ => false

/-- Whether a process has ever taken out a round. -/
def ProcessView.HasRound {State Handle : Type} (view : ProcessView State Handle) : Prop :=
  view.completed ≠ 0 ∨ ∃ control, view.node.call = some control ∧ control.hasRound = true

/-- A round is taken out only once the ledger has an entry under as many slots as there are
processes. -/
theorem Coordinator.size_le_of_awaitRound {Handle : Type} {coordinator : Coordinator}
    {key : OrderKey}
    (taken : ((coordinator.awaitRound key).2 : Control Handle).hasRound = true) :
    coordinator.config.worldSize ≤ coordinator.ledger.distinctIds := by
  unfold awaitRound at taken
  split at taken
  · cases taken
  · next enough => exact Nat.le_of_not_lt enough

/-- A call that begins has taken out no round. -/
theorem Coordinator.hasRound_beginSubmit {Handle : Type} (coordinator : Coordinator)
    (proposal : Proposal) :
    (coordinator.beginSubmit proposal : Control Handle).hasRound = false := by
  unfold beginSubmit beginVoted beginBroadcast
  repeat' split
  all_goals rfl

/-- A progress call starts with no round taken out. -/
theorem Coordinator.hasRound_beginProgress {Handle : Type} (coordinator : Coordinator) :
    (coordinator.beginProgress : Control Handle).hasRound = false := by
  unfold beginProgress
  split <;> rfl

namespace Plan

variable {plan : Plan} {worldSize count : Nat} {cluster after : Cluster Replica ObjectHandle}
  {judge : Rank → Judge}

/-- No round is taken out of which some process has planned nothing. -/
theorem Converging.taken_le (converging : plan.Converging worldSize cluster)
    (wellFormed : cluster.network.WellFormed worldSize) {rank : Rank}
    (joined : cluster.network.bus.Joined rank) {coordinator : Coordinator}
    {entered handed inHand : List Proposal} {issued : List Bytes} {sent taken : Nat}
    (contents : plan.Contents (Rank.all worldSize) rank coordinator entered handed issued
      (cluster.network.collected rank) sent taken inHand) {other : Rank}
    (listed : other ∈ Rank.all worldSize) : taken ≤ plan.count other := by
  obtain ⟨arrived, planned⟩ := converging.arrived wellFormed joined contents
  obtain ⟨few, content⟩ := planned other listed
  have size := congrArg List.length content
  rw [List.length_map, List.length_map, List.length_range] at size
  have ahead := contents.ahead other listed
  omega

/-- A round is taken out of the ledger only if every process has a proposal in it. -/
theorem Converging.hasRound_exchange (converging : plan.Converging worldSize cluster)
    (wellFormed : cluster.network.WellFormed worldSize) {rank : Rank}
    (joined : cluster.network.bus.Joined rank) {stage : Stage ObjectHandle}
    (waits : (cluster.nodes rank).call = some (.waiting stage))
    (taken : ((cluster.exchange Replica.executor rank stage).view rank).HasRound) :
    (cluster.view rank).HasRound ∨ worldSize ≤ (Rank.all worldSize).length := by
  have view := Cluster.view_exchange cluster Replica.executor rank stage
  rcases taken with completed | ⟨control, called, round⟩
  · left
    left
    rw [view] at completed
    exact completed
  · rw [view] at called
    obtain rfl := Option.some.inj called
    obtain ⟨asked, sent, taken, inHand, account⟩ := converging.accounts rank
    obtain ⟨_, size, _, _, contents, callStage⟩ := account
    have size : (cluster.nodes rank).coordinator.config.worldSize = worldSize := size
    have call : (cluster.view rank).node.call = some (.waiting stage) := waits
    rw [call] at callStage
    have active := (converging.plain rank).1
    cases callStage with
    | broadcasting emptyQueue more =>
      simp only [Cluster.answer, Peer.submitBroadcast, active, Bool.false_eq_true, if_false,
        Coordinator.resume, Coordinator.onSuccess] at round
      have enough := Coordinator.size_le_of_awaitRound round
      have few := (contents.send ((wellFormed.world rank).1 joined) more).distinctIds_le
      exact .inr (size.ge.trans (enough.trans few))
    | gathering emptyQueue =>
      cases arrived : (cluster.network.stations rank).peer.approved with
      | nil =>
        simp only [Cluster.answer, Peer.checkout, arrived, Coordinator.resume,
          Coordinator.afterAbsorbing] at round
        have enough := Coordinator.size_le_of_awaitRound round
        exact .inr (size.ge.trans (enough.trans contents.distinctIds_le))
      | cons envelope rest =>
        simp only [Cluster.answer, Peer.checkout, arrived, Coordinator.resume] at round
        split at round <;> cases round
    | executing records proposal own => exact .inl (.inr ⟨_, call, rfl⟩)
    | awaitingQuorum emptyQueue short =>
      simp [Cluster.answer, active, Coordinator.resume, Coordinator.onSuccess,
        Control.hasRound] at round
    | listening emptyQueue =>
      simp [Cluster.answer, active, Coordinator.resume, Coordinator.onSuccess,
        Control.hasRound] at round
    | absorbing emptyQueue =>
      simp only [Cluster.answer, Coordinator.resume, Coordinator.afterAbsorbing] at round
      split at round
      · cases round
      · cases round
      · split at round <;> cases round

/-- What can be said of replicas whose processes work off programs. -/
structure Accepted (plan : Plan) (count worldSize : Nat)
    (cluster : Cluster Replica ObjectHandle) : Prop where
  converging : plan.Converging worldSize cluster
  unrefused : cluster.Unrefused
  carried : ∀ rank,
    Replica.CarriedOut count (cluster.view rank).handed (cluster.view rank).node.state
  /-- Where a round has been taken out, there is a rank for every process. -/
  full : ∀ rank, (cluster.view rank).HasRound → worldSize ≤ (Rank.all worldSize).length

/-- Before any call every replica is new and nothing has been handed over. -/
theorem Accepted.opening {plan : Plan} {clock : Clock} {seed : Seed} {jitter : Jitter}
    {config : Rank → CoordinatorConfig} (mode : ∀ rank, (config rank).mode = .broadcast)
    (size : ∀ rank, (config rank).worldSize = worldSize) :
    plan.Accepted count worldSize
      (.opening worldSize clock seed jitter config fun _ => Replica.create) where
  converging := .opening plan worldSize clock seed jitter _ mode size
  unrefused := fun entry member => absurd member List.not_mem_nil
  carried := fun _ => .create count
  full := by
    rintro rank (completed | ⟨control, called, _⟩)
    · exact absurd rfl completed
    · cases called

/-- The next proposal of a round is accepted. -/
theorem Accepted.execute (accepted : plan.Accepted count worldSize cluster)
    (runs : plan.Runs count) (wellFormed : cluster.network.WellFormed worldSize) {rank : Rank}
    (joined : cluster.network.bus.Joined rank) {cause : BatchCause}
    {records : List (Executed ObjectHandle)} {proposal : Proposal}
    (waits : (cluster.nodes rank).call = some (.waiting (.executing cause records proposal))) :
    ∃ handle replica,
      (cluster.nodes rank).state.execute proposal = (.ok handle, replica) ∧
        Replica.CarriedOut count (cluster.handed rank ++ [proposal]) replica := by
  obtain ⟨asked, sent, taken, inHand, account⟩ := accepted.converging.accounts rank
  have contents := account.contents
  have callStage := account.callStage
  have call : (cluster.view rank).node.call =
      some (.waiting (.executing cause records proposal)) := waits
  rw [call] at callStage
  cases callStage with
  | executing records proposal own =>
  obtain ⟨other, listed, before, same⟩ := contents.next_in_hand (Rank.nodup_all worldSize)
  have planned := Nat.lt_of_lt_of_le before
    (accepted.converging.taken_le wellFormed joined contents listed)
  rw [Plan.bare, runs planned] at same
  refine (accepted.carried rank).execute rfl ?_ same
  exact Nat.lt_of_le_of_lt (number_le_createdAt planned) (UInt64.toNat_lt _)

end Plan

/-- Only an execution can be refused. -/
theorem Stage.isRefusal_clusterEvents {Handle : Type} {rank : Rank} {stage : Stage Handle}
    (other : ∀ cause records proposal, stage ≠ .executing cause records proposal)
    {answer : stage.request.Answer Handle} {entry : ClusterEvent Handle}
    (member : entry ∈ stage.clusterEvents rank answer) : entry.isRefusal = false := by
  unfold Stage.clusterEvents at member
  repeat' split at member
  all_goals
    first
    | exact absurd member List.not_mem_nil
    | exact absurd rfl (other _ _ _)
    | rw [List.mem_singleton.1 member]
      rfl

namespace Plan

variable {plan : Plan} {worldSize count : Nat} {cluster after : Cluster Replica ObjectHandle}
  {judge : Rank → Judge}

/-- Whatever a process does next in a call, no executor refuses anything. -/
theorem Accepted.exchange (accepted : plan.Accepted count worldSize cluster)
    (runs : plan.Runs count) (wellFormed : cluster.network.WellFormed worldSize) {rank : Rank}
    (joined : cluster.network.bus.Joined rank) {stage : Stage ObjectHandle}
    (waits : (cluster.nodes rank).call = some (.waiting stage)) :
    plan.Accepted count worldSize (cluster.exchange Replica.executor rank stage) := by
  have outcome : (cluster.exchange Replica.executor rank stage).Unrefused ∧
      Replica.CarriedOut count
        ((cluster.exchange Replica.executor rank stage).view rank).handed
        ((cluster.exchange Replica.executor rank stage).view rank).node.state := by
    by_cases executing : ∃ cause records proposal, stage = .executing cause records proposal
    · obtain ⟨cause, records, proposal, rfl⟩ := executing
      obtain ⟨handle, replica, executed, carried⟩ := accepted.execute runs wellFormed joined waits
      rw [Cluster.view_executing]
      simp only [Replica.executor, executed]
      refine ⟨fun entry member => ?_, carried⟩
      rcases List.mem_append.1 member with before | noted
      · exact accepted.unrefused entry before
      · rw [List.mem_singleton.1 noted]
        simp [ClusterEvent.isRefusal, Cluster.answer, executed, Except.toBool]
    · have other : ∀ cause records proposal, stage ≠ .executing cause records proposal :=
        fun cause records proposal same => executing ⟨cause, records, proposal, same⟩
      have kept : (Cluster.answer Replica.executor rank stage.request
          (cluster.network, (cluster.nodes rank).state)).2.2 = (cluster.nodes rank).state := by
        cases stage with
        | executing cause records proposal => exact absurd rfl (other cause records proposal)
        | _ => rfl
      rw [Cluster.view_exchange]
      simp only [kept, Stage.handed_clusterEvents rank rank other, List.append_nil]
      refine ⟨fun entry member => ?_, accepted.carried rank⟩
      rcases List.mem_append.1 member with before | noted
      · exact accepted.unrefused entry before
      · exact Stage.isRefusal_clusterEvents other noted
  have others : ∀ other, other ≠ rank →
      (cluster.exchange Replica.executor rank stage).view other = cluster.view other :=
    fun other apart => Cluster.view_exchange_of_ne wellFormed.lawful _ apart stage
  have converging := @Converging.exchange _ _ plan worldSize cluster (fun _ => Replica.executor)
    accepted.converging wellFormed rank joined stage waits outcome.1
  exact {
    converging
    unrefused := outcome.1
    carried := by
      intro other
      by_cases here : other = rank
      · exact here ▸ outcome.2
      · rw [others other here]
        exact accepted.carried other
    full := by
      intro other round
      by_cases here : other = rank
      · subst here
        rcases accepted.converging.hasRound_exchange wellFormed joined waits round
          with before | full
        · exact accepted.full other before
        · exact full
      · rw [others other here] at round
        exact accepted.full other round }

/-- Beginning and ending a call hands nothing over, and takes out no round. -/
theorem Accepted.of_put (accepted : plan.Accepted count worldSize cluster) {rank : Rank}
    {call : Option (Control ObjectHandle)} {entries : List (ClusterEvent ObjectHandle)}
    (own : ∀ note ∈ entries, note.rank = rank ∧ note.isRefusal = false)
    (unhanded : entries.filterMap (ClusterEvent.handedBy? rank) = [])
    (converging : plan.Converging worldSize
      (cluster.put cluster.network rank { cluster.nodes rank with call } entries))
    (full : ((cluster.put cluster.network rank { cluster.nodes rank with call } entries).view
      rank).HasRound → (cluster.view rank).HasRound) :
    plan.Accepted count worldSize
      (cluster.put cluster.network rank { cluster.nodes rank with call } entries) := by
  have others : ∀ other, other ≠ rank →
      (cluster.put cluster.network rank { cluster.nodes rank with call } entries).view other =
        cluster.view other := fun other apart =>
    cluster.view_put_of_ne _ apart (fun note member => (own note member).1) rfl rfl
  exact {
    converging
    unrefused := by
      intro note member
      rcases List.mem_append.1 member with before | noted
      · exact accepted.unrefused note before
      · exact (own note noted).2
    carried := by
      intro other
      by_cases here : other = rank
      · subst here
        rw [Cluster.view_put, unhanded, List.append_nil]
        exact accepted.carried other
      · rw [others other here]
        exact accepted.carried other
    full := by
      intro other round
      by_cases here : other = rank
      · exact accepted.full rank (full (here ▸ round))
      · rw [others other here] at round
        exact accepted.full other round }

/-- Whatever happens next in a cluster that submits by a plan, the replicas go on accepting what
they are handed. -/
theorem Accepted.step (accepted : plan.Accepted count worldSize cluster)
    (runs : plan.Runs count) (wellFormed : cluster.network.WellFormed worldSize)
    (next : Cluster.Step (plan.rules (fun _ => Replica.executor) judge) cluster after) :
    plan.Accepted count worldSize after := by
  have stepped := accepted.converging.step wellFormed next
  cases next with
  | time clock passes =>
    exact ⟨stepped accepted.unrefused, accepted.unrefused, accepted.carried, accepted.full⟩
  | send next =>
    exact ⟨stepped accepted.unrefused, accepted.unrefused, accepted.carried, accepted.full⟩
  | handle quiet next =>
    exact ⟨stepped accepted.unrefused, accepted.unrefused, accepted.carried, accepted.full⟩
  | submit rank proposal free submits =>
    obtain ⟨more, rfl⟩ := submits
    refine accepted.of_put ?_ rfl (accepted.converging.submit free more) ?_
    · intro note member
      rw [List.mem_singleton.1 member]
      exact ⟨rfl, rfl⟩
    · rw [Cluster.view_put]
      rintro (completed | ⟨control, called, round⟩)
      · refine .inl ?_
        simpa [ProcessView.completed, Cluster.view, ClusterEvent.repliedTo?] using completed
      · obtain rfl := Option.some.inj called
        rw [Coordinator.hasRound_beginSubmit] at round
        cases round
  | tick rank free =>
    refine accepted.of_put (fun note member => absurd member List.not_mem_nil) rfl
      (accepted.converging.tick free) ?_
    rw [Cluster.view_put]
    rintro (completed | ⟨control, called, round⟩)
    · exact .inl (by simpa [ProcessView.completed, Cluster.view] using completed)
    · obtain rfl := Option.some.inj called
      rw [Coordinator.hasRound_beginProgress] at round
      cases round
  | close rank free leaves => exact absurd leaves id
  | exchange rank stage joined idle waits => exact accepted.exchange runs wellFormed joined waits
  | finish rank reply returned =>
    refine accepted.of_put ?_ rfl (accepted.converging.finish returned) ?_
    · intro note member
      rw [List.mem_singleton.1 member]
      exact ⟨rfl, rfl⟩
    · rw [Cluster.view_put]
      rintro (completed | ⟨control, called, round⟩)
      · by_cases submission : ofSubmission reply = true
        · refine .inr ⟨_, returned, ?_⟩
          cases reply with
          | error cause => cases submission
          | ok answer => cases answer <;> first | rfl | cases submission
        · refine .inl ?_
          simpa [ProcessView.completed, Cluster.view, ClusterEvent.repliedTo?, submission]
            using completed
      · cases called

/-- Processes that work off their programs in broadcast mode are never refused anything. -/
theorem Accepted.reaches {clock : Clock} {seed : Seed} {jitter : Jitter}
    {config : Rank → CoordinatorConfig} (mode : ∀ rank, (config rank).mode = .broadcast)
    (size : ∀ rank, (config rank).worldSize = worldSize) (runs : plan.Runs count)
    (steps : Cluster.Reaches (plan.rules (fun _ => Replica.executor) judge)
      (.opening worldSize clock seed jitter config fun _ => Replica.create) after) :
    plan.Accepted count worldSize after := by
  induction steps with
  | refl => exact .opening mode size
  | step prior next inductionHypothesis =>
    exact inductionHypothesis.step runs (.of_reaches prior.network) next

/-! ## Through the program -/

/-- The rounds of a program that everybody works off: no closing before the last one, and nothing
but closings there. -/
theorem Runs.closings (runs : plan.Runs count) {everyone : List Rank}
    (planned : ∀ rank ∈ everyone, count + 1 ≤ plan.count rank) :
    (∀ proposal ∈ plan.rounds everyone count, proposal.isClosing = false) ∧
      ∀ proposal ∈ plan.round everyone count, proposal.isClosing = true := by
  have closing {rank : Rank} (listed : rank ∈ everyone) {number : Nat}
      (inside : number < count + 1) :
      (plan.bare rank number).isClosing = decide (count ≤ number) := by
    rw [Plan.bare, runs (Nat.lt_of_lt_of_le inside (planned rank listed))]
    exact Workload.isClosing_proposalAt count rank number _
  constructor
  · intro proposal member
    obtain ⟨number, below, inRound⟩ := List.mem_flatMap.1 member
    have inside := List.mem_range.1 below
    obtain ⟨rank, listed, rfl⟩ := mem_round.1 inRound
    rw [closing listed (Nat.lt_succ_of_lt inside)]
    exact decide_eq_false (Nat.not_le.2 inside)
  · intro proposal inRound
    obtain ⟨rank, listed, rfl⟩ := mem_round.1 inRound
    rw [closing listed (Nat.lt_succ_self count)]
    exact decide_eq_true (Nat.le_refl count)

/-- A round has one proposal of every process. -/
theorem length_round (plan : Plan) (everyone : List Rank) (number : Nat) :
    (plan.round everyone number).length = everyone.length := by
  rw [(plan.round_perm everyone number).length_eq, List.length_map]

/-- So many rounds have as many proposals of every process. -/
theorem length_rounds (plan : Plan) (everyone : List Rank) (count : Nat) :
    (plan.rounds everyone count).length = count * everyone.length := by
  induction count with
  | zero => rw [Nat.zero_mul]; rfl
  | succ count inductionHypothesis =>
    rw [plan.rounds_succ, List.length_append, inductionHypothesis, length_round, Nat.succ_mul]

/-- What a process holds that is through its program: all rounds, with as many closings as there
are processes, and these last. -/
structure Through (plan : Plan) (count worldSize : Nat) (replica : Replica) : Prop where
  log : replica.log = (plan.rounds (Rank.all worldSize) (count + 1)).map LogEntry.ofProposal
  closes : replica.closes = worldSize
  full : (Rank.all worldSize).length = worldSize
  last : ∀ proposal ∈ plan.round (Rank.all worldSize) count, proposal.isClosing = true

/-- A process that has completed its whole program has carried out all rounds, in order, and counted
a closing of every process. -/
theorem Accepted.through (accepted : plan.Accepted count worldSize cluster)
    (runs : plan.Runs count) (wellFormed : cluster.network.WellFormed worldSize) {rank : Rank}
    (joined : cluster.network.bus.Joined rank)
    (completed : (cluster.view rank).completed = count + 1)
    (uncalled : (cluster.nodes rank).call = none) :
    plan.Through count worldSize (cluster.nodes rank).state := by
  obtain ⟨asked, sent, taken, inHand, account⟩ := accepted.converging.accounts rank
  obtain ⟨part, _, executed, whole⟩ := account.executed
  rw [whole uncalled, List.append_nil, completed] at executed
  have callStage := account.callStage
  have call : (cluster.view rank).node.call = none := uncalled
  rw [call] at callStage
  have planned : ∀ other ∈ Rank.all worldSize, count + 1 ≤ plan.count other := by
    intro other listed
    cases callStage with
    | resting emptyQueue =>
      rw [← completed]
      exact accepted.converging.taken_le wellFormed joined account.contents listed
  obtain ⟨working, closing⟩ := runs.closings planned
  have carried := accepted.carried rank
  have full : (Rank.all worldSize).length = worldSize := by
    have atLeast := accepted.full rank (.inl (by omega))
    have atMost : (Rank.all worldSize).length ≤ worldSize := by
      rw [Rank.length_all]
      exact Nat.mod_le _ _
    exact Nat.le_antisymm atMost atLeast
  have bares : ((cluster.view rank).handed.filter Proposal.isClosing).length =
      (((cluster.view rank).handed.map Proposal.bare).filter Proposal.isClosing).length := by
    rw [List.filter_map, List.length_map]
    rfl
  refine ⟨?_, ?_, full, closing⟩
  · rw [← executed, List.map_map]
    exact carried.log
  · rw [show (cluster.nodes rank).state.closes = _ from carried.closes, bares, executed,
      plan.rounds_succ, List.filter_append,
      List.filter_eq_nil_iff.2 fun proposal member => by
        rw [working proposal member]
        exact Bool.false_ne_true,
      List.filter_eq_self.2 closing, List.nil_append, length_round, full]

end Plan

end Concord
