import Concord.Proofs.Refinement

/-!
# Outcomes in broadcast mode

In broadcast mode the outcome of a simulation does not depend on how its participants are
interleaved, on the delays, or on the times of the proposals, as long as no participant makes two
of them at one time or an earlier one later. `ParticipantSystem.Outcome` is what holds at every
point of every run. The times at which the proposals have been made so far are a plan, under which
the participants do what a cluster does whose processes work off their programs.
-/

namespace Concord

/-! ## The plan that has been carried out -/

/-- There are no more ascending times than times. -/
theorem Timestamp.length_le_of_ascending {stamps : List Timestamp}
    (ascending : stamps.Pairwise (· < ·)) : stamps.length ≤ 2 ^ 64 := by
  have distinct : (stamps.map Timestamp.toNat).Nodup :=
    List.pairwise_map.2 (ascending.imp fun before => Nat.ne_of_lt before)
  have small : stamps.map Timestamp.toNat ⊆ List.range (2 ^ 64) := by
    intro micros member
    obtain ⟨stamp, _, rfl⟩ := List.mem_map.1 member
    exact List.mem_range.2 (UInt64.toNat_lt _)
  have fewer := (distinct.subperm small).length_le
  rw [List.length_map, List.length_range] at fewer
  exact fewer

namespace Workload

/-- The proposal that a process makes with a number, if it makes its proposals at these times. One
that it does not come to make is a closing. -/
def proposalUnder (count : Nat) (rank : Rank) (stamps : List Timestamp) (number : Nat) : Proposal :=
  match stamps[number]? with
  | some stamp => proposalAt count rank number stamp
  | none => proposalAt 0 rank 0 .zero

/-- Up to the last known time the proposals of a process are stamped with these times. -/
theorem proposalUnder_of_lt {count : Nat} {rank : Rank} {stamps : List Timestamp} {number : Nat}
    (inside : number < stamps.length) :
    proposalUnder count rank stamps number = proposalAt count rank number stamps[number] := by
  rw [proposalUnder, List.getElem?_eq_getElem inside]

end Workload

/-- The plan by which all processes make their proposals at these times. -/
def Plan.ofStamps (count : Nat) (stamps : Rank → List Timestamp)
    (ascending : ∀ rank, (stamps rank).Pairwise (· < ·)) : Plan where
  count rank := (stamps rank).length
  proposal rank number := Workload.proposalUnder count rank (stamps rank) number
  slotted := by
    intro rank number
    unfold Workload.proposalUnder
    split <;> rfl
  fresh := by
    intro rank number
    unfold Workload.proposalUnder
    split <;> rfl
  fits := by
    intro rank number
    by_cases inside : number < (stamps rank).length
    · rw [Workload.proposalUnder_of_lt inside]
      exact Workload.length_encode_programAt count rank
        (Nat.lt_of_lt_of_le inside (Timestamp.length_le_of_ascending (ascending rank)))
    · rw [Workload.proposalUnder, List.getElem?_eq_none (Nat.le_of_not_lt inside)]
      exact Workload.length_encode_programAt 0 rank (by decide)
  ascending := by
    intro rank earlier later order inside
    rw [Workload.proposalUnder_of_lt inside,
      Workload.proposalUnder_of_lt (Nat.lt_trans order inside)]
    exact List.pairwise_iff_getElem.1 (ascending rank) _ _ _ inside order

namespace Plan

variable {count : Nat} {stamps : Rank → List Timestamp}
  {ascending : ∀ rank, (stamps rank).Pairwise (· < ·)}

/-- The plan that is made of times submits the workload. -/
theorem runs_ofStamps : (ofStamps count stamps ascending).Runs count := by
  intro rank number inside
  show Workload.proposalUnder count rank (stamps rank) number = _
  exact (Workload.proposalUnder_of_lt inside).trans (by
    show _ = Workload.proposalAt count rank number
      (Workload.proposalUnder count rank (stamps rank) number).createdAt
    rw [Workload.proposalUnder_of_lt inside]
    rfl)

/-- Its proposals are made at these times. -/
theorem stamped_ofStamps : (ofStamps count stamps ascending).Stamped stamps := by
  intro rank
  have same : stamps rank = (List.range (stamps rank).length).map fun number =>
      (Workload.proposalUnder count rank (stamps rank) number).createdAt := by
    apply List.ext_getElem
    · rw [List.length_map, List.length_range]
    · intro number inside _
      rw [List.getElem_map, List.getElem_range, Workload.proposalUnder_of_lt inside]
      rfl
  exact same ▸ List.prefix_refl _

end Plan

/-! ## What holds at every point of a run -/

/-- What a process reports that is through its program and has seen every other one close. -/
structure RankReport.Complete (report : RankReport) (config : SimulationConfig) (rank : Rank) :
    Prop where
  rank : report.rank = rank
  committed : report.committed = config.opsPerRank
  denied : report.denied = 0
  closeRetries : report.closeRetries = 0
  /-- Every operation of every process has been executed, and the closings. -/
  executed : report.executed.length = config.ranks * (config.opsPerRank + 1)
  /-- The closings are the last that has been executed, one for each process. -/
  closings :
    ((report.executed.drop (config.ranks * config.opsPerRank)).map fun entry =>
      (entry.id, entry.tag)).Perm
    ((Rank.all config.ranks).map fun other => (.ofRank other, Operation.close.tag))

/-- What can be said of the participants at any time. -/
structure ParticipantSystem.Outcome (system : ParticipantSystem)
    (config : SimulationConfig) : Prop where
  unfailed : ∀ rank cause, (system.participants rank).phase ≠ .failed cause
  /-- No call returns an error. -/
  answered : ∀ rank cause, (system.participants rank).call ≠ some (.returned (.error cause))
  /-- A process whose closing is committed has seen every other one close, and does not have to
  look for closings. -/
  ready : ∀ rank ∈ Rank.all config.ranks, (system.participants rank).phase = .waiting →
    (system.participants rank).call = none ∧
      (system.participants rank).replica.closes = config.ranks
  complete : ∀ rank ∈ Rank.all config.ranks, (system.participants rank).phase = .finished →
    (system.participants rank).report.Complete config rank
  alike : ∀ first ∈ Rank.all config.ranks, ∀ second ∈ Rank.all config.ranks,
    (system.participants first).phase = .finished →
    (system.participants second).phase = .finished →
    (system.participants first).report.executed = (system.participants second).report.executed

/-- The last round that has been carried out is one of closings. -/
theorem Plan.Through.closings {plan : Plan} {count worldSize : Nat} {replica : Replica}
    (through : plan.Through count worldSize replica) :
    ((replica.log.drop (worldSize * count)).map fun entry => (entry.id, entry.tag)).Perm
      ((Rank.all worldSize).map fun rank => (.ofRank rank, Operation.close.tag)) := by
  have before : ((plan.rounds (Rank.all worldSize) count).map LogEntry.ofProposal).length =
      worldSize * count := by
    rw [List.length_map, plan.length_rounds, through.full, Nat.mul_comm]
  rw [through.log, plan.rounds_succ, List.map_append, ← before, List.drop_left, List.map_map]
  have slots : ∀ proposal ∈ plan.round (Rank.all worldSize) count,
      (LogEntry.ofProposal proposal).tag = Operation.close.tag :=
    fun proposal member => of_decide_eq_true (through.last proposal member)
  have paired : (plan.round (Rank.all worldSize) count).map
        ((fun entry : LogEntry => (entry.id, entry.tag)) ∘ LogEntry.ofProposal) =
      (plan.round (Rank.all worldSize) count).map fun proposal =>
        (proposal.id, Operation.close.tag) :=
    List.map_congr_left fun proposal member => Prod.ext rfl (slots proposal member)
  rw [paired]
  refine ((plan.round_perm (Rank.all worldSize) count).map _).trans ?_
  rw [List.map_map]
  refine List.Perm.of_eq (List.map_congr_left fun rank _ => ?_)
  exact Prod.ext (plan.id_bare rank count) rfl

namespace ParticipantSystem

variable {config : SimulationConfig} {system : ParticipantSystem} {stamps : Rank → List Timestamp}
  {cluster : Cluster Replica ObjectHandle} {plan : Plan} {clock : Clock}

/-- No call returns an error. -/
theorem CorrespondsTo.answered (corresponds : system.CorrespondsTo config stamps cluster)
    (converging : plan.Converging config.ranks cluster) (rank : Rank) (cause : CoordinatorError) :
    (system.participants rank).call ≠ some (.returned (.error cause)) := by
  intro returned
  have point := (corresponds.agrees rank).point
  cases known : (cluster.nodes rank).call with
  | none =>
    obtain ⟨_, _, _, ⟨waits, _⟩ | ⟨closes, _⟩⟩ := point.last_call known returned
    · cases waits
    · cases closes
  | some control =>
    obtain ⟨called, _⟩ := point.known_call known
    cases called.symm.trans returned
    cases converging.fulfilled known

/-- A process that is through its program reports so. -/
theorem CorrespondsTo.complete (corresponds : system.CorrespondsTo config stamps cluster)
    {rank : Rank} (finished : (system.participants rank).phase = .finished)
    (through : plan.Through config.opsPerRank config.ranks (system.participants rank).replica) :
    (system.participants rank).report.Complete config rank where
  rank := (corresponds.agrees rank).named
  committed := ((corresponds.agrees rank).point.of_finished finished).2.2
  denied := (corresponds.agrees rank).denied
  closeRetries := (corresponds.agrees rank).closeRetries
  executed := by
    show (system.participants rank).replica.log.length = _
    rw [through.log, List.length_map, plan.length_rounds, through.full, Nat.mul_comm]
  closings := through.closings

/-- Whatever becomes of participants in broadcast mode, no call of theirs has gone wrong. -/
theorem Reaches.outcome (reached : Reaches config (opening config clock) system)
    (mode : config.mode = .broadcast) : system.Outcome config := by
  obtain ⟨stamps, refines, dated⟩ := reached.refines mode
  -- What has been proposed so far is all that is planned, so the cluster goes through the run to
  -- its end.
  let plan := Plan.ofStamps config.opsPerRank stamps dated.ascending
  have runs : plan.Runs config.opsPerRank := Plan.runs_ofStamps
  obtain ⟨cluster, steps, corresponds⟩ := refines plan runs Plan.stamped_ofStamps
  have wellFormed : cluster.network.WellFormed config.ranks := .of_reaches steps.network
  have accepted : plan.Accepted config.opsPerRank config.ranks cluster :=
    .reaches (fun _ => mode) (fun _ => rfl) runs steps
  have through {rank : Rank} (listed : rank ∈ Rank.all config.ranks) :
      (cluster.view rank).completed = config.opsPerRank + 1 →
      (cluster.nodes rank).call = none → _ :=
    corresponds.through accepted runs wellFormed ((wellFormed.world rank).2 listed)
  have finished {rank : Rank} (listed : rank ∈ Rank.all config.ranks)
      (ended : (system.participants rank).phase = .finished) :=
    let finishedPoint := (corresponds.agrees rank).point.of_finished ended
    through listed finishedPoint.1 finishedPoint.2.1
  exact {
    unfailed := fun rank => (corresponds.agrees rank).point.unfailed
    answered := corresponds.answered accepted.converging
    ready := by
      intro rank listed phase
      obtain ⟨closed, unknown, uncalled⟩ := (corresponds.agrees rank).point.of_waiting phase
      exact ⟨uncalled, (through listed closed unknown).closes⟩
    complete := fun rank listed ended => corresponds.complete ended (finished listed ended)
    alike := fun first firstListed second secondListed firstEnded secondEnded =>
      (finished firstListed firstEnded).log.trans (finished secondListed secondEnded).log.symm }

/-- In broadcast mode a simulation goes the same way under every schedule: whatever the delays and
in whatever order the processes act, all of them can be set up, none of them fails, none waits for
the others to close, and all that finish have executed the same. -/
theorem broadcast_outcome {config : SimulationConfig} {clock : Clock} {system : ParticipantSystem}
    (mode : config.mode = .broadcast) (reached : Reaches config (opening config clock) system) :
    (config.validate = .ok () → ∀ rank ∈ Rank.all config.ranks,
      Simulation.participant config rank = .ok ((opening config clock).participants rank)) ∧
    system.Outcome config :=
  ⟨fun valid _ listed => participant_eq_opening valid clock listed, reached.outcome mode⟩

/-- Two processes with one operation each. -/
def pairConfig : SimulationConfig :=
  { SimulationConfig.ofRanks 2 with mode := .broadcast, opsPerRank := 1 }

/-- Both processes move in turn, so many times. -/
def bothMove (move : Rank → Move) (times : Nat) : List Move :=
  (List.replicate times [move ⟨0⟩, move ⟨1⟩]).flatten

/-- Both processes make a proposal, tell each other, and go on with so many acts. -/
def pairRound (acts : Nat) : List Move :=
  bothMove .act 2 ++ bothMove .send 1 ++ bothMove .act 1 ++ bothMove .handle 1 ++ bothMove .act acts

/-- Two participants with one operation each finish with complete reports and the same log. -/
theorem broadcast_outcome_pair : ∃ system : ParticipantSystem,
    pairConfig.mode = .broadcast ∧
      Reaches pairConfig (opening pairConfig (.startingAt .zero)) system ∧
      (∀ rank ∈ Rank.all 2, (system.participants rank).report.Complete pairConfig rank) ∧
      (system.participants ⟨0⟩).report.executed = (system.participants ⟨1⟩).report.executed := by
  have run : ((opening pairConfig (.startingAt .zero)).follow pairConfig
      (pairRound 6 ++ [.time (.startingAt ⟨1⟩)] ++ pairRound 8)).map (fun system =>
        (Rank.all 2).all fun rank =>
          decide ((system.participants rank).phase = .finished)) = some true := by
    cbv
  obtain ⟨system, followed, ended⟩ := Option.map_eq_some_iff.1 run
  have finished : ∀ rank ∈ Rank.all 2, (system.participants rank).phase = .finished :=
    fun rank listed => of_decide_eq_true (List.all_eq_true.1 ended rank listed)
  have reached := reaches_follow .refl followed
  obtain ⟨_, outcome⟩ := broadcast_outcome rfl reached
  refine ⟨system, rfl, reached, fun rank listed => outcome.complete rank listed
    (finished rank listed), ?_⟩
  exact outcome.alike ⟨0⟩ (by decide) ⟨1⟩ (by decide) (finished _ (by decide))
    (finished _ (by decide))

end ParticipantSystem

end Concord
