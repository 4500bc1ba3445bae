import Concord.Proofs.Replicas
import Concord.Simulation.Report

/-!
# What a report shows

A report has converged if all logs in it are equal. A log entry has the slot, the time and the kind
of an operation, and not what the operation changes, so equal logs show equal replicas as far as
these three tell operations apart: `Replica.agrees_of_log_eq`. They do unless one process submits
two operations of one kind at one time. Then the order between the two is not in the log, and a
report can have converged while replicas differ.
-/

namespace Concord

/-! ## The check of a report -/

namespace SimulationReport

/-- Where any two are alike, so are all neighbours. -/
theorem chained_of_alike {Value : Type} {test : Value → Value → Bool} {values : List Value}
    (alike : ∀ first ∈ values, ∀ second ∈ values, test first second = true) :
    chained test values = true := by
  induction values with
  | nil => rfl
  | cons first rest inductionHypothesis =>
    cases rest with
    | nil => rfl
    | cons second others =>
      have here := alike first List.mem_cons_self second (List.mem_cons_of_mem _ List.mem_cons_self)
      have later := inductionHypothesis fun left isLeft right isRight =>
        alike left (List.mem_cons_of_mem _ isLeft) right (List.mem_cons_of_mem _ isRight)
      rw [chained, here, later]
      rfl

/-- What passes from every value to its neighbour passes from the first to all. -/
theorem eq_head_of_chained {Value Part : Type} [DecidableEq Part] {part : Value → Part}
    {first : Value} {rest : List Value}
    (chain : chained (fun left right => decide (part left = part right)) (first :: rest) = true) :
    ∀ value ∈ rest, part value = part first := by
  induction rest generalizing first with
  | nil => exact fun _ member => absurd member List.not_mem_nil
  | cons second others inductionHypothesis =>
    rw [chained, Bool.and_eq_true, decide_eq_true_iff] at chain
    obtain ⟨here, later⟩ := chain
    intro value member
    rcases List.mem_cons.1 member with rfl | other
    · exact here.symm
    · exact (inductionHypothesis later value other).trans here.symm

/-- A report has converged exactly if any two processes executed the same. -/
theorem converged_iff {report : SimulationReport} :
    report.converged = true ↔
      ∀ first ∈ report.ranks, ∀ second ∈ report.ranks, first.executed = second.executed := by
  constructor
  · intro converged first isFirst second isSecond
    unfold SimulationReport.converged at converged
    cases ranks : report.ranks with
    | nil =>
      rw [ranks] at isFirst
      exact absurd isFirst List.not_mem_nil
    | cons reference rest =>
      rw [ranks] at converged isFirst isSecond
      have same : ∀ rank ∈ reference :: rest, rank.executed = reference.executed := by
        intro rank member
        rcases List.mem_cons.1 member with rfl | other
        · rfl
        · exact eq_head_of_chained converged rank other
      rw [same first isFirst, same second isSecond]
  · intro alike
    exact chained_of_alike fun first isFirst second isSecond =>
      decide_eq_true (alike first isFirst second isSecond)

/-- A report on the logs of some runs has converged exactly if these logs are all equal. -/
theorem converged_iff_of_logs {Run : Type} {log : Run → List LogEntry} {runs : List Run}
    {report : SimulationReport} (reported : report.ranks.map RankReport.executed = runs.map log) :
    report.converged = true ↔ ∀ first ∈ runs, ∀ second ∈ runs, log first = log second := by
  have logs : (∀ first ∈ report.ranks.map RankReport.executed,
      ∀ second ∈ report.ranks.map RankReport.executed, first = second) ↔
      ∀ first ∈ runs.map log, ∀ second ∈ runs.map log, first = second := by
    rw [reported]
  simp only [List.forall_mem_map] at logs
  exact converged_iff.trans logs

end SimulationReport

/-! ## What a log tells -/

/-- An operation as the first process submits it at a time. -/
def Operation.submittedAt (micros : UInt64) (operation : Operation) : Proposal :=
  .create (.ofRank ⟨0⟩) operation.tag (Payload.encode operation) ⟨micros⟩

/-- The operation that a proposal encodes. -/
def Proposal.operation? (proposal : Proposal) : Option Operation :=
  (Payload.decode proposal.tag proposal.payload).toOption

/-- Whether log entries tell proposals apart: those with one entry do not encode two operations. -/
def Proposal.ToldApart (proposals : List Proposal) : Prop :=
  ∀ first ∈ proposals, ∀ second ∈ proposals,
    LogEntry.ofProposal first = LogEntry.ofProposal second →
      ∀ operation ∈ first.operation?, ∀ other ∈ second.operation?, operation = other

/-- Equal images have equal parts, if the image of an element tells its part. -/
theorem filterMap_eq_of_map_eq {Element Image Part : Type} {image : Element → Image}
    {part : Element → Option Part} {left right : List Element}
    (same : left.map image = right.map image)
    (told : ∀ first ∈ left, ∀ second ∈ right, image first = image second →
      part first = part second) : left.filterMap part = right.filterMap part := by
  induction left generalizing right with
  | nil =>
    rw [List.map_eq_nil_iff.1 same.symm]
  | cons first rest inductionHypothesis =>
    obtain ⟨second, others, rfl, here, later⟩ := List.map_eq_cons_iff.1 same.symm
    have parts := told first List.mem_cons_self second List.mem_cons_self here.symm
    have remaining := inductionHypothesis later.symm fun value isLeft other isRight =>
      told value (List.mem_cons_of_mem _ isLeft) other (List.mem_cons_of_mem _ isRight)
    rw [List.filterMap_cons, List.filterMap_cons, parts, remaining]

namespace Replica

/-- Those of some proposals that take effect on a new replica. -/
def effective (proposals : List Proposal) : List Proposal :=
  ((create.turns proposals).filter Turn.succeeded).map Turn.proposal

/-- There is one turn for each proposal, in the same order. -/
theorem proposal_turns (replica : Replica) (proposals : List Proposal) :
    (replica.turns proposals).map Turn.proposal = proposals := by
  induction proposals generalizing replica with
  | nil => rfl
  | cons proposal rest inductionHypothesis =>
    rw [turns, List.map_cons, inductionHypothesis]
    rfl

/-- The effective proposals are among those that were executed. -/
theorem effective_subset (proposals : List Proposal) : effective proposals ⊆ proposals := by
  have taken := (List.filter_sublist (p := Turn.succeeded) (l := create.turns proposals)).map
    Turn.proposal
  rw [proposal_turns] at taken
  exact taken.subset

/-- Only what encodes an operation takes effect. -/
theorem operation?_of_effective {proposals : List Proposal} {proposal : Proposal}
    (member : proposal ∈ effective proposals) :
    ∃ operation, proposal.operation? = some operation := by
  obtain ⟨turn, listed, rfl⟩ := List.mem_map.1 member
  obtain ⟨took, succeeded⟩ := List.mem_filter.1 listed
  have decoded := ((recounts_afterAll proposals).fair turn took).decoded
  rw [Turn.operation?, if_pos succeeded, succeeded] at decoded
  exact Option.isSome_iff_exists.1 decoded

/-- The log lists the effective proposals, in the order of their execution. -/
theorem log_afterAll (proposals : List Proposal) :
    (create.afterAll proposals).log = (effective proposals).map LogEntry.ofProposal := by
  rw [(recounts_afterAll proposals).log, effective, List.map_map]
  rfl

/-- What a new replica holds is what the effective operations make, each of what those before it
have made. -/
theorem space_afterAll (proposals : List Proposal) :
    ((effective proposals).filterMap Proposal.operation?).foldlM Namespace.apply .empty =
      .ok (create.afterAll proposals).space := by
  rw [← (recounts_afterAll proposals).space, effective, List.filterMap_map, List.filterMap_filter]
  rfl

/-- New replicas that were given proposals which log entries tell apart hold the same if their logs
are equal, whichever of the proposals they were given and in whatever order. -/
theorem agrees_of_log_eq {submitted left right : List Proposal}
    (told : Proposal.ToldApart submitted) (isLeft : left ⊆ submitted) (isRight : right ⊆ submitted)
    (same : (create.afterAll left).log = (create.afterAll right).log) :
    (create.afterAll left).Agrees (create.afterAll right) := by
  have operations : (effective left).filterMap Proposal.operation? =
      (effective right).filterMap Proposal.operation? := by
    rw [log_afterAll, log_afterAll] at same
    refine filterMap_eq_of_map_eq same fun first inLeft second inRight entries => ?_
    obtain ⟨operation, encodes⟩ := operation?_of_effective inLeft
    obtain ⟨other, encodesToo⟩ := operation?_of_effective inRight
    have equal := told first (isLeft (effective_subset left inLeft))
      second (isRight (effective_subset right inRight)) entries operation encodes other encodesToo
    rw [encodes, encodesToo, equal]
  have spaces := space_afterAll left
  rw [operations, space_afterAll right] at spaces
  constructor
  · exact (Except.ok.inj spaces).symm
  · exact same
  · rw [(recounts_afterAll left).closes, (recounts_afterAll right).closes, same]

/-- A report on new replicas that were given proposals which log entries tell apart, each of them
any of the proposals in any order, has converged exactly if all replicas hold the same: the same
objects with the same extents, values and counts, the same log and the same number of closings. -/
theorem converged_iff_replicas_agree {submitted : List Proposal}
    (told : Proposal.ToldApart submitted) {orders : List (List Proposal)}
    (within : ∀ order ∈ orders, order ⊆ submitted) {report : SimulationReport}
    (reported : report.ranks.map RankReport.executed =
      orders.map fun order => (create.afterAll order).log) :
    report.converged = true ↔
      ∀ first ∈ orders, ∀ second ∈ orders,
        (create.afterAll first).Agrees (create.afterAll second) := by
  rw [SimulationReport.converged_iff_of_logs reported]
  constructor
  · intro logs first isFirst second isSecond
    exact agrees_of_log_eq told (within first isFirst) (within second isSecond)
      (logs first isFirst second isSecond)
  · intro agree first isFirst second isSecond
    exact (agree first isFirst second isSecond).log

/-- A report on new replicas that were given these proposals. -/
def reportOn (orders : List (List Proposal)) : SimulationReport :=
  ⟨.ofRanks orders.length, orders.mapIdx fun index order =>
    ⟨⟨UInt32.ofNat index⟩, (create.afterAll order).log, 0, 0, 0⟩⟩

/-- A group and its attribute, which the first process submits at one time. -/
def attributed : List Proposal :=
  [Operation.createGroup "/g", .createAttribute "/g" "a"].map (Operation.submittedAt 10000)

/-- A value for the attribute. -/
def written (value : UInt8) : Proposal :=
  (Operation.writeAttribute "/g" "a" [value]).submittedAt 10001

/-- An extension of what is no dataset. -/
def extendGroup : Proposal :=
  (Operation.extendDataset "/g" [2]).submittedAt 10001

/-- The value and the extension are submitted at one time too, and tried in either order. -/
def bothOrders : List (List Proposal) :=
  [attributed ++ [written 1, extendGroup], attributed ++ [extendGroup, written 1]]

/-- Two orders that differ in where an operation stands that has no effect. -/
theorem converged_iff_replicas_agree_extendGroup :
    Proposal.ToldApart (attributed ++ [written 1, extendGroup]) ∧
    (∀ order ∈ bothOrders, order ⊆ attributed ++ [written 1, extendGroup]) ∧
    (reportOn bothOrders).converged = true ∧
    ∀ first ∈ bothOrders, ∀ second ∈ bothOrders,
      (create.afterAll first).Agrees (create.afterAll second) := by
  have told : Proposal.ToldApart (attributed ++ [written 1, extendGroup]) := by
    unfold Proposal.ToldApart
    decide +kernel
  have within : ∀ order ∈ bothOrders, order ⊆ attributed ++ [written 1, extendGroup] := by
    decide +kernel
  have converged : (reportOn bothOrders).converged = true := by decide +kernel
  exact ⟨told, within, converged, (converged_iff_replicas_agree told within rfl).1 converged⟩

/-- Three values for the attribute, all submitted at one time. -/
def lastValueLast : List Proposal :=
  attributed ++ [written 1, written 2, written 3]

/-- The same with the first value written last. -/
def firstValueLast : List Proposal :=
  attributed ++ [written 2, written 3, written 1]

/-- Both orders are in order, and the logs are equal; the attribute has different values. -/
theorem converged_on_different_values :
    (lastValueLast.Pairwise fun sooner later =>
      sooner.id = later.id → sooner.createdAt ≤ later.createdAt) ∧
    (∀ order ∈ [lastValueLast, firstValueLast], order.Perm lastValueLast ∧
      order.Pairwise fun sooner later => sooner.key ≤ later.key) ∧
    (reportOn [lastValueLast, firstValueLast]).converged = true ∧
    (create.afterAll lastValueLast).space ≠ (create.afterAll firstValueLast).space := by
  refine ⟨by decide +kernel, by decide +kernel, by decide +kernel, ?_⟩
  intro same
  have values := congrArg (fun space : Namespace =>
    (space.get? "/g").bind fun object => object.attributes["a"]?) same
  revert values
  decide +kernel

end Replica

end Concord
