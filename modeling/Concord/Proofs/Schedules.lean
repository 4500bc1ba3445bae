import Concord.Proofs.Clusters

/-!
# Schedules

A schedule names the process that moves next, move by move. `Cluster.follow` carries one out
and gives up at the first move that is not open; whatever it arrives at can be reached.
-/

namespace Concord

/-- A step, named by the process that makes it. -/
inductive Move where
  | time (clock : Clock)
  | send (rank : Rank)
  | handle (rank : Rank)
  | submit (rank : Rank) (proposal : Proposal)
  | tick (rank : Rank)
  | close (rank : Rank)
  | exchange (rank : Rank)
  | finish (rank : Rank)

namespace Cluster

variable {State Handle : Type} (rules : Rules State Handle)

instance (station : Station) : Decidable station.Idle :=
  inferInstanceAs (Decidable (_ ∧ _))

/-- Whether a process can start a call, as a test. -/
def isFree (cluster : Cluster State Handle) (rank : Rank) : Bool :=
  decide (cluster.network.bus.Joined rank) && decide (cluster.network.stations rank).Idle &&
    (cluster.nodes rank).call.isNone

/-- The test for a free process is right. -/
theorem free_of_isFree {cluster : Cluster State Handle} {rank : Rank}
    (isFree : cluster.isFree rank = true) : cluster.Free rank := by
  simp only [Cluster.isFree, Bool.and_eq_true, decide_eq_true_eq, Option.isNone_iff_eq_none]
    at isFree
  exact ⟨isFree.1.1, isFree.1.2, isFree.2⟩

variable [∀ cluster clock, Decidable (rules.passes cluster clock)]
  [∀ cluster rank proposal, Decidable (rules.submits cluster rank proposal)]
  [∀ cluster rank, Decidable (rules.leaves cluster rank)]

/-- Make a move, if it is open. -/
def perform (cluster : Cluster State Handle) : Move → Option (Cluster State Handle)
  | .time clock =>
    if rules.passes cluster clock then
      some { cluster with network := cluster.network.retime clock }
    else none
  | .send rank =>
    match (cluster.network.stations rank).outbox with
    | [] => none
    | (receiver, message) :: rest =>
      some { cluster with network := cluster.network.send rank receiver message rest }
  | .handle rank =>
    match (cluster.network.stations rank).outbox, (cluster.network.stations rank).batch with
    | [], (sender, message) :: rest =>
      some {
        cluster with
        network := cluster.network.handle (rules.judge rank) rank sender message rest }
    | _, _ => none
  | .submit rank proposal =>
    if cluster.isFree rank ∧ rules.submits cluster rank proposal then
      some (cluster.begin rank ((cluster.nodes rank).coordinator.beginSubmit proposal)
        [.begun rank proposal])
    else none
  | .tick rank =>
    if cluster.isFree rank then
      some (cluster.begin rank (cluster.nodes rank).coordinator.beginProgress [])
    else none
  | .close rank =>
    if cluster.isFree rank ∧ rules.leaves cluster rank then
      some (cluster.begin rank Coordinator.beginClose [])
    else none
  | .exchange rank =>
    match (cluster.nodes rank).call with
    | some (.waiting stage) =>
      if cluster.network.bus.Joined rank ∧ (cluster.network.stations rank).Idle then
        some (cluster.exchange (rules.executor rank) rank stage)
      else none
    | _ => none
  | .finish rank =>
    match (cluster.nodes rank).call with
    | some (.returned reply) => some (cluster.finish rank reply)
    | _ => none

/-- Make several moves in turn. -/
def follow (cluster : Cluster State Handle) : List Move → Option (Cluster State Handle)
  | [] => some cluster
  | move :: rest =>
    match perform rules cluster move with
    | none => none
    | some next => follow next rest

variable {rules}

/-- Every open move is a step. -/
theorem step_of_perform {cluster after : Cluster State Handle} {move : Move}
    (performed : perform rules cluster move = some after) : Step rules cluster after := by
  cases move with
  | time clock =>
    simp only [perform, Option.ite_none_right_eq_some, Option.some.injEq] at performed
    obtain ⟨passes, rfl⟩ := performed
    exact .time clock passes
  | send rank =>
    simp only [perform] at performed
    split at performed
    · simp at performed
    · next next =>
      cases performed
      exact .send next
  | handle rank =>
    simp only [perform] at performed
    split at performed
    · next quiet next =>
      cases performed
      exact .handle quiet next
    · simp at performed
  | submit rank proposal =>
    simp only [perform, Option.ite_none_right_eq_some, Option.some.injEq] at performed
    obtain ⟨⟨free, submits⟩, rfl⟩ := performed
    exact .submit rank proposal (free_of_isFree free) submits
  | tick rank =>
    simp only [perform, Option.ite_none_right_eq_some, Option.some.injEq] at performed
    obtain ⟨free, rfl⟩ := performed
    exact .tick rank (free_of_isFree free)
  | close rank =>
    simp only [perform, Option.ite_none_right_eq_some, Option.some.injEq] at performed
    obtain ⟨⟨free, leaves⟩, rfl⟩ := performed
    exact .close rank (free_of_isFree free) leaves
  | exchange rank =>
    simp only [perform] at performed
    split at performed
    · next stage waits =>
      simp only [Option.ite_none_right_eq_some, Option.some.injEq] at performed
      obtain ⟨⟨joined, idle⟩, rfl⟩ := performed
      exact .exchange rank stage joined idle waits
    · simp at performed
  | finish rank =>
    simp only [perform] at performed
    split at performed
    · next reply returned =>
      cases performed
      exact .finish rank reply returned
    · simp at performed

/-- Whatever a schedule arrives at can be reached. -/
theorem reaches_follow {start cluster after : Cluster State Handle} {moves : List Move}
    (prior : Reaches rules start cluster) (followed : follow rules cluster moves = some after) :
    Reaches rules start after := by
  induction moves generalizing cluster with
  | nil =>
    cases followed
    exact prior
  | cons move rest inductionHypothesis =>
    simp only [follow] at followed
    split at followed
    · simp at followed
    · next performed => exact inductionHypothesis (prior.step (step_of_perform performed)) followed

end Cluster

end Concord
