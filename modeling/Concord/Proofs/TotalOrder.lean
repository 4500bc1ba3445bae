import Concord.Proofs.Closing
import Concord.Proofs.Promptness
import Concord.Proofs.Schedules

/-!
# The total order of voted mode

The window has to cover three hops of a message, which is what the settings of a simulation are
checked for; but a hop is not only the delay on the bus, it is also the time for which a message
that is due lies unpolled. Processes that act promptly execute everything in the global order;
one slow look at the inbox is enough to break it.
-/

namespace Concord

namespace SimulationConfig

variable {State Handle : Type}

/-- Rules under which the clock runs on at will and a process submits, whenever it is free, any
operation that fits into an envelope, but only in a proposal that it makes at that instant under
its own id: no proposal with a timestamp of its own choosing, and none of another process. -/
def freeRules (config : SimulationConfig) (executor : Rank → Executor State Handle) :
    Rules State Handle where
  executor
  judge _ := .staleness config.windowMicros
  passes cluster clock := cluster.network.bus.clock.time ≤ clock.time ∧ clock.stride = 0
  submits cluster rank proposal :=
    proposal = .create (.ofRank rank) proposal.tag proposal.payload
      cluster.network.bus.clock.time ∧ proposal.payload.length < 2 ^ 64
  leaves _ _ := True

/-- The same rules, submissions included, for processes that act promptly: the clock waits for
them. -/
def promptRules (config : SimulationConfig) (executor : Rank → Executor State Handle)
    (delay patience : Nat) : Rules State Handle :=
  { config.freeRules executor with
    passes := fun cluster clock => (config.freeRules executor).passes cluster clock ∧
      cluster.Awaits delay patience clock.time }

/-- What is submitted under these rules is what a voted run counts on: a new proposal under the
process's own id, stamped with the time of its submission. -/
theorem freeRules_voted (config : SimulationConfig) (executor : Rank → Executor State Handle) :
    (config.freeRules executor).Voted config.windowMicros where
  judged := fun _ => rfl
  forward := fun passes => passes
  stamped := by
    rintro cluster rank proposal ⟨made, fits⟩
    rw [made]
    exact ⟨rfl, rfl, rfl, fits⟩

/-- Waiting for the processes changes nothing about what is submitted. -/
theorem promptRules_voted (config : SimulationConfig) (executor : Rank → Executor State Handle)
    (delay patience : Nat) :
    (config.promptRules executor delay patience).Voted config.windowMicros :=
  { config.freeRules_voted executor with forward := fun passes => passes.1 }

end SimulationConfig

/-- What one list of proposals has in common with another, in its own order. -/
def Proposal.common (own other : List Proposal) : List Proposal :=
  (own.map Proposal.bare).filter fun proposal => decide (proposal ∈ other.map Proposal.bare)

/-- Two lists that are both in the global order have what they have in common in one order. -/
theorem Proposal.common_comm {first second : List Proposal}
    (firstSorted : first.Pairwise fun earlier later => earlier.key < later.key)
    (secondSorted : second.Pairwise fun earlier later => earlier.key < later.key) :
    Proposal.common first second = Proposal.common second first := by
  have sorted : ∀ {own other : List Proposal},
      own.Pairwise (fun earlier later => earlier.key < later.key) →
        (Proposal.common own other).Pairwise fun earlier later => earlier.key < later.key := by
    intro own other ascending
    have bares : (own.map Proposal.bare).Pairwise fun earlier later => earlier.key < later.key :=
      List.pairwise_map.2 ascending
    exact bares.sublist List.filter_sublist
  have distinct : ∀ {own : List Proposal},
      own.Pairwise (fun earlier later => earlier.key < later.key) → own.Nodup := by
    intro own ascending
    refine ascending.imp fun {earlier later} before same => ?_
    rw [same] at before
    exact OrderKey.lt_irrefl _ before
  have left : (Proposal.common first second).Pairwise fun earlier later =>
      earlier.key < later.key := sorted firstSorted
  have right : (Proposal.common second first).Pairwise fun earlier later =>
      earlier.key < later.key := sorted secondSorted
  have members : ∀ proposal, proposal ∈ Proposal.common first second ↔
      proposal ∈ Proposal.common second first := by
    intro proposal
    simp only [Proposal.common, List.mem_filter, decide_eq_true_eq]
    exact And.comm
  have perm := (List.perm_ext_iff_of_nodup (distinct left) (distinct right)).2 members
  refine List.Perm.eq_of_pairwise ?_ left right perm
  intro earlier later _ _ before after
  exact absurd (OrderKey.le_of_lt before) (fun order => OrderKey.not_lt.2 order after)

/-- At one place in the order all processes execute the same proposal. -/
theorem VotedInvariant.handed_unique {State Handle : Type} {worldSize : Nat} {window : UInt64}
    {cluster : Cluster State Handle} (invariant : VotedInvariant worldSize window cluster)
    (wellFormed : cluster.network.WellFormed worldSize) {first second : Rank}
    (firstInWorld : first ∈ Rank.all worldSize) (secondInWorld : second ∈ Rank.all worldSize)
    {left right : Proposal} (leftHanded : left ∈ cluster.handed first)
    (rightHanded : right ∈ cluster.handed second) (same : left.key = right.key) :
    left.bare = right.bare := by
  obtain ⟨origin, listed, leftSlot⟩ := invariant.handed_known first left leftHanded
  have slots : left.id = right.id := congrArg OrderKey.id same
  have approved : ∀ {rank : Rank} {proposal : Proposal}, rank ∈ Rank.all worldSize →
      proposal ∈ cluster.handed rank → proposal.id = .ofRank origin →
        proposal.bare ∈ (cluster.network.approvals origin).map Proposal.bare := by
    intro rank proposal inWorld handed slot
    refine (invariant.handed_prefix wellFormed inWorld listed).subset ?_
    exact List.mem_map_of_mem (List.mem_filter.2 ⟨handed, decide_eq_true slot⟩)
  obtain ⟨one, oneApproved, oneSame⟩ := List.mem_map.1 (approved firstInWorld leftHanded leftSlot)
  obtain ⟨other, otherApproved, otherSame⟩ :=
    List.mem_map.1 (approved secondInWorld rightHanded (slots.symm.trans leftSlot))
  have times : one.createdAt = other.createdAt := by
    rw [← Proposal.bare_createdAt one, ← Proposal.bare_createdAt other, oneSame, otherSame]
    exact congrArg OrderKey.createdAt same
  have distinct : ((cluster.network.approvals origin).map Proposal.createdAt).Nodup := by
    refine List.pairwise_map.2 ((invariant.approvals_ascending origin).imp ?_)
    intro earlier later before equal
    rw [equal] at before
    exact Nat.lt_irrefl _ before
  rw [← oneSame, ← otherSame, List.inj_on_of_nodup_map distinct oneApproved otherApproved times]

/-- Where nothing arrives late everything is executed in the global order. -/
theorem Orderly.sorted {State Handle : Type} {window : UInt64} {delay patience : Nat}
    {cluster : Cluster State Handle} (orderly : Orderly window delay patience cluster)
    (rank : Rank) :
    (cluster.handed rank).Pairwise fun earlier later => earlier.key < later.key := by
  obtain ⟨_, _, parted⟩ := orderly.parted rank
  exact (List.pairwise_append.1 (Parted.sorted parted)).1

section Prompt

variable {State Handle : Type} {config : SimulationConfig}
  {executor : Rank → Executor State Handle} {start : Timestamp} {state : Rank → State}
  {cluster : Cluster State Handle} {delay patience : Nat}

/-- Whatever prompt processes do, what they execute is in order and what is under way is young
enough to be executed in order. -/
theorem SimulationConfig.orderly (config : SimulationConfig) (mode : config.mode = .voted)
    (bound : patience + 3 * (config.jitter.maxMicros.toNat + delay) < config.windowMicros.toNat)
    (steps : Cluster.Reaches (config.promptRules executor delay patience)
      (.opening config.ranks (.startingAt start) config.seed config.jitter
        config.coordinatorConfig state) cluster) :
    Orderly config.windowMicros delay patience cluster := by
  have prompt : ∀ {cluster clock},
      (config.promptRules executor delay patience).passes cluster clock →
        cluster.Awaits delay patience clock.time := fun passes => passes.2
  have width : ∀ rank, (config.coordinatorConfig rank).windowMicros = config.windowMicros :=
    fun _ => rfl
  exact .reaches rfl (fun _ => mode) width (config.promptRules_voted executor delay patience)
    prompt bound steps

/-- In voted mode, where every process submits only proposals that it makes at that instant under
its own id, what is submitted is put to the vote within `patience`, no message lies unpolled for
longer than `delay` after it is due, and the window covers this and three hops of the longest
delay, every process hands its executor what it executes in the global order. So any two processes
execute what both of them execute in the same order, and at one place in the order the same
proposal. -/
theorem prompt_total_order (mode : config.mode = .voted)
    (bound : patience + 3 * (config.jitter.maxMicros.toNat + delay) < config.windowMicros.toNat)
    (steps : Cluster.Reaches (config.promptRules executor delay patience)
      (.opening config.ranks (.startingAt start) config.seed config.jitter
        config.coordinatorConfig state) cluster) :
    (∀ rank, (cluster.handed rank).Pairwise fun earlier later => earlier.key < later.key) ∧
      (∀ first second, Proposal.common (cluster.handed first) (cluster.handed second) =
        Proposal.common (cluster.handed second) (cluster.handed first)) ∧
      ∀ first ∈ Rank.all config.ranks, ∀ second ∈ Rank.all config.ranks,
        ∀ left ∈ cluster.handed first, ∀ right ∈ cluster.handed second,
          left.key = right.key → left.bare = right.bare := by
  have voted := config.promptRules_voted executor delay patience
  have width : ∀ rank, (config.coordinatorConfig rank).windowMicros = config.windowMicros :=
    fun _ => rfl
  have invariant := VotedInvariant.reaches rfl (fun _ => mode) width voted
    (Nat.lt_of_le_of_lt (Nat.zero_le _) bound) steps
  have sorted := (config.orderly mode bound steps).sorted
  refine ⟨sorted, fun first second => Proposal.common_comm (sorted first) (sorted second), ?_⟩
  intro first firstInWorld second secondInWorld left leftHanded right rightHanded
  exact invariant.handed_unique (.of_reaches steps.network) firstInWorld secondInWorld
    leftHanded rightHanded

/-- What the settings are checked for is that the window covers three delays. -/
theorem SimulationConfig.three_delays_lt (valid : config.validate = .ok ())
    (mode : config.mode = .voted) :
    3 * config.jitter.maxMicros.toNat < config.windowMicros.toNat := by
  have covers : ¬ config.windowMicros.toNat ≤ config.worstDelay := by
    intro short
    unfold validate at valid
    split at valid
    · exact nomatch valid
    · rw [if_pos short] at valid
      exact nomatch valid
  have small := config.windowMicros.toNat_lt_size
  simp only [worstDelay, mode, Mode.deliveryHops] at covers
  omega

/-- Settings that are found fit to run keep the order where processes lose no time: the clock
stands still as long as anybody has anything to send, to poll or to act on. -/
theorem instant_total_order (valid : config.validate = .ok ()) (mode : config.mode = .voted)
    (steps : Cluster.Reaches (config.promptRules executor 0 0)
      (.opening config.ranks (.startingAt start) config.seed config.jitter
        config.coordinatorConfig state) cluster) (rank : Rank) :
    (cluster.handed rank).Pairwise fun earlier later => earlier.key < later.key := by
  have covers := config.three_delays_lt valid mode
  exact (config.orderly mode (by omega) steps).sorted rank

end Prompt

/-! ## Runs that carry out their schedule -/

section Runs

variable {State Handle : Type} {config : SimulationConfig}
  {executor : Rank → Executor State Handle} {delay patience : Nat}

instance (cluster : Cluster State Handle) (moment : Timestamp) :
    Decidable (cluster.Awaits delay patience moment) :=
  decidable_of_iff (_ ∧ _ ∧ _)
    ⟨fun ⟨idle, polled, offered⟩ => ⟨idle, polled, offered⟩,
      fun awaits => ⟨awaits.idle, awaits.polled, awaits.offered⟩⟩

instance (cluster : Cluster State Handle) (clock : Clock) :
    Decidable ((config.freeRules executor).passes cluster clock) :=
  inferInstanceAs (Decidable (_ ∧ _))

instance (cluster : Cluster State Handle) (rank : Rank) (proposal : Proposal) :
    Decidable ((config.freeRules executor).submits cluster rank proposal) :=
  inferInstanceAs (Decidable (_ ∧ _))

instance (cluster : Cluster State Handle) (rank : Rank) :
    Decidable ((config.freeRules executor).leaves cluster rank) :=
  inferInstanceAs (Decidable True)

instance (cluster : Cluster State Handle) (clock : Clock) :
    Decidable ((config.promptRules executor delay patience).passes cluster clock) :=
  inferInstanceAs (Decidable (_ ∧ _))

instance (cluster : Cluster State Handle) (rank : Rank) (proposal : Proposal) :
    Decidable ((config.promptRules executor delay patience).submits cluster rank proposal) :=
  inferInstanceAs (Decidable (_ ∧ _))

instance (cluster : Cluster State Handle) (rank : Rank) :
    Decidable ((config.promptRules executor delay patience).leaves cluster rank) :=
  inferInstanceAs (Decidable True)

end Runs

/-- The first operation of a process's workload, submitted at an instant. -/
def Workload.firstAt (rank : Rank) (moment : Timestamp) : Proposal :=
  let operation := operationAt rank 0
  .create (.ofRank rank) operation.tag (Payload.encode operation) moment

/-- Both processes submit, the second one a little later, and act on everything in time. -/
def promptMoves : List Move :=
  [.submit ⟨0⟩ (Workload.firstAt ⟨0⟩ ⟨0⟩), .exchange ⟨0⟩, .send ⟨0⟩, .time (.startingAt ⟨1⟩),
    .submit ⟨1⟩ (Workload.firstAt ⟨1⟩ ⟨1⟩), .exchange ⟨1⟩, .send ⟨1⟩, .exchange ⟨1⟩, .handle ⟨1⟩,
    .send ⟨1⟩, .exchange ⟨1⟩, .exchange ⟨1⟩, .time (.startingAt ⟨2⟩),
    .exchange ⟨0⟩, .handle ⟨0⟩, .send ⟨0⟩, .handle ⟨0⟩, .send ⟨0⟩, .exchange ⟨0⟩, .exchange ⟨0⟩,
    .time (.startingAt ⟨3⟩),
    .exchange ⟨1⟩, .handle ⟨1⟩, .send ⟨1⟩, .handle ⟨1⟩, .exchange ⟨1⟩, .exchange ⟨1⟩, .exchange ⟨1⟩,
    .time (.startingAt ⟨4⟩),
    .exchange ⟨0⟩, .exchange ⟨0⟩, .handle ⟨0⟩, .exchange ⟨0⟩, .exchange ⟨0⟩,
    .time (.startingAt ⟨11⟩)] ++
  List.replicate 6 (.exchange ⟨0⟩) ++ List.replicate 6 (.exchange ⟨1⟩)

/-- Two processes that submit one after the other execute both proposals in one order. -/
theorem prompt_total_order_pair : ∃ cluster : Cluster Replica ObjectHandle,
    Cluster.Reaches (pairConfig.promptRules (fun _ => Replica.executor) 1 1)
        (pairConfig.opening .zero) cluster ∧
      (cluster.handed ⟨0⟩).map Proposal.key =
        [(Workload.firstAt ⟨0⟩ ⟨0⟩).key, (Workload.firstAt ⟨1⟩ ⟨1⟩).key] ∧
      (cluster.handed ⟨1⟩).length = 2 ∧
      Proposal.common (cluster.handed ⟨0⟩) (cluster.handed ⟨1⟩) =
        Proposal.common (cluster.handed ⟨1⟩) (cluster.handed ⟨0⟩) := by
  have run : (Cluster.follow (pairConfig.promptRules (fun _ => Replica.executor) 1 1)
        (pairConfig.opening .zero) promptMoves).map
      (fun cluster => ((cluster.handed ⟨0⟩).map Proposal.key, (cluster.handed ⟨1⟩).length)) =
      some ([(Workload.firstAt ⟨0⟩ ⟨0⟩).key, (Workload.firstAt ⟨1⟩ ⟨1⟩).key], 2) := by
    decide +kernel
  obtain ⟨cluster, followed, found⟩ := Option.map_eq_some_iff.1 run
  obtain ⟨keys, count⟩ := Prod.mk.inj found
  have steps := Cluster.reaches_follow .refl followed
  obtain ⟨_, common, _⟩ := prompt_total_order rfl (by decide) steps
  exact ⟨cluster, steps, keys, count, common ⟨0⟩ ⟨1⟩⟩

/-! ## A slow look at the inbox -/

/-- Three processes and a bus without delays. -/
def trioConfig : SimulationConfig :=
  { SimulationConfig.ofRanks 3 with windowMicros := 10 }

/-- The first process puts a proposal to the vote and counts one of the two votes; the second one
gets a younger proposal approved, waits until it has aged and executes it. Only then does the
first process look for the other vote, and get its proposal approved. -/
def slowMoves : List Move :=
  [.submit ⟨0⟩ (Workload.firstAt ⟨0⟩ ⟨0⟩), .exchange ⟨0⟩, .send ⟨0⟩, .send ⟨0⟩,
    .tick ⟨1⟩, .exchange ⟨1⟩, .handle ⟨1⟩, .send ⟨1⟩, .exchange ⟨1⟩, .exchange ⟨1⟩, .finish ⟨1⟩,
    .time (.startingAt ⟨1⟩),
    .submit ⟨1⟩ (Workload.firstAt ⟨1⟩ ⟨1⟩), .exchange ⟨1⟩, .send ⟨1⟩, .send ⟨1⟩,
    .exchange ⟨0⟩, .handle ⟨0⟩, .handle ⟨0⟩, .send ⟨0⟩, .exchange ⟨0⟩, .exchange ⟨0⟩,
    .tick ⟨2⟩, .exchange ⟨2⟩, .handle ⟨2⟩, .send ⟨2⟩, .handle ⟨2⟩, .send ⟨2⟩, .exchange ⟨2⟩,
    .exchange ⟨2⟩, .finish ⟨2⟩,
    .exchange ⟨1⟩, .handle ⟨1⟩, .handle ⟨1⟩, .send ⟨1⟩, .send ⟨1⟩, .exchange ⟨1⟩, .exchange ⟨1⟩,
    .time (.startingAt ⟨11⟩)] ++
  List.replicate 8 (.exchange ⟨1⟩) ++
  [.finish ⟨1⟩, .exchange ⟨0⟩, .handle ⟨0⟩, .send ⟨0⟩, .send ⟨0⟩, .handle ⟨0⟩,
    .tick ⟨1⟩, .exchange ⟨1⟩, .handle ⟨1⟩, .exchange ⟨1⟩, .exchange ⟨1⟩, .exchange ⟨1⟩,
    .exchange ⟨1⟩, .finish ⟨1⟩] ++
  List.replicate 9 (.exchange ⟨0⟩)

/-- Without a bound on how long a message lies unpolled, settings that are found fit to run do
not keep a process from executing an older proposal after a younger one, nor two processes from
executing the same two proposals in different orders. -/
theorem slow_look_reorders : trioConfig.validate = .ok () ∧ trioConfig.mode = .voted ∧
    ∃ cluster : Cluster Replica ObjectHandle,
      Cluster.Reaches (trioConfig.freeRules fun _ => Replica.executor)
          (trioConfig.opening .zero) cluster ∧
        ¬ (cluster.handed ⟨1⟩).Pairwise (fun earlier later => earlier.key < later.key) ∧
        Proposal.common (cluster.handed ⟨0⟩) (cluster.handed ⟨1⟩) ≠
          Proposal.common (cluster.handed ⟨1⟩) (cluster.handed ⟨0⟩) := by
  have run : (Cluster.follow (trioConfig.freeRules fun _ => Replica.executor)
        (trioConfig.opening .zero) slowMoves).map
      (fun cluster =>
        (decide ((cluster.handed ⟨1⟩).Pairwise fun earlier later => earlier.key < later.key),
          decide (Proposal.common (cluster.handed ⟨0⟩) (cluster.handed ⟨1⟩) =
            Proposal.common (cluster.handed ⟨1⟩) (cluster.handed ⟨0⟩)))) =
      some (false, false) := by decide +kernel
  obtain ⟨cluster, followed, found⟩ := Option.map_eq_some_iff.1 run
  obtain ⟨unsorted, apart⟩ := Prod.mk.inj found
  exact ⟨rfl, rfl, cluster, Cluster.reaches_follow .refl followed, of_decide_eq_false unsorted,
    of_decide_eq_false apart⟩

end Concord
