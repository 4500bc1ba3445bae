import Concord.Proofs.VotedExchanges

/-!
# Horizons

The time of a process's last drain is its horizon. What had aged by then has been handed over or
waits in the queue; everything else that it knows of had not. Where nothing ever arrives that
had aged by the horizon, whatever a later drain moves is younger than all that was moved before,
and so the executor is handed everything in the global order. `Parted` is the invariant.
-/

namespace Concord

/-- The proposal of a submission that has not entered the own ledger. -/
def Control.undecided {Handle : Type} : Control Handle → List Proposal
  | .waiting (.offering proposal) => [proposal]
  | .waiting (.awaitingVotes proposal) => [proposal]
  | .waiting (.readingStatus proposal) => [proposal]
  | .waiting (.absorbing (.resolution proposal _)) => [proposal]
  | _ => []

/-- The proposal of a submission that has not entered the own ledger. -/
def Node.undecided {State Handle : Type} (node : Node State Handle) : List Proposal :=
  node.call.elim [] Control.undecided

/-- Of two proposals the older one is first in the order. -/
theorem Proposal.key_lt_of_older {first second : Proposal}
    (older : first.createdAt < second.createdAt) : first.key < second.key :=
  OrderKey.lt_iff.2 (.inl older)

/-- Of two proposals that are not at one place in the order, one is first. -/
theorem Proposal.Apart.key_lt {first second : Proposal} (apart : first.Apart second)
    (order : first.key ≤ second.key) : first.key < second.key := by
  refine OrderKey.lt_of_le_of_ne order fun same => ?_
  have ids : first.id = second.id := congrArg OrderKey.id same
  exact apart ids (congrArg OrderKey.createdAt same)

/-- What a process knows of, parted by its horizon: what had aged by then, and what had not. -/
structure Parted {State Handle : Type} (window horizon : Nat) (station : Station)
    (node : Node State Handle) (handed : List Proposal) : Prop where
  aged : ∀ entry ∈ handed ++ node.inHand ++ node.coordinator.queue.entries,
    entry.createdAt.toNat + window ≤ horizon
  young : ∀ entry ∈ node.coordinator.ledger.entries ++ node.undecided,
    horizon < entry.createdAt.toNat + window
  coming : ∀ envelope ∈ station.peer.approved, ∀ {proposal},
    Envelope.decode envelope = .ok proposal → horizon < proposal.createdAt.toNat + window
  sorted : (handed ++ node.inHand).Pairwise fun first second => first.key < second.key
  ahead : ∀ first ∈ handed ++ node.inHand, ∀ second ∈ node.coordinator.queue.entries,
    first.key < second.key
  /-- A process drains its ledger when it has taken in all that had arrived. -/
  drained : ∀ cause, node.call = some (.waiting (.draining cause)) →
    station.batch = [] ∧ station.peer.approved = []

/-- Whether a stage touches neither the ledger nor the queue nor the executor. -/
def Stage.isPlain {Handle : Type} : Stage Handle → Bool
  | .absorbing _ => false
  | .draining _ => false
  | .executing _ _ _ => false
  | .broadcasting _ => false
  | _ => true

namespace Stage

variable {Handle : Type} {stage : Stage Handle}

/-- A plain stage checks nothing out. -/
theorem request_of_isPlain (plain : stage.isPlain = true) : stage.request ≠ .checkout := by
  cases stage <;> simp_all [isPlain]

/-- At a plain stage nothing is entered or handed over. -/
theorem clusterEvents_of_isPlain (plain : stage.isPlain = true) (rank : Rank)
    (answer : stage.request.Answer Handle) : stage.clusterEvents rank answer = [] := by
  cases stage <;> first | rfl | simp [isPlain] at plain

/-- At a plain stage nothing is in hand. -/
theorem inHand_of_isPlain (plain : stage.isPlain = true) : (Control.waiting stage).inHand = [] := by
  cases stage <;> first | rfl | simp [isPlain] at plain

/-- A plain stage leads the call on and changes nothing else. -/
theorem resume_of_isPlain (coordinator : Coordinator) (plain : stage.isPlain = true)
    (answer : stage.request.Answer Handle) :
    (coordinator.resume stage answer).1 = coordinator ∧
      (coordinator.resume stage answer).2.inHand = [] ∧
      (coordinator.resume stage answer).2.undecided ⊆ (Control.waiting stage).undecided ∧
      ∀ cause, (coordinator.resume stage answer).2 ≠ .waiting (.draining cause) := by
  have resumed : ∃ control, coordinator.resume stage answer = (coordinator, control) ∧
      control.inHand = [] ∧ control.undecided ⊆ (Control.waiting stage).undecided ∧
      ∀ cause, control ≠ .waiting (.draining cause) := by
    cases stage <;> simp only [isPlain, Bool.false_eq_true] at plain <;>
      simp only [Coordinator.resume, Coordinator.onSuccess] <;> split <;>
      exact ⟨_, rfl, rfl, by simp [Control.undecided], by simp⟩
  obtain ⟨control, result, rest⟩ := resumed
  rw [result]
  exact ⟨rfl, rest⟩

end Stage

namespace Parted

variable {State Handle : Type} {window horizon : Nat} {station : Station}
  {node : Node State Handle} {handed : List Proposal}

/-- Something young may reach a process, unless it has just taken in everything. -/
theorem surface (parted : Parted window horizon station node handed) {after : Station}
    (arrives : after.peer.approved = station.peer.approved ∨
      ∃ envelope, after.peer.approved = station.peer.approved ++ [envelope] ∧
        ∀ {proposal}, Envelope.decode envelope = .ok proposal →
          horizon < proposal.createdAt.toNat + window)
    (busy : station.batch ≠ []) : Parted window horizon after node handed where
  aged := parted.aged
  young := parted.young
  coming := by
    intro envelope member proposal read
    rcases arrives with same | ⟨arrived, added, young⟩
    · rw [same] at member
      exact parted.coming envelope member read
    · rw [added] at member
      rcases List.mem_append.1 member with old | new
      · exact parted.coming envelope old read
      · rw [List.mem_singleton.1 new] at read
        exact young read
  sorted := parted.sorted
  ahead := parted.ahead
  drained := fun cause draining => absurd (parted.drained cause draining).1 busy

/-- Going on with the same coordinator. -/
theorem lead (parted : Parted window horizon station node handed) {after : Station}
    (approved : after.peer.approved ⊆ station.peer.approved) {state : State}
    {call : Option (Control Handle)}
    (inHand : Node.inHand ⟨node.coordinator, state, call⟩ = node.inHand)
    (undecided : ∀ proposal ∈ Node.undecided ⟨node.coordinator, state, call⟩,
      horizon < proposal.createdAt.toNat + window)
    (drained : ∀ cause, call = some (.waiting (.draining cause)) →
      after.batch = [] ∧ after.peer.approved = []) :
    Parted window horizon after ⟨node.coordinator, state, call⟩ handed where
  aged := by
    rw [inHand]
    exact parted.aged
  young := by
    intro entry member
    rcases List.mem_append.1 member with waits | own
    · exact parted.young entry (List.mem_append_left _ waits)
    · exact undecided entry own
  coming := fun envelope member => parted.coming envelope (approved member)
  sorted := by
    rw [inHand]
    exact parted.sorted
  ahead := by
    rw [inHand]
    exact parted.ahead
  drained := drained

/-- Something young may enter the ledger. -/
theorem enter (parted : Parted window horizon station node handed) {after : Station}
    (approved : after.peer.approved ⊆ station.peer.approved) {entry : Proposal}
    (young : horizon < entry.createdAt.toNat + window) {call : Option (Control Handle)}
    (inHand : (Node.mk node.coordinator node.state call).inHand = node.inHand)
    (undecided : ∀ proposal ∈ Node.undecided ⟨node.coordinator, node.state, call⟩,
      horizon < proposal.createdAt.toNat + window)
    (goesOn : ∀ cause, call ≠ some (.waiting (.draining cause))) :
    Parted window horizon after
      ⟨{ node.coordinator with ledger := node.coordinator.ledger.add entry }, node.state, call⟩
      handed := by
  have led : Parted window horizon after ⟨node.coordinator, node.state, call⟩ handed :=
    parted.lead approved inHand undecided fun cause draining => absurd draining (goesOn cause)
  exact { led with
    young := by
      intro other member
      rcases List.mem_append.1 member with waits | own
      · rcases List.mem_append.1 waits with old | new
        · exact led.young other (List.mem_append_left _ old)
        · rw [List.mem_singleton.1 new]
          exact young
      · exact led.young other (List.mem_append_right _ own) }

/-- What has aged by a later time goes over into the queue, and this time is the new horizon. -/
theorem move (parted : Parted window horizon station node handed) {cause : DrainCause}
    (draining : node.call = some (.waiting (.draining cause))) {now : Nat}
    (forward : horizon ≤ now) {moved left : List Proposal}
    (perm : (moved ++ left).Perm node.coordinator.ledger.entries)
    (aged : ∀ entry ∈ moved, entry.createdAt.toNat + window ≤ now)
    (young : ∀ entry ∈ left, now < entry.createdAt.toNat + window) :
    Parted window now station
      { node with
        coordinator := { node.coordinator with
          ledger := ⟨left⟩
          queue := ⟨node.coordinator.queue.entries ++ moved.map Proposal.due⟩ } } handed := by
  have nothing := (parted.drained cause draining).2
  -- What is moved now had not aged by the horizon, unlike all that was moved before.
  have younger : ∀ first ∈ handed ++ node.inHand, ∀ second ∈ moved,
      first.createdAt < second.createdAt := by
    intro first done second inMoved
    have firstAged := parted.aged first (List.mem_append_left _ done)
    have inLedger := perm.mem_iff.1 (List.mem_append_left left inMoved)
    have secondYoung := parted.young second (List.mem_append_left _ inLedger)
    show first.createdAt.toNat < second.createdAt.toNat
    omega
  exact {
    aged := by
      intro entry member
      rw [← List.append_assoc] at member
      rcases List.mem_append.1 member with before | new
      · exact Nat.le_trans (parted.aged entry before) forward
      · obtain ⟨source, inMoved, rfl⟩ := List.mem_map.1 new
        exact aged source inMoved
    young := by
      intro entry member
      rcases List.mem_append.1 member with stays | own
      · exact young entry stays
      · have decided : node.undecided = [] := by
          rw [Node.undecided, draining]
          rfl
        have before : entry ∈ node.undecided := own
        rw [decided] at before
        exact absurd before List.not_mem_nil
    coming := by
      intro envelope member
      rw [nothing] at member
      exact absurd member List.not_mem_nil
    sorted := parted.sorted
    ahead := by
      intro first done second queued
      rcases List.mem_append.1 queued with before | new
      · exact parted.ahead first done second before
      · obtain ⟨source, inMoved, rfl⟩ := List.mem_map.1 new
        exact Proposal.key_lt_of_older (younger first done source inMoved)
    drained := parted.drained }

/-- The first in the queue may be taken in hand. -/
theorem pop (parted : Parted window horizon station node handed) {after : Station}
    (approved : after.peer.approved ⊆ station.peer.approved) (emptyHand : node.inHand = [])
    (distinct : node.coordinator.queue.entries.Pairwise Proposal.Apart) {proposal : Proposal}
    {left : ExecutionQueue} (perm : (proposal :: left.entries).Perm node.coordinator.queue.entries)
    (oldest : ∀ other ∈ node.coordinator.queue.entries, proposal.key ≤ other.key) (state : State)
    (cause : BatchCause) (records : List (Executed Handle)) :
    Parted window horizon after
      ⟨{ node.coordinator with queue := left }, state,
        some (.waiting (.executing cause records proposal))⟩ handed := by
  have queued : ∀ entry ∈ proposal :: left.entries, entry ∈ node.coordinator.queue.entries :=
    fun entry member => perm.mem_iff.1 member
  have others := List.pairwise_cons.1
    ((perm.pairwise_iff (R := Proposal.Apart) Proposal.Apart.symm).2 distinct)
  have aged := parted.aged
  have sorted := parted.sorted
  have ahead := parted.ahead
  rw [emptyHand, List.append_nil] at aged sorted ahead
  have first := queued proposal List.mem_cons_self
  exact {
    aged := by
      intro entry member
      refine aged entry ?_
      rcases List.mem_append.1 member with done | waits
      · rcases List.mem_append.1 done with old | inHand
        · exact List.mem_append_left _ old
        · rw [List.mem_singleton.1 inHand]
          exact List.mem_append_right _ first
      · exact List.mem_append_right _ (queued entry (List.mem_cons_of_mem _ waits))
    young := by
      intro entry member
      rcases List.mem_append.1 member with waits | own
      · exact parted.young entry (List.mem_append_left _ waits)
      · exact absurd own List.not_mem_nil
    coming := fun envelope member => parted.coming envelope (approved member)
    sorted := by
      refine List.pairwise_append.2 ⟨sorted, List.pairwise_singleton _ _, ?_⟩
      intro done before second inHand
      rw [List.mem_singleton.1 inHand]
      exact ahead done before proposal first
    ahead := by
      intro done before second waits
      rcases List.mem_append.1 before with old | inHand
      · exact ahead done old second (queued second (List.mem_cons_of_mem _ waits))
      · rw [List.mem_singleton.1 inHand]
        exact (others.1 second waits).key_lt
          (oldest second (queued second (List.mem_cons_of_mem _ waits)))
    drained := by simp }

/-- What is in hand may be handed over. -/
theorem hand {proposal : Proposal} (parted : Parted window horizon station node handed)
    (taken : node.inHand = [proposal]) (state : State)
    (reply : Except CoordinatorError (Reply Handle)) :
    Parted window horizon station ⟨node.coordinator, state, some (.returned reply)⟩
      (handed ++ [proposal]) := by
  have aged := parted.aged
  have sorted := parted.sorted
  have ahead := parted.ahead
  rw [taken] at aged sorted ahead
  exact {
    aged := by
      rw [show Node.inHand _ = [] from rfl, List.append_nil]
      exact aged
    young := by
      intro entry member
      rcases List.mem_append.1 member with waits | own
      · exact parted.young entry (List.mem_append_left _ waits)
      · exact absurd own List.not_mem_nil
    coming := parted.coming
    sorted := by
      rw [show Node.inHand _ = [] from rfl, List.append_nil]
      exact sorted
    ahead := by
      rw [show Node.inHand _ = [] from rfl, List.append_nil]
      exact ahead
    drained := by simp }

/-! ## What a coordinator does -/

/-- A call that is over holds nothing. -/
theorem returned (parted : Parted window horizon station node handed) (emptyHand : node.inHand = [])
    (state : State) (reply : Except CoordinatorError (Reply Handle)) :
    Parted window horizon station ⟨node.coordinator, state, some (.returned reply)⟩ handed :=
  parted.lead (List.Subset.refl _) emptyHand.symm (fun _ member => absurd member List.not_mem_nil)
    (by simp)

/-- After one proposal of a batch the next one is handed over, or the call goes on. -/
theorem executeNext (parted : Parted window horizon station node handed)
    (emptyHand : node.inHand = [])
    (distinct : node.coordinator.queue.entries.Pairwise Proposal.Apart) (state : State)
    (cause : BatchCause) (records : List (Executed Handle)) :
    Parted window horizon station
      (let next := node.coordinator.executeNext cause records
      ⟨next.1, state, some next.2⟩) handed := by
  unfold Coordinator.executeNext
  cases popped : node.coordinator.queue.popOldest? with
  | none =>
    simp only
    unfold Coordinator.afterBatch
    split
    · exact parted.returned emptyHand state _
    · split
      · exact parted.returned emptyHand state _
      · exact parted.lead (List.Subset.refl _) emptyHand.symm
          (fun _ member => absurd member List.not_mem_nil) (by simp)
    · split <;> exact parted.returned emptyHand state _
  | some pair =>
    obtain ⟨proposal, left⟩ := pair
    obtain ⟨perm, oldest⟩ := ExecutionQueue.popOldest?_spec popped
    exact parted.pop (List.Subset.refl _) emptyHand distinct perm oldest state cause records

/-- Whatever an executor answers, the proposal has been handed over in its place. -/
theorem record {proposal : Proposal} (parted : Parted window horizon station node handed)
    (taken : node.inHand = [proposal])
    (distinct : node.coordinator.queue.entries.Pairwise Proposal.Apart) (state : State)
    (cause : BatchCause) (records : List (Executed Handle))
    (answer : Except ExecutorError (Option Handle)) :
    Parted window horizon station
      (let next := node.coordinator.record cause records proposal answer
      ⟨next.1, state, some next.2⟩) (handed ++ [proposal]) := by
  unfold Coordinator.record
  split
  · exact parted.hand taken state _
  · exact parted.hand taken state _
  · exact (parted.hand taken state (.ok .closed)).executeNext rfl distinct state cause _

/-- What has aged goes over into the queue; a submission goes on until the ledger is empty. -/
theorem drain (parted : Parted window horizon station node handed) {cause : DrainCause}
    (draining : node.call = some (.waiting (.draining cause))) {now : Timestamp}
    (forward : horizon ≤ now.toNat) (width : node.coordinator.config.windowMicros.toNat = window)
    (wide : 0 < window) {entered : List Proposal}
    (slotOrder : SlotOrder entered handed node.inHand node.coordinator.queue.entries
      node.coordinator.ledger.entries) (state : State) :
    Parted window now.toNat station
      (let next : Coordinator × Control Handle := node.coordinator.drain cause now
      ⟨next.1, state, some next.2⟩) handed := by
  obtain ⟨moved, left, result, perm, _, aged, young, _⟩ :=
    node.coordinator.moveAged_spec now slotOrder.approved
  have emptyHand : node.inHand = [] := by
    rw [Node.inHand, draining]
    rfl
  have movedAged : ∀ entry ∈ moved, entry.createdAt.toNat + window ≤ now.toNat := by
    intro entry member
    have age := aged entry member
    unfold Proposal.ageAt Timestamp.since at age
    omega
  have leftYoung : ∀ entry ∈ left, now.toNat < entry.createdAt.toNat + window := by
    intro entry member
    have age := young entry member
    unfold Proposal.ageAt Timestamp.since at age
    omega
  have after := parted.move draining forward perm movedAged leftYoung
  have distinct : (node.coordinator.queue.entries ++ moved.map Proposal.due).Pairwise
      Proposal.Apart := by
    have older : ∀ first ∈ moved, ∀ second ∈ left, first.createdAt < second.createdAt := by
      intro first inMoved second inLeft
      have firstAged := movedAged first inMoved
      have secondYoung := leftYoung second inLeft
      show first.createdAt.toNat < second.createdAt.toNat
      omega
    have everywhere := (slotOrder.move perm older).apart
    exact (List.pairwise_append.1 (List.pairwise_append.1 everywhere).2.1).1
  simp only [Coordinator.drain, result]
  cases cause with
  | tick => exact after.executeNext emptyHand distinct state _ _
  | submission key =>
    simp only
    split
    · exact after.executeNext emptyHand distinct state _ _
    · exact after.lead (List.Subset.refl _) emptyHand.symm
        (fun _ member => absurd member List.not_mem_nil) (by simp)

end Parted

/-! ## Exchanges -/

/-- Nothing but a checkout takes anything out. -/
theorem approved_serve {bus : Bus} {station : Station} {request : Request}
    (other : request ≠ .checkout) :
    (Station.serve bus station request).2.peer.approved = station.peer.approved := by
  cases request with
  | checkout => exact absurd rfl other
  | submitVote id envelope =>
    cases accepts : station.peer.mayOffer with
    | true =>
      simp only [Station.serve, Peer.submitVote_of_mayOffer accepts]
      rfl
    | false =>
      obtain ⟨cause, refused⟩ :=
        @Peer.submitVote_of_not_mayOffer bus station.peer accepts id envelope
      simp only [Station.serve, refused]
  | progress =>
    simp only [Station.serve]
    split <;> rfl
  | _ => rfl

section Exchange

variable {State Handle : Type} {worldSize : Nat} {window : UInt64} {horizon : Nat}
  {cluster : Cluster State Handle} (executor : Executor State Handle) {rank : Rank}

/-- What lies on either side of the horizon of a process of a cluster. -/
def Cluster.PartedAt (cluster : Cluster State Handle) (window horizon : Nat) (rank : Rank) :
    Prop :=
  Parted window horizon (cluster.network.stations rank) (cluster.nodes rank)
    (cluster.handed rank)

/-- An exchange of a process is seen at its station and at its node. -/
theorem Cluster.partedAt_exchange {stage : Stage Handle} {next : Nat}
    {view : ProcessView State Handle}
    (outcome : (cluster.exchange executor rank stage).view rank = view)
    (parted : Parted window.toNat next
      (Station.serve cluster.network.bus (cluster.network.stations rank) stage.request).2 view.node
      view.handed) :
    (cluster.exchange executor rank stage).PartedAt window.toNat next rank := by
  subst outcome
  have station : (cluster.exchange executor rank stage).network.stations rank =
      (Station.serve cluster.network.bus (cluster.network.stations rank) stage.request).2 := by
    rw [Cluster.exchange_eq]
    exact Network.stations_serve_self _ _ _
  rw [Cluster.PartedAt, station]
  exact parted

/-- A plain stage keeps apart what has aged from what has not. -/
theorem Cluster.PartedAt.plain (parted : cluster.PartedAt window.toNat horizon rank)
    {stage : Stage Handle} (waits : (cluster.nodes rank).call = some (.waiting stage))
    (plain : stage.isPlain = true) :
    (cluster.exchange executor rank stage).PartedAt window.toNat horizon rank := by
  refine Cluster.partedAt_exchange executor (Cluster.view_exchange cluster executor rank stage) ?_
  obtain ⟨same, emptyHand, undecided, goesOn⟩ := Stage.resume_of_isPlain
    (cluster.nodes rank).coordinator plain (Cluster.answer executor rank stage.request
      (cluster.network, (cluster.nodes rank).state)).1
  simp only [Stage.clusterEvents_of_isPlain plain, List.filterMap_nil, List.append_nil, same]
  refine Parted.lead parted ?_ ?_ ?_ ?_
  · rw [approved_serve (Stage.request_of_isPlain plain)]
    exact List.Subset.refl _
  · have before : (cluster.nodes rank).inHand = [] := by
      rw [Node.inHand, waits]
      exact Stage.inHand_of_isPlain plain
    rw [before]
    exact emptyHand
  · intro proposal member
    refine Parted.young parted proposal (List.mem_append_right _ ?_)
    rw [Node.undecided, waits]
    exact undecided member
  · intro cause draining
    exact absurd (Option.some.inj draining) (goesOn cause)

/-- What is checked out had not aged by the horizon, and neither has what enters the ledger. -/
theorem Cluster.PartedAt.absorbing (parted : cluster.PartedAt window.toNat horizon rank)
    (lawful : cluster.network.Lawful) {next : AfterAbsorbing}
    (waits : (cluster.nodes rank).call = some (.waiting (.absorbing next)))
    {envelope : Bytes} {rest : List Bytes}
    (waiting : (cluster.network.stations rank).peer.approved = envelope :: rest)
    {proposal approved : Proposal} (read : Envelope.decode envelope = .ok proposal)
    (advances : proposal.advance .approved = .ok approved)
    (times : approved.createdAt = proposal.createdAt) :
    (cluster.exchange executor rank (.absorbing next)).PartedAt window.toNat horizon rank := by
  refine Cluster.partedAt_exchange executor
    (Cluster.view_absorbing_cons lawful executor waiting read advances next) ?_
  have call : (cluster.nodes rank) = ⟨(cluster.nodes rank).coordinator,
      (cluster.nodes rank).state, some (.waiting (.absorbing next))⟩ := by
    rw [← waits]
  refine Parted.enter parted ?_ ?_ ?_ ?_ (by simp)
  · simp only [Station.serve, Peer.checkout, waiting]
    exact List.subset_cons_self _ _
  · rw [times]
    refine Parted.coming parted envelope ?_ read
    rw [waiting]
    exact List.mem_cons_self
  · rw [← call]
  · intro other member
    rw [← call] at member
    exact Parted.young parted other (List.mem_append_right _ member)

/-- Where nothing waits for checkout a call goes on and its coordinator stays as it is. -/
theorem Cluster.PartedAt.absorbed (parted : cluster.PartedAt window.toNat horizon rank)
    {next : AfterAbsorbing}
    (waits : (cluster.nodes rank).call = some (.waiting (.absorbing next)))
    (idle : (cluster.network.stations rank).Idle)
    (nothing : (cluster.network.stations rank).peer.approved = [])
    (undecided : ∀ proposal, next ≠ .resolution proposal .approved) {control : Control Handle}
    (goesOn : (cluster.nodes rank).coordinator.afterAbsorbing next =
      ((cluster.nodes rank).coordinator, control))
    (emptyHand : control.inHand = [])
    (decides : control.undecided ⊆ (Control.waiting (.absorbing next) : Control Handle).undecided) :
    (cluster.exchange executor rank (.absorbing next)).PartedAt window.toNat horizon rank := by
  refine Cluster.partedAt_exchange executor
    (Cluster.view_absorbing_nil cluster executor nothing undecided) ?_
  have station : (Station.serve cluster.network.bus (cluster.network.stations rank)
      .checkout).2 = cluster.network.stations rank := by
    simp only [Station.serve, Peer.checkout, nothing]
  rw [station]
  simp only [goesOn]
  refine Parted.lead parted (List.Subset.refl _) ?_ ?_ fun _ _ => ⟨idle.1, nothing⟩
  · have before : (cluster.nodes rank).inHand = [] := by
      rw [Node.inHand, waits]
      rfl
    rw [before]
    exact emptyHand
  · intro proposal member
    refine Parted.young parted proposal (List.mem_append_right _ ?_)
    rw [Node.undecided, waits]
    exact decides member

/-- An own proposal that was approved had not aged by the horizon when it was made. -/
theorem Cluster.PartedAt.claim (parted : cluster.PartedAt window.toNat horizon rank)
    {proposal approved : Proposal}
    (waits : (cluster.nodes rank).call =
      some (.waiting (.absorbing (.resolution proposal .approved))))
    (nothing : (cluster.network.stations rank).peer.approved = [])
    (advances : proposal.advance .approved = .ok approved)
    (times : approved.createdAt = proposal.createdAt) :
    (cluster.exchange executor rank (.absorbing (.resolution proposal .approved))).PartedAt
      window.toNat horizon rank := by
  refine Cluster.partedAt_exchange executor
    (Cluster.view_claiming cluster executor rank nothing advances) ?_
  refine Parted.enter parted ?_ ?_ ?_ ?_ (by simp)
  · simp only [Station.serve, Peer.checkout, nothing]
    exact List.Subset.refl _
  · show horizon < approved.createdAt.toNat + window.toNat
    rw [times]
    refine Parted.young parted proposal (List.mem_append_right _ ?_)
    rw [Node.undecided, waits]
    exact List.mem_singleton.2 rfl
  · rw [Node.inHand, Node.inHand, waits]
    rfl
  · exact fun _ member => absurd member List.not_mem_nil

/-- An own proposal whose status was read goes on or enters the ledger. -/
theorem Cluster.PartedAt.resolved (parted : cluster.PartedAt window.toNat horizon rank)
    {proposal : Proposal} {seen : VoteStatus}
    (waits : (cluster.nodes rank).call =
      some (.waiting (.absorbing (.resolution proposal seen))))
    (idle : (cluster.network.stations rank).Idle)
    (nothing : (cluster.network.stations rank).peer.approved = [])
    (started : proposal.state = .inProgress) :
    (cluster.exchange executor rank (.absorbing (.resolution proposal seen))).PartedAt
      window.toNat horizon rank := by
  cases seen with
  | approved =>
    exact parted.claim executor waits nothing
      (Proposal.advance_of_inProgress started (.inl rfl)) rfl
  | inProgress =>
    exact parted.absorbed executor waits idle nothing (by simp) rfl rfl (List.Subset.refl _)
  | unknown =>
    exact parted.absorbed executor waits idle nothing (by simp) rfl rfl (List.nil_subset _)
  | denied =>
    exact parted.absorbed executor waits idle nothing (by simp)
      (Coordinator.afterAbsorbing_denied _ started) rfl (List.nil_subset _)

/-- Whatever a process does next in a call keeps what it knows of parted, at this horizon or, if
it drains its ledger, at the time that it is now. -/
theorem VotedInvariant.partedAt_exchange (invariant : VotedInvariant worldSize window cluster)
    (wellFormed : cluster.network.WellFormed worldSize) (wide : 0 < window.toNat)
    {stage : Stage Handle} (idle : (cluster.network.stations rank).Idle)
    (waits : (cluster.nodes rank).call = some (.waiting stage))
    (past : horizon ≤ cluster.network.bus.clock.time.toNat)
    (parted : cluster.PartedAt window.toNat horizon rank) :
    ∃ next, next ≤ cluster.network.bus.clock.time.toNat ∧
      (cluster.exchange executor rank stage).PartedAt window.toNat next rank := by
  obtain ⟨_, _, _, _, _, account⟩ := invariant.accounts rank
  have callStage := account.callStage
  have call : (cluster.view rank).node.call = some (.waiting stage) := waits
  rw [call] at callStage
  have distinct : (cluster.nodes rank).coordinator.queue.entries.Pairwise Proposal.Apart :=
    (List.pairwise_append.1 (List.pairwise_append.1 account.slotOrder.apart).2.1).1
  have absorbs : ∀ {next}, stage = .absorbing next →
      (cluster.network.stations rank).peer.approved ≠ [] →
      (cluster.exchange executor rank stage).PartedAt window.toNat horizon rank := by
    rintro next rfl something
    obtain ⟨envelope, rest, waiting⟩ := List.exists_cons_of_ne_nil something
    obtain ⟨_, proposal, _, _, _, read, _, started, _⟩ :=
      invariant.arriving wellFormed account waiting
    exact parted.absorbing executor wellFormed.lawful waits waiting read
      (Proposal.advance_of_inProgress started (.inl rfl)) rfl
  cases plain : stage.isPlain with
  | true => exact ⟨horizon, past, parted.plain executor waits plain⟩
  | false =>
    cases callStage with
    | @resolving proposal status seen held saw =>
      refine ⟨horizon, past, ?_⟩
      by_cases nothing : (cluster.network.stations rank).peer.approved = []
      · exact parted.resolved executor waits idle nothing held.started
      · exact absorbs rfl nothing
    | absorbingAge held =>
      refine ⟨horizon, past, ?_⟩
      by_cases nothing : (cluster.network.stations rank).peer.approved = []
      · exact parted.absorbed executor waits idle nothing (by simp) rfl rfl
          (List.nil_subset _)
      · exact absorbs rfl nothing
    | absorbingDrain drains =>
      refine ⟨horizon, past, ?_⟩
      by_cases nothing : (cluster.network.stations rank).peer.approved = []
      · exact parted.absorbed executor waits idle nothing (by simp) rfl rfl
          (List.nil_subset _)
      · exact absorbs rfl nothing
    | @draining cause _ _ drains =>
      refine ⟨_, Nat.le_refl _, Cluster.partedAt_exchange executor
        (Cluster.view_leading cluster executor rank _ (fun _ => rfl) rfl) ?_⟩
      exact Parted.drain parted waits past (congrArg UInt64.toNat account.window) wide
        account.slotOrder _
    | executing records proposal drains =>
      refine ⟨horizon, past, Cluster.partedAt_exchange executor
        (Cluster.view_executing cluster executor rank _ records proposal) ?_⟩
      refine Parted.record parted ?_ distinct _ _ records _
      rw [Node.inHand, waits]
      rfl
    | _ => simp [Stage.isPlain] at plain

end Exchange

end Concord
