import Concord.Proofs.VotedSteps

/-!
# Exchanges in voted mode

Every request of a call is answered by the station of the process, and each answer takes the call
to a stage that `VotedCallStage` allows. What is checked out enters the ledger; what is announced
is what the process has got approved.
-/

namespace Concord

namespace Cluster

variable {State Handle : Type}

/-- Where nothing is noted, issued or collected an exchange changes the node only. -/
theorem view_leading (cluster : Cluster State Handle) (executor : Executor State Handle)
    (rank : Rank) (stage : Stage Handle)
    (unnoted : ∀ answer, stage.clusterEvents rank answer = [])
    (silent : Peer.serveEvents cluster.network.bus (cluster.network.stations rank).peer
      stage.request = []) :
    (cluster.exchange executor rank stage).view rank =
      let answered := answer executor rank stage.request
        (cluster.network, (cluster.nodes rank).state)
      let resumed := (cluster.nodes rank).coordinator.resume stage answered.1
      { cluster.view rank with node := ⟨resumed.1, answered.2.2, some resumed.2⟩ } := by
  rw [view_exchange]
  simp only [unnoted, silent, List.filterMap_nil, List.append_nil]
  rfl

/-- Where nothing waits for checkout an own proposal that was approved enters the own ledger. -/
theorem view_claiming (cluster : Cluster State Handle) (executor : Executor State Handle)
    (rank : Rank) (nothing : (cluster.network.stations rank).peer.approved = [])
    {proposal approved : Proposal} (advances : proposal.advance .approved = .ok approved) :
    (cluster.exchange executor rank (.absorbing (.resolution proposal .approved))).view rank =
      let node := cluster.nodes rank
      let ledger := node.coordinator.ledger.add approved.markLocal
      { cluster.view rank with
        node := ⟨{ node.coordinator with ledger }, node.state,
          some (.waiting (.aging approved.key))⟩
        entered := cluster.entered rank ++ [approved.markLocal] } := by
  rw [view_exchange]
  simp only [answer, Peer.checkout, nothing, Coordinator.resume, Coordinator.afterAbsorbing,
    Coordinator.resolve, advances, Stage.clusterEvents, List.filterMap_cons, List.filterMap_nil,
    ClusterEvent.enteredAt?, ClusterEvent.handedBy?, Peer.serveEvents, if_true, List.append_nil]
  rfl

end Cluster

namespace VotedInvariant

variable {State Handle : Type} {worldSize : Nat} {window : UInt64}
  {cluster : Cluster State Handle} {executor : Executor State Handle} {rank : Rank}
  {past : List (Proposal × Bool)} {settled issued entered : List Proposal}
  {offered : Option Proposal}

/-- The account of the process is all that an exchange changes. -/
theorem of_exchange (invariant : VotedInvariant worldSize window cluster)
    (lawful : cluster.network.Lawful) {stage : Stage Handle}
    (account : ∃ past settled offered issued entered,
      VotedAccount (Rank.all worldSize) window rank cluster.network.bus.clock.time
        (Station.serve cluster.network.bus (cluster.network.stations rank)
          stage.request).2.peer.finalized
        (Station.serve cluster.network.bus (cluster.network.stations rank)
          stage.request).2.peer.ballot
        ((cluster.exchange executor rank stage).view rank) past settled offered issued
        entered) :
    VotedInvariant worldSize window (cluster.exchange executor rank stage) := by
  have network : (cluster.exchange executor rank stage).network =
      cluster.network.serve rank stage.request := by
    rw [Cluster.exchange_eq]
    rfl
  refine invariant.of_view ?_ rank ?_ ?_ ?_
  · rw [network]
    exact invariant.still.clock_serve rank stage.request
  · intro other apart
    exact Cluster.view_exchange_of_ne lawful executor apart stage
  · intro other apart
    rw [network, Network.stations_serve_of_ne cluster.network apart]
  · rw [network, Network.stations_serve_self]
    exact account

section Account

variable (invariant : VotedInvariant worldSize window cluster)
  (lawful : cluster.network.Lawful)
  (account : VotedAccount (Rank.all worldSize) window rank cluster.network.bus.clock.time
    (cluster.network.stations rank).peer.finalized (cluster.network.stations rank).peer.ballot
    (cluster.view rank) past settled offered issued entered)

include invariant lawful account

/-- An exchange that only leads the call on has to lead it to an allowed stage. -/
theorem leading {stage : Stage Handle} (unnoted : ∀ answer, stage.clusterEvents rank answer = [])
    (silent : Peer.serveEvents cluster.network.bus (cluster.network.stations rank).peer
      stage.request = [])
    (control : Control Handle)
    (resumes : (cluster.nodes rank).coordinator.resume stage
      (Cluster.answer executor rank stage.request
        (cluster.network, (cluster.nodes rank).state)).1 =
      ((cluster.nodes rank).coordinator, control))
    (callStage : VotedCallStage rank cluster.network.bus.clock.time
      (Station.serve cluster.network.bus (cluster.network.stations rank)
        stage.request).2.peer.finalized
      (Station.serve cluster.network.bus (cluster.network.stations rank)
        stage.request).2.peer.ballot settled (some control) offered issued entered)
    (emptyHand : (cluster.nodes rank).inHand = []) (still : control.inHand = []) :
    VotedInvariant worldSize window (cluster.exchange executor rank stage) := by
  refine invariant.of_exchange lawful ⟨past, settled, offered, issued, entered, ?_⟩
  rw [Cluster.view_leading cluster executor rank stage unnoted silent]
  simp only [resumes]
  exact account.lead callStage (still.trans emptyHand.symm)

/-- Polling leads a call on, unless the process has left. -/
theorem polling {stage next : Stage Handle} (leads : stage.polled? = some next)
    (goesOn : (cluster.network.stations rank).peer.finalized = false →
      VotedCallStage rank cluster.network.bus.clock.time
        (cluster.network.stations rank).peer.finalized
        (cluster.network.stations rank).peer.ballot settled (some (.waiting next)) offered
        issued entered)
    (fails : (cluster.network.stations rank).peer.finalized = true →
      VotedCallStage rank cluster.network.bus.clock.time
        (cluster.network.stations rank).peer.finalized
        (cluster.network.stations rank).peer.ballot settled
        (some (.returned (.error (.voting .finalized)) : Control Handle)) offered issued entered)
    (emptyHand : (cluster.nodes rank).inHand = []) (still : (Control.waiting next).inHand = []) :
    VotedInvariant worldSize window (cluster.exchange executor rank stage) := by
  have request : stage.request = .progress := by
    cases stage <;> first | rfl | simp [Stage.polled?] at leads
  have peer : (Station.serve cluster.network.bus (cluster.network.stations rank)
      stage.request).2.peer = (cluster.network.stations rank).peer := by
    rw [request, Station.serve]
    split <;> rfl
  have unnoted : ∀ answer, stage.clusterEvents rank answer = [] := by
    cases stage <;> first | exact fun _ => rfl | simp [Stage.polled?] at leads
  have silent : Peer.serveEvents cluster.network.bus (cluster.network.stations rank).peer
      stage.request = [] := by
    rw [request]
    rfl
  cases closed : (cluster.network.stations rank).peer.finalized with
  | false =>
    refine invariant.leading lawful account unnoted silent (.waiting next) ?_
      (by rw [peer]; exact goesOn closed) emptyHand still
    cases stage <;> simp only [Stage.polled?, reduceCtorEq, Option.some.injEq] at leads
    all_goals
      subst leads
      simp [Cluster.answer, closed, Coordinator.resume, Coordinator.onSuccess]
  | true =>
    refine invariant.leading lawful account unnoted silent
      (.returned (.error (.voting .finalized))) ?_
      (by rw [peer]; exact fails closed) emptyHand rfl
    cases stage <;> simp only [Stage.polled?, reduceCtorEq, Option.some.injEq] at leads
    all_goals simp [Cluster.answer, closed, Coordinator.resume, Coordinator.onSuccess]

/-- Where nothing waits for checkout a call goes on to an allowed stage. -/
theorem absorbed (nothing : (cluster.network.stations rank).peer.approved = [])
    {next : AfterAbsorbing}
    (undecided : ∀ proposal, next ≠ .resolution proposal .approved) (control : Control Handle)
    (goesOn : (cluster.nodes rank).coordinator.afterAbsorbing next =
      ((cluster.nodes rank).coordinator, control))
    (callStage : VotedCallStage rank cluster.network.bus.clock.time
      (cluster.network.stations rank).peer.finalized (cluster.network.stations rank).peer.ballot
      settled (some control) offered issued entered)
    (emptyHand : (cluster.nodes rank).inHand = []) (still : control.inHand = []) :
    VotedInvariant worldSize window (cluster.exchange executor rank (.absorbing next)) := by
  refine invariant.of_exchange lawful ⟨past, settled, offered, issued, entered, ?_⟩
  rw [Cluster.view_absorbing_nil cluster executor nothing undecided]
  simp only [goesOn, Station.serve, Peer.checkout, nothing]
  exact account.lead callStage (still.trans emptyHand.symm)

end Account

/-- What is offered is announced at once if nobody else votes on it, and nothing is collected. -/
theorem events_offer (lawful : cluster.network.Lawful)
    (accepts : (cluster.network.stations rank).peer.mayOffer = true) (proposal : Proposal) :
    let events := Peer.serveEvents cluster.network.bus (cluster.network.stations rank).peer
      (.submitVote proposal.id (Envelope.encode proposal))
    events.filterMap (Event.issuedBy? rank) =
        (approvedBy (if Peer.others cluster.network.bus = 0 then .approved else .inProgress)
          proposal).map Envelope.encode ∧
      events.filterMap (Event.collectedBy? rank) = [] := by
  simp only [Peer.serveEvents, accepts, if_true]
  by_cases noOthers : Peer.others cluster.network.bus = 0 <;>
    simp [noOthers, approvedBy, Event.issuedBy?, Event.collectedBy?, lawful.named,
      List.filterMap_cons]

/-- The ballot that a process gets for what it offers is under way, unless nobody else votes. -/
theorem held_offer {proposal : Proposal}
    (accepts : (cluster.network.stations rank).peer.mayOffer = true)
    (made : Made rank cluster.network.bus.clock.time settled proposal) :
    Held rank cluster.network.bus.clock.time (cluster.network.stations rank).peer.finalized
      ((cluster.network.stations rank).peer.withBallot cluster.network.bus proposal.id
        (Envelope.encode proposal)).ballot settled proposal
      (if Peer.others cluster.network.bus = 0 then .approved else .inProgress) :=
  { made with
    active := (Peer.mayOffer_iff.1 accepts).1
    known := by split <;> simp
    held := ⟨_, _, _, rfl⟩ }

/-- A proposal that is offered gets a ballot, unless the process has left. -/
theorem offer (invariant : VotedInvariant worldSize window cluster)
    (lawful : cluster.network.Lawful)
    {proposal : Proposal} (account : VotedAccount (Rank.all worldSize) window rank
      cluster.network.bus.clock.time (cluster.network.stations rank).peer.finalized
      (cluster.network.stations rank).peer.ballot (cluster.view rank) past settled
      (some proposal) [] [])
    (made : Made rank cluster.network.bus.clock.time settled proposal)
    (quiet : Quiet cluster.network.bus.clock.time (cluster.network.stations rank).peer.ballot
      settled)
    (emptyHand : (cluster.nodes rank).inHand = []) :
    VotedInvariant worldSize window (cluster.exchange executor rank (.offering proposal)) := by
  refine invariant.of_exchange lawful ?_
  rw [Cluster.view_exchange]
  cases accepts : (cluster.network.stations rank).peer.mayOffer with
  | false =>
    obtain ⟨cause, refused⟩ := @Peer.submitVote_of_not_mayOffer cluster.network.bus
      (cluster.network.stations rank).peer accepts proposal.id (Envelope.encode proposal)
    refine ⟨past, settled, some proposal, [], [], ?_⟩
    simp only [Cluster.answer, refused, Coordinator.resume, Coordinator.onSuccess,
      Stage.clusterEvents, List.filterMap_nil, List.append_nil, Peer.serveEvents, accepts,
      Bool.false_eq_true, if_false, Station.serve]
    exact account.lead (.concluded ⟨made, quiet.decided, .refused _,
      fun _ member => absurd member List.not_mem_nil⟩) emptyHand.symm
  | true =>
    have accepted := @Peer.submitVote_of_mayOffer cluster.network.bus
      (cluster.network.stations rank).peer accepts proposal.id (Envelope.encode proposal)
    obtain ⟨announced, uncollected⟩ := events_offer lawful accepts proposal
    let status : VoteStatus :=
      if Peer.others cluster.network.bus = 0 then .approved else .inProgress
    refine ⟨past, settled, some proposal, approvedBy status proposal, [], ?_⟩
    simp only [announced, uncollected]
    simp only [Cluster.answer, accepted, Coordinator.resume, Coordinator.onSuccess,
      Stage.clusterEvents, List.filterMap_nil, List.append_nil, Station.serve]
    exact { account with
      callStage := .awaitingVotes (held_offer accepts made)
      sent := by
        have before : cluster.network.issued rank = (settled ++ []).map Envelope.encode :=
          account.sent
        rw [before, List.append_nil, List.map_append]
      slotOrder := by
        have slotOrder := account.slotOrder
        rw [show (cluster.view rank).node.inHand = [] from emptyHand] at slotOrder
        exact slotOrder }

/-- What waits for checkout is a proposal of another process, younger than all that has come
from this one. -/
theorem arriving (invariant : VotedInvariant worldSize window cluster)
    (wellFormed : cluster.network.WellFormed worldSize)
    (account : VotedAccount (Rank.all worldSize) window rank cluster.network.bus.clock.time
      (cluster.network.stations rank).peer.finalized (cluster.network.stations rank).peer.ballot
      (cluster.view rank) past settled offered issued entered)
    {envelope : Bytes} {rest : List Bytes}
    (waits : (cluster.network.stations rank).peer.approved = envelope :: rest) :
    ∃ sender proposal, sender ≠ rank ∧ sender ∈ Rank.all worldSize ∧
      proposal ∈ cluster.network.approvals sender ∧
      Envelope.decode envelope = .ok proposal ∧ proposal.id = .ofRank sender ∧
      proposal.state = .inProgress ∧
      ∀ earlier ∈ Proposal.underSlot sender (cluster.entered rank),
        earlier.createdAt < proposal.createdAt := by
  have sends := invariant.sends
  have surfaced : cluster.network.collected rank ++ [envelope] <+:
      cluster.network.surfaced rank := by
    rw [wellFormed.kept rank, waits]
    exact (List.prefix_append_right_inj _).2 (List.prefix_append [envelope] rest)
  obtain ⟨sender, linked, inIssued⟩ := wellFormed.lawful.issued_of_surfaced
    (surfaced.subset (List.mem_append_right _ (List.mem_singleton.2 rfl)))
  rw [sends.issued] at inIssued
  obtain ⟨proposal, approved, rfl⟩ := List.mem_map.1 inIssued
  have read := sends.decode approved
  have slot := sends.slotted approved
  have started : proposal.state = .inProgress := by
    obtain ⟨_, _, _, _, _, others⟩ := invariant.accounts sender
    rw [others.approvals rfl] at approved
    exact (others.issued_made approved).2.2
  refine ⟨sender, proposal, linked.2.2, (wellFormed.world sender).1 linked.1, approved, read, slot,
    started, ?_⟩
  obtain ⟨front, isFront, under⟩ := sends.surfaced_front wellFormed.lawful linked surfaced
  have contents : ((Proposal.underSlot sender (cluster.entered rank)) ++ [proposal]).map
      Proposal.bare = front.map Proposal.bare := by
    have foreign : (Proposal.underSlot sender (cluster.entered rank)).map Proposal.bare =
        ((cluster.network.collected rank).filter (Envelope.isUnder (.ofRank sender))).filterMap
          Envelope.content? := account.foreign sender linked.2.2
    rw [← sends.content isFront, ← under, Envelope.contents_concat read slot, if_pos rfl,
      List.map_append, foreign]
    rfl
  have ascending : (front.map Proposal.bare).Pairwise
      fun first second => first.createdAt < second.createdAt :=
    List.pairwise_map.2 ((invariant.approvals_ascending sender).sublist isFront.sublist)
  rw [← contents] at ascending
  intro earlier member
  exact (List.pairwise_append.1 (List.pairwise_map.1 ascending)).2.2 earlier member proposal
    (List.mem_singleton.2 rfl)

/-- What waits for checkout is absorbed before a call goes on. -/
theorem absorbing (invariant : VotedInvariant worldSize window cluster)
    (wellFormed : cluster.network.WellFormed worldSize)
    (account : VotedAccount (Rank.all worldSize) window rank cluster.network.bus.clock.time
      (cluster.network.stations rank).peer.finalized (cluster.network.stations rank).peer.ballot
      (cluster.view rank) past settled offered issued entered)
    {next : AfterAbsorbing}
    (waits : (cluster.nodes rank).call = some (.waiting (.absorbing next)))
    {envelope : Bytes} {rest : List Bytes}
    (waiting : (cluster.network.stations rank).peer.approved = envelope :: rest) :
    VotedInvariant worldSize window (cluster.exchange executor rank (.absorbing next)) := by
  obtain ⟨sender, proposal, apart, listed, _, read, slot, started, later⟩ :=
    invariant.arriving wellFormed account waiting
  refine invariant.of_exchange wellFormed.lawful ⟨past, settled, offered, issued, entered, ?_⟩
  rw [Cluster.view_absorbing_cons wellFormed.lawful executor waiting read
    (Proposal.advance_of_inProgress started (.inl rfl))]
  simp only [Station.serve, Peer.checkout, waiting]
  exact account.absorb apart listed read slot later waits.symm rfl

/-- The own ballot is acted on once nothing waits for checkout. -/
theorem resolving (invariant : VotedInvariant worldSize window cluster)
    (wellFormed : cluster.network.WellFormed worldSize) (joined : cluster.network.bus.Joined rank)
    {proposal : Proposal} {status seen : VoteStatus}
    (account : VotedAccount (Rank.all worldSize) window rank cluster.network.bus.clock.time
      (cluster.network.stations rank).peer.finalized (cluster.network.stations rank).peer.ballot
      (cluster.view rank) past settled (some proposal) (approvedBy status proposal) [])
    (held : Held rank cluster.network.bus.clock.time
      (cluster.network.stations rank).peer.finalized (cluster.network.stations rank).peer.ballot
      settled proposal status)
    (saw : seen = .inProgress ∨ seen = status) (emptyHand : (cluster.nodes rank).inHand = [])
    (nothing : (cluster.network.stations rank).peer.approved = []) :
    VotedInvariant worldSize window
      (cluster.exchange executor rank (.absorbing (.resolution proposal seen))) := by
  have lawful := wellFormed.lawful
  rcases saw with rfl | rfl
  · exact invariant.absorbed lawful account nothing (by simp)
      (.waiting (.awaitingVotes proposal)) rfl (.awaitingVotes held) emptyHand rfl
  · cases seen with
    | unknown => exact absurd rfl held.known
    | inProgress =>
      exact invariant.absorbed lawful account nothing (by simp)
        (.waiting (.awaitingVotes proposal)) rfl (.awaitingVotes held) emptyHand rfl
    | denied =>
      exact invariant.absorbed lawful account nothing (by simp) (.waiting .releasingDenied)
        (Coordinator.afterAbsorbing_denied _ held.started) (.releasingDenied held) emptyHand rfl
    | approved =>
      refine invariant.of_exchange lawful
        ⟨past, settled, some proposal, [proposal], [proposal], ?_⟩
      rw [Cluster.view_claiming cluster executor rank nothing
        (Proposal.advance_of_inProgress held.started (.inl rfl))]
      simp only [Station.serve, Peer.checkout, nothing]
      exact account.claim ((wellFormed.world rank).1 joined) held emptyHand rfl

/-- The window of a proposal has passed, or its process goes on waiting for it. -/
theorem aging (invariant : VotedInvariant worldSize window cluster)
    (lawful : cluster.network.Lawful) (wide : 0 < window.toNat) {proposal : Proposal}
    (account : VotedAccount (Rank.all worldSize) window rank cluster.network.bus.clock.time
      (cluster.network.stations rank).peer.finalized (cluster.network.stations rank).peer.ballot
      (cluster.view rank) past settled (some proposal) [proposal] [proposal])
    (held : Held rank cluster.network.bus.clock.time
      (cluster.network.stations rank).peer.finalized (cluster.network.stations rank).peer.ballot
      settled proposal .approved)
    (emptyHand : (cluster.nodes rank).inHand = []) :
    VotedInvariant worldSize window (cluster.exchange executor rank (.aging proposal.key)) := by
  have width : (cluster.nodes rank).coordinator.config.windowMicros = window := account.window
  by_cases young : cluster.network.bus.clock.time.since proposal.createdAt < window.toNat
  · refine invariant.leading lawful account (fun _ => rfl) rfl
      (.waiting (.awaitingAge proposal.key)) ?_ (.awaitingAge held) emptyHand rfl
    have keyed : cluster.network.bus.clock.time.since proposal.key.createdAt <
        (cluster.nodes rank).coordinator.config.windowMicros.toNat := by
      rw [width]
      exact young
    simp only [Cluster.answer, Coordinator.resume, keyed, if_true]
  · have aged : proposal.createdAt < cluster.network.bus.clock.time := by
      unfold Timestamp.since at young
      show proposal.createdAt.toNat < cluster.network.bus.clock.time.toNat
      omega
    refine invariant.leading lawful account (fun _ => rfl) rfl
      (.waiting (.awaitingDrain (.submission proposal.key))) ?_
      (.awaitingDrain (.submission held aged)) emptyHand rfl
    have keyed : ¬ cluster.network.bus.clock.time.since proposal.key.createdAt <
        (cluster.nodes rank).coordinator.config.windowMicros.toNat := by
      rw [width]
      exact young
    simp only [Cluster.answer, Coordinator.resume, keyed, if_false]

/-- A call absorbs what waits for checkout, and goes on once nothing does. -/
theorem absorbing_or (invariant : VotedInvariant worldSize window cluster)
    (wellFormed : cluster.network.WellFormed worldSize)
    (account : VotedAccount (Rank.all worldSize) window rank cluster.network.bus.clock.time
      (cluster.network.stations rank).peer.finalized (cluster.network.stations rank).peer.ballot
      (cluster.view rank) past settled offered issued entered)
    {next : AfterAbsorbing}
    (waits : (cluster.nodes rank).call = some (.waiting (.absorbing next)))
    (goesOn : (cluster.network.stations rank).peer.approved = [] →
      VotedInvariant worldSize window (cluster.exchange executor rank (.absorbing next))) :
    VotedInvariant worldSize window (cluster.exchange executor rank (.absorbing next)) := by
  by_cases nothing : (cluster.network.stations rank).peer.approved = []
  · exact goesOn nothing
  · obtain ⟨envelope, rest, waiting⟩ := List.exists_cons_of_ne_nil nothing
    exact invariant.absorbing wellFormed account waits waiting

section Submission

variable {proposal : Proposal} {status : VoteStatus}

/-- The status that is read is that of the ballot that the process has. -/
theorem answer_readStatus (executor : Executor State Handle) (state : State)
    (held : Held rank cluster.network.bus.clock.time
      (cluster.network.stations rank).peer.finalized (cluster.network.stations rank).peer.ballot
      settled proposal status) :
    (Cluster.answer executor rank (.readStatus proposal.id) (cluster.network, state)).1 =
      .ok status := by
  obtain ⟨number, yes, no, isBallot⟩ := held.held
  simp [Cluster.answer, Peer.status, isBallot]

/-- What is read of the own ballot is what will be acted on. -/
theorem readStatus (invariant : VotedInvariant worldSize window cluster)
    (lawful : cluster.network.Lawful)
    (account : VotedAccount (Rank.all worldSize) window rank cluster.network.bus.clock.time
      (cluster.network.stations rank).peer.finalized (cluster.network.stations rank).peer.ballot
      (cluster.view rank) past settled (some proposal) (approvedBy status proposal) [])
    (held : Held rank cluster.network.bus.clock.time
      (cluster.network.stations rank).peer.finalized (cluster.network.stations rank).peer.ballot
      settled proposal status)
    (emptyHand : (cluster.nodes rank).inHand = []) :
    VotedInvariant worldSize window (cluster.exchange executor rank (.readingStatus proposal)) := by
  have read := answer_readStatus executor (cluster.nodes rank).state held
  refine invariant.leading lawful account (fun _ => rfl) rfl
    (.waiting (.absorbing (.resolution proposal status))) ?_ (.resolving held (.inr rfl)) emptyHand
    rfl
  simp only [Stage.request, read, Coordinator.resume]

/-- A ballot that was denied is given up, and the submission is over. -/
theorem releaseDenied (invariant : VotedInvariant worldSize window cluster)
    (lawful : cluster.network.Lawful)
    (account : VotedAccount (Rank.all worldSize) window rank cluster.network.bus.clock.time
      (cluster.network.stations rank).peer.finalized (cluster.network.stations rank).peer.ballot
      (cluster.view rank) past settled (some proposal) [] [])
    (held : Held rank cluster.network.bus.clock.time
      (cluster.network.stations rank).peer.finalized (cluster.network.stations rank).peer.ballot
      settled proposal .denied)
    (emptyHand : (cluster.nodes rank).inHand = []) :
    VotedInvariant worldSize window (cluster.exchange executor rank .releasingDenied) := by
  refine invariant.leading lawful account (fun _ => rfl) rfl
    (.returned (.ok (.submitted .denied))) rfl ?_ emptyHand rfl
  exact .concluded ⟨held.toMade, by simp [Station.serve, Peer.release], .denied,
    fun _ member => absurd member List.not_mem_nil⟩

/-- Before a drain the process polls once more; a submission cannot find it gone. -/
theorem awaitDrain (invariant : VotedInvariant worldSize window cluster)
    (lawful : cluster.network.Lawful) {cause : DrainCause}
    (account : VotedAccount (Rank.all worldSize) window rank cluster.network.bus.clock.time
      (cluster.network.stations rank).peer.finalized (cluster.network.stations rank).peer.ballot
      (cluster.view rank) past settled offered issued issued)
    (drains : Drains rank cluster.network.bus.clock.time
      (cluster.network.stations rank).peer.finalized (cluster.network.stations rank).peer.ballot
      settled cause offered issued)
    (emptyHand : (cluster.nodes rank).inHand = []) :
    VotedInvariant worldSize window (cluster.exchange executor rank (.awaitingDrain cause)) := by
  refine invariant.polling lawful account rfl (fun _ => .absorbingDrain drains) ?_ emptyHand rfl
  intro closed
  cases drains with
  | tick quiet => exact .returned (by simp) quiet
  | submission held aged => exact absurd (closed.symm.trans held.active) Bool.noConfusion

variable (invariant : VotedInvariant worldSize window cluster)
  (lawful : cluster.network.Lawful)
  (account : VotedAccount (Rank.all worldSize) window rank cluster.network.bus.clock.time
    (cluster.network.stations rank).peer.finalized (cluster.network.stations rank).peer.ballot
    (cluster.view rank) past settled (some proposal) [proposal] [proposal])
  (held : Held rank cluster.network.bus.clock.time
    (cluster.network.stations rank).peer.finalized (cluster.network.stations rank).peer.ballot
    settled proposal .approved)
  (aged : proposal.createdAt < cluster.network.bus.clock.time)
  (emptyHand : (cluster.nodes rank).inHand = [])

include invariant lawful account held aged emptyHand

/-- A ballot that was approved still is when its proposal has been executed. -/
theorem rereadStatus (result : Option Handle) :
    VotedInvariant worldSize window
      (cluster.exchange executor rank (.rereadingStatus proposal.key result)) := by
  have read : (Cluster.answer executor rank (.readStatus proposal.key.id)
      (cluster.network, (cluster.nodes rank).state)).1 = .ok .approved :=
    answer_readStatus executor (cluster.nodes rank).state held
  refine invariant.leading lawful account (fun _ => rfl) rfl
    (.waiting (.releasingCommitted result)) ?_ (.releasingCommitted result held aged) emptyHand rfl
  simp only [Stage.request, read, Coordinator.resume]

/-- A ballot whose proposal has been executed is given up, and the submission is over. -/
theorem releaseCommitted (result : Option Handle) :
    VotedInvariant worldSize window
      (cluster.exchange executor rank (.releasingCommitted result)) := by
  refine invariant.leading lawful account (fun _ => rfl) rfl
    (.returned (.ok (.submitted (.committed result)))) rfl ?_ emptyHand rfl
  refine .concluded ⟨held.toMade, by simp [Station.serve, Peer.release], .committed result, ?_⟩
  intro approved member
  rw [List.mem_singleton.1 member]
  exact aged

end Submission

/-- Whatever a process does next in a call keeps the accounts. -/
theorem exchange (invariant : VotedInvariant worldSize window cluster)
    (wellFormed : cluster.network.WellFormed worldSize) (joined : cluster.network.bus.Joined rank)
    (wide : 0 < window.toNat) {stage : Stage Handle}
    (waits : (cluster.nodes rank).call = some (.waiting stage)) :
    VotedInvariant worldSize window (cluster.exchange executor rank stage) := by
  obtain ⟨past, settled, offered, issued, entered, account⟩ := invariant.accounts rank
  have lawful := wellFormed.lawful
  have callStage := account.callStage
  have call : (cluster.view rank).node.call = some (.waiting stage) := waits
  have inHand : (cluster.nodes rank).inHand = (Control.waiting stage).inHand := by
    rw [Node.inHand, waits]
    rfl
  rw [call] at callStage
  cases callStage with
  | finalizing quiet =>
    exact invariant.leading lawful account (fun _ => rfl) rfl (.returned (.ok .closed)) rfl
      (.returned (by simp) quiet) inHand rfl
  | offering made quiet => exact invariant.offer lawful account made quiet inHand
  | awaitingVotes held =>
    exact invariant.polling lawful account rfl (fun _ => .readingStatus held)
      (fun closed => absurd (closed.symm.trans held.active) Bool.noConfusion) inHand rfl
  | readingStatus held => exact invariant.readStatus lawful account held inHand
  | resolving held saw =>
    exact invariant.absorbing_or wellFormed account waits fun nothing =>
      invariant.resolving wellFormed joined account held saw inHand nothing
  | releasingDenied held => exact invariant.releaseDenied lawful account held inHand
  | aging held => exact invariant.aging lawful wide account held inHand
  | awaitingAge held =>
    exact invariant.polling lawful account rfl (fun _ => .absorbingAge held)
      (fun closed => absurd (closed.symm.trans held.active) Bool.noConfusion) inHand rfl
  | @absorbingAge proposal held =>
    exact invariant.absorbing_or wellFormed account waits fun nothing =>
      invariant.absorbed lawful account nothing (by simp) (.waiting (.aging proposal.key)) rfl
        (.aging held) inHand rfl
  | awaitingDrain drains => exact invariant.awaitDrain lawful account drains inHand
  | @absorbingDrain cause _ _ drains =>
    exact invariant.absorbing_or wellFormed account waits fun nothing =>
      invariant.absorbed lawful account nothing (by simp) (.waiting (.draining cause)) rfl
        (.draining drains) inHand rfl
  | draining drains =>
    refine invariant.of_exchange lawful ⟨past, settled, offered, issued, issued, ?_⟩
    rw [Cluster.view_leading cluster executor rank _ (fun _ => rfl) rfl]
    exact account.drain drains inHand _ cluster.network.bus.clock.time
  | executing records proposal drains =>
    refine invariant.of_exchange lawful ⟨past, settled, offered, issued, issued, ?_⟩
    rw [Cluster.view_executing]
    exact account.record drains inHand _ records _
  | confirming result held aged =>
    exact invariant.polling lawful account rfl (fun _ => .rereadingStatus result held aged)
      (fun closed => absurd (closed.symm.trans held.active) Bool.noConfusion) inHand rfl
  | rereadingStatus result held aged =>
    exact invariant.rereadStatus lawful account held aged inHand result
  | releasingCommitted result held aged =>
    exact invariant.releaseCommitted lawful account held aged inHand result

/-! ## Runs -/

variable {rules : Rules State Handle}

/-- Every step under the rules of voted mode keeps the accounts. -/
theorem step {after : Cluster State Handle}
    (invariant : VotedInvariant worldSize window cluster)
    (wellFormed : cluster.network.WellFormed worldSize) (voted : rules.Voted window)
    (wide : 0 < window.toNat) (next : Cluster.Step rules cluster after) :
    VotedInvariant worldSize window after := by
  cases next with
  | time clock passes =>
    obtain ⟨forward, still⟩ := voted.forward passes
    exact invariant.time forward still
  | send next => exact invariant.send wellFormed.lawful next
  | @handle rank sender message rest quiet next =>
    rw [voted.judged rank]
    exact invariant.handle wellFormed.lawful rank sender message rest
  | submit rank proposal free submits =>
    obtain ⟨slot, fresh, stamped, fits⟩ := voted.stamped submits
    exact invariant.submit free slot fresh stamped fits
  | tick rank free => exact invariant.tick free
  | close rank free leaves => exact invariant.close free
  | exchange rank stage joined idle waits => exact invariant.exchange wellFormed joined wide waits
  | finish rank reply returned => exact invariant.finish returned

/-- Whatever can become of a cluster in voted mode has its accounts in order. -/
theorem reaches {clock : Clock} {seed : Seed} {jitter : Jitter}
    {config : Rank → CoordinatorConfig} {state : Rank → State} (still : clock.stride = 0)
    (mode : ∀ rank, (config rank).mode = .voted)
    (width : ∀ rank, (config rank).windowMicros = window) (voted : rules.Voted window)
    (wide : 0 < window.toNat) {after : Cluster State Handle}
    (steps : Cluster.Reaches rules (.opening worldSize clock seed jitter config state) after) :
    VotedInvariant worldSize window after := by
  induction steps with
  | refl => exact .opening worldSize clock seed jitter state still mode width
  | step prior next inductionHypothesis =>
    exact inductionHypothesis.step (Network.WellFormed.of_reaches prior.network) voted wide next

end VotedInvariant

end Concord
