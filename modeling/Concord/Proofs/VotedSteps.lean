import Concord.Proofs.VotedInvariant

/-!
# Steps in voted mode

What each step does to the account of the process that takes it. Time, sending and other
processes' messages leave an account alone; a vote may approve what a process has on its
ballot; and every stage of a call leads on to a stage that `VotedCallStage` allows.
-/

namespace Concord

/-- A reply to a submission tells whether its proposal was approved, unless something failed. -/
theorem Tells.recorded {Handle : Type} {proposal : Proposal}
    {reply : Except CoordinatorError (Reply Handle)} {own : List Proposal}
    (tells : Tells proposal reply own) :
    ∃ approved, own = (if approved then [proposal] else []) ∧
      (reply.toBool = true → outcome? reply = some approved) := by
  cases tells with
  | committed result => exact ⟨true, rfl, fun _ => rfl⟩
  | denied => exact ⟨false, rfl, fun _ => rfl⟩
  | refused cause => exact ⟨false, rfl, fun fine => absurd fine Bool.false_ne_true⟩
  | failed cause => exact ⟨true, rfl, fun fine => absurd fine Bool.false_ne_true⟩

/-- What is remembered when a submission gets its reply. -/
theorem SubmissionHistory.conclude {Handle : Type} {begun : List Proposal}
    {replies : List (Except CoordinatorError (Reply Handle))} {past : List (Proposal × Bool)}
    {settled : List Proposal} {proposal : Proposal}
    (submissionHistory : SubmissionHistory begun replies past settled (some proposal))
    {reply : Except CoordinatorError (Reply Handle)} {approved : Bool}
    (told : reply.toBool = true → outcome? reply = some approved) :
    SubmissionHistory begun (replies ++ [reply]) (past ++ [(proposal, approved)])
      (settled ++ if approved then [proposal] else []) none where
  settled := by
    rw [submissionHistory.settled, List.filter_append, List.map_append]
    cases approved <;> rfl
  begun := by
    rw [submissionHistory.begun, List.map_append]
    exact (List.append_nil _).symm
  told := by
    intro fine
    have before := submissionHistory.told fun other member =>
      fine other (List.mem_append_left _ member)
    have last := told (fine reply (List.mem_append_right _ (List.mem_singleton.2 rfl)))
    rw [List.filterMap_append, List.map_append, before, List.filterMap_cons, last]
    rfl

/-- What is remembered when another call gets its reply. -/
theorem SubmissionHistory.reply {Handle : Type} {begun : List Proposal}
    {replies : List (Except CoordinatorError (Reply Handle))} {past : List (Proposal × Bool)}
    {settled : List Proposal} {offered : Option Proposal}
    (submissionHistory : SubmissionHistory begun replies past settled offered)
    {reply : Except CoordinatorError (Reply Handle)}
    (plain : ∀ outcome, reply ≠ .ok (.submitted outcome)) :
    SubmissionHistory begun (replies ++ [reply]) past settled offered where
  settled := submissionHistory.settled
  begun := submissionHistory.begun
  told := by
    intro fine
    have before := submissionHistory.told fun other member =>
      fine other (List.mem_append_left _ member)
    have silent : outcome? reply = none := by
      match reply with
      | .ok (.submitted outcome) => exact absurd rfl (plain outcome)
      | .ok (.executed count) => rfl
      | .ok .closed => rfl
      | .error cause => rfl
    rw [List.filterMap_append, before, List.filterMap_cons, silent]
    exact List.append_nil _

namespace VotedAccount

variable {State Handle : Type} {everyone : List Rank} {window : UInt64} {rank : Rank}
  {now : Timestamp} {finalized : Bool} {ballot : Option Ballot} {view : ProcessView State Handle}
  {past : List (Proposal × Bool)} {settled issued entered : List Proposal}
  {offered : Option Proposal}

/-! ## Entering the ledger -/

/-- A proposal of another process that was approved may enter. -/
theorem absorb (account : VotedAccount everyone window rank now finalized ballot view past
      settled offered issued entered) {sender : Rank} (apart : sender ≠ rank)
    (listed : sender ∈ everyone) {envelope : Bytes} {proposal : Proposal}
    (read : Envelope.decode envelope = .ok proposal) (slot : proposal.id = .ofRank sender)
    (later : ∀ earlier ∈ Proposal.underSlot sender view.entered,
      earlier.createdAt < proposal.createdAt)
    {call : Option (Control Handle)} (sameCall : call = view.node.call)
    {approved : Proposal} (becomes : approved = { proposal with state := .approved }) :
    VotedAccount everyone window rank now finalized ballot
      { view with
        node := ⟨{ view.node.coordinator with
          ledger := view.node.coordinator.ledger.add approved }, view.node.state, call⟩
        entered := view.entered ++ [approved]
        collected := view.collected ++ [envelope] }
      past settled offered issued entered := by
  subst sameCall becomes
  have entering : ({ proposal with state := ProposalState.approved } : Proposal).id =
      .ofRank sender := slot
  exact { account with
    own := by
      rw [Proposal.underSlot_append, Proposal.underSlot_of_slot entering, if_neg apart.symm,
        List.append_nil]
      exact account.own
    foreign := by
      intro other different
      rw [Proposal.underSlot_append, Proposal.underSlot_of_slot entering, List.map_append,
        account.foreign other different, Envelope.contents_concat read slot]
      split <;> rfl
    known := by
      intro entry member
      rcases List.mem_append.1 member with old | new
      · exact account.known entry old
      · rw [List.mem_singleton.1 new]
        exact ⟨sender, listed, slot⟩
    slotOrder := by
      refine account.slotOrder.enter ?_ rfl
      intro other member same
      refine later other (List.mem_filter.2 ⟨member, decide_eq_true ?_⟩)
      exact same.trans slot }

/-- The own approved proposal enters the own ledger. -/
theorem claim {proposal : Proposal} (account : VotedAccount everyone window rank now finalized
      ballot view past settled (some proposal) [proposal] []) (inWorld : rank ∈ everyone)
    (held : Held rank now finalized ballot settled proposal .approved)
    (emptyHand : view.node.inHand = []) {approved : Proposal}
    (becomes : approved = { proposal with state := .approved, isLocal := true }) :
    VotedAccount everyone window rank now finalized ballot
      { view with
        node := ⟨{ view.node.coordinator with
            ledger := view.node.coordinator.ledger.add approved },
          view.node.state, some (.waiting (.aging proposal.key))⟩
        entered := view.entered ++ [approved] }
      past settled (some proposal) [proposal] [proposal] := by
  subst becomes
  have slot := held.slot
  have entering : ({ proposal with
      state := ProposalState.approved, isLocal := true } : Proposal).id = .ofRank rank := slot
  exact { account with
    callStage := .aging held
    own := by
      rw [Proposal.underSlot_append, Proposal.underSlot_of_slot entering, if_pos rfl,
        List.map_append, account.own, List.append_nil, List.map_append]
      rfl
    foreign := by
      intro other different
      rw [Proposal.underSlot_append, Proposal.underSlot_of_slot entering, if_neg different,
        List.append_nil]
      exact account.foreign other different
    known := by
      intro entry member
      rcases List.mem_append.1 member with old | new
      · exact account.known entry old
      · rw [List.mem_singleton.1 new]
        exact ⟨rank, inWorld, slot⟩
    slotOrder := by
      have slotOrder := account.slotOrder
      rw [emptyHand] at slotOrder
      refine slotOrder.enter ?_ rfl
      intro other member same
      -- What has entered under the own slot is what was approved before.
      have mapped : other.bare ∈ (settled ++ []).map Proposal.bare := by
        rw [← account.own]
        exact List.mem_map_of_mem (List.mem_filter.2 ⟨member, decide_eq_true (same.trans slot)⟩)
      rw [List.append_nil] at mapped
      obtain ⟨earlier, inSettled, bares⟩ := List.mem_map.1 mapped
      have before := held.past earlier inSettled
      have times : earlier.bare.createdAt = other.bare.createdAt := by rw [bares]
      show other.createdAt < proposal.createdAt
      rw [← Proposal.bare_createdAt other, ← times]
      exact before }

/-! ## Draining the ledger -/

/-- A call that drains may fail at any time. -/
theorem fail {cause : DrainCause} {own : List Proposal}
    (account : VotedAccount everyone window rank now finalized ballot view past settled offered own
      own)
    (drains : Drains rank now finalized ballot settled cause offered own)
    (emptyHand : view.node.inHand = []) (state : State) (error : CoordinatorError) :
    VotedAccount everyone window rank now finalized ballot
      { view with node := ⟨view.node.coordinator, state, some (.returned (.error error))⟩ } past
      settled offered own own := by
  cases drains with
  | tick quiet => exact account.lead (.returned nofun quiet) emptyHand.symm
  | @submission proposal held aged =>
    refine account.lead (.concluded ⟨held.toMade, held.decided nofun, .failed error, ?_⟩)
      emptyHand.symm
    intro approved member
    rw [List.mem_singleton.1 member]
    exact aged

/-- After one proposal of a batch the next one is handed over, or the call goes on. -/
theorem executeNext {cause : DrainCause} {own : List Proposal}
    (account : VotedAccount everyone window rank now finalized ballot view past settled offered own
      own)
    (drains : Drains rank now finalized ballot settled cause offered own)
    (emptyHand : view.node.inHand = []) (state : State) (records : List (Executed Handle)) :
    VotedAccount everyone window rank now finalized ballot
      { view with
        node :=
          let next := view.node.coordinator.executeNext (.drained cause) records
          ⟨next.1, state, some next.2⟩ } past settled offered own own := by
  unfold Coordinator.executeNext
  cases popped : view.node.coordinator.queue.popOldest? with
  | none =>
    simp only
    cases drains with
    | tick quiet => exact account.lead (.returned nofun quiet) emptyHand.symm
    | @submission proposal held aged =>
      simp only [Coordinator.afterBatch]
      split
      · exact account.fail (.submission held aged) emptyHand state
          (.invariant (.notExecuted proposal.key))
      · next result found => exact account.lead (.confirming result held aged) emptyHand.symm
  | some pair =>
    obtain ⟨proposal, left⟩ := pair
    obtain ⟨perm, oldest⟩ := ExecutionQueue.popOldest?_spec popped
    exact { account with
      callStage := .executing records proposal drains
      slotOrder := by
        have slotOrder := account.slotOrder
        rw [emptyHand] at slotOrder
        exact slotOrder.pop perm oldest }

/-- What has aged goes over into the queue, and whatever stays is younger. -/
theorem drain {cause : DrainCause} {own : List Proposal}
    (account : VotedAccount everyone window rank now finalized ballot view past settled offered own
      own)
    (drains : Drains rank now finalized ballot settled cause offered own)
    (emptyHand : view.node.inHand = []) (state : State) (read : Timestamp) :
    VotedAccount everyone window rank now finalized ballot
      { view with
        node :=
          let next := view.node.coordinator.drain cause read
          ⟨next.1, state, some next.2⟩ } past settled offered own own := by
  obtain ⟨moved, left, result, perm, _, aged, young, _⟩ :=
    view.node.coordinator.moveAged_spec read account.slotOrder.approved
  have older : ∀ first ∈ moved, ∀ second ∈ left, first.createdAt < second.createdAt := by
    intro first inMoved second inLeft
    have firstAge := aged first inMoved
    have secondAge := young second inLeft
    unfold Proposal.ageAt Timestamp.since at firstAge secondAge
    show first.createdAt.toNat < second.createdAt.toNat
    omega
  have slotOrder := account.slotOrder.move perm older
  rw [emptyHand] at slotOrder
  have drained : VotedAccount everyone window rank now finalized ballot
      { view with
        node := ⟨{ view.node.coordinator with
            ledger := ⟨left⟩
            queue := ⟨view.node.coordinator.queue.entries ++ moved.map Proposal.due⟩ },
          state, some (.waiting (.draining cause))⟩ }
      past settled offered own own := { account with
    callStage := .draining drains
    slotOrder }
  simp only [Coordinator.drain, result]
  cases drains with
  | tick quiet => exact drained.executeNext (.tick quiet) rfl state []
  | @submission proposal held waited =>
    simp only
    split
    · exact drained.executeNext (.submission held waited) rfl state []
    · exact drained.lead (.awaitingDrain (.submission held waited)) rfl

/-- Whatever an executor answers, the call goes on or ends. -/
theorem record {cause : DrainCause} {own : List Proposal} {proposal : Proposal}
    (account : VotedAccount everyone window rank now finalized ballot view past settled offered own
      own)
    (drains : Drains rank now finalized ballot settled cause offered own)
    (taken : view.node.inHand = [proposal]) (state : State) (records : List (Executed Handle))
    (answer : Except ExecutorError (Option Handle)) :
    VotedAccount everyone window rank now finalized ballot
      { view with
        node :=
          let next := view.node.coordinator.record (.drained cause) records proposal answer
          ⟨next.1, state, some next.2⟩
        handed := view.handed ++ [proposal] } past settled offered own own := by
  have slotOrder := account.slotOrder
  rw [taken] at slotOrder
  have after : VotedAccount everyone window rank now finalized ballot
      { view with
        node := ⟨view.node.coordinator, state, some (.waiting (.draining cause))⟩
        handed := view.handed ++ [proposal] } past settled offered own own := { account with
    callStage := .draining drains
    slotOrder := slotOrder.hand }
  unfold Coordinator.record
  split
  · next cause _ => exact after.fail drains rfl state (.executor cause)
  · next cause _ => exact after.fail drains rfl state (.invariant (.notMarked cause))
  · next executed _ => exact after.executeNext drains rfl state (records ++ [executed])

/-! ## Replies -/

/-- A submission that is over leaves what it got approved among the settled. -/
theorem returned {reply : Except CoordinatorError (Reply Handle)}
    (account : VotedAccount everyone window rank now finalized ballot view past settled offered
      issued entered)
    (atCall : view.node.call = some (.returned reply)) :
    ∃ past settled offered issued entered, VotedAccount everyone window rank now finalized ballot
      { view with
        node := { view.node with call := none }
        replies := view.replies ++ [reply] } past settled offered issued entered := by
  have callStage := account.callStage
  rw [atCall] at callStage
  have slotOrder := account.slotOrder
  rw [Node.inHand, atCall] at slotOrder
  have madeOf : ∀ proposal ∈ settled ++ issued, proposal.id = .ofRank rank ∧
      proposal.payload.length < 2 ^ 64 ∧ proposal.state = .inProgress := fun _ member =>
    account.issued_made member
  cases callStage with
  | returned plain quiet =>
    exact ⟨past, settled, none, [], [], { account with
      callStage := .resting quiet
      submissionHistory := account.submissionHistory.reply plain
      slotOrder }⟩
  | @concluded proposal _ own ended =>
    obtain ⟨approved, rfl, told⟩ := ended.tells.recorded
    have quiet : Quiet now ballot (settled ++ if approved then [proposal] else []) := {
      decided := ended.decided
      past := by
        intro earlier member
        rcases List.mem_append.1 member with old | own
        · exact Nat.lt_of_lt_of_le (ended.past earlier old) ended.made
        · exact ended.aged earlier own }
    exact ⟨_, _, none, [], [], {
      mode := account.mode
      window := account.window
      slotted := fun other member => (madeOf other member).1
      started := fun other member => (madeOf other member).2.2
      fits := fun other member => (madeOf other member).2.1
      ascending := account.issued_ascending
      callStage := .resting quiet
      submissionHistory := account.submissionHistory.conclude told
      sent := by
        rw [List.append_nil]
        exact account.sent
      own := by
        rw [List.append_nil]
        exact account.own
      foreign := account.foreign
      known := account.known
      slotOrder }⟩

end VotedAccount

namespace VotedInvariant

variable {State Handle : Type} {worldSize : Nat} {window : UInt64}
  {cluster : Cluster State Handle}

/-! ## Steps below the coordinators -/

/-- The account of a cluster in voted mode does not depend on how time goes on. -/
theorem time (invariant : VotedInvariant worldSize window cluster) {clock : Clock}
    (forward : cluster.network.bus.clock.time ≤ clock.time) (still : clock.stride = 0) :
    VotedInvariant worldSize window
      { cluster with network := cluster.network.retime clock } where
  still
  accounts := by
    intro rank
    obtain ⟨past, settled, offered, issued, entered, account⟩ := invariant.accounts rank
    exact ⟨past, settled, offered, issued, entered,
      { account with callStage := account.callStage.later forward }⟩

/-- Sending a message keeps every account. -/
theorem send (invariant : VotedInvariant worldSize window cluster)
    (lawful : cluster.network.Lawful) {rank receiver : Rank} {message : Message}
    {rest : List (Rank × Message)}
    (next : (cluster.network.stations rank).outbox = (receiver, message) :: rest) :
    VotedInvariant worldSize window
      { cluster with network := cluster.network.send rank receiver message rest } := by
  have clock := invariant.still.clock_send lawful next
  have views : ∀ other, ({ cluster with
      network := cluster.network.send rank receiver message rest } : Cluster State Handle).view
        other = cluster.view other := by
    intro other
    rw [Cluster.view_network, Network.issued_send, Network.collected_send]
    rfl
  refine invariant.of_view clock rank (fun other _ => views other)
    (fun other _ => Network.peer_send _ _ _ _ _ other) ?_
  obtain ⟨past, settled, offered, issued, entered, account⟩ := invariant.accounts rank
  refine ⟨past, settled, offered, issued, entered, ?_⟩
  rw [views rank]
  show VotedAccount _ _ _ _
    ((cluster.network.send rank receiver message rest).stations rank).peer.finalized
    ((cluster.network.send rank receiver message rest).stations rank).peer.ballot _ _ _ _ _ _
  rw [Network.peer_send]
  exact account

/-- Acting on a message keeps every account: a vote moves the call of its process on. -/
theorem handle (invariant : VotedInvariant worldSize window cluster)
    (lawful : cluster.network.Lawful) (rank sender : Rank) (message : Message)
    (rest : List (Rank × Message)) :
    VotedInvariant worldSize window { cluster with
      network := cluster.network.handle (.staleness window) rank sender message rest } := by
  have clock := invariant.still.clock_handle window rank sender message rest
  refine invariant.of_view clock rank ?_ ?_ ?_
  · intro other apart
    rw [Cluster.view_network, lawful.issued_handle_of_ne (.staleness window) apart,
      Network.collected_handle]
    rfl
  · intro other apart
    show ((cluster.network.handle (.staleness window) rank sender message rest).stations
      other).peer = _
    rw [Network.stations_handle_of_ne _ apart]
  · obtain ⟨past, settled, offered, issued, entered, account⟩ := invariant.accounts rank
    obtain ⟨announced, counts, issuedAfter⟩ :=
      lawful.counts_handle (.staleness window) rank sender message rest
    obtain ⟨next, callStage, sent⟩ := account.callStage.count counts
    have peer : ((cluster.network.handle (.staleness window) rank sender message rest).stations
        rank).peer = (Peer.handle (.staleness window) cluster.network.bus
          (cluster.network.stations rank).peer message).2 := by
      rw [Network.stations_handle_self]
      rfl
    refine ⟨past, settled, offered, next, entered, ?_⟩
    rw [Cluster.view_network, issuedAfter, Network.collected_handle]
    show VotedAccount _ _ _ _
      ((cluster.network.handle (.staleness window) rank sender message rest).stations
        rank).peer.finalized
      ((cluster.network.handle (.staleness window) rank sender message rest).stations
        rank).peer.ballot _ _ _ _ _ _
    rw [peer, Peer.finalized_handle]
    exact { account with
      callStage
      sent := by
        show cluster.network.issued rank ++ announced = _
        have before : cluster.network.issued rank = (settled ++ issued).map Envelope.encode :=
          account.sent
        rw [before, List.map_append, List.map_append, sent, List.append_assoc] }

/-! ## Calls begin and end -/

/-- A fresh proposal starts its life by being put to the vote. -/
theorem beginSubmit_voted {coordinator : Coordinator} (mode : coordinator.config.mode = .voted)
    {proposal : Proposal} (fresh : proposal.state = .initial) :
    coordinator.beginSubmit proposal =
      (.waiting (.offering proposal.onBallot) : Control Handle) := by
  simp [Coordinator.beginSubmit, mode, Coordinator.beginVoted, Proposal.start, fresh,
    Proposal.advance, ProposalState.canAdvanceTo, ProposalState.stage, Proposal.onBallot]

/-- Where a call of one process begins or ends, its account is all that has to be shown. -/
theorem of_call (invariant : VotedInvariant worldSize window cluster) {rank : Rank}
    {node : Node State Handle} {entries : List (ClusterEvent Handle)}
    (own : ∀ entry ∈ entries, entry.rank = rank)
    (account : ∃ past settled offered issued entered,
      VotedAccount (Rank.all worldSize) window rank cluster.network.bus.clock.time
        (cluster.network.stations rank).peer.finalized
        (cluster.network.stations rank).peer.ballot
        ((cluster.put cluster.network rank node entries).view rank) past settled offered issued
        entered) :
    VotedInvariant worldSize window (cluster.put cluster.network rank node entries) :=
  invariant.of_view rfl rank
    (fun _ apart => cluster.view_put_of_ne _ apart own rfl rfl) (fun _ _ => rfl) account

/-- Submitting a proposal made just now under the own slot keeps every account. -/
theorem submit (invariant : VotedInvariant worldSize window cluster) {rank : Rank}
    {proposal : Proposal} (free : cluster.Free rank) (slot : proposal.id = .ofRank rank)
    (fresh : proposal.state = .initial)
    (stamped : proposal.createdAt = cluster.network.bus.clock.time)
    (fits : proposal.payload.length < 2 ^ 64) :
    VotedInvariant worldSize window (cluster.begin rank
      ((cluster.nodes rank).coordinator.beginSubmit proposal) [.begun rank proposal]) := by
  obtain ⟨past, settled, offered, issued, entered, account⟩ := invariant.accounts rank
  refine invariant.of_call (fun entry member => by rw [List.mem_singleton.1 member]; rfl) ?_
  have call : (cluster.view rank).node.call = none := free.uncalled
  have callStage := account.callStage
  rw [call] at callStage
  obtain ⟨rfl, rfl, rfl, quiet⟩ := callStage.rests
  have mode : (cluster.nodes rank).coordinator.config.mode = .voted := account.mode
  have made : Made rank cluster.network.bus.clock.time settled proposal.onBallot := {
    slot
    started := rfl
    fits
    made := by
      rw [← stamped]
      exact Nat.le_refl _
    past := by
      intro earlier member
      have before := quiet.past earlier member
      rw [← stamped] at before
      exact before }
  refine ⟨past, settled, some proposal.onBallot, [], [], ?_⟩
  rw [Cluster.view_put, beginSubmit_voted mode fresh]
  simp only [List.filterMap_cons, List.filterMap_nil, ClusterEvent.begunBy?,
    ClusterEvent.enteredAt?, ClusterEvent.handedBy?, ClusterEvent.repliedTo?, if_true,
    List.append_nil]
  exact { account with
    callStage := .offering made quiet
    submissionHistory := {
      settled := account.submissionHistory.settled
      begun := by
        have before := account.submissionHistory.begun
        rw [Option.toList_none, List.append_nil] at before
        rw [List.map_append, ← before]
        rfl
      told := account.submissionHistory.told }
    slotOrder := by
      have slotOrder := account.slotOrder
      rw [Node.inHand, call] at slotOrder
      exact slotOrder }

/-- A call that carries no proposal begins where the process rests. -/
theorem beginPlain (invariant : VotedInvariant worldSize window cluster) {rank : Rank}
    (free : cluster.Free rank) {control : Control Handle} (emptyHand : control.inHand = [])
    (callStage : ∀ {settled : List Proposal},
      Quiet cluster.network.bus.clock.time (cluster.network.stations rank).peer.ballot settled →
        VotedCallStage rank cluster.network.bus.clock.time
          (cluster.network.stations rank).peer.finalized
          (cluster.network.stations rank).peer.ballot settled (some control) none [] []) :
    VotedInvariant worldSize window (cluster.begin rank control []) := by
  obtain ⟨past, settled, offered, issued, entered, account⟩ := invariant.accounts rank
  refine invariant.of_call (fun entry member => absurd member List.not_mem_nil) ?_
  have call : (cluster.view rank).node.call = none := free.uncalled
  have rests := account.callStage
  rw [call] at rests
  obtain ⟨rfl, rfl, rfl, quiet⟩ := rests.rests
  refine ⟨past, settled, none, [], [], ?_⟩
  rw [Cluster.view_put]
  simp only [List.filterMap_nil, List.append_nil]
  refine account.lead (callStage quiet) ?_
  rw [Node.inHand, Node.inHand, call]
  exact emptyHand

/-- Beginning to make progress keeps every account. -/
theorem tick (invariant : VotedInvariant worldSize window cluster) {rank : Rank}
    (free : cluster.Free rank) :
    VotedInvariant worldSize window
      (cluster.begin rank (cluster.nodes rank).coordinator.beginProgress []) := by
  obtain ⟨_, _, _, _, _, account⟩ := invariant.accounts rank
  have mode : (cluster.nodes rank).coordinator.config.mode = .voted := account.mode
  have started : (cluster.nodes rank).coordinator.beginProgress =
      (.waiting (.awaitingDrain .tick) : Control Handle) := by
    simp only [Coordinator.beginProgress, mode]
  rw [started]
  exact invariant.beginPlain free rfl fun quiet => .awaitingDrain (.tick quiet)

/-- Beginning to close keeps every account. -/
theorem close (invariant : VotedInvariant worldSize window cluster) {rank : Rank}
    (free : cluster.Free rank) :
    VotedInvariant worldSize window (cluster.begin rank Coordinator.beginClose []) :=
  invariant.beginPlain free rfl .finalizing

/-- Taking the reply of a call closes the account of that call. -/
theorem finish (invariant : VotedInvariant worldSize window cluster) {rank : Rank}
    {reply : Except CoordinatorError (Reply Handle)}
    (returned : (cluster.nodes rank).call = some (.returned reply)) :
    VotedInvariant worldSize window (cluster.finish rank reply) := by
  obtain ⟨past, settled, offered, issued, entered, account⟩ := invariant.accounts rank
  refine invariant.of_call (fun entry member => by rw [List.mem_singleton.1 member]; rfl) ?_
  have call : (cluster.view rank).node.call = some (.returned reply) := returned
  rw [Cluster.view_put]
  simp only [List.filterMap_cons, List.filterMap_nil, ClusterEvent.begunBy?,
    ClusterEvent.enteredAt?, ClusterEvent.handedBy?, ClusterEvent.repliedTo?, if_true,
    List.append_nil]
  exact account.returned call

end VotedInvariant

end Concord
