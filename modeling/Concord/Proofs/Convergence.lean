import Concord.Proofs.Arrivals
import Concord.Proofs.BroadcastCallStages
import Concord.Proofs.Schedules
import Mathlib

/-!
# Convergence of broadcast mode

Processes that submit by a plan execute the same rounds in the same order. A process may have
sent a proposal of the round after the one that another still waits for, so a ledger may hold
two proposals of one process; since each round leaves the ledger whole, the older of the two is
always the one of the current round.
-/

namespace Concord

namespace Plan

variable {State Handle : Type}

/-- Processes that submit by a plan, look at what arrived at any time, and never leave. -/
def rules (plan : Plan) (executor : Rank → Executor State Handle) (judge : Rank → Judge) :
    Rules State Handle where
  executor
  judge
  passes _ _ := True
  submits cluster rank proposal :=
    (cluster.begun rank).length < plan.count rank ∧
      proposal = plan.proposal rank (cluster.begun rank).length
  leaves _ _ := False

section Decidable

variable (plan : Plan) (executor : Rank → Executor State Handle) (judge : Rank → Judge)
  (cluster : Cluster State Handle) (rank : Rank)

instance (clock : Clock) : Decidable ((plan.rules executor judge).passes cluster clock) :=
  inferInstanceAs (Decidable True)

instance (proposal : Proposal) :
    Decidable ((plan.rules executor judge).submits cluster rank proposal) :=
  inferInstanceAs (Decidable (_ ∧ _))

instance : Decidable ((plan.rules executor judge).leaves cluster rank) :=
  inferInstanceAs (Decidable False)

end Decidable

/-- What can be said of a cluster whose processes work off a plan. -/
structure Converging (plan : Plan) (worldSize : Nat) (cluster : Cluster State Handle) :
    Prop where
  plain : cluster.network.Plain
  accounts : ∀ rank, ∃ asked sent taken inHand,
    plan.Account (Rank.all worldSize) rank worldSize (cluster.view rank) asked sent taken inHand

variable {plan : Plan} {worldSize : Nat} {cluster : Cluster State Handle}
  {executor : Rank → Executor State Handle} {judge : Rank → Judge}

/-- Before any call every process is at the start of its plan. -/
theorem Converging.opening (plan : Plan) (worldSize : Nat) (clock : Clock) (seed : Seed)
    (jitter : Jitter) {config : Rank → CoordinatorConfig} (state : Rank → State)
    (mode : ∀ rank, (config rank).mode = .broadcast)
    (size : ∀ rank, (config rank).worldSize = worldSize) :
    plan.Converging worldSize
      (Cluster.opening worldSize clock seed jitter config state : Cluster State Handle) where
  plain := fun _ => ⟨rfl, rfl⟩
  accounts := by
    intro rank
    refine ⟨0, 0, 0, [], ?_⟩
    exact {
      mode := mode rank
      size := size rank
      begun := rfl
      replied := fun reply member => absurd member List.not_mem_nil
      contents := .empty plan (Rank.all worldSize) rank (config rank)
      callStage := .resting rfl }

/-- Every process has sent the first proposals of its plan. -/
theorem Converging.issued (converging : plan.Converging worldSize cluster) :
    ∃ sent : Rank → Nat, ∀ rank, sent rank ≤ plan.count rank ∧
      cluster.network.issued rank = plan.envelopes rank (sent rank) := by
  have each : ∀ rank, ∃ sent ≤ plan.count rank,
      cluster.network.issued rank = plan.envelopes rank sent := by
    intro rank
    obtain ⟨_, sent, _, _, account⟩ := converging.accounts rank
    exact ⟨sent, account.contents.within, account.contents.issued⟩
  choose sent within issued using each
  exact ⟨sent, fun rank => ⟨within rank, issued rank⟩⟩

/-- Whatever has entered a ledger are the first proposals of every process. -/
theorem Converging.arrived (converging : plan.Converging worldSize cluster)
    (wellFormed : cluster.network.WellFormed worldSize) {rank : Rank}
    (joined : cluster.network.bus.Joined rank) {coordinator : Coordinator}
    {entered handed inHand : List Proposal} {issued : List Bytes} {sent taken : Nat}
    (contents : plan.Contents (Rank.all worldSize) rank coordinator entered handed issued
      (cluster.network.collected rank) sent taken inHand) :
    ∃ arrived : Rank → Nat, ∀ other ∈ Rank.all worldSize, arrived other ≤ plan.count other ∧
      (Proposal.underSlot other entered).map Proposal.bare =
        (List.range (arrived other)).map (plan.bare other) := by
  obtain ⟨sentBy, planned⟩ := converging.issued
  have each : ∀ other, ∃ arrived, other ∈ Rank.all worldSize → arrived ≤ plan.count other ∧
      (Proposal.underSlot other entered).map Proposal.bare =
        (List.range arrived).map (plan.bare other) := by
    intro other
    by_cases own : other = rank
    · subst own
      exact ⟨sent, fun _ => ⟨contents.within, contents.own⟩⟩
    · by_cases listed : other ∈ Rank.all worldSize
      · have linked : cluster.network.Linked other rank :=
          ⟨(wellFormed.world other).2 listed, joined, own⟩
        obtain ⟨arrived, few, collected⟩ := collected_under wellFormed.lawful wellFormed.kept
          (fun process => (planned process).2) linked
        refine ⟨arrived, fun _ => ⟨Nat.le_trans few (planned other).1, ?_⟩⟩
        rw [contents.foreign other own, collected, plan.content_envelopes]
      · exact ⟨0, fun member => absurd member listed⟩
  choose arrived front using each
  exact ⟨arrived, front⟩

/-- What a process checks out next is a proposal of another one's plan. -/
theorem Converging.next_collected (converging : plan.Converging worldSize cluster)
    (wellFormed : cluster.network.WellFormed worldSize) {rank : Rank}
    {envelope : Bytes} {rest : List Bytes}
    (waits : (cluster.network.stations rank).peer.approved = envelope :: rest) :
    ∃ other number, other ≠ rank ∧ cluster.network.bus.Joined other ∧
      envelope = Envelope.encode (plan.offered other number) := by
  obtain ⟨sent, planned⟩ := converging.issued
  have surfaced : envelope ∈ cluster.network.surfaced rank := by
    rw [wellFormed.kept rank, waits]
    exact List.mem_append_right _ List.mem_cons_self
  obtain ⟨sender, linked, issued⟩ := wellFormed.lawful.issued_of_surfaced surfaced
  rw [(planned sender).2] at issued
  obtain ⟨number, _, same⟩ := mem_envelopes.1 issued
  exact ⟨sender, number, linked.2.2, linked.1, same.symm⟩

/-- Where one process changes, its account is all that has to be shown. -/
theorem Converging.of_view (converging : plan.Converging worldSize cluster)
    {after : Cluster State Handle} (plain : after.network.Plain) {rank : Rank}
    (others : ∀ other, other ≠ rank → after.view other = cluster.view other)
    (own : ∃ asked sent taken inHand, plan.Account (Rank.all worldSize) rank worldSize
      (after.view rank) asked sent taken inHand) : plan.Converging worldSize after where
  plain
  accounts := by
    intro other
    by_cases here : other = rank
    · subst here
      exact own
    · rw [others other here]
      exact converging.accounts other

/-- A step below the coordinators that issues and collects nothing changes no account. -/
theorem Converging.of_network (converging : plan.Converging worldSize cluster)
    {network : Network} (plain : network.Plain)
    (issued : ∀ rank, network.issued rank = cluster.network.issued rank)
    (collected : ∀ rank, network.collected rank = cluster.network.collected rank) :
    plan.Converging worldSize { cluster with network } where
  plain
  accounts := by
    intro rank
    rw [Cluster.view_network, issued rank, collected rank]
    exact converging.accounts rank

/-! ## Exchanges -/

/-- Sending the own next proposal enters it into the own ledger. -/
theorem Converging.broadcast (converging : plan.Converging worldSize cluster)
    (wellFormed : cluster.network.WellFormed worldSize) {rank : Rank}
    (joined : cluster.network.bus.Joined rank) {asked sent taken : Nat} {inHand : List Proposal}
    (account : plan.Account (Rank.all worldSize) rank worldSize (cluster.view rank) asked sent
      taken inHand) {proposal : Proposal}
    (waits : (cluster.nodes rank).call = some (.waiting (.broadcasting proposal))) :
    plan.Converging worldSize (cluster.exchange (executor rank) rank (.broadcasting proposal)) := by
  obtain ⟨mode, size, begun, replied, contents, callStage⟩ := account
  have call : (cluster.view rank).node.call = some (.waiting (.broadcasting proposal)) := waits
  rw [call] at callStage
  cases callStage with
  | broadcasting emptyQueue more =>
  have inWorld := (wellFormed.world rank).1 joined
  have sentBooks := contents.send inWorld more
  obtain ⟨arrived, planned⟩ := converging.arrived wellFormed joined sentBooks
  have working := @Contents.awaitRound Handle _ _ _ _ _ _ _ _ _ sentBooks (Rank.nodup_all worldSize)
    inWorld emptyQueue (by rw [Rank.length_all]; exact size ▸ Nat.mod_le _ _) _ planned
  refine converging.of_view ?_ (fun other apart =>
    Cluster.view_exchange_of_ne wellFormed.lawful _ apart _) ?_
  · rw [Cluster.exchange_eq]
    exact converging.plain.serve rank ⟨rfl, rfl⟩
  · rw [Cluster.view_broadcasting wellFormed.lawful (executor rank) (converging.plain rank).1]
    exact working.account rfl rfl mode size begun replied

/-- Polling leads on and changes nothing else. -/
theorem Converging.poll (converging : plan.Converging worldSize cluster)
    (wellFormed : cluster.network.WellFormed worldSize) {rank : Rank} {asked sent taken : Nat}
    {inHand : List Proposal}
    (account : plan.Account (Rank.all worldSize) rank worldSize (cluster.view rank) asked sent
      taken inHand) {stage next : Stage Handle}
    (leads : stage.polled? = some next)
    (callStage : plan.BroadcastCallStage rank (cluster.view rank).completed
      (cluster.nodes rank).coordinator (some (.waiting next)) asked sent taken inHand) :
    plan.Converging worldSize (cluster.exchange (executor rank) rank stage) := by
  have request : stage.request = .progress := by
    cases stage <;> first | rfl | simp [Stage.polled?] at leads
  refine converging.of_view ?_ (fun other apart =>
    Cluster.view_exchange_of_ne wellFormed.lawful _ apart _) ?_
  · rw [Cluster.exchange_eq]
    refine converging.plain.serve rank ?_
    simp [request, Station.serve, (converging.plain rank).1]
  · rw [Cluster.view_polling cluster (executor rank) (converging.plain rank).1 leads]
    exact ⟨asked, sent, taken, inHand, { account with callStage }⟩

/-- Absorbing enters a proposal of another process, or leads on. -/
theorem Converging.absorb (converging : plan.Converging worldSize cluster)
    (wellFormed : cluster.network.WellFormed worldSize) {rank : Rank}
    (joined : cluster.network.bus.Joined rank) {asked sent taken : Nat} {inHand : List Proposal}
    (account : plan.Account (Rank.all worldSize) rank worldSize (cluster.view rank) asked sent
      taken inHand) {next : AfterAbsorbing}
    (waits : (cluster.nodes rank).call = some (.waiting (.absorbing next))) :
    plan.Converging worldSize (cluster.exchange (executor rank) rank (.absorbing next)) := by
  obtain ⟨mode, size, begun, replied, contents, callStage⟩ := account
  have call : (cluster.view rank).node.call = some (.waiting (.absorbing next)) := waits
  rw [call] at callStage
  have inWorld := (wellFormed.world rank).1 joined
  refine converging.of_view ?_ (fun other apart =>
    Cluster.view_exchange_of_ne wellFormed.lawful _ apart _) ?_
  · rw [Cluster.exchange_eq]
    refine converging.plain.serve rank ?_
    simp only [Station.serve, Peer.checkout]
    split <;> exact ⟨rfl, rfl⟩
  · cases arrived : (cluster.network.stations rank).peer.approved with
    | nil =>
      have unresolved : ∀ proposal, next ≠ .resolution proposal .approved := by
        rintro proposal rfl
        cases callStage
      cases callStage with
      | gathering emptyQueue =>
        rw [Cluster.view_absorbing_nil cluster (executor rank) arrived unresolved]
        obtain ⟨front, planned⟩ := converging.arrived wellFormed joined contents
        have working := @Contents.awaitRound Handle _ _ _ _ _ _ _ _ _ contents
          (Rank.nodup_all worldSize) inWorld emptyQueue
          (by rw [Rank.length_all]; exact size ▸ Nat.mod_le _ _) _ planned
        refine Working.account ?_ rfl rfl mode size begun replied
        exact working
      | absorbing emptyQueue =>
        rw [Cluster.view_absorbing_nil cluster (executor rank) arrived unresolved]
        exact ⟨_, _, _, _, ⟨mode, size, begun, replied, contents, .progressed emptyQueue⟩⟩
    | cons envelope rest =>
      obtain ⟨other, number, apart, otherJoined, rfl⟩ :=
        converging.next_collected wellFormed arrived
      have advances : (plan.offered other number).advance .approved =
          .ok (plan.offered other number) := rfl
      rw [Cluster.view_absorbing_cons wellFormed.lawful (executor rank) arrived
        (plan.decode_offered other number) advances]
      have collected := contents.collect apart ((wellFormed.world other).1 otherJoined) number
      cases callStage with
      | gathering emptyQueue =>
        exact ⟨_, _, _, _, ⟨mode, size, begun, replied, collected, .gathering emptyQueue⟩⟩
      | absorbing emptyQueue =>
        exact ⟨_, _, _, _, ⟨mode, size, begun, replied, collected, .absorbing emptyQueue⟩⟩

/-- Executing a proposal of a round goes on with the next one of the round. -/
theorem Converging.execute (converging : plan.Converging worldSize cluster)
    (wellFormed : cluster.network.WellFormed worldSize) {rank : Rank} {asked sent taken : Nat}
    {inHand : List Proposal}
    (account : plan.Account (Rank.all worldSize) rank worldSize (cluster.view rank) asked sent
      taken inHand) {cause : BatchCause} {records : List (Executed Handle)} {proposal : Proposal}
    (waits : (cluster.nodes rank).call = some (.waiting (.executing cause records proposal)))
    (accepted : ((executor rank).execute (cluster.nodes rank).state proposal).1.toBool = true) :
    plan.Converging worldSize
      (cluster.exchange (executor rank) rank (.executing cause records proposal)) := by
  obtain ⟨mode, size, begun, replied, contents, callStage⟩ := account
  have call : (cluster.view rank).node.call =
      some (.waiting (.executing cause records proposal)) := waits
  rw [call] at callStage
  cases callStage with
  | executing records proposal own =>
  refine converging.of_view ?_ (fun other apart =>
    Cluster.view_exchange_of_ne wellFormed.lawful _ apart _) ?_
  · rw [Cluster.exchange_eq]
    exact converging.plain.serve rank ⟨rfl, rfl⟩
  · rw [Cluster.view_executing]
    cases answered : ((executor rank).execute (cluster.nodes rank).state proposal).1 with
    | error cause =>
      rw [answered] at accepted
      exact absurd accepted Bool.false_ne_true
    | ok handle =>
      have working := contents.record own handle
      rw [← answered] at working
      exact working.account rfl rfl mode size begun replied

/-- Whatever a process does next in a call keeps the account. -/
theorem Converging.exchange (converging : plan.Converging worldSize cluster)
    (wellFormed : cluster.network.WellFormed worldSize) {rank : Rank}
    (joined : cluster.network.bus.Joined rank) {stage : Stage Handle}
    (waits : (cluster.nodes rank).call = some (.waiting stage))
    (unrefused : (cluster.exchange (executor rank) rank stage).Unrefused) :
    plan.Converging worldSize (cluster.exchange (executor rank) rank stage) := by
  obtain ⟨asked, sent, taken, inHand, account⟩ := converging.accounts rank
  have callStage := account.callStage
  have call : (cluster.view rank).node.call = some (.waiting stage) := waits
  rw [call] at callStage
  cases callStage with
  | broadcasting emptyQueue more => exact converging.broadcast wellFormed joined account waits
  | awaitingQuorum emptyQueue short => 
    exact converging.poll wellFormed account rfl (.gathering emptyQueue)
  | gathering emptyQueue => exact converging.absorb wellFormed joined account waits
  | executing records proposal own =>
    have noted := unrefused _ (List.mem_append_right _ (List.mem_singleton.2 rfl))
    have accepted : ((executor rank).execute (cluster.nodes rank).state proposal).1.toBool =
        true := by
      simpa [ClusterEvent.isRefusal, Cluster.answer] using noted
    exact converging.execute wellFormed account waits accepted
  | listening emptyQueue => exact converging.poll wellFormed account rfl (.absorbing emptyQueue)
  | absorbing emptyQueue => exact converging.absorb wellFormed joined account waits

/-! ## Calls begin and end -/

/-- A planned proposal starts its life by being announced. -/
theorem beginSubmit_planned (plan : Plan) {coordinator : Coordinator}
    (mode : coordinator.config.mode = .broadcast) (rank : Rank) (number : Nat) :
    coordinator.beginSubmit (plan.proposal rank number) =
      (.waiting (.broadcasting (plan.offered rank number)) : Control Handle) := by
  simp [Coordinator.beginSubmit, mode, Coordinator.beginBroadcast, Proposal.start,
    plan.fresh rank number, Proposal.advance, ProposalState.canAdvanceTo, ProposalState.stage,
    offered]

/-- A process that submits the next proposal of its plan stays in step. -/
theorem Converging.submit (converging : plan.Converging worldSize cluster) {rank : Rank}
    (free : cluster.Free rank) (more : (cluster.begun rank).length < plan.count rank) :
    plan.Converging worldSize (cluster.begin rank
      ((cluster.nodes rank).coordinator.beginSubmit
        (plan.proposal rank (cluster.begun rank).length))
      [.begun rank (plan.proposal rank (cluster.begun rank).length)]) := by
  obtain ⟨asked, sent, taken, inHand, mode, size, begun, replied, contents, callStage⟩ :=
    converging.accounts rank
  have call : (cluster.view rank).node.call = none := free.uncalled
  rw [call] at callStage
  have begunIs : cluster.begun rank = (List.range asked).map (plan.proposal rank) := begun
  have length : (cluster.begun rank).length = asked := by
    rw [begunIs, List.length_map, List.length_range]
  rw [length] at more ⊢
  have broadcast : (cluster.nodes rank).coordinator.config.mode = .broadcast := mode
  rw [plan.beginSubmit_planned broadcast rank asked]
  refine converging.of_view converging.plain (fun other apart => cluster.view_put_of_ne _ apart
    (fun entry member => by rw [List.mem_singleton.1 member]; rfl) rfl rfl) ?_
  cases callStage with
  | resting emptyQueue =>
  rw [Cluster.begin, Cluster.view_put]
  simp only [List.filterMap_cons, List.filterMap_nil, ClusterEvent.begunBy?,
    ClusterEvent.enteredAt?, ClusterEvent.handedBy?, ClusterEvent.repliedTo?, if_true,
    List.append_nil]
  have begunAfter : cluster.begun rank ++ [plan.proposal rank (cluster.view rank).completed] =
      (List.range ((cluster.view rank).completed + 1)).map (plan.proposal rank) := by
    rw [begunIs, List.range_succ, List.map_append]
    rfl
  exact ⟨_, _, _, _, ⟨mode, size, begunAfter, replied, contents, .broadcasting emptyQueue more⟩⟩

/-- A progress call takes a process no further in its plan. -/
theorem Converging.tick (converging : plan.Converging worldSize cluster) {rank : Rank}
    (free : cluster.Free rank) :
    plan.Converging worldSize
      (cluster.begin rank (cluster.nodes rank).coordinator.beginProgress []) := by
  obtain ⟨asked, sent, taken, inHand, mode, size, begun, replied, contents, callStage⟩ :=
    converging.accounts rank
  have call : (cluster.view rank).node.call = none := free.uncalled
  rw [call] at callStage
  have started : (cluster.nodes rank).coordinator.beginProgress =
      (.waiting .listening : Control Handle) := by
    have broadcast : (cluster.nodes rank).coordinator.config.mode = .broadcast := mode
    simp only [Coordinator.beginProgress, broadcast]
  refine converging.of_view converging.plain (fun other apart => cluster.view_put_of_ne _ apart
    (fun entry member => absurd member List.not_mem_nil) rfl rfl) ?_
  cases callStage with
  | resting emptyQueue =>
  rw [Cluster.begin, Cluster.view_put, started]
  simp only [List.filterMap_nil, List.append_nil]
  exact ⟨_, _, _, _, ⟨mode, size, begun, replied, contents, .listening emptyQueue⟩⟩

/-- Every call goes as it should. -/
theorem Converging.fulfilled (converging : plan.Converging worldSize cluster) {rank : Rank}
    {reply : Except CoordinatorError (Reply Handle)}
    (returned : (cluster.nodes rank).call = some (.returned reply)) : Fulfilled reply := by
  obtain ⟨_, _, _, _, account⟩ := converging.accounts rank
  have callStage := account.callStage
  have call : (cluster.view rank).node.call = some (.returned reply) := returned
  rw [call] at callStage
  cases callStage with
  | committed emptyQueue result => exact .committed result
  | progressed emptyQueue => exact .progressed

/-- A reply completes a submission, or a progress call that changes no account. -/
theorem Converging.finish (converging : plan.Converging worldSize cluster) {rank : Rank}
    {reply : Except CoordinatorError (Reply Handle)}
    (returned : (cluster.nodes rank).call = some (.returned reply)) :
    plan.Converging worldSize (cluster.finish rank reply) := by
  obtain ⟨asked, sent, taken, inHand, mode, size, begun, replied, contents, callStage⟩ :=
    converging.accounts rank
  have call : (cluster.view rank).node.call = some (.returned reply) := returned
  rw [call] at callStage
  refine converging.of_view converging.plain (fun other apart => cluster.view_put_of_ne _ apart
    (fun entry member => by rw [List.mem_singleton.1 member]; rfl) rfl rfl) ?_
  rw [Cluster.finish, Cluster.view_put]
  simp only [List.filterMap_cons, List.filterMap_nil, ClusterEvent.begunBy?,
    ClusterEvent.enteredAt?, ClusterEvent.handedBy?, ClusterEvent.repliedTo?, if_true,
    List.append_nil]
  have allReplied : ∀ other ∈ cluster.replies rank ++ [reply], Fulfilled other := by
    intro other member
    rcases List.mem_append.1 member with before | last
    · exact replied other before
    · rw [List.mem_singleton.1 last]
      exact converging.fulfilled returned
  cases callStage with
  | committed emptyQueue result =>
    have more : (cluster.view rank).completed + 1 =
        ((cluster.replies rank ++ [Except.ok (Reply.submitted (.committed result))]).filter
          ofSubmission).length := by
      rw [List.filter_append, List.length_append]
      rfl
    refine ⟨_, _, _, _, ⟨mode, size, begun, allReplied, contents, ?_⟩⟩
    rw [more]
    exact .resting emptyQueue
  | progressed emptyQueue =>
    have same : (cluster.view rank).completed =
        ((cluster.replies rank ++ [Except.ok (Reply.executed 0)]).filter ofSubmission).length := by
      rw [List.filter_append, List.length_append]
      rfl
    refine ⟨_, _, _, _, ⟨mode, size, begun, allReplied, contents, ?_⟩⟩
    rw [same]
    exact .resting emptyQueue

/-- Every step that nobody refuses keeps the accounts. -/
theorem Converging.step {after : Cluster State Handle}
    (converging : plan.Converging worldSize cluster)
    (wellFormed : cluster.network.WellFormed worldSize)
    (next : Cluster.Step (plan.rules executor judge) cluster after)
    (unrefused : after.Unrefused) : plan.Converging worldSize after := by
  cases next with
  | time clock passes =>
    exact converging.of_network converging.plain (fun _ => rfl) (fun _ => rfl)
  | send next =>
    exact converging.of_network (converging.plain.send _ _ _ _)
      (cluster.network.issued_send _ _ _ _) (cluster.network.collected_send _ _ _ _)
  | handle quiet next =>
    exact converging.of_network (converging.plain.handle _ _ _ _ _)
      (converging.plain.issued_handle _ _ _ _ _)
      (cluster.network.collected_handle _ _ _ _ _)
  | submit rank proposal free submits =>
    obtain ⟨more, rfl⟩ := submits
    exact converging.submit free more
  | tick rank free => exact converging.tick free
  | close rank free leaves => exact absurd leaves id
  | exchange rank stage joined idle waits =>
    exact converging.exchange wellFormed joined waits unrefused
  | finish rank reply returned => exact converging.finish returned

/-- Whatever is interleaved, every process stays in step with the plan, as long as no executor
refuses anything. -/
theorem Converging.reaches {clock : Clock} {seed : Seed} {jitter : Jitter}
    {config : Rank → CoordinatorConfig} {state : Rank → State}
    (mode : ∀ rank, (config rank).mode = .broadcast)
    (size : ∀ rank, (config rank).worldSize = worldSize) {after : Cluster State Handle}
    (steps : Cluster.Reaches (plan.rules executor judge)
      (.opening worldSize clock seed jitter config state) after)
    (unrefused : after.Unrefused) : plan.Converging worldSize after := by
  induction steps with
  | refl => exact .opening plan worldSize clock seed jitter state mode size
  | step prior next inductionHypothesis =>
    exact (inductionHypothesis (unrefused.before next)).step
      (Network.WellFormed.of_reaches prior.network) next unrefused

/-! ## What has been executed -/

/-- The rounds of all submissions that are over have been executed, and a front of the next
round while a submission executes it. -/
theorem Account.executed {everyone : List Rank} {rank : Rank} {view : ProcessView State Handle}
    {asked sent taken : Nat} {inHand : List Proposal}
    (account : plan.Account everyone rank worldSize view asked sent taken inHand) :
    ∃ part, part <+: plan.round everyone view.completed ∧
      view.handed.map Proposal.bare = plan.rounds everyone view.completed ++ part ∧
      (view.node.call = none → part = []) := by
  obtain ⟨_, _, _, _, contents, callStage⟩ := account
  have between : (taken = view.completed ∧ inHand = [] ∧
      view.node.coordinator.queue.entries = []) ∨
      (taken = view.completed + 1 ∧ view.node.call ≠ none) := by
    cases atCall : view.node.call with
    | none =>
      rw [atCall] at callStage
      cases callStage with
      | resting emptyQueue => exact .inl ⟨rfl, rfl, emptyQueue⟩
    | some control =>
      rw [atCall] at callStage
      cases callStage with
      | broadcasting emptyQueue more => exact .inl ⟨rfl, rfl, emptyQueue⟩
      | awaitingQuorum emptyQueue short => exact .inl ⟨rfl, rfl, emptyQueue⟩
      | gathering emptyQueue => exact .inl ⟨rfl, rfl, emptyQueue⟩
      | executing records proposal own => exact .inr ⟨rfl, nofun⟩
      | committed emptyQueue result => exact .inr ⟨rfl, nofun⟩
      | listening emptyQueue => exact .inl ⟨rfl, rfl, emptyQueue⟩
      | absorbing emptyQueue => exact .inl ⟨rfl, rfl, emptyQueue⟩
      | progressed emptyQueue => exact .inl ⟨rfl, rfl, emptyQueue⟩
  rcases between with ⟨rfl, rfl, emptyQueue⟩ | ⟨rfl, calling⟩
  · refine ⟨[], List.nil_prefix, ?_, fun _ => rfl⟩
    rw [contents.whole emptyQueue, List.append_nil]
  · obtain ⟨part, front⟩ := contents.finished (Nat.lt_succ_self _)
    obtain ⟨rest, _, _, done⟩ := contents.rounds
    refine ⟨part, ?_, front.symm, fun resting => absurd resting calling⟩
    rw [plan.rounds_succ, List.map_append, ← front, List.append_assoc, List.append_assoc] at done
    rw [← List.append_cancel_left done]
    exact List.prefix_append _ _

/-- A process that waits for a round has nothing of the round from some process. -/
theorem Account.lacking {everyone : List Rank} {rank : Rank} {view : ProcessView State Handle}
    {asked sent taken : Nat} {inHand : List Proposal}
    (account : plan.Account everyone rank worldSize view asked sent taken inHand)
    (distinct : everyone.Nodup) (all : everyone.length = worldSize) {key : OrderKey}
    (waits : view.node.call = some (.waiting (.awaitingQuorum key))) :
    ∃ other ∈ everyone, (Proposal.underSlot other view.entered).length ≤ view.completed := by
  obtain ⟨_, size, _, _, contents, callStage⟩ := account
  rw [waits] at callStage
  cases callStage with
  | awaitingQuorum emptyQueue short =>
    rw [size, ← all] at short
    exact contents.lacking short distinct

/-- How many of its proposals a process has begun to submit. -/
theorem Account.asked_le {everyone : List Rank} {rank : Rank} {view : ProcessView State Handle}
    {asked sent taken : Nat} {inHand : List Proposal}
    (account : plan.Account everyone rank worldSize view asked sent taken inHand) :
    view.completed ≤ asked ∧ asked ≤ view.completed + 1 := by
  have callStage := account.callStage
  generalize view.node.call = call at callStage
  cases callStage <;> omega

/-- Of what two processes have executed, what the one that has completed less has is the front. -/
theorem Converging.handed_prefix_or {plan : Plan} {worldSize : Nat} {cluster : Cluster State Handle}
    (converging : plan.Converging worldSize cluster) {behind leading : Rank}
    (order : (cluster.view behind).completed ≤ (cluster.view leading).completed) :
    (cluster.handed behind).map Proposal.bare <+: (cluster.handed leading).map Proposal.bare ∨
      (cluster.handed leading).map Proposal.bare <+:
        (cluster.handed behind).map Proposal.bare := by
  obtain ⟨_, _, _, _, behindAccount⟩ := converging.accounts behind
  obtain ⟨_, _, _, _, leadingAccount⟩ := converging.accounts leading
  obtain ⟨behindPart, behindFront, behindDone, _⟩ := behindAccount.executed
  obtain ⟨leadingPart, leadingFront, leadingDone, _⟩ := leadingAccount.executed
  have behindIs : (cluster.handed behind).map Proposal.bare =
    plan.rounds (Rank.all worldSize) (cluster.view behind).completed ++ behindPart :=
    behindDone
  have leadingIs : (cluster.handed leading).map Proposal.bare =
    plan.rounds (Rank.all worldSize) (cluster.view leading).completed ++ leadingPart :=
    leadingDone
  rw [behindIs, leadingIs]
  rcases Nat.lt_or_eq_of_le order with fewer | same
  · left
    have next : plan.rounds (Rank.all worldSize) (cluster.view behind).completed ++ behindPart <+:
        plan.rounds (Rank.all worldSize) ((cluster.view behind).completed + 1) := by
      rw [plan.rounds_succ]
      exact (List.prefix_append_right_inj _).2 behindFront
    exact (next.trans (plan.rounds_prefix _ fewer)).trans (List.prefix_append _ _)
  · rw [same] at behindFront ⊢
    rcases List.prefix_or_prefix_of_prefix behindFront leadingFront with before | after
    · exact .inl ((List.prefix_append_right_inj _).2 before)
    · exact .inr ((List.prefix_append_right_inj _).2 after)

/-- In broadcast mode the submission with a number executes, at every process, the proposals
that all processes submit under this number, once each and in the global order, whatever is
interleaved and however long anything takes. So of what two processes have executed, one is
the front of the other. A submission goes on waiting only while it has nothing of its round from
some process. -/
theorem rounds_converge (plan : Plan) {worldSize : Nat} {clock : Clock} {seed : Seed}
    {jitter : Jitter} {config : Rank → CoordinatorConfig} {state : Rank → State}
    {cluster : Cluster State Handle}
    (steps : Cluster.Reaches (plan.rules executor judge)
      (.opening worldSize clock seed jitter config state) cluster)
    (mode : ∀ rank, (config rank).mode = .broadcast)
    (size : ∀ rank, (config rank).worldSize = worldSize) (unrefused : cluster.Unrefused) :
    (∀ number,
      (plan.round (Rank.all worldSize) number).Perm
        ((Rank.all worldSize).map fun rank => plan.bare rank number) ∧
      (plan.round (Rank.all worldSize) number).Pairwise
        fun first second => first.key < second.key) ∧
    (∀ rank,
      (∃ part, part <+: plan.round (Rank.all worldSize) (cluster.view rank).completed ∧
        (cluster.handed rank).map Proposal.bare =
          plan.rounds (Rank.all worldSize) (cluster.view rank).completed ++ part ∧
        ((cluster.nodes rank).call = none → part = [])) ∧
      (∃ asked, asked ≤ (cluster.view rank).completed + 1 ∧
        cluster.begun rank = (List.range asked).map (plan.proposal rank)) ∧
      (∀ reply ∈ cluster.replies rank, Fulfilled reply) ∧
      ∀ key, (cluster.nodes rank).call = some (.waiting (.awaitingQuorum key)) →
        worldSize < 2 ^ 32 → ∃ other ∈ Rank.all worldSize,
          (Proposal.underSlot other (cluster.entered rank)).length ≤
            (cluster.view rank).completed) ∧
    ∀ first second,
      (cluster.handed first).map Proposal.bare <+: (cluster.handed second).map Proposal.bare ∨
      (cluster.handed second).map Proposal.bare <+: (cluster.handed first).map Proposal.bare := by
  have converging := Converging.reaches mode size steps unrefused
  have distinct := Rank.nodup_all worldSize
  refine ⟨fun number => ⟨plan.round_perm _ number, plan.round_ascending distinct number⟩,
    fun rank => ?_, fun first second => ?_⟩
  · obtain ⟨asked, sent, taken, inHand, account⟩ := converging.accounts rank
    refine ⟨account.executed, ⟨asked, account.asked_le.2, account.begun⟩, account.replied, ?_⟩
    intro key waits small
    have all : (Rank.all worldSize).length = worldSize := by
      rw [Rank.length_all, Nat.mod_eq_of_lt small]
    exact account.lacking distinct all waits
  · rcases Nat.le_total (cluster.view first).completed (cluster.view second).completed
      with order | order
    · exact converging.handed_prefix_or order
    · exact (converging.handed_prefix_or order).symm

/-- Every process submits one proposal. -/
def single : Plan where
  count _ := 1
  proposal rank _ := .create (.ofRank rank) ⟨0⟩ [] .zero
  slotted _ _ := rfl
  fresh _ _ := rfl
  fits _ _ := Nat.two_pow_pos 64
  ascending before within := by omega

/-- Processes that submit one proposal each and execute everything. -/
abbrev singleRules : Rules Unit Unit :=
  single.rules (fun _ => ⟨fun state _ => (.ok none, state)⟩)
    fun _ => ⟨fun clock _ => (.accept, clock)⟩

/-- Two processes that submit; the second one gets through its round. -/
def pairMoves : List Move :=
  [.submit ⟨0⟩ (single.proposal ⟨0⟩ 0), .exchange ⟨0⟩, .send ⟨0⟩,
    .submit ⟨1⟩ (single.proposal ⟨1⟩ 0), .exchange ⟨1⟩, .send ⟨1⟩, .exchange ⟨1⟩, .handle ⟨1⟩,
    .exchange ⟨1⟩, .exchange ⟨1⟩, .exchange ⟨1⟩, .exchange ⟨1⟩, .finish ⟨1⟩]

/-- Two processes before they submit anything. -/
def pairStart : Cluster Unit Unit :=
  .opening 2 (.startingAt .zero) .standard .none (fun rank => ⟨rank, .broadcast, 2, 2000, .yield⟩)
    fun _ => ()

/-- Two processes with one proposal each execute their first round. -/
theorem rounds_converge_pair : ∃ cluster : Cluster Unit Unit,
    Cluster.Reaches singleRules pairStart cluster ∧ cluster.Unrefused ∧
      (cluster.handed ⟨1⟩).map Proposal.bare = single.rounds (Rank.all 2) 1 := by
  have run : (Cluster.follow singleRules pairStart pairMoves).map (fun cluster =>
      (cluster.events.all fun entry => !entry.isRefusal, (cluster.view ⟨1⟩).completed,
        (cluster.nodes ⟨1⟩).call.isNone)) = some (true, 1, true) := by cbv
  obtain ⟨cluster, followed, found⟩ := Option.map_eq_some_iff.1 run
  simp only [Prod.mk.injEq, List.all_eq_true, Bool.not_eq_true'] at found
  obtain ⟨unrefused, completed, rests⟩ := found
  have steps := Cluster.reaches_follow .refl followed
  obtain ⟨_, each, _⟩ := rounds_converge single steps (fun _ => rfl) (fun _ => rfl) unrefused
  obtain ⟨part, _, executed, whole⟩ := (each ⟨1⟩).1
  rw [whole (Option.isNone_iff_eq_none.1 rests), completed, List.append_nil] at executed
  exact ⟨cluster, steps, unrefused, executed⟩

end Plan

end Concord
