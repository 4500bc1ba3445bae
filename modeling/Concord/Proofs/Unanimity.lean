import Concord.Proofs.Calls
import Concord.Proofs.Tallies

/-!
# Unanimity

A system of peers is a bus with a peer at every process, and any calls are made on any of them in
any order while the clock is set to anything. `PeerSystem.Unanimous` says what the own ballot of a
process stands for: the votes counted were cast by judging exactly its envelope, an approved one
was accepted by every other process, and a denied one was rejected by at least one after all had
judged it. The history is beside the peers and decides nothing.
-/

namespace Concord

/-- A bus with a peer at every process, and what the peers have done. -/
structure PeerSystem where
  bus : Bus
  peers : Rank → Peer
  history : List Event

namespace PeerSystem

/-- A system of peers before any call. -/
def opening (worldSize : Nat) (clock : Clock) (seed : Seed) (jitter : Jitter) : PeerSystem :=
  ⟨.connect worldSize clock seed jitter, .create, []⟩

/-- A system in which one peer has acted. -/
def put (system : PeerSystem) (rank : Rank) (bus : Bus) (peer : Peer) (events : List Event) :
    PeerSystem :=
  ⟨bus, Function.update system.peers rank peer, system.history ++ events⟩

/-- Make a call on the peer of a process. -/
def call (system : PeerSystem) (judge : Judge) (rank : Rank) : Request → PeerSystem
  | .submitVote id envelope =>
    let peer := system.peers rank
    let (_, bus, after) := peer.submitVote system.bus id envelope
    system.put rank bus after
      (Peer.serveEvents system.bus peer (.submitVote id envelope) ++
        Peer.sendEvents rank (peer.offerings system.bus envelope))
  | .submitBroadcast id envelope =>
    let peer := system.peers rank
    let (_, bus) := peer.submitBroadcast system.bus envelope
    system.put rank bus peer
      (Peer.serveEvents system.bus peer (.submitBroadcast id envelope) ++
        Peer.sendEvents rank (peer.announcements system.bus envelope))
  | .progress =>
    let peer := system.peers rank
    let (_, bus, after) := Peer.progress judge system.bus peer
    let (messages, polled) := system.bus.poll peer.rank
    system.put rank bus after
      (if peer.finalized then [] else Peer.batchEvents judge polled peer messages)
  | .checkout =>
    let peer := system.peers rank
    system.put rank system.bus peer.checkout.2 (Peer.serveEvents system.bus peer .checkout)
  | .release => system.put rank system.bus (system.peers rank).release []
  | .finalize => system.put rank system.bus (system.peers rank).finalize []
  | .readClock =>
    system.put rank { system.bus with clock := system.bus.clock.read.2 } (system.peers rank) []
  | .readStatus _ => system
  | .execute _ => system

/-- What happens next in a system of peers. Every call may have a judge of its own. -/
inductive Step (system : PeerSystem) : PeerSystem → Prop where
  | time (clock : Clock) : Step system { system with bus := { system.bus with clock } }
  | call (judge : Judge) (rank : Rank) (request : Request) (joined : system.bus.Joined rank) :
      Step system (system.call judge rank request)

/-- What can become of a system of peers by any calls in any order. -/
inductive Reaches (start : PeerSystem) : PeerSystem → Prop where
  | refl : Reaches start start
  | step {middle final : PeerSystem} (prior : Reaches start middle) (next : Step middle final) :
      Reaches start final

/-- A system of peers as a network in which all stations rest. -/
def network (system : PeerSystem) : Network :=
  ⟨system.bus, fun rank => .resting (system.peers rank), system.history⟩

/-- Putting a peer is putting its station in the network. -/
theorem network_put (system : PeerSystem) (rank : Rank) (bus : Bus) (peer : Peer)
    (events : List Event) :
    (system.put rank bus peer events).network =
      system.network.put rank (bus, .resting peer) events := by
  simp only [network, put, Network.put, Network.mk.injEq, true_and, and_true]
  funext other
  by_cases own : other = rank <;> simp [own]

/-! ## A call is a run of steps -/

/-- What a call does after its request has been taken on is sending and acting on messages. -/
theorem settles_call (system : PeerSystem) (judge : Judge) {rank : Rank} (request : Request)
    (named : (system.peers rank).rank = rank) :
    Network.Settles judge (system.network.serve rank request)
      (system.call judge rank request).network := by
  cases request with
  | submitVote id envelope =>
    have sent := Network.settles_sendEach system.network judge rank system.bus
      ((system.peers rank).submitVote system.bus id envelope).2.2 []
      ((system.peers rank).offerings system.bus envelope)
      (Peer.serveEvents system.bus (system.peers rank) (.submitVote id envelope))
    have bus : ((system.peers rank).submitVote system.bus id envelope).2.1 =
        system.bus.sendEach rank ((system.peers rank).offerings system.bus envelope) := by
      cases accepts : (system.peers rank).mayOffer with
      | true => rw [Peer.submitVote_of_mayOffer accepts, named]
      | false =>
        obtain ⟨cause, refused⟩ :=
          @Peer.submitVote_of_not_mayOffer system.bus (system.peers rank) accepts id envelope
        simp [refused, Peer.offerings, accepts, Bus.sendEach]
    rw [call, network_put, bus]
    exact sent
  | submitBroadcast id envelope =>
    have sent := Network.settles_sendEach system.network judge rank system.bus
      (system.peers rank) [] ((system.peers rank).announcements system.bus envelope)
      (Peer.serveEvents system.bus (system.peers rank) (.submitBroadcast id envelope))
    have bus := Peer.submitBroadcast_snd system.bus (system.peers rank) envelope
    rw [named] at bus
    rw [call, network_put, bus]
    exact sent
  | progress =>
    have served : system.network.serve rank .progress = system.network.put rank
        (Station.serve system.bus (.resting (system.peers rank)) .progress) [] := rfl
    rw [served]
    simp only [call, network_put, Peer.progress]
    by_cases closed : (system.peers rank).finalized = true
    · simp only [Station.serve, Station.resting, closed, if_true]
      exact .refl
    · simp only [Station.serve, Station.resting, closed, Bool.false_eq_true, if_false]
      exact Network.settles_handleAll system.network judge
        (system.bus.poll (system.peers rank).rank).2 named
        (system.bus.poll (system.peers rank).rank).1 []
  | checkout =>
    rw [call, network_put]
    exact .refl
  | release =>
    rw [call, network_put]
    exact .refl
  | finalize =>
    rw [call, network_put]
    exact .refl
  | readClock =>
    rw [call, network_put]
    exact .refl
  | readStatus id =>
    rw [Network.serve]
    exact (Network.put_same system.network rank).symm ▸ .refl
  | execute proposal =>
    rw [Network.serve]
    exact (Network.put_same system.network rank).symm ▸ .refl

/-- Whatever a call does, the stations of a network can do step by step. -/
theorem reaches_call (system : PeerSystem) (judge : Judge) {rank : Rank} (request : Request)
    (joined : system.bus.Joined rank) (named : (system.peers rank).rank = rank) :
    Network.Reaches system.network (system.call judge rank request).network :=
  (Network.Reaches.step .refl (.serve rank request joined ⟨rfl, rfl⟩)).trans
    (system.settles_call judge request named).reaches

/-- Every step of a system of peers is a run of its network. -/
theorem reaches_of_step {system after : PeerSystem} (lawful : system.network.Lawful)
    (next : Step system after) : Network.Reaches system.network after.network := by
  cases next with
  | time clock => exact .step .refl (.time clock)
  | call judge rank request joined =>
    exact system.reaches_call judge request joined (lawful.named rank)

/-- Every run of a system of peers is one of its network. -/
theorem Reaches.network {system after : PeerSystem} (lawful : system.network.Lawful)
    (steps : Reaches system after) : Network.Reaches system.network after.network := by
  induction steps with
  | refl => exact .refl
  | step _ next inductionHypothesis =>
    exact inductionHypothesis.trans
      (reaches_of_step (lawful.reaches inductionHypothesis) next)

/-! ## What a ballot stands for -/

/-- The runs of a process's judge for a ballot: what was judged, and the answer. -/
def judgedUnder (system : PeerSystem) (voter origin : Rank) (number : Nat) :
    List (Bytes × Verdict) :=
  ((system.network.judgements voter origin).filter fun vote =>
    decide (vote.1 = number)).map Prod.snd

/-- The envelopes that a process has submitted under a number. -/
def submittedUnder (system : PeerSystem) (rank : Rank) (number : Nat) : List Bytes :=
  ((system.network.offers rank).filter fun offer => decide (offer.1 = number)).map Prod.snd

/-- The decisions on a ballot that its holder has sent to another process. -/
def toldUnder (system : PeerSystem) (rank receiver : Rank) (number : Nat) :
    List (Nat × Bool × Bytes) :=
  ((system.network.sentOn rank receiver).filterMap Message.decision?).filter fun decision =>
    decide (decision.1 = number)

/-- What the own ballot of a process stands for. -/
structure Unanimous (system : PeerSystem) (rank : Rank) (ballot : Ballot) : Prop where
  submitted : system.submittedUnder rank ballot.number = [ballot.envelope]
  /-- Every vote counted was cast on this ballot, no two of them by one process. -/
  counted : ∃ accepting rejecting : List Rank, (accepting ++ rejecting).Nodup ∧
    accepting ++ rejecting ⊆ system.bus.everyoneElse rank ∧
    ballot.yes = accepting.length ∧ ballot.no = rejecting.length ∧
    (∀ voter ∈ accepting,
      system.judgedUnder voter rank ballot.number = [(ballot.envelope, .accept)]) ∧
    ∀ voter ∈ rejecting,
      system.judgedUnder voter rank ballot.number = [(ballot.envelope, .reject)]
  approved : ballot.status = .approved → ∀ voter ∈ system.bus.everyoneElse rank,
    system.judgedUnder voter rank ballot.number = [(ballot.envelope, .accept)]
  denied : ballot.status = .denied →
    (∀ voter ∈ system.bus.everyoneElse rank, ∃ verdict,
      system.judgedUnder voter rank ballot.number = [(ballot.envelope, verdict)]) ∧
    ∃ voter ∈ system.bus.everyoneElse rank,
      system.judgedUnder voter rank ballot.number = [(ballot.envelope, .reject)]

/-- A vote that has reached the holder of a ballot tells how the ballot's envelope was judged. -/
theorem judgedUnder_of_vote {system : PeerSystem} (numbering : system.network.Numbered)
    {rank voter : Rank} {number : Nat} {envelope : Bytes} {verdict : Verdict}
    (offered : (number, envelope) ∈ system.network.offers rank)
    (cast : (voter, number, verdict.isAccept) ∈ system.network.votes rank) :
    system.judgedUnder voter rank number = [(envelope, verdict)] := by
  obtain ⟨judged, given, about, same, only⟩ := numbering.judged_of_vote cast
  have envelopes := numbering.envelope_unique about offered
  have verdicts : given = verdict := by
    cases given <;> cases verdict <;> simp_all [Verdict.isAccept]
  subst envelopes verdicts
  rw [judgedUnder, only]
  rfl

/-- The processes whose vote on a ballot was of a kind. -/
def castFor (system : PeerSystem) (rank : Rank) (number : Nat) (yes : Bool) : List Rank :=
  ((system.network.votes rank).filter fun vote => decide (vote.2 = (number, yes))).map Prod.fst

/-- A process is among those that voted in a way exactly if such a vote of it has arrived. -/
theorem mem_castFor {system : PeerSystem} {rank voter : Rank} {number : Nat} {yes : Bool} :
    voter ∈ system.castFor rank number yes ↔ (voter, number, yes) ∈ system.network.votes rank := by
  simp [castFor]

/-- There are as many of them as the tally says. -/
theorem length_castFor (system : PeerSystem) (rank : Rank) (number : Nat) (yes : Bool) :
    (system.castFor rank number yes).length = system.network.tally rank number yes := by
  rw [castFor, List.length_map, ← List.countP_eq_length_filter]
  rfl

/-- The votes on a ballot are those of one kind and those of the other. -/
theorem perm_castFor (system : PeerSystem) (rank : Rank) (number : Nat) :
    (system.castFor rank number true ++ system.castFor rank number false).Perm
      (system.network.voters rank number) := by
  simp only [castFor, Network.voters, ← List.map_append]
  apply List.Perm.map
  induction system.network.votes rank with
  | nil => exact .nil
  | cons vote rest inductionHypothesis =>
    obtain ⟨voter, cast, yes⟩ := vote
    by_cases here : cast = number
    · cases yes
      · simpa [here] using
          List.perm_middle.trans (inductionHypothesis.cons (voter, number, false))
      · simpa [here] using inductionHypothesis.cons (voter, number, true)
    · simpa [here] using inductionHypothesis

/-- A step only adds to the history. -/
theorem history_of_step {network after : Network} (next : Network.Step network after) :
    network.history <+: after.history := by
  cases next with
  | time clock => exact List.prefix_refl _
  | send next => exact List.prefix_append _ _
  | handle judge quiet next => exact List.prefix_append _ _
  | serve rank request joined idle => exact List.prefix_append _ _

/-- A history only grows. -/
theorem history_of_reaches {network after : Network} (steps : Network.Reaches network after) :
    network.history <+: after.history := by
  induction steps with
  | refl => exact List.prefix_refl _
  | step _ next inductionHypothesis => exact inductionHypothesis.trans (history_of_step next)

/-- On a decided ballot every other process has voted, after judging its envelope. -/
theorem judged_of_decided {system : PeerSystem} (tallied : system.network.Tallied) {rank : Rank}
    {number : Nat} {approved : Bool} {envelope : Bytes}
    (decided : (number, approved, envelope) ∈ system.network.decisions rank) {voter : Rank}
    (other : voter ∈ system.bus.everyoneElse rank) :
    ∃ verdict, (voter, number, Verdict.isAccept verdict) ∈ system.network.votes rank ∧
      system.judgedUnder voter rank number = [(envelope, verdict)] := by
  obtain ⟨offered, full, _⟩ := (tallied.accounted rank).complete decided
  have joined : system.bus.Joined rank := tallied.present (List.ne_nil_of_mem offered)
  have member := tallied.everyone_voted joined full other
  obtain ⟨⟨_, cast, yes⟩, isVote, rfl⟩ := List.mem_map.1 member
  obtain ⟨inVotes, named⟩ := List.mem_filter.1 isVote
  cases of_decide_eq_true named
  cases yes
  · exact ⟨.reject, inVotes, judgedUnder_of_vote tallied.toNumbered offered inVotes⟩
  · exact ⟨.accept, inVotes, judgedUnder_of_vote tallied.toNumbered offered inVotes⟩

/-- What was approved every other process has accepted. -/
theorem accepted_of_approved {system : PeerSystem} (tallied : system.network.Tallied) {rank : Rank}
    {number : Nat} {envelope : Bytes}
    (decided : (number, true, envelope) ∈ system.network.decisions rank) {voter : Rank}
    (other : voter ∈ system.bus.everyoneElse rank) :
    system.judgedUnder voter rank number = [(envelope, .accept)] := by
  obtain ⟨verdict, cast, judged⟩ := judged_of_decided tallied decided other
  cases verdict with
  | accept => exact judged
  | reject =>
    have opposed : 0 < system.network.tally rank number false :=
      List.countP_pos_iff.2 ⟨_, cast, by simp [Verdict.isAccept]⟩
    have unopposed := ((tallied.accounted rank).complete decided).2.2.1 rfl
    omega

/-- What was denied another process has rejected. -/
theorem rejected_of_denied {system : PeerSystem} (tallied : system.network.Tallied) {rank : Rank}
    {number : Nat} {envelope : Bytes}
    (decided : (number, false, envelope) ∈ system.network.decisions rank) :
    ∃ voter ∈ system.bus.everyoneElse rank,
      system.judgedUnder voter rank number = [(envelope, .reject)] := by
  obtain ⟨offered, _, unanimous⟩ := (tallied.accounted rank).complete decided
  have opposed : system.network.tally rank number false ≠ 0 := by
    intro none
    cases unanimous.2 none
  obtain ⟨⟨voter, cast⟩, member, named⟩ := List.countP_pos_iff.1 (Nat.pos_of_ne_zero opposed)
  cases of_decide_eq_true named
  have linked := tallied.lawful.linked_of_vote member
  refine ⟨voter, (Bus.mem_everyoneElse tallied.lawful.sound).2 ⟨linked.1, linked.2.2⟩, ?_⟩
  exact @judgedUnder_of_vote system tallied.toNumbered rank voter number envelope .reject
    offered member

/-- Where the ballots are accounted for, every own ballot stands for its votes. -/
theorem unanimous {system : PeerSystem} (tallied : system.network.Tallied) {rank : Rank}
    {ballot : Ballot} (found : (system.peers rank).ballot = some ballot) :
    system.Unanimous rank ballot := by
  have account := tallied.accounted rank
  obtain ⟨_, offered⟩ := account.current found
  obtain ⟨yesCount, noCount⟩ := account.counted found
  have voted : ∀ {voter verdict}, (voter, ballot.number, Verdict.isAccept verdict) ∈
      system.network.votes rank →
        system.judgedUnder voter rank ballot.number = [(ballot.envelope, verdict)] :=
    fun cast => judgedUnder_of_vote tallied.toNumbered offered cast
  exact {
    submitted := by
      rw [submittedUnder, Network.filter_eq_singleton (tallied.offers_nodup rank) offered]
      rfl
    counted := by
      refine ⟨system.castFor rank ballot.number true, system.castFor rank ballot.number false,
        ?_, ?_, ?_, ?_, ?_, ?_⟩
      · exact (system.perm_castFor rank ballot.number).nodup_iff.2
          (tallied.voters_nodup rank ballot.number)
      · intro voter member
        exact tallied.voters_subset rank ballot.number
          ((system.perm_castFor rank ballot.number).mem_iff.1 member)
      · rw [length_castFor, yesCount]
      · rw [length_castFor, noCount]
      · intro voter member
        exact @voted voter .accept (mem_castFor.1 member)
      · intro voter member
        exact @voted voter .reject (mem_castFor.1 member)
    approved := by
      intro status voter other
      rcases account.concluded found (by rw [status]; simp) with ⟨_, decided⟩ | ⟨denied, _⟩
      · exact accepted_of_approved tallied decided other
      · rw [status] at denied
        cases denied
    denied := by
      intro status
      rcases account.concluded found (by rw [status]; simp) with ⟨approved, _⟩ | ⟨_, decided⟩
      · rw [status] at approved
        cases approved
      · refine ⟨fun voter other => ?_, rejected_of_denied tallied decided⟩
        obtain ⟨verdict, _, judged⟩ := judged_of_decided tallied decided other
        exact ⟨verdict, judged⟩ }

/-- A decided ballot that is still there later has been decided in the same way. -/
theorem status_stable {system later : PeerSystem} (tallied : system.network.Tallied)
    (steps : Network.Reaches system.network later.network) {rank : Rank} {ballot kept : Ballot}
    (found : (system.peers rank).ballot = some ballot) (ended : ballot.status ≠ .inProgress)
    (stillFound : (later.peers rank).ballot = some kept) (same : kept.number = ballot.number) :
    kept.status = ballot.status := by
  have talliedLater := tallied.reaches steps
  have account := talliedLater.accounted rank
  have once : ((later.network.decisions rank).map Prod.fst).Nodup :=
    account.ascending.imp fun earlier => Nat.ne_of_lt earlier
  have remembered : ∀ {approved}, (ballot.number, approved, ballot.envelope) ∈
      system.network.decisions rank →
        (ballot.number, approved, ballot.envelope) ∈ later.network.decisions rank := by
    intro approved decided
    exact ((history_of_reaches steps).filterMap _).subset decided
  have decided : ∃ approved, (ballot.number, approved, ballot.envelope) ∈
      later.network.decisions rank ∧
        ballot.status = if approved then .approved else .denied := by
    rcases (tallied.accounted rank).concluded found ended with ⟨status, decided⟩ | ⟨status, decided⟩
    · exact ⟨true, remembered decided, status⟩
    · exact ⟨false, remembered decided, status⟩
  obtain ⟨approved, decided, status⟩ := decided
  have notRunning : kept.status ≠ .inProgress := by
    intro running
    have earlier := account.underway stillFound running _ decided
    rw [same] at earlier
    exact Nat.lt_irrefl _ earlier
  have agree : ∀ {outcome}, (kept.number, outcome, kept.envelope) ∈
      later.network.decisions rank → outcome = approved := by
    intro outcome known
    have equal := List.inj_on_of_nodup_map once known decided same
    exact congrArg (fun decision => decision.2.1) equal
  rcases account.concluded stillFound notRunning with ⟨keptStatus, known⟩ | ⟨keptStatus, known⟩
  · rw [keptStatus, status, ← agree known]
    rfl
  · rw [keptStatus, status, ← agree known]
    rfl

/-- A process sends each other process at most one decision on a ballot. -/
theorem told_at_most_once {system : PeerSystem} (tallied : system.network.Tallied)
    (rank receiver : Rank) (number : Nat) :
    (system.toldUnder rank receiver number).length ≤ 1 := by
  by_cases linked : system.network.Linked rank receiver
  · have front : (system.network.sentOn rank receiver).filterMap Message.decision? <+:
        system.network.decisions rank := by
      rw [← Network.decisions_written system.network rank receiver,
        tallied.lawful.scripted linked, List.filterMap_append]
      exact List.prefix_append _ _
    have once : (((system.network.sentOn rank receiver).filterMap Message.decision?).map
        Prod.fst).Nodup := by
      have ascending := (tallied.accounted rank).ascending.sublist (front.map Prod.fst).sublist
      exact ascending.imp fun earlier => Nat.ne_of_lt earlier
    cases told : system.toldUnder rank receiver number with
    | nil => exact Nat.zero_le _
    | cons decision rest =>
      have member : decision ∈ system.toldUnder rank receiver number := by
        rw [told]
        exact List.mem_cons_self
      obtain ⟨inSent, named⟩ := List.mem_filter.1 member
      have about : decision.1 = number := of_decide_eq_true named
      have single := Network.filter_eq_singleton once inSent
      rw [about] at single
      rw [← told, toldUnder, single]
      exact Nat.le_refl 1
  · have none : system.network.sentOn rank receiver = [] := by
      apply List.eq_nil_iff_forall_not_mem.2
      intro message sent
      exact linked (tallied.lawful.routed sent)
    rw [toldUnder, none]
    exact Nat.zero_le 1

/-- Whatever calls are made in whatever order, an own ballot that is approved was accepted by
every other process, one that is denied was rejected by some, votes are only counted for the
ballot that they were cast on, a decision stays, and nobody is told of it twice. -/
theorem vote_unanimity {worldSize : Nat} {clock : Clock} {seed : Seed} {jitter : Jitter}
    {system later : PeerSystem} (reached : Reaches (opening worldSize clock seed jitter) system)
    (continued : Reaches system later) (rank : Rank) :
    (∀ ballot, (system.peers rank).ballot = some ballot →
      system.Unanimous rank ballot ∧
      (ballot.status ≠ .inProgress → ∀ kept, (later.peers rank).ballot = some kept →
        kept.number = ballot.number → kept.status = ballot.status)) ∧
    ∀ receiver number, (system.toldUnder rank receiver number).length ≤ 1 := by
  have started : (opening worldSize clock seed jitter).network.Tallied :=
    Network.Tallied.opening worldSize clock seed jitter
  have tallied : system.network.Tallied := started.reaches (reached.network started.lawful)
  have steps := continued.network tallied.lawful
  refine ⟨?_, told_at_most_once tallied rank⟩
  intro ballot found
  refine ⟨unanimous tallied found, ?_⟩
  intro ended kept stillFound same
  exact status_stable tallied steps found ended stillFound same

/-- A judge that accepts everything. -/
def acceptAll : Judge :=
  ⟨fun clock _ => (.accept, clock)⟩

/-- Two processes, of which the first has got an envelope approved. -/
def pair : PeerSystem :=
  ((((opening 2 (.startingAt .zero) .standard .none).call acceptAll ⟨0⟩
    (.submitVote ⟨0⟩ [7])).call acceptAll ⟨1⟩ .progress).call acceptAll ⟨0⟩ .progress)

/-- The run of the witness, in which the second process votes yes. -/
theorem reaches_pair : Reaches (opening 2 (.startingAt .zero) .standard .none) pair :=
  .step (.step (.step .refl (.call acceptAll ⟨0⟩ _ (by decide)))
    (.call acceptAll ⟨1⟩ _ (by decide))) (.call acceptAll ⟨0⟩ _ (by decide))

/-- A ballot of two processes that the other has judged acceptable. -/
theorem vote_unanimity_pair :
    Reaches (opening 2 (.startingAt .zero) .standard .none) pair ∧
      (pair.peers ⟨0⟩).ballot = some ⟨⟨0⟩, 1, [7], 1, 0, .approved⟩ ∧
      pair.judgedUnder ⟨1⟩ ⟨0⟩ 1 = [([7], .accept)] := by
  have found : (pair.peers ⟨0⟩).ballot = some ⟨⟨0⟩, 1, [7], 1, 0, .approved⟩ := by decide
  refine ⟨reaches_pair, found, ?_⟩
  exact ((vote_unanimity reaches_pair .refl ⟨0⟩).1 _ found).1.approved rfl ⟨1⟩ (by decide)

end PeerSystem

end Concord
