import Concord.Proofs.Checkout
import Concord.Proofs.Unanimity

/-!
# Surfacing

A process issues an envelope when it announces it or gets it approved. An issue names the
process and the ballot beside the envelope, so that two submissions of the same bytes are two
issues. `PeerSystem.Faithful` says what surfaces at a process: of every other process the readable
issues, each once and in their order, and nothing else. A ballot that is over without approval
stays over: nothing surfaces under its number, however long the peers go on.
-/

namespace Concord

/-- An envelope that a process hands to everybody else. -/
structure Issue where
  origin : Rank
  /-- The ballot in which it was approved; there is none if it was announced. -/
  ballot : Option Nat
  envelope : Bytes
deriving DecidableEq

/-- Whether an issue is of an envelope at all. -/
def Issue.isReadable (issue : Issue) : Bool :=
  Envelope.isReadable issue.envelope

/-- The issue that a message of a process brings. -/
def Message.issue? (sender : Rank) : Message → Option Issue
  | .decision _ number approved envelope =>
    if approved then some ⟨sender, some number, envelope⟩ else none
  | .broadcast _ envelope => some ⟨sender, none, envelope⟩
  | _ => none

namespace Event

/-- The issue that an event is at a process. -/
def issueOf? (process : Rank) : Event → Option Issue
  | .announced rank envelope => if rank = process then some ⟨process, none, envelope⟩ else none
  | .decided rank number approved envelope =>
    if rank = process ∧ approved = true then some ⟨process, some number, envelope⟩ else none
  | _ => none

/-- The issue that an event makes surface at a process. -/
def arrivalAt? (process : Rank) : Event → Option Issue
  | .handled receiver sender message =>
    if receiver = process then (message.issue? sender).filter Issue.isReadable else none
  | _ => none

end Event

namespace Network

/-- What a process has issued. -/
def issues (network : Network) (rank : Rank) : List Issue :=
  network.history.filterMap (Event.issueOf? rank)

/-- What has surfaced at a process. -/
def arrivals (network : Network) (rank : Rank) : List Issue :=
  network.history.filterMap (Event.arrivalAt? rank)

/-- What has surfaced at a process because of another. -/
def arrivalsFrom (network : Network) (sender receiver : Rank) : List Issue :=
  (network.arrivals receiver).filter fun issue => decide (issue.origin = sender)

/-! ## From an issue to what surfaces -/

/-- Among what a process writes to another are all its issues. -/
theorem issues_written (network : Network) (sender receiver : Rank) :
    (network.written sender receiver).filterMap (Message.issue? sender) =
      network.issues sender := by
  simp only [written, issues, List.filterMap_filterMap]
  apply List.filterMap_congr
  intro event _
  cases event with
  | decided rank number approved envelope =>
    by_cases own : rank = sender <;> cases approved <;>
      simp [Event.written?, Event.issueOf?, Message.issue?, own]
  | offered rank number envelope =>
    by_cases own : rank = sender <;>
      simp [Event.written?, Event.issueOf?, Message.issue?, own]
  | announced rank envelope =>
    by_cases own : rank = sender <;>
      simp [Event.written?, Event.issueOf?, Message.issue?, own]
  | judged voter origin number envelope verdict =>
    by_cases own : voter = sender ∧ origin = receiver <;>
      simp [Event.written?, Event.issueOf?, Message.issue?, own]
  | _ => rfl

/-- An issue comes from the process that has sent its message. -/
theorem origin_of_issue? {sender : Rank} {message : Message} {issue : Issue}
    (brought : message.issue? sender = some issue) : issue.origin = sender := by
  cases message with
  | decision origin number approved envelope =>
    simp only [Message.issue?] at brought
    split at brought <;> cases brought
    rfl
  | broadcast origin envelope =>
    cases brought
    rfl
  | _ => cases brought

/-- What surfaces because of a process are the readable issues among what its link brought. -/
theorem arrivalsFrom_eq (network : Network) (sender receiver : Rank) :
    network.arrivalsFrom sender receiver =
      ((network.handledFrom sender receiver).filterMap (Message.issue? sender)).filter
        Issue.isReadable := by
  simp only [arrivalsFrom, arrivals, handledFrom, List.filter_filterMap,
    List.filterMap_filterMap]
  apply List.filterMap_congr
  intro event _
  cases event with
  | handled target source message =>
    by_cases there : target = receiver
    · cases brought : message.issue? source with
      | none =>
        by_cases own : source = sender
        · subst own
          simp [Event.arrivalAt?, Event.handledFrom?, there, brought]
        · simp [Event.arrivalAt?, Event.handledFrom?, there, brought, own]
      | some issue =>
        have origin := origin_of_issue? brought
        by_cases own : source = sender
        · subst own
          by_cases readable : issue.isReadable = true <;>
            simp [Event.arrivalAt?, Event.handledFrom?, there, brought, Option.filter, origin,
              readable]
        · by_cases readable : issue.isReadable = true <;>
            simp [Event.arrivalAt?, Event.handledFrom?, there, brought, Option.filter, origin,
              readable, own]
    · simp [Event.arrivalAt?, Event.handledFrom?, there]
  | _ => rfl

/-- The envelopes of what has surfaced are what has reached the process for checkout. -/
theorem envelopes_arrivals (network : Network) (rank : Rank) :
    (network.arrivals rank).map Issue.envelope = network.surfaced rank := by
  simp only [arrivals, surfaced, List.map_filterMap]
  apply List.filterMap_congr
  intro event _
  cases event with
  | handled receiver sender message =>
    have same : (fun envelope => (Envelope.decode envelope).toBool) = Envelope.isReadable := rfl
    simp only [Event.arrivalAt?, Event.surfacedAt?, same]
    by_cases there : receiver = rank
    · simp only [there, if_true]
      cases message with
      | decision origin number approved envelope =>
        cases approved <;> by_cases readable : Envelope.isReadable envelope = true <;>
          simp [Message.issue?, Message.carried?, Option.filter, Issue.isReadable, readable]
      | broadcast origin envelope =>
        by_cases readable : Envelope.isReadable envelope = true <;>
          simp [Message.issue?, Message.carried?, Option.filter, Issue.isReadable, readable]
      | _ => rfl
    · simp [there]
  | _ => rfl

/-- What a process has issued has surfaced at another or is on its way there. -/
theorem Lawful.issues_split {network : Network} (lawful : network.Lawful)
    {sender receiver : Rank} (linked : network.Linked sender receiver) :
    (network.issues sender).filter Issue.isReadable =
      network.arrivalsFrom sender receiver ++
        ((network.inFlight sender receiver).filterMap (Message.issue? sender)).filter
          Issue.isReadable := by
  rw [← issues_written network sender receiver, lawful.pipeline linked, List.filterMap_append,
    List.filter_append, arrivalsFrom_eq]

/-- Nothing surfaces but over a link. -/
theorem Lawful.linked_of_arrival {network : Network} (lawful : network.Lawful)
    {receiver : Rank} {issue : Issue} (arrived : issue ∈ network.arrivals receiver) :
    network.Linked issue.origin receiver := by
  have own : issue ∈ network.arrivalsFrom issue.origin receiver :=
    List.mem_filter.2 ⟨arrived, by simp⟩
  rw [arrivalsFrom_eq] at own
  obtain ⟨message, handled, _⟩ := List.mem_filterMap.1 (List.mem_of_mem_filter own)
  exact lawful.linked_of_handled handled

/-- Nothing surfaces but what was issued and can be read. -/
theorem Lawful.issued_of_arrival {network : Network} (lawful : network.Lawful)
    {receiver : Rank} {issue : Issue} (arrived : issue ∈ network.arrivals receiver) :
    issue ∈ network.issues issue.origin ∧ issue.isReadable = true := by
  have own : issue ∈ network.arrivalsFrom issue.origin receiver :=
    List.mem_filter.2 ⟨arrived, by simp⟩
  have front := lawful.issues_split (lawful.linked_of_arrival arrived)
  have issued : issue ∈ (network.issues issue.origin).filter Issue.isReadable := by
    rw [front]
    exact List.mem_append_left _ own
  exact List.mem_filter.1 issued

/-- What surfaces because of a process is among its issues, no more often and in their order. -/
theorem Lawful.arrivalsFrom_sublist {network : Network} (lawful : network.Lawful)
    (sender receiver : Rank) :
    (network.arrivalsFrom sender receiver).Sublist (network.issues sender) := by
  by_cases linked : network.Linked sender receiver
  · have front : network.arrivalsFrom sender receiver <+:
        (network.issues sender).filter Issue.isReadable := by
      rw [lawful.issues_split linked]
      exact List.prefix_append _ _
    exact front.sublist.trans List.filter_sublist
  · have none : network.arrivalsFrom sender receiver = [] := by
      apply List.filter_eq_nil_iff.2
      intro issue arrived own
      apply linked
      rw [← of_decide_eq_true own]
      exact lawful.linked_of_arrival arrived
    rw [none]
    exact List.nil_sublist _

/-! ## Issues and ballots -/

/-- The ballots under which a process has issued are those that it has decided to approve. -/
theorem mem_issues {network : Network} {rank : Rank} {number : Nat} {envelope : Bytes} :
    ⟨rank, some number, envelope⟩ ∈ network.issues rank ↔
      (number, true, envelope) ∈ network.decisions rank := by
  simp only [issues, decisions, List.mem_filterMap]
  constructor
  · rintro ⟨event, member, found⟩
    refine ⟨event, member, ?_⟩
    cases event <;> simp_all [Event.issueOf?, Event.decidedBy?]
  · rintro ⟨event, member, found⟩
    refine ⟨event, member, ?_⟩
    cases event <;> simp_all [Event.issueOf?, Event.decidedBy?]

/-- The issues of a process that stem from ballots are its approvals, in their order. -/
theorem ballots_issued (network : Network) (rank : Rank) :
    (network.issues rank).filterMap Issue.ballot =
      ((network.decisions rank).filter fun decision => decision.2.1).map Prod.fst := by
  simp only [issues, decisions, List.filterMap_filterMap, List.filter_filterMap,
    List.map_filterMap]
  apply List.filterMap_congr
  intro event _
  cases event with
  | decided process number approved envelope =>
    by_cases own : process = rank <;> cases approved <;>
      simp [Event.issueOf?, Event.decidedBy?, Option.filter, own]
  | announced process envelope =>
    by_cases own : process = rank <;> simp [Event.issueOf?, Event.decidedBy?, own]
  | _ => rfl

/-- A process issues at most once under a ballot. -/
theorem Accounted.ballots_nodup {network : Network} {rank : Rank}
    (account : network.Accounted rank) :
    ((network.issues rank).filterMap Issue.ballot).Nodup := by
  rw [ballots_issued]
  have distinct : ((network.decisions rank).map Prod.fst).Nodup :=
    account.ascending.imp fun earlier => Nat.ne_of_lt earlier
  exact distinct.sublist (List.filter_sublist.map Prod.fst)

/-- A ballot of which the decision is known to be approval stands approved. -/
theorem Accounted.approved_of_decided {network : Network} {rank : Rank}
    (account : network.Accounted rank) {ballot : Ballot} {envelope : Bytes}
    (found : (network.stations rank).peer.ballot = some ballot)
    (decided : (ballot.number, true, envelope) ∈ network.decisions rank) :
    ballot.status = .approved := by
  have ended : ballot.status ≠ .inProgress := fun running =>
    Nat.lt_irrefl _ (account.underway found running _ decided)
  have once : ((network.decisions rank).map Prod.fst).Nodup :=
    account.ascending.imp fun earlier => Nat.ne_of_lt earlier
  rcases account.concluded found ended with ⟨approved, _⟩ | ⟨_, denied⟩
  · exact approved
  · cases List.inj_on_of_nodup_map once decided denied rfl

/-- The own ballot stands approved exactly if its envelope was issued under its number. -/
theorem Accounted.approved_iff {network : Network} {rank : Rank}
    (account : network.Accounted rank) {ballot : Ballot}
    (found : (network.stations rank).peer.ballot = some ballot) :
    ballot.status = .approved ↔
      ⟨rank, some ballot.number, ballot.envelope⟩ ∈ network.issues rank := by
  rw [mem_issues]
  constructor
  · intro approved
    rcases account.concluded found (by rw [approved]; simp) with ⟨_, decided⟩ | ⟨denied, _⟩
    · exact decided
    · rw [approved] at denied
      cases denied
  · exact account.approved_of_decided found

/-! ## Ballots that are over -/

/-- Whether a ballot was held and is no longer under way. -/
def Over (network : Network) (rank : Rank) (number : Nat) : Prop :=
  number ≤ (network.stations rank).peer.ballotsHeld ∧
    ∀ ballot, (network.stations rank).peer.ballot = some ballot →
      ballot.status = .inProgress → ballot.number ≠ number

/-- Whether a ballot is over later and has got no decision that it did not have. -/
def StaysOver (network after : Network) (rank : Rank) (number : Nat) : Prop :=
  after.Over rank number ∧ ∀ decision ∈ after.decisions rank, decision.1 = number →
    decision ∈ network.decisions rank

/-- A vote under way is the only one that a message can decide, so acting on a message ends no
ballot that is over. -/
theorem Over.handle {network : Network} (lawful : network.Lawful) {rank : Rank} {number : Nat}
    (isOver : network.Over rank number) (judge : Judge) (actor sender : Rank) (message : Message)
    (rest : List (Rank × Message)) :
    network.StaysOver (network.handle judge actor sender message rest) rank number := by
  obtain ⟨held, ended⟩ := isOver
  rw [StaysOver, Over, stations_handle_ballotsHeld, decisions_handle lawful]
  by_cases own : actor = rank
  · subst own
    rw [stations_handle_self, if_pos rfl, Station.handle]
    cases cast : message.vote? with
    | none =>
      rw [Peer.ballot_handle_of_not_vote judge _ _ cast]
      refine ⟨⟨held, ended⟩, ?_⟩
      intro decision decided _
      simpa using decided
    | some vote =>
      cases message <;> simp only [Message.vote?, reduceCtorEq] at cast
      next voter named yes =>
      cases cast
      simp only [Option.bind_some]
      rcases Peer.vote_cases judge network.bus (network.stations actor).peer voter named yes with
        ⟨_, undecided, same⟩ | ⟨ballot, found, about, running, counted⟩
      · rw [undecided, same]
        refine ⟨⟨held, ended⟩, ?_⟩
        intro decision decided _
        simpa using decided
      · have apart : named ≠ number := about ▸ ended ballot found running
        rcases counted with ⟨_, undecided, changed⟩ | ⟨_, decided, changed⟩
        · rw [undecided, changed]
          refine ⟨⟨held, ?_⟩, ?_⟩
          · rintro other same _
            cases same
            rw [Peer.addVote_number, about]
            exact apart
          · intro decision decided _
            simpa using decided
        · rw [decided, changed]
          refine ⟨⟨held, ?_⟩, ?_⟩
          · rintro other same _
            cases same
            simp only [Peer.addVote_number, about]
            exact apart
          · intro decision member same
            rcases List.mem_append.1 member with earlier | now
            · exact earlier
            · rw [Option.map_some, Option.toList_some, List.mem_singleton] at now
              rw [now] at same
              exact absurd same apart
  · rw [stations_handle_of_ne network fun same => own same.symm, if_neg own, List.append_nil]
    exact ⟨⟨held, ended⟩, fun _ decided _ => decided⟩

/-- A new ballot gets a new number, so taking on a request reopens no ballot that is over. -/
theorem Over.serve {network : Network} (lawful : network.Lawful) {rank : Rank} {number : Nat}
    (isOver : network.Over rank number) (actor : Rank) (request : Request) :
    network.StaysOver (network.serve actor request) rank number := by
  obtain ⟨held, ended⟩ := isOver
  rcases offer_or_not (network.stations actor).peer request with
    ⟨id, envelope, rfl, accepts⟩ | other
  · rw [StaysOver, Over, lawful.decisions_offer accepts]
    by_cases own : rank = actor
    · subst own
      rw [peer_offer accepts]
      refine ⟨⟨Nat.le_succ_of_le held, ?_⟩, ?_⟩
      · rintro ballot same _
        cases same
        show (network.stations rank).peer.ballotsHeld + 1 ≠ number
        omega
      · intro decision member same
        rcases List.mem_append.1 member with earlier | now
        · exact earlier
        · split at now
          · have fresh := congrArg Prod.fst (List.mem_singleton.1 now)
            omega
          · cases now
    · rw [stations_serve_of_ne network own, if_neg fun both => own both.1.symm, List.append_nil]
      exact ⟨⟨held, ended⟩, fun _ decided _ => decided⟩
  · obtain ⟨sameHeld, kept⟩ :=
      ballot_serve_of_not_offer network.bus (network.stations actor) other
    rw [StaysOver, Over, decisions_serve_of_not_offer other]
    refine ⟨?_, fun _ decided _ => decided⟩
    by_cases own : rank = actor
    · subst own
      rw [stations_serve_self, sameHeld]
      exact ⟨held, fun ballot found => ended ballot (kept ballot found)⟩
    · rw [stations_serve_of_ne network own]
      exact ⟨held, ended⟩

/-- A ballot that is over stays over, and no step decides it. -/
theorem Over.step {network after : Network} (lawful : network.Lawful) {rank : Rank}
    {number : Nat} (isOver : network.Over rank number) (next : Step network after) :
    network.StaysOver after rank number := by
  cases next with
  | time clock => exact ⟨isOver, fun _ decided _ => decided⟩
  | @send actor receiver message rest next =>
    have decisions : (network.send actor receiver message rest).decisions rank =
        network.decisions rank := by
      simp [Network.decisions, Network.send, Event.decidedBy?]
    rw [StaysOver, decisions, Over, peer_send]
    exact ⟨isOver, fun _ decided _ => decided⟩
  | handle judge quiet next => exact isOver.handle lawful judge _ _ _ _
  | serve actor request joined idle => exact isOver.serve lawful actor request

/-- However long the network goes on, a ballot that is over gets no decision it did not have. -/
theorem Over.reaches {network after : Network} (lawful : network.Lawful) {rank : Rank}
    {number : Nat} (isOver : network.Over rank number) (steps : Reaches network after) :
    network.StaysOver after rank number := by
  induction steps with
  | refl => exact ⟨isOver, fun _ decided _ => decided⟩
  | step prior next inductionHypothesis =>
    obtain ⟨still, before⟩ := inductionHypothesis
    obtain ⟨after, now⟩ := still.step (lawful.reaches prior) next
    refine ⟨after, ?_⟩
    intro decision decided same
    exact before decision (now decision decided same) same

end Network

namespace PeerSystem

/-- How issues surface at a process. -/
structure Faithful (system : PeerSystem) (receiver : Rank) : Prop where
  /-- What has surfaced has been checked out or waits to be, in its order. -/
  kept : (system.network.arrivals receiver).map Issue.envelope =
    system.network.collected receiver ++ (system.peers receiver).approved
  /-- Everything that has surfaced is a readable issue of another process. -/
  issued : ∀ issue ∈ system.network.arrivals receiver,
    issue.origin ≠ receiver ∧ issue ∈ system.network.issues issue.origin ∧
      issue.isReadable = true
  /-- What was approved in a ballot is what was submitted under its number. -/
  submitted : ∀ issue ∈ system.network.arrivals receiver, ∀ number,
    issue.ballot = some number → system.submittedUnder issue.origin number = [issue.envelope]
  inTurn : ∀ sender, system.bus.Joined sender → system.bus.Joined receiver →
    sender ≠ receiver → system.network.arrivalsFrom sender receiver <+:
      (system.network.issues sender).filter Issue.isReadable
  /-- Nothing is missing once everything that was sent has been polled. -/
  whole : ∀ sender, system.bus.Joined sender → system.bus.Joined receiver →
    sender ≠ receiver → system.bus.waiting sender receiver = [] →
      system.network.arrivalsFrom sender receiver =
        (system.network.issues sender).filter Issue.isReadable
  once : ∀ issue, (system.network.arrivals receiver).count issue ≤
    (system.network.issues issue.origin).count issue
  onceForBallot : ∀ sender number, ((system.network.arrivals receiver).countP fun issue =>
    decide (issue.origin = sender) && decide (issue.ballot = some number)) ≤ 1

/-- Whether nothing has surfaced anywhere under a ballot of a process. -/
def Silent (system : PeerSystem) (rank : Rank) (number : Nat) : Prop :=
  ∀ receiver, ∀ issue ∈ system.network.arrivals receiver,
    issue.origin = rank → issue.ballot ≠ some number

/-- Where peers rest, the messages in flight are those that wait on the bus. -/
theorem inFlight_network (system : PeerSystem) (sender receiver : Rank) :
    system.network.inFlight sender receiver =
      (system.bus.waiting sender receiver).map Packet.message := by
  simp [Network.inFlight, network, Station.resting]

/-- Where the ballots are accounted for, issues surface faithfully. -/
theorem faithful {system : PeerSystem} (tallied : system.network.Tallied)
    (keeping : system.network.Kept) (receiver : Rank) : system.Faithful receiver where
  kept := by
    rw [Network.envelopes_arrivals]
    exact keeping receiver
  issued := by
    intro issue arrived
    exact ⟨(tallied.lawful.linked_of_arrival arrived).2.2,
      tallied.lawful.issued_of_arrival arrived⟩
  submitted := by
    intro issue arrived number under
    obtain ⟨origin, ballot, envelope⟩ := issue
    cases under
    have decided := Network.mem_issues.1 (tallied.lawful.issued_of_arrival arrived).1
    have offered := ((tallied.accounted origin).complete decided).1
    rw [submittedUnder, Network.filter_eq_singleton (tallied.offers_nodup origin) offered]
    rfl
  inTurn := by
    intro sender there here apart
    rw [tallied.lawful.issues_split ⟨there, here, apart⟩]
    exact List.prefix_append _ _
  whole := by
    intro sender there here apart polled
    rw [tallied.lawful.issues_split ⟨there, here, apart⟩, inFlight_network, polled]
    exact (List.append_nil _).symm
  once := by
    intro issue
    have own : (system.network.arrivalsFrom issue.origin receiver).count issue =
        (system.network.arrivals receiver).count issue :=
      List.count_filter (by simp)
    rw [← own]
    exact (tallied.lawful.arrivalsFrom_sublist issue.origin receiver).count_le issue
  onceForBallot := by
    intro sender number
    have distinct := (tallied.accounted sender).ballots_nodup.sublist
      ((tallied.lawful.arrivalsFrom_sublist sender receiver).filterMap Issue.ballot)
    have once := List.nodup_iff_count_le_one.1 distinct number
    rw [Network.arrivalsFrom, List.count, List.countP_filterMap, List.countP_filter] at once
    refine Nat.le_trans (List.countP_mono_left ?_) once
    intro issue _ under
    simp_all

/-- What surfaces under a ballot number was approved under it. -/
theorem silent_of_undecided {system : PeerSystem} (lawful : system.network.Lawful) {rank : Rank}
    {number : Nat}
    (undecided : ∀ envelope, (number, true, envelope) ∉ system.network.decisions rank) :
    system.Silent rank number := by
  rintro receiver ⟨origin, ballot, envelope⟩ arrived own under
  cases own
  cases under
  exact undecided envelope (Network.mem_issues.1 (lawful.issued_of_arrival arrived).1)

/-- Nothing ever surfaces under a ballot that is over without approval. -/
theorem silent_of_over {system later : PeerSystem} (lawful : system.network.Lawful)
    {rank : Rank} {number : Nat} (isOver : system.network.Over rank number)
    (undecided : ∀ envelope, (number, true, envelope) ∉ system.network.decisions rank)
    (steps : Network.Reaches system.network later.network) : later.Silent rank number := by
  apply silent_of_undecided (lawful.reaches steps)
  intro envelope decided
  exact undecided envelope ((isOver.reaches lawful steps).2 _ decided rfl)

/-- Giving up a ballot decides nothing, and the ballot is over. -/
theorem staysOver_release {system : PeerSystem} (tallied : system.network.Tallied) (judge : Judge)
    {rank : Rank} {ballot : Ballot} (found : (system.peers rank).ballot = some ballot) :
    system.network.StaysOver (system.call judge rank .release).network rank ballot.number := by
  have held := ((tallied.accounted rank).current found).1
  rw [Network.StaysOver, call, network_put, Network.Over, Network.put_stations, if_pos rfl,
    Network.decisions, Network.put_history, List.append_nil]
  refine ⟨⟨Nat.le_of_eq held, ?_⟩, fun _ decided _ => decided⟩
  intro other same
  cases same

/-- Whatever calls are made in whatever order, what surfaces at a process because of another
are the readable issues of that one in their order, all of them once everything has been polled;
an approved ballot is an issue, and one that is under way, denied or given up is none. -/
theorem exactly_once_surfacing {worldSize : Nat} {clock : Clock} {seed : Seed} {jitter : Jitter}
    {system later : PeerSystem} (reached : Reaches (opening worldSize clock seed jitter) system)
    (continued : Reaches system later) (rank : Rank) :
    system.Faithful rank ∧
    ∀ ballot, (system.peers rank).ballot = some ballot →
      (ballot.status = .approved ↔
        ⟨rank, some ballot.number, ballot.envelope⟩ ∈ system.network.issues rank) ∧
      (ballot.status ≠ .approved → system.Silent rank ballot.number) ∧
      (ballot.status = .denied → later.Silent rank ballot.number) ∧
      (ballot.status = .inProgress → ∀ judge final,
        Reaches (system.call judge rank .release) final → final.Silent rank ballot.number) := by
  have started : (opening worldSize clock seed jitter).network.Tallied :=
    Network.Tallied.opening worldSize clock seed jitter
  have steps := reached.network started.lawful
  have tallied : system.network.Tallied := started.reaches steps
  have keeping : system.network.Kept :=
    (Network.Kept.opening worldSize clock seed jitter).reaches started.lawful steps
  refine ⟨faithful tallied keeping rank, ?_⟩
  intro ballot found
  have account := tallied.accounted rank
  have undecided : ballot.status ≠ .approved → ∀ envelope,
      (ballot.number, true, envelope) ∉ system.network.decisions rank :=
    fun unapproved _ decided => unapproved (account.approved_of_decided found decided)
  refine ⟨account.approved_iff found, ?_, ?_, ?_⟩
  · intro unapproved
    exact silent_of_undecided tallied.lawful (undecided unapproved)
  · intro denied
    have isOver : system.network.Over rank ballot.number := by
      refine ⟨Nat.le_of_eq (account.current found).1, ?_⟩
      intro other same running
      cases found.symm.trans same
      rw [denied] at running
      cases running
    apply silent_of_over tallied.lawful isOver (undecided (by rw [denied]; simp))
    exact continued.network tallied.lawful
  · intro running judge final ongoing
    have joined : system.bus.Joined rank :=
      tallied.present (List.ne_nil_of_mem (account.current found).2)
    have lawful : (system.call judge rank .release).network.Lawful :=
      tallied.lawful.reaches
        (system.reaches_call judge .release joined (tallied.lawful.named rank))
    obtain ⟨isOver, same⟩ := staysOver_release tallied judge found
    apply silent_of_over lawful isOver _ (ongoing.network lawful)
    intro envelope decided
    exact undecided (by rw [running]; simp) envelope (same _ decided rfl)

/-- Two processes, of which the first has got an envelope approved that has reached the second. -/
def approvedShared : PeerSystem :=
  (((((opening 2 (.startingAt .zero) .standard .none).call acceptAll ⟨0⟩
    (.submitVote ⟨0⟩ (Envelope.encode default))).call
      acceptAll ⟨1⟩ .progress).call acceptAll ⟨0⟩ .progress).call acceptAll ⟨1⟩ .progress)

/-- The run of the witness, whose only ballot is approved. -/
theorem reaches_approvedShared :
    Reaches (opening 2 (.startingAt .zero) .standard .none) approvedShared :=
  .step (.step (.step (.step .refl (.call acceptAll ⟨0⟩ _ (by decide)))
    (.call acceptAll ⟨1⟩ _ (by decide))) (.call acceptAll ⟨0⟩ _ (by decide)))
      (.call acceptAll ⟨1⟩ _ (by decide))

/-- Of two processes the one has surfaced the ballot that the other got approved. -/
theorem exactly_once_surfacing_pair :
    Reaches (opening 2 (.startingAt .zero) .standard .none) approvedShared ∧
      approvedShared.network.arrivalsFrom ⟨0⟩ ⟨1⟩ =
        [⟨⟨0⟩, some 1, Envelope.encode default⟩] ∧
      (approvedShared.peers ⟨1⟩).approved = [Envelope.encode default] := by
  have faithful := (exactly_once_surfacing reaches_approvedShared .refl ⟨1⟩).1
  have arrived := faithful.whole ⟨0⟩ (by decide) (by decide) (by decide) (by decide)
  refine ⟨reaches_approvedShared, ?_, by decide⟩
  rw [arrived]
  decide

end PeerSystem

end Concord
