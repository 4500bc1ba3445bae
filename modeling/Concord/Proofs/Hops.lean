import Concord.Proofs.Delays
import Concord.Proofs.Surfacing
import Concord.Simulation.Config

/-!
# Hops

What is sent is due within the largest delay of the bus, however much it shares its link with:
a message that waits for the one ahead of it waits for one that is due in time as well. So where
the clock waits for every message that is due, each hop takes at most that delay. A vote takes
three of them, as the envelope goes out, the votes come back and the decision goes out; an
announcement takes one. Settings are accepted exactly if the window is longer than that.
-/

namespace Concord

/-! ## What happens in no time -/

namespace Bus

/-- Whether nothing that waits is overdue. -/
def NotOverdue (bus : Bus) : Prop :=
  ∀ receiver, ∀ packet ∈ bus.arriving receiver, bus.clock.time ≤ packet.deliverAt

/-- A call on a peer moves no clock that stands still, and makes nothing late or overdue. -/
structure Instant (bus after : Bus) : Prop where
  clock : after.clock = bus.clock
  jitter : after.jitter = bus.jitter
  withinDelay : bus.WithinDelay → after.WithinDelay
  waits : bus.NotOverdue → after.NotOverdue

/-- Doing nothing takes no time. -/
theorem Instant.refl (bus : Bus) : bus.Instant bus :=
  ⟨rfl, rfl, id, id⟩

/-- Two things that take no time take none together. -/
theorem Instant.trans {bus middle after : Bus} (first : bus.Instant middle)
    (second : middle.Instant after) : bus.Instant after :=
  ⟨second.clock.trans first.clock, second.jitter.trans first.jitter,
    fun withinDelay => second.withinDelay (first.withinDelay withinDelay),
    fun waits => second.waits (first.waits waits)⟩

/-- Where the clock stands still, sending takes no time and makes nothing late. -/
theorem instant_send {bus : Bus} (still : bus.clock.stride = 0) (sender receiver : Rank)
    (message : Message) : bus.Instant (bus.send sender receiver message) where
  clock := clock_send_still still sender receiver message
  jitter := jitter_send bus sender receiver message
  withinDelay := fun withinDelay => withinDelay.send still sender receiver message
  waits := by
    intro waits other packet member
    rw [clock_send_still still]
    rcases mem_arriving_send member with old | ⟨_, rfl⟩
    · exact waits other packet old
    · exact bus.le_deliverAt sender receiver message

/-- Sending several messages takes no time either. -/
theorem instant_sendEach {bus : Bus} (still : bus.clock.stride = 0) (sender : Rank)
    (outgoing : List (Rank × Message)) : bus.Instant (bus.sendEach sender outgoing) := by
  induction outgoing generalizing bus with
  | nil => exact .refl bus
  | cons item rest inductionHypothesis =>
    have first := instant_send still sender item.1 item.2
    exact first.trans (inductionHypothesis (by rw [first.clock]; exact still))

/-- Polling takes no time: what it leaves waits as before. -/
theorem instant_poll {bus : Bus} (still : bus.clock.stride = 0) (rank : Rank) :
    bus.Instant (bus.poll rank).2 := by
  have clock : (bus.poll rank).2.clock = bus.clock := by
    rcases bus.clock_poll rank with same | read
    · exact same
    · rw [read, Clock.read_still still]
  refine ⟨clock, bus.jitter_poll rank, ?_, ?_⟩
  · intro withinDelay sender receiver
    rw [lastDue_poll, clock, jitter_poll]
    exact withinDelay sender receiver
  · intro waits receiver packet member
    rw [clock]
    rw [arriving_poll] at member
    split at member
    · next here => exact waits receiver packet (here ▸ List.mem_of_mem_filter member)
    · exact waits receiver packet member

end Bus

namespace Peer

/-- Acting on a message takes no time, a reply included. -/
theorem instant_handle (window : UInt64) {bus : Bus} (still : bus.clock.stride = 0) (peer : Peer)
    (message : Message) : bus.Instant (handle (.staleness window) bus peer message).1 := by
  have clock : clockAfter (.staleness window) bus message = bus.clock := by
    cases message with
    | propose origin number envelope => exact Network.clock_staleness window still envelope
    | _ => rfl
  rw [handle_fst, clock]
  exact Bus.instant_sendEach still peer.rank _

/-- Acting on all that was polled takes no time. -/
theorem instant_handleAll (window : UInt64) {bus : Bus} (still : bus.clock.stride = 0)
    (peer : Peer) (messages : List (Rank × Message)) :
    bus.Instant (handleAll (.staleness window) bus peer messages).1 := by
  induction messages generalizing bus peer with
  | nil => exact .refl bus
  | cons item rest inductionHypothesis =>
    have first := instant_handle window still peer item.2
    exact first.trans (inductionHypothesis (by rw [first.clock]; exact still) _)

end Peer

namespace PeerSystem

/-- A call on a peer takes no time, whatever is asked for. -/
theorem instant_call {system : PeerSystem} (still : system.bus.clock.stride = 0)
    (window : UInt64) (rank : Rank) (request : Request) :
    system.bus.Instant (system.call (.staleness window) rank request).bus := by
  cases request with
  | submitVote id envelope =>
    simp only [call, put]
    cases accepts : (system.peers rank).mayOffer with
    | true =>
      rw [Peer.submitVote_of_mayOffer accepts]
      exact Bus.instant_sendEach still _ _
    | false =>
      obtain ⟨cause, refused⟩ :=
        @Peer.submitVote_of_not_mayOffer system.bus (system.peers rank) accepts id envelope
      rw [refused]
      exact .refl _
  | submitBroadcast id envelope =>
    simp only [call, put]
    rw [Peer.submitBroadcast_snd]
    exact Bus.instant_sendEach still _ _
  | progress =>
    simp only [call, put, Peer.progress]
    split
    · exact .refl _
    · have polled := Bus.instant_poll still (system.peers rank).rank
      exact polled.trans (Peer.instant_handleAll window (by rw [polled.clock]; exact still) _ _)
  | readClock =>
    have same : (system.call (.staleness window) rank .readClock).bus = system.bus := by
      simp only [call, put, Clock.read_still still]
    rw [same]
    exact .refl _
  | _ => exact .refl _

/-! ## A clock that waits -/

/-- What happens next where every process votes by age, within a window of its own, and the
clock goes on only as far as nothing is overdue. -/
inductive TimelyStep (windows : Rank → UInt64) (system : PeerSystem) : PeerSystem → Prop where
  | time (clock : Clock) (still : clock.stride = 0)
      (forward : system.bus.clock.time ≤ clock.time)
      (waits : ∀ receiver, ∀ packet ∈ system.bus.arriving receiver,
        clock.time ≤ packet.deliverAt) :
      TimelyStep windows system { system with bus := { system.bus with clock } }
  | call (rank : Rank) (request : Request) (joined : system.bus.Joined rank) :
      TimelyStep windows system (system.call (.staleness (windows rank)) rank request)

/-- What can become of peers where the clock waits. -/
inductive TimelyReaches (windows : Rank → UInt64) (start : PeerSystem) : PeerSystem → Prop where
  | refl : TimelyReaches windows start start
  | step {middle final : PeerSystem} (prior : TimelyReaches windows start middle)
      (next : TimelyStep windows middle final) : TimelyReaches windows start final

/-- Whether everything that is due by a moment has been acted on. -/
def Handled (system : PeerSystem) (moment : Nat) : Prop :=
  ∀ receiver, ∀ packet ∈ system.bus.arriving receiver, moment < packet.deliverAt.toNat

variable {windows : Rank → UInt64} {start system after : PeerSystem}

/-- What can become of peers where the clock waits can become of them anyway. -/
theorem TimelyReaches.reaches (steps : TimelyReaches windows start after) :
    Reaches start after := by
  induction steps with
  | refl => exact .refl
  | step _ next inductionHypothesis =>
    cases next with
    | time clock _ _ _ => exact .step inductionHypothesis (.time clock)
    | call rank request joined => exact .step inductionHypothesis (.call _ rank request joined)

/-- Where the clock waits, it stands still in between, nothing is due later than the largest delay
from now, and nothing is overdue. -/
structure Prompt (jitter : Jitter) (system : PeerSystem) : Prop where
  still : system.bus.clock.stride = 0
  jitter : system.bus.jitter = jitter
  withinDelay : system.bus.WithinDelay
  waits : system.bus.NotOverdue

/-- Every step at which the clock waits leaves nothing late or overdue. -/
theorem Prompt.step {jitter : Jitter} (prompt : Prompt jitter system)
    (next : TimelyStep windows system after) : Prompt jitter after := by
  cases next with
  | time clock still forward waits =>
    exact ⟨still, prompt.jitter, prompt.withinDelay.later forward, waits⟩
  | call rank request joined =>
    have instant := instant_call prompt.still (windows rank) rank request
    exact ⟨by rw [instant.clock]; exact prompt.still, instant.jitter.trans prompt.jitter,
      instant.withinDelay prompt.withinDelay, instant.waits prompt.waits⟩

/-- Where the clock waits, nothing ever becomes late or overdue. -/
theorem Prompt.timely {jitter : Jitter} (prompt : Prompt jitter start)
    (steps : TimelyReaches windows start after) : Prompt jitter after := by
  induction steps with
  | refl => exact prompt
  | step _ next inductionHypothesis => exact inductionHypothesis.step next

/-- At the start nothing has been sent, so nothing is late or overdue. -/
theorem Prompt.opening (worldSize : Nat) (start : Timestamp) (seed : Seed) (jitter : Jitter) :
    Prompt jitter (opening worldSize (.startingAt start) seed jitter) :=
  ⟨rfl, rfl, .connect worldSize _ seed jitter, by simp [PeerSystem.opening, Bus.NotOverdue]⟩

/-- What is due before now has been acted on. -/
theorem Prompt.handled {jitter : Jitter} (prompt : Prompt jitter system) {moment : Nat}
    (past : moment < system.bus.clock.time.toNat) : system.Handled moment :=
  fun receiver packet lies => Nat.lt_of_lt_of_le past (prompt.waits receiver packet lies)

/-- Before the clock passes a moment, everything that is due by then has been acted on. So a run
after which nothing due by `moment` is left goes through a point of time no later than that at
which nothing due by `moment` is left either. -/
theorem TimelyReaches.exists_handled {jitter : Jitter} {moment : Nat}
    (steps : TimelyReaches windows start after) (prompt : Prompt jitter start)
    (early : start.bus.clock.time.toNat ≤ moment) (handled : after.Handled moment) :
    ∃ middle, TimelyReaches windows start middle ∧ TimelyReaches windows middle after ∧
      middle.bus.clock.time.toNat ≤ moment ∧ middle.Handled moment := by
  -- The point is the last one with an early clock: the whole run, or where the clock goes past.
  have cut : ∃ middle, TimelyReaches windows start middle ∧ TimelyReaches windows middle after ∧
      middle.bus.clock.time.toNat ≤ moment ∧ (middle.Handled moment ∨ middle = after) := by
    clear handled
    induction steps with
    | refl => exact ⟨_, .refl, .refl, early, .inr rfl⟩
    | @step last final prior next inductionHypothesis =>
      obtain ⟨middle, before, rest, onTime, handled | isLast⟩ := inductionHypothesis
      · exact ⟨middle, before, .step rest next, onTime, .inl handled⟩
      · subst isLast
        cases next with
        | time clock still forward waits =>
          by_cases past : clock.time.toNat ≤ moment
          · exact ⟨_, .step before (.time clock still forward waits), .refl, past, .inr rfl⟩
          · refine ⟨middle, before, .step rest (.time clock still forward waits), onTime, .inl ?_⟩
            intro receiver packet lies
            have waited : clock.time.toNat ≤ packet.deliverAt.toNat := waits receiver packet lies
            omega
        | call rank request joined =>
          have instant := instant_call (prompt.timely before).still (windows rank) rank request
          exact ⟨_, .step before (.call rank request joined), .refl,
            by rw [instant.clock]; exact onTime, .inr rfl⟩
  obtain ⟨middle, before, rest, onTime, done | isLast⟩ := cut
  · exact ⟨middle, before, rest, onTime, done⟩
  · exact ⟨middle, before, rest, onTime, isLast ▸ handled⟩

end PeerSystem

namespace Network

/-! ## What was sent is acted on -/

/-- Whether all messages that wait on a link are due by a moment, those after the first `count`
that were sent there apart. -/
def Early (network : Network) (sender receiver : Rank) (count moment : Nat) : Prop :=
  ∀ packet ∈ (network.bus.waiting sender receiver).reverse.drop
      ((network.sentOn sender receiver).length - count), packet.deliverAt.toNat ≤ moment

/-- A request takes nothing from a link but its front. -/
theorem Lawful.waiting_serve {network : Network} (lawful : network.Lawful) (rank : Rank)
    (request : Request) (sender receiver : Rank) :
    (network.serve rank request).bus.waiting sender receiver <:+
      network.bus.waiting sender receiver := by
  cases request with
  | progress =>
    simp only [Network.serve, put_bus, Station.serve]
    split
    · exact List.suffix_refl _
    · by_cases here : receiver = (network.stations rank).peer.rank
      · rw [here]
        exact ⟨_, Bus.poll_front lawful.sound sender _⟩
      · rw [Bus.waiting_poll_of_ne network.bus here sender]
  | _ => exact List.suffix_refl _

/-- What waits on a link and is due by a moment stays so: what is sent later comes after the first
messages that were counted. -/
theorem Early.step {network after : Network} {sender receiver : Rank} {count moment : Nat}
    (early : network.Early sender receiver count moment) (lawful : network.Lawful)
    (within : count ≤ (network.sentOn sender receiver).length) (next : Step network after) :
    after.Early sender receiver count moment := by
  cases next with
  | time clock => exact early
  | @send rank target message rest next =>
    have queued : (target, message) ∈ (network.stations rank).outbox := by
      rw [next]
      exact List.mem_cons_self
    obtain ⟨here, there, _⟩ := lawful.addressed queued
    have waiting := Bus.waiting_send lawful.sound here there message sender receiver
    have sent : (network.send rank target message rest).sentOn sender receiver =
        network.sentOn sender receiver ++
          if sender = rank ∧ receiver = target then [message] else [] := by
      by_cases own : sender = rank ∧ receiver = target
      · simp [sentOn, Network.send, Event.sentOn?, own]
      · have foreign : ¬ (rank = sender ∧ target = receiver) :=
          fun same => own ⟨same.1.symm, same.2.symm⟩
        simp [sentOn, Network.send, Event.sentOn?, own, foreign]
    intro packet member
    have bus : (network.send rank target message rest).bus = network.bus.send rank target message :=
      rfl
    rw [sent, bus, waiting] at member
    by_cases own : sender = rank ∧ receiver = target
    · -- The message that is sent now is the one more that is left out.
      rw [if_pos own, if_pos own, List.reverse_append, List.length_append, List.length_singleton,
        Nat.sub_add_comm within] at member
      exact early packet member
    · rw [if_neg own, if_neg own, List.append_nil, List.append_nil] at member
      exact early packet member
  | handle judge quiet next =>
    intro packet member
    rw [sentOn_handle] at member
    exact early packet member
  | serve rank request joined idle =>
    intro packet member
    rw [sentOn_serve] at member
    obtain ⟨front, split⟩ := lawful.waiting_serve rank request sender receiver
    apply early packet
    rw [← split, List.reverse_append, List.drop_append]
    exact List.mem_append_left _ member

/-- Everything that was sent on a link by the time when nothing there was due later than `moment`
has been acted on once nothing is left there that is due by then. -/
theorem sent_handled {network after : Network} (lawful : network.Lawful)
    (steps : Reaches network after) {sender receiver : Rank} {moment : Nat}
    (soon : ∀ packet ∈ network.bus.waiting sender receiver, packet.deliverAt.toNat ≤ moment)
    (gone : ∀ packet ∈ after.bus.waiting sender receiver, moment < packet.deliverAt.toNat)
    (idle : (after.stations receiver).batch = []) :
    network.sentOn sender receiver <+: after.handledFrom sender receiver := by
  have kept : network.sentOn sender receiver <+: after.sentOn sender receiver ∧
      after.Early sender receiver (network.sentOn sender receiver).length moment := by
    clear gone idle
    induction steps with
    | refl =>
      refine ⟨List.prefix_refl _, fun packet member => ?_⟩
      exact soon packet (List.mem_reverse.1 (List.mem_of_mem_drop member))
    | step prior next inductionHypothesis =>
      obtain ⟨sent, early⟩ := inductionHypothesis
      exact ⟨sent.trans ((PeerSystem.history_of_step next).filterMap _),
        early.step (lawful.reaches prior) sent.length_le next⟩
  obtain ⟨sent, early⟩ := kept
  have none : (after.bus.waiting sender receiver).reverse.drop
      ((after.sentOn sender receiver).length - (network.sentOn sender receiver).length) = [] := by
    apply List.eq_nil_iff_forall_not_mem.2
    intro packet member
    have waits := List.mem_reverse.1 (List.mem_of_mem_drop member)
    have late := gone packet waits
    have due := early packet member
    omega
  have transported := (lawful.reaches steps).transported sender receiver
  rw [idle, labelled_nil, List.append_nil] at transported
  have sizes := congrArg List.length transported
  rw [List.length_append, List.length_map] at sizes
  have few := List.drop_eq_nil_iff.1 none
  rw [List.length_reverse] at few
  have longer := sent.length_le
  refine List.prefix_of_prefix_length_le sent ?_ (by omega)
  rw [transported]
  exact List.prefix_append _ _

/-! ## Ballots under way -/

/-- A ballot under way lacks a vote. -/
def Open (network : Network) : Prop :=
  ∀ rank ballot, (network.stations rank).peer.ballot = some ballot →
    ballot.status = .inProgress → ballot.yes + ballot.no < Peer.others network.bus

/-- At the start no ballot is under way. -/
theorem Open.opening (worldSize : Nat) (clock : Clock) (seed : Seed) (jitter : Jitter) :
    (Network.opening worldSize clock seed jitter).Open := by
  intro rank ballot found
  cases found

/-- A step that gives a ballot its last vote decides it. -/
theorem Open.step {network after : Network} (lacking : network.Open)
    (next : Step network after) : after.Open := by
  cases next with
  | time clock => exact lacking
  | @send rank target message rest next =>
    intro other ballot found running
    have size : Peer.others (network.send rank target message rest).bus =
        Peer.others network.bus := by
      rw [Peer.others, Network.send, put_bus, Bus.worldSize_send, Peer.others]
    rw [peer_send] at found
    rw [size]
    exact lacking other ballot found running
  | @handle judge rank sender message rest quiet next =>
    intro other ballot found running
    show ballot.yes + ballot.no < Peer.others network.bus
    by_cases own : other = rank
    · subst own
      rw [stations_handle_self, Station.handle] at found
      cases cast : message.vote? with
      | none =>
        rw [Peer.ballot_handle_of_not_vote judge _ _ cast] at found
        exact lacking other ballot found running
      | some vote =>
        cases message <;> simp only [Message.vote?, reduceCtorEq] at cast
        next voter number yes =>
        rcases Peer.vote_cases judge network.bus (network.stations other).peer voter number yes with
          ⟨_, _, same⟩ | ⟨held, _, _, _, ⟨few, _, changed⟩ | ⟨_, _, changed⟩⟩
        · rw [same] at found
          exact lacking other ballot found running
        · rw [changed] at found
          rw [← Option.some.inj found]
          exact few
        · rw [changed] at found
          rw [← Option.some.inj found] at running
          simp only at running
          split at running <;> cases running
    · rw [stations_handle_of_ne network own] at found
      exact lacking other ballot found running
  | serve rank request joined idle =>
    intro other ballot found running
    have size : Peer.others (network.serve rank request).bus = Peer.others network.bus := by
      rw [Peer.others, Network.serve, put_bus, worldSize_serve, Peer.others]
    rw [size]
    by_cases own : other = rank
    · subst own
      rcases offer_or_not (network.stations other).peer request with
        ⟨id, envelope, rfl, accepts⟩ | declines
      · rw [peer_offer accepts] at found
        rw [← Option.some.inj found] at running ⊢
        simp only at running
        split at running
        · cases running
        · next several => exact Nat.pos_of_ne_zero several
      · rw [stations_serve_self] at found
        have before := (ballot_serve_of_not_offer network.bus _ declines).2 ballot found
        exact lacking other ballot before running
    · rw [stations_serve_of_ne network own] at found
      exact lacking other ballot found running

/-- All along, a ballot under way lacks a vote. -/
theorem Open.reaches {network after : Network} (lacking : network.Open)
    (steps : Reaches network after) : after.Open := by
  induction steps with
  | refl => exact lacking
  | step _ next inductionHypothesis => exact inductionHypothesis.step next

/-- A ballot on which every other process has voted is over. -/
theorem Tallied.over_of_votes {network : Network} (tallied : network.Tallied)
    (lacking : network.Open) {rank : Rank} (joined : network.bus.Joined rank) {number : Nat}
    (held : number ≤ (network.stations rank).peer.ballotsHeld)
    (voted : ∀ voter ∈ network.bus.everyoneElse rank, voter ∈ network.voters rank number) :
    network.Over rank number := by
  refine ⟨held, ?_⟩
  rintro ballot found running rfl
  have few := lacking rank ballot found running
  obtain ⟨yes, no⟩ := (tallied.accounted rank).counted found
  have all := (List.subperm_of_subset (network.bus.nodup_everyoneElse rank) voted).length_le
  rw [Bus.length_everyoneElse tallied.lawful.sound joined, length_voters] at all
  rw [yes, no, Peer.others] at few
  omega

end Network

namespace PeerSystem

variable {windows : Rank → UInt64} {jitter : Jitter} {before middle after : PeerSystem}

/-- What was sent before a moment is acted on within the largest delay. -/
theorem TimelyReaches.hop (steps : TimelyReaches windows before after)
    (prompt : Prompt jitter before) (lawful : before.network.Lawful) {moment : Nat}
    (onTime : before.bus.clock.time.toNat ≤ moment)
    (handled : after.Handled (moment + jitter.maxMicros.toNat)) (sender receiver : Rank) :
    before.network.sentOn sender receiver <+: after.network.handledFrom sender receiver := by
  have soon : ∀ packet ∈ before.bus.waiting sender receiver,
      packet.deliverAt.toNat ≤ moment + jitter.maxMicros.toNat := by
    intro packet waits
    have due := prompt.withinDelay sender receiver
    have last : packet.deliverAt.toNat ≤ (before.bus.lastDue sender receiver).toNat :=
      lawful.sound.bounded waits
    rw [prompt.jitter] at due
    omega
  refine Network.sent_handled lawful (steps.reaches.network lawful) soon ?_ rfl
  intro packet waits
  exact handled receiver packet (List.mem_of_mem_filter waits)

/-- Between two calls everything that was written has been sent. -/
theorem sentOn_eq_written {system : PeerSystem} (lawful : system.network.Lawful)
    {sender receiver : Rank} (linked : system.network.Linked sender receiver) :
    system.network.sentOn sender receiver = system.network.written sender receiver := by
  rw [lawful.scripted linked]
  exact (List.append_nil _).symm

/-- A link stays a link. -/
theorem linked_later (lawful : before.network.Lawful) (steps : Reaches before after)
    {sender receiver : Rank} (linked : before.network.Linked sender receiver) :
    after.network.Linked sender receiver :=
  (Network.linked_iff_of_worldSize (steps.network lawful).worldSize).2 linked

/-- An offer that was sent by now is judged after one hop, and the vote is there after another. -/
theorem TimelyReaches.voted (first : TimelyReaches windows before middle)
    (second : TimelyReaches windows middle after) (prompt : Prompt jitter before)
    (lawful : before.network.Lawful) {moment : Nat}
    (onTime : before.bus.clock.time.toNat ≤ moment)
    (onTimeThen : middle.bus.clock.time.toNat ≤ moment + jitter.maxMicros.toNat)
    (handled : middle.Handled (moment + jitter.maxMicros.toNat))
    (handledThen : after.Handled (moment + jitter.maxMicros.toNat + jitter.maxMicros.toNat))
    {rank voter : Rank} (linked : before.network.Linked rank voter) {number : Nat}
    {envelope : Bytes} (offered : (number, envelope) ∈ before.network.offers rank) :
    voter ∈ after.network.voters rank number := by
  have lawfulThen := lawful.reaches (first.reaches.network lawful)
  have linkedThen := linked_later lawful first.reaches linked
  have asked : (number, envelope) ∈
      (before.network.sentOn rank voter).filterMap Message.proposal? := by
    rw [sentOn_eq_written lawful linked, Network.proposals_written]
    exact offered
  have received := ((first.hop prompt lawful onTime handled rank voter).filterMap
    Message.proposal?).subset asked
  rw [lawfulThen.voted] at received
  obtain ⟨⟨judgedNumber, judgedEnvelope, verdict⟩, judged, shape⟩ := List.mem_map.1 received
  obtain ⟨rfl, rfl⟩ := Prod.mk.inj shape
  have cast : (judgedNumber, verdict.isAccept) ∈
      (middle.network.sentOn voter rank).filterMap Message.vote? := by
    rw [sentOn_eq_written lawfulThen linkedThen.symm, Network.votes_written]
    exact List.mem_map.2 ⟨_, judged, rfl⟩
  have counted := ((second.hop (prompt.timely first) lawfulThen onTimeThen handledThen voter
    rank).filterMap Message.vote?).subset cast
  rw [← Network.votes_from] at counted
  obtain ⟨vote, member, shape⟩ := List.mem_map.1 counted
  obtain ⟨inVotes, own⟩ := List.mem_filter.1 member
  refine List.mem_map.2 ⟨vote, List.mem_filter.2 ⟨inVotes, ?_⟩, of_decide_eq_true own⟩
  simp [shape]

/-- What is sent when the clock shows `moment` reaches its receiver by one hop later; so does
every issue, in its turn. -/
theorem TimelyReaches.issues_arrive (steps : TimelyReaches windows before after)
    (prompt : Prompt jitter before) (lawful : before.network.Lawful) {moment : Nat}
    (onTime : before.bus.clock.time.toNat ≤ moment)
    (handled : after.Handled (moment + jitter.maxMicros.toNat)) {sender receiver : Rank}
    (linked : before.network.Linked sender receiver) :
    (before.network.issues sender).filter Issue.isReadable <+:
      after.network.arrivalsFrom sender receiver := by
  rw [Network.arrivalsFrom_eq, ← Network.issues_written before.network sender receiver,
    ← sentOn_eq_written lawful linked]
  exact ((steps.hop prompt lawful onTime handled sender receiver).filterMap _).filter _

/-- What is due earlier has been acted on if all that is due later has. -/
theorem Handled.earlier {system : PeerSystem} {soon late : Nat} (handled : system.Handled late)
    (order : soon ≤ late) : system.Handled soon :=
  fun receiver packet lies => Nat.lt_of_le_of_lt order (handled receiver packet lies)

/-- An offer at `moment` is over two hops later. -/
theorem TimelyReaches.settled (steps : TimelyReaches windows before after)
    (prompt : Prompt jitter before) (tallied : before.network.Tallied)
    (lacking : before.network.Open) {moment : Nat}
    (onTime : before.bus.clock.time.toNat ≤ moment)
    (handled : after.Handled (moment + 2 * jitter.maxMicros.toNat)) {rank : Rank} {number : Nat}
    {envelope : Bytes} (offered : (number, envelope) ∈ before.network.offers rank) :
    after.network.Over rank number := by
  rw [Nat.two_mul, ← Nat.add_assoc] at handled
  obtain ⟨middle, first, second, onTimeThen, handledThen⟩ := steps.exists_handled prompt
    (Nat.le_trans onTime (Nat.le_add_right _ _)) (handled.earlier (Nat.le_add_right _ _))
  have reaches := steps.reaches.network tallied.lawful
  have later := tallied.reaches reaches
  have joined := tallied.present (List.ne_nil_of_mem offered)
  have joinedLater : after.bus.Joined rank := by
    rw [Bus.Joined, show after.bus.worldSize = before.bus.worldSize from reaches.worldSize]
    exact joined
  have held : number ≤ (after.peers rank).ballotsHeld :=
    (later.number_le (((history_of_reaches reaches).filterMap _).subset offered)).2
  refine later.over_of_votes (lacking.reaches reaches) joinedLater held ?_
  intro voter other
  obtain ⟨there, apart⟩ := (Bus.mem_everyoneElse later.lawful.sound).1 other
  have linked : before.network.Linked rank voter := by
    refine ⟨joined, ?_, fun same => apart same.symm⟩
    rw [Bus.Joined, ← reaches.worldSize]
    exact there
  exact first.voted second prompt tallied.lawful onTime onTimeThen handledThen handled linked
    offered

/-- What an offer at `moment` gets approved has surfaced everywhere three hops later. -/
theorem TimelyReaches.surfaces (steps : TimelyReaches windows before after)
    (prompt : Prompt jitter before) (tallied : before.network.Tallied)
    (lacking : before.network.Open) {moment : Nat}
    (onTime : before.bus.clock.time.toNat ≤ moment)
    (handled : after.Handled (moment + 3 * jitter.maxMicros.toNat)) {rank : Rank} {number : Nat}
    {envelope : Bytes} (readable : Envelope.isReadable envelope = true)
    (offered : (number, envelope) ∈ before.network.offers rank)
    (approved : (number, true, envelope) ∈ after.network.decisions rank) {receiver : Rank}
    (linked : before.network.Linked rank receiver) :
    ⟨rank, some number, envelope⟩ ∈ after.network.arrivals receiver := by
  have split : moment + 3 * jitter.maxMicros.toNat =
      moment + 2 * jitter.maxMicros.toNat + jitter.maxMicros.toNat := by omega
  rw [split] at handled
  obtain ⟨middle, first, second, onTimeThen, handledThen⟩ := steps.exists_handled prompt
    (Nat.le_trans onTime (Nat.le_add_right _ _)) (handled.earlier (Nat.le_add_right _ _))
  have lawful := tallied.lawful.reaches (first.reaches.network tallied.lawful)
  -- The ballot was over by then, so the approval is no later than that.
  have isOver := first.settled prompt tallied lacking onTime handledThen offered
  have decided := (isOver.reaches lawful (second.reaches.network lawful)).2 _ approved rfl
  have issued : ⟨rank, some number, envelope⟩ ∈
      (middle.network.issues rank).filter Issue.isReadable :=
    List.mem_filter.2 ⟨Network.mem_issues.2 decided, readable⟩
  have arrived := (second.issues_arrive (prompt.timely first) lawful onTimeThen handled
    (linked_later tallied.lawful first.reaches linked)).subset issued
  exact List.mem_of_mem_filter arrived

/-! ## Windows -/

end PeerSystem

/-- Settings that are accepted leave all hops of their mode shorter than the window. -/
theorem SimulationConfig.hops_lt_of_validate {config : SimulationConfig}
    (accepted : config.validate = .ok ()) :
    config.mode.deliveryHops * config.jitter.maxMicros.toNat < config.windowMicros.toNat := by
  unfold validate at accepted
  split at accepted
  · cases accepted
  · split at accepted
    · cases accepted
    · next wide =>
      have window := config.windowMicros.toNat_lt_size
      rw [Nat.mul_comm]
      unfold worstDelay at wide
      omega

/-- Settings of a simulation with a process and a window are accepted exactly if a message could
make all its hops within the window. -/
theorem SimulationConfig.validate_iff {config : SimulationConfig} (ranks : 1 ≤ config.ranks)
    (window : 1 ≤ config.windowMicros.toNat) :
    config.validate = .ok () ↔
      config.mode.deliveryHops * config.jitter.maxMicros.toNat < config.windowMicros.toNat := by
  refine ⟨hops_lt_of_validate, fun wide => ?_⟩
  have some : config.ranks ≠ 0 := Nat.ne_of_gt ranks
  have positive : config.windowMicros ≠ 0 := by
    intro none
    rw [none] at window
    exact absurd window (by decide)
  have coordinator : (config.coordinatorConfig ⟨0⟩).validate = .ok () := by
    have inside : ¬ config.ranks ≤ (⟨0⟩ : Rank).toNat := by
      show ¬ config.ranks ≤ 0
      omega
    simp [CoordinatorConfig.validate, coordinatorConfig, some, positive, inside]
  have room : ¬ config.windowMicros.toNat ≤ config.worstDelay := by
    unfold worstDelay
    rw [Nat.mul_comm]
    omega
  rw [validate, coordinator]
  simp [room]

/-- How a process submits an envelope. -/
def Mode.submission (mode : Mode) (id : ProposalId) (envelope : Bytes) : Request :=
  match mode with
  | .voted => .submitVote id envelope
  | .broadcast => .submitBroadcast id envelope

namespace PeerSystem

/-- Whether an envelope that a process submitted to its peer at `before` has surfaced at every
other process by `after`: if it was put to the vote and approved, under the number of its ballot;
if it was announced, in its turn after everything issued before. -/
def Surfaces (before after : PeerSystem) (rank : Rank) (envelope : Bytes) : Mode → Prop
  | .voted => (before.peers rank).mayOffer = true → Envelope.isReadable envelope = true →
    ((before.peers rank).ballotsHeld + 1, true, envelope) ∈ after.network.decisions rank →
    ∀ receiver, after.bus.Joined receiver → receiver ≠ rank →
      ⟨rank, some ((before.peers rank).ballotsHeld + 1), envelope⟩ ∈
        after.network.arrivals receiver
  | .broadcast => (before.peers rank).finalized = false → Envelope.isReadable envelope = true →
    ∀ receiver, after.bus.Joined receiver → receiver ≠ rank →
      (before.network.issues rank).filter Issue.isReadable ++ [⟨rank, none, envelope⟩] <+:
        after.network.arrivalsFrom rank receiver

/-- What a peer takes on is offered under the next number. -/
theorem offered_call {system : PeerSystem} (lawful : system.network.Lawful) (judge : Judge)
    {rank : Rank} (accepts : (system.peers rank).mayOffer = true) (id : ProposalId)
    (envelope : Bytes) : ((system.peers rank).ballotsHeld + 1, envelope) ∈
      (system.call judge rank (.submitVote id envelope)).network.offers rank := by
  have named : (system.peers rank).rank = rank := lawful.named rank
  refine List.mem_filterMap.2
    ⟨.offered rank ((system.peers rank).ballotsHeld + 1) envelope, ?_, if_pos rfl⟩
  refine List.mem_append_right _ (List.mem_append_left _ ?_)
  rw [Peer.serveEvents, if_pos accepts, named]
  exact List.mem_cons_self

/-- What an active peer announces is the last of what it has issued. -/
theorem issues_call {system : PeerSystem} (lawful : system.network.Lawful) (judge : Judge)
    {rank : Rank} (active : (system.peers rank).finalized = false) (id : ProposalId)
    (envelope : Bytes) :
    (system.call judge rank (.submitBroadcast id envelope)).network.issues rank =
      system.network.issues rank ++ [⟨rank, none, envelope⟩] := by
  have named : (system.peers rank).rank = rank := lawful.named rank
  simp [Network.issues, network, call, put, Peer.serveEvents, active, named, Peer.sendEvents,
    Event.issueOf?]

section Submission

variable {windows : Rank → UInt64} {jitter : Jitter} {before system after : PeerSystem}

/-- A call takes no time, and keeps all that the bounds on hops rest on. -/
theorem prompt_call (prompt : Prompt jitter system) (tallied : system.network.Tallied)
    (lacking : system.network.Open) {rank : Rank} (joined : system.bus.Joined rank)
    (request : Request) :
    let called := system.call (.staleness (windows rank)) rank request
    Prompt jitter called ∧ called.network.Tallied ∧ called.network.Open ∧
      called.bus.clock.time.toNat ≤ system.bus.clock.time.toNat := by
  have served := system.reaches_call (.staleness (windows rank)) request joined
    (tallied.lawful.named rank)
  have instant := instant_call prompt.still (windows rank) rank request
  refine ⟨prompt.step (.call rank request joined), tallied.reaches served,
    lacking.reaches served, ?_⟩
  rw [instant.clock]

/-- A process that has joined before a call has links to all others after it. -/
theorem linked_call {judge : Judge} {rank : Rank} {request : Request}
    (lawful : before.network.Lawful) (joined : before.bus.Joined rank)
    (continued : Network.Reaches (before.call judge rank request).network after.network)
    {receiver : Rank} (there : after.bus.Joined receiver) (apart : receiver ≠ rank) :
    (before.call judge rank request).network.Linked rank receiver := by
  have served := before.reaches_call judge request joined (lawful.named rank)
  refine (Network.linked_iff_of_worldSize continued.worldSize).1 ⟨?_, there, apart.symm⟩
  rw [Bus.Joined, show after.network.bus.worldSize = before.network.bus.worldSize from
    continued.worldSize.trans served.worldSize]
  exact joined

/-- What a process submits surfaces at every other within the hops of its mode. -/
theorem TimelyReaches.surfaces_call {rank : Rank} {mode : Mode} {id : ProposalId}
    {envelope : Bytes}
    (continued : TimelyReaches windows
      (before.call (.staleness (windows rank)) rank (mode.submission id envelope)) after)
    (prompt : Prompt jitter before) (tallied : before.network.Tallied)
    (lacking : before.network.Open) (joined : before.bus.Joined rank)
    (handled : after.Handled
      (before.bus.clock.time.toNat + mode.deliveryHops * jitter.maxMicros.toNat)) :
    before.Surfaces after rank envelope mode := by
  obtain ⟨calledPrompt, calledTallied, calledLacking, onTime⟩ :=
    prompt_call prompt tallied lacking joined (mode.submission id envelope)
  have reaches := continued.reaches.network calledTallied.lawful
  cases mode with
  | voted =>
    intro accepts readable approved receiver there apart
    exact continued.surfaces calledPrompt calledTallied calledLacking onTime handled readable
      (offered_call tallied.lawful _ accepts id envelope) approved
      (linked_call tallied.lawful joined reaches there apart)
  | broadcast =>
    intro active readable receiver there apart
    rw [show Mode.broadcast.deliveryHops = 1 from rfl, Nat.one_mul] at handled
    have arrive := continued.issues_arrive calledPrompt calledTallied.lawful onTime handled
      (linked_call tallied.lawful joined reaches there apart)
    rw [Mode.submission, issues_call tallied.lawful _ active id envelope, List.filter_append]
      at arrive
    simpa [Issue.isReadable, readable] using arrive

/-- A ballot that a process opens is decided within two hops. -/
theorem TimelyReaches.settled_call {rank : Rank} {id : ProposalId} {envelope : Bytes}
    (continued : TimelyReaches windows
      (before.call (.staleness (windows rank)) rank (.submitVote id envelope)) after)
    (prompt : Prompt jitter before) (tallied : before.network.Tallied)
    (lacking : before.network.Open) (joined : before.bus.Joined rank)
    (accepts : (before.peers rank).mayOffer = true)
    (handled : after.Handled (before.bus.clock.time.toNat + 2 * jitter.maxMicros.toNat)) :
    ∀ ballot, (after.peers rank).ballot = some ballot →
      ballot.number = (before.peers rank).ballotsHeld + 1 → ballot.status ≠ .inProgress := by
  obtain ⟨calledPrompt, calledTallied, calledLacking, onTime⟩ :=
    prompt_call prompt tallied lacking joined (.submitVote id envelope)
  have isOver := continued.settled calledPrompt calledTallied calledLacking onTime handled
    (offered_call tallied.lawful _ accepts id envelope)
  intro ballot found number running
  exact isOver.2 ballot found running number

end Submission

/-- Where the clock waits for everything that is due, a ballot is over two hops after it was
offered, and what a process submits surfaces everywhere within the hops of its mode, whatever else
is on the links. Settings are accepted exactly if these hops are shorter than the window, so that
what is submitted under accepted settings surfaces within the window. -/
theorem hop_bound {worldSize : Nat} {start : Timestamp} {seed : Seed} {jitter : Jitter}
    {windows : Rank → UInt64} {before after : PeerSystem}
    (reached : TimelyReaches windows (opening worldSize (.startingAt start) seed jitter) before)
    {rank : Rank} (joined : before.bus.Joined rank) (mode : Mode) (id : ProposalId)
    (envelope : Bytes)
    (continued : TimelyReaches windows
      (before.call (.staleness (windows rank)) rank (mode.submission id envelope)) after) :
    let moment := before.bus.clock.time.toNat
    let delay := jitter.maxMicros.toNat
    (mode = .voted → (before.peers rank).mayOffer = true → after.Handled (moment + 2 * delay) →
      ∀ ballot, (after.peers rank).ballot = some ballot →
        ballot.number = (before.peers rank).ballotsHeld + 1 → ballot.status ≠ .inProgress) ∧
    (after.Handled (moment + mode.deliveryHops * delay) →
      before.Surfaces after rank envelope mode) ∧
    (∀ config : SimulationConfig, 1 ≤ config.ranks → 1 ≤ config.windowMicros.toNat →
      (config.validate = .ok () ↔
        config.mode.deliveryHops * config.jitter.maxMicros.toNat < config.windowMicros.toNat)) ∧
    ∀ config : SimulationConfig, config.mode = mode → config.jitter = jitter →
      config.validate = .ok () →
      moment + config.windowMicros.toNat ≤ after.bus.clock.time.toNat →
      before.Surfaces after rank envelope mode := by
  intro moment delay
  have opened : (opening worldSize (.startingAt start) seed jitter).network.Tallied :=
    Network.Tallied.opening worldSize _ seed jitter
  have early := reached.reaches.network opened.lawful
  have tallied := opened.reaches early
  have prompt := (Prompt.opening worldSize start seed jitter).timely reached
  have lacking : before.network.Open :=
    (Network.Open.opening worldSize _ seed jitter).reaches early
  have surfaces (handled : after.Handled (moment + mode.deliveryHops * delay)) :
      before.Surfaces after rank envelope mode :=
    continued.surfaces_call prompt tallied lacking joined handled
  refine ⟨?_, surfaces, fun config ranks window => SimulationConfig.validate_iff ranks window, ?_⟩
  · rintro rfl accepts handled
    exact continued.settled_call prompt tallied lacking joined accepts handled
  · rintro config rfl rfl accepted elapsed
    have hops := SimulationConfig.hops_lt_of_validate accepted
    have called : TimelyStep windows before _ :=
      .call rank (config.mode.submission id envelope) joined
    refine surfaces (((prompt.step called).timely continued).handled ?_)
    exact Nat.lt_of_lt_of_le (Nat.add_lt_add_left hops _) elapsed

/-- Set the clock to a time at which a process acts on what has arrived. -/
def pacedTo (system : PeerSystem) (micros : UInt64) (rank : Rank) : PeerSystem :=
  { system with bus := { system.bus with clock := .startingAt ⟨micros⟩ } }.call
    (.staleness 50000) rank .progress

/-- Setting the clock forward, as long as nothing becomes overdue, is a part of a run in which the
clock waits. -/
theorem TimelyReaches.pacedTo (steps : TimelyReaches (fun _ => 50000) start system)
    {micros : UInt64} (forward : system.bus.clock.time ≤ ⟨micros⟩)
    (waits : ∀ endpoint ∈ system.bus.endpoints,
      ∀ packet ∈ endpoint.held ++ endpoint.inbox, (⟨micros⟩ : Timestamp) ≤ packet.deliverAt)
    {rank : Rank} (joined : system.bus.Joined rank) :
    TimelyReaches (fun _ => 50000) start (system.pacedTo micros rank) := by
  refine .step (.step steps (.time (.startingAt ⟨micros⟩) rfl forward ?_))
    (.call rank .progress joined)
  intro receiver packet lies
  unfold Bus.arriving at lies
  split at lies
  · cases lies
  · next endpoint found => exact waits endpoint (List.mem_of_getElem? found) packet lies

/-- Two processes with links of up to forty microseconds. -/
def delayedPair : PeerSystem :=
  opening 2 (.startingAt ⟨5⟩) .standard ⟨40⟩

/-- The first of them has put an envelope to the vote; it arrives at 19, the vote on it at 59 and
the decision at 96. -/
def crossing : PeerSystem :=
  (((delayedPair.call (.staleness 50000) ⟨0⟩ (Mode.voted.submission ⟨0⟩ (Envelope.encode default))
    |>.pacedTo 19 ⟨1⟩).pacedTo 59 ⟨0⟩).pacedTo 96 ⟨1⟩).pacedTo 50005 ⟨0⟩

/-- In the run of the witness the clock waits. -/
theorem timely_crossing : TimelyReaches (fun _ => 50000)
    (delayedPair.call (.staleness 50000) ⟨0⟩ (Mode.voted.submission ⟨0⟩ (Envelope.encode default)))
    crossing := by
  refine .pacedTo (.pacedTo (.pacedTo (.pacedTo .refl ?_ ?_ ?_) ?_ ?_ ?_) ?_ ?_ ?_) ?_ ?_ ?_ <;>
    decide +kernel

/-- An envelope that one of two processes puts to the vote surfaces at the other one after three
hops. -/
theorem hop_bound_delayedPair :
    TimelyReaches (fun _ => 50000) (opening 2 (.startingAt ⟨5⟩) .standard ⟨40⟩) delayedPair ∧
      delayedPair.Surfaces crossing ⟨0⟩ (Envelope.encode default) .voted ∧
      ⟨⟨0⟩, some 1, Envelope.encode default⟩ ∈ crossing.network.arrivals ⟨1⟩ := by
  have reached :
      TimelyReaches (fun _ => 50000) (opening 2 (.startingAt ⟨5⟩) .standard ⟨40⟩) delayedPair :=
    .refl
  obtain ⟨-, -, -, withinWindow⟩ := hop_bound reached
    (by decide : delayedPair.bus.Joined ⟨0⟩) .voted ⟨0⟩ (Envelope.encode default) timely_crossing
  have surfaces := withinWindow { SimulationConfig.ofRanks 2 with jitter := ⟨40⟩ } rfl rfl rfl
    (by decide +kernel)
  refine ⟨reached, surfaces, ?_⟩
  exact surfaces rfl (by decide) (by decide +kernel) ⟨1⟩ (by decide +kernel) (by decide)

end PeerSystem

end Concord
