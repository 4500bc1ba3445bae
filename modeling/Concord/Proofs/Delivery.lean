import Concord.Proofs.Network

/-!
# Delivery

`Network.Lawful` says that nothing on a link is lost, repeated, reordered or made up: what a
process has written to another is what that one has acted on, then what it has polled, then
what waits on the link, then what is still to be sent. Every step keeps it, in every order and
however the clock is set.
-/

namespace Concord

namespace Network

/-- Messages under a sender are the messages of the packets that it sent. -/
theorem labelled_packets (sender : Rank) (packets : List Packet) :
    labelled sender (packets.map fun packet => (packet.sender, packet.message)) =
      (packets.filter fun packet => decide (packet.sender = sender)).map Packet.message := by
  induction packets with
  | nil => rfl
  | cons packet rest inductionHypothesis =>
    by_cases own : packet.sender = sender <;> simp [own, inductionHypothesis]

/-- A message for each of several processes is one message for each of them. -/
theorem labelled_map_of_mem {label : Rank} {ranks : List Rank} (distinct : ranks.Nodup)
    (member : label ∈ ranks) (message : Message) :
    labelled label (ranks.map fun rank => (rank, message)) = [message] := by
  induction ranks with
  | nil => simp at member
  | cons first rest inductionHypothesis =>
    obtain ⟨fresh, restDistinct⟩ := List.nodup_cons.1 distinct
    rw [List.map_cons, labelled_cons]
    by_cases here : first = label
    · subst here
      rw [if_pos rfl]
      congr 1
      apply List.eq_nil_iff_forall_not_mem.2
      intro other present
      obtain ⟨rank, listed, same⟩ := List.mem_map.1 (mem_labelled.1 present)
      cases same
      exact fresh listed
    · rw [if_neg here]
      exact inductionHypothesis restDistinct
        ((List.mem_cons.1 member).resolve_left fun same => here same.symm)

/-- What every network that came about by steps obeys. -/
structure Lawful (network : Network) : Prop where
  sound : network.bus.Sound
  named : ∀ rank, (network.stations rank).peer.rank = rank
  /-- Nothing is to be sent but over a link. -/
  addressed : ∀ {rank item}, item ∈ (network.stations rank).outbox → network.Linked rank item.1
  /-- Nothing was sent but over a link. -/
  routed : ∀ {sender receiver message}, message ∈ network.sentOn sender receiver →
    network.Linked sender receiver
  transported : ∀ sender receiver, network.sentOn sender receiver =
    network.handledFrom sender receiver ++ labelled sender (network.stations receiver).batch ++
      (network.bus.waiting sender receiver).map Packet.message
  scripted : ∀ {sender receiver}, network.Linked sender receiver →
    network.written sender receiver =
      network.sentOn sender receiver ++ labelled receiver (network.stations sender).outbox
  /-- Whatever was offered to a process and acted on was judged, once and in turn. -/
  voted : ∀ sender receiver,
    (network.handledFrom sender receiver).filterMap Message.proposal? =
      (network.judgements receiver sender).map fun vote => (vote.1, vote.2.1)

/-! ## Every step keeps the laws -/

/-- Whether a link exists depends on nothing but the size of the world. -/
theorem linked_iff_of_worldSize {network after : Network}
    (same : after.bus.worldSize = network.bus.worldSize) {sender receiver : Rank} :
    after.Linked sender receiver ↔ network.Linked sender receiver := by
  simp only [Linked, Bus.Joined, same]

/-- What a station has polled was sent to it over a link. -/
theorem Lawful.linked_of_batch {network : Network} (lawful : network.Lawful)
    {rank sender : Rank} {message : Message}
    (polled : (sender, message) ∈ (network.stations rank).batch) :
    message ∈ network.sentOn sender rank ∧ network.Linked sender rank := by
  have sent : message ∈ network.sentOn sender rank := by
    rw [lawful.transported]
    exact List.mem_append_left _ (List.mem_append_right _ (mem_labelled.2 polled))
  exact ⟨sent, lawful.routed sent⟩

/-- A process writes under its own name. -/
theorem author_of_mem_written {network : Network} {sender receiver : Rank} {message : Message}
    (member : message ∈ network.written sender receiver) : message.author = sender := by
  obtain ⟨event, _, found⟩ := List.mem_filterMap.1 member
  cases event <;> simp only [Event.written?, reduceCtorEq] at found
  all_goals
    split at found
    · cases found
      simp_all [Message.author]
    · simp at found

/-- What a station has polled names its sender. -/
theorem Lawful.author_of_batch {network : Network} (lawful : network.Lawful)
    {rank sender : Rank} {message : Message}
    (polled : (sender, message) ∈ (network.stations rank).batch) : message.author = sender := by
  obtain ⟨sent, linked⟩ := lawful.linked_of_batch polled
  have wrote : message ∈ network.written sender rank := by
    rw [lawful.scripted linked]
    exact List.mem_append_left _ sent
  exact author_of_mem_written wrote

/-- Where nothing has been sent, nothing is missing and nothing too much. -/
theorem Lawful.opening (worldSize : Nat) (clock : Clock) (seed : Seed) (jitter : Jitter) :
    (Network.opening worldSize clock seed jitter).Lawful where
  sound := Bus.Sound.connect worldSize clock seed jitter
  named := fun _ => rfl
  addressed := by
    intro rank item member
    simp [Network.opening, Station.resting] at member
  routed := by
    intro sender receiver message member
    simp [sentOn, Network.opening] at member
  transported := by
    intro sender receiver
    simp [sentOn, handledFrom, Network.opening, Station.resting, Bus.waiting]
  scripted := by
    intro sender receiver _
    simp [sentOn, written, Network.opening, Station.resting]
  voted := by
    intro sender receiver
    simp [handledFrom, judgements, Network.opening]

/-- The laws of delivery do not depend on the clock. -/
theorem Lawful.retime {network : Network} (lawful : network.Lawful) (clock : Clock) :
    (network.retime clock).Lawful :=
  ⟨lawful.sound.withClock clock, lawful.named, lawful.addressed, lawful.routed,
    lawful.transported, lawful.scripted, lawful.voted⟩

/-- A message that is sent is the last one on its link, and on no other link. -/
theorem sentOn_send (network : Network) (rank receiver : Rank) (message : Message)
    (rest : List (Rank × Message)) (sender target : Rank) :
    (network.send rank receiver message rest).sentOn sender target =
      network.sentOn sender target ++
        if rank = sender ∧ receiver = target then [message] else [] := by
  by_cases here : rank = sender ∧ receiver = target <;>
    simp [sentOn, Network.send, Event.sentOn?, here]

/-- Nobody acts on anything by sending. -/
theorem handledFrom_send (network : Network) (rank receiver : Rank) (message : Message)
    (rest : List (Rank × Message)) (sender target : Rank) :
    (network.send rank receiver message rest).handledFrom sender target =
      network.handledFrom sender target := by
  simp [handledFrom, Network.send, Event.handledFrom?]

/-- Sending leaves every process as it is. -/
@[simp] theorem peer_send (network : Network) (rank receiver : Rank) (message : Message)
    (rest : List (Rank × Message)) (other : Rank) :
    ((network.send rank receiver message rest).stations other).peer =
      (network.stations other).peer := by
  rw [Network.send, put_stations]
  by_cases own : other = rank <;> simp [own]

/-- Sending leaves what has been polled as it is. -/
@[simp] theorem batch_send (network : Network) (rank receiver : Rank) (message : Message)
    (rest : List (Rank × Message)) (other : Rank) :
    ((network.send rank receiver message rest).stations other).batch =
      (network.stations other).batch := by
  rw [Network.send, put_stations]
  by_cases own : other = rank <;> simp [own]

/-- What has been sent is gone from the outbox of its sender. -/
theorem outbox_send (network : Network) (rank receiver : Rank) (message : Message)
    (rest : List (Rank × Message)) (other : Rank) :
    ((network.send rank receiver message rest).stations other).outbox =
      if other = rank then rest else (network.stations other).outbox := by
  rw [Network.send, put_stations]
  by_cases own : other = rank <;> simp [own]

/-- What is left to be sent was to be sent before. -/
theorem outbox_send_subset {network : Network} {rank receiver : Rank} {message : Message}
    {rest : List (Rank × Message)}
    (next : (network.stations rank).outbox = (receiver, message) :: rest) (other : Rank) :
    ((network.send rank receiver message rest).stations other).outbox ⊆
      (network.stations other).outbox := by
  rw [outbox_send]
  split
  · next own =>
    rw [own, next]
    exact List.subset_cons_self _ _
  · exact List.Subset.refl _

/-- Sending the next message of an outbox keeps the laws of delivery. -/
theorem Lawful.send {network : Network} (lawful : network.Lawful) {rank receiver : Rank}
    {message : Message} {rest : List (Rank × Message)}
    (next : (network.stations rank).outbox = (receiver, message) :: rest) :
    (network.send rank receiver message rest).Lawful := by
  have queued : (receiver, message) ∈ (network.stations rank).outbox := by
    rw [next]
    exact List.mem_cons_self
  have linked : network.Linked rank receiver := lawful.addressed queued
  have size : (network.send rank receiver message rest).bus.worldSize = network.bus.worldSize :=
    Bus.worldSize_send _ _ _ _
  exact {
    sound := lawful.sound.send linked.1 linked.2.1 message
    named := by
      intro other
      rw [peer_send]
      exact lawful.named other
    addressed := by
      intro other item member
      rw [linked_iff_of_worldSize size]
      exact lawful.addressed (outbox_send_subset next other member)
    routed := by
      intro sender target sent member
      rw [linked_iff_of_worldSize size]
      rw [sentOn_send] at member
      by_cases here : rank = sender ∧ receiver = target
      · obtain ⟨rfl, rfl⟩ := here
        exact linked
      · exact lawful.routed (by simpa [here] using member)
    transported := by
      intro sender target
      rw [sentOn_send, handledFrom_send, lawful.transported, batch_send]
      have waiting : (network.send rank receiver message rest).bus.waiting sender target =
          network.bus.waiting sender target ++
            if sender = rank ∧ target = receiver then
              [network.bus.packet rank receiver message] else [] :=
        Bus.waiting_send lawful.sound linked.1 linked.2.1 message sender target
      rw [waiting]
      by_cases here : rank = sender ∧ receiver = target
      · obtain ⟨rfl, rfl⟩ := here
        simp [Bus.packet]
      · have elsewhere : ¬ (sender = rank ∧ target = receiver) := fun same =>
          here ⟨same.1.symm, same.2.symm⟩
        simp [here, elsewhere]
    scripted := by
      intro sender target linkedThere
      rw [linked_iff_of_worldSize size] at linkedThere
      have same : (network.send rank receiver message rest).written sender target =
          network.written sender target := by
        simp [written, Network.send, Event.written?]
      rw [same, lawful.scripted linkedThere, sentOn_send, outbox_send]
      by_cases own : sender = rank
      · subst own
        by_cases here : receiver = target <;> simp [next, here]
      · have foreign : ¬ rank = sender := fun equal => own equal.symm
        simp [own, foreign]
    voted := by
      intro sender target
      rw [handledFrom_send, lawful.voted]
      simp [judgements, Network.send, Event.judgedFor?] }

/-- To everybody else a message for everybody else is one message. -/
theorem labelled_everyoneElse {bus : Bus} (sound : bus.Sound) {rank target : Rank}
    (joined : bus.Joined target) (different : rank ≠ target) (message : Message) :
    labelled target ((bus.everyoneElse rank).map fun receiver => (receiver, message)) =
      [message] :=
  labelled_map_of_mem (bus.nodup_everyoneElse rank)
    ((Bus.mem_everyoneElse sound).2 ⟨joined, fun same => different same.symm⟩) message

/-- What a peer writes when it acts on a message is what it has to send then. -/
theorem written_handleEvents {bus : Bus} (sound : bus.Sound) (judge : Judge) (peer : Peer)
    (sender : Rank) (message : Message) {target : Rank} (joined : bus.Joined target)
    (different : peer.rank ≠ target) :
    (Peer.handleEvents judge bus peer sender message).filterMap (Event.written? peer.rank target) =
      labelled target (Peer.replies judge bus peer message) := by
  rw [Peer.handleEvents, List.filterMap_cons_none rfl]
  cases message with
  | propose origin number envelope =>
    by_cases here : origin = target <;>
      simp [Peer.outcomeEvents, Peer.replies, Event.written?, here]
  | vote voter number yes =>
    simp only [Peer.outcomeEvents, Peer.replies]
    cases peer.outcome? bus number yes with
    | none => rfl
    | some outcome =>
      simp only [labelled_everyoneElse sound joined different]
      simp [Event.written?]
  | decision origin number approved envelope => rfl
  | broadcast origin envelope => rfl

/-- What an event is to a projection that reads nothing of what a peer judges or decides. -/
theorem outcomeEvents_eq_nil {Item : Type} {view : Event → Option Item} (judge : Judge) (bus : Bus)
    (peer : Peer) (message : Message)
    (unjudged : ∀ origin number envelope verdict,
      view (.judged peer.rank origin number envelope verdict) = none)
    (undecided : ∀ number approved envelope,
      view (.decided peer.rank number approved envelope) = none) :
    (Peer.outcomeEvents judge bus peer message).filterMap view = [] := by
  cases message with
  | propose origin number envelope => simp [Peer.outcomeEvents, unjudged]
  | vote voter number yes =>
    simp only [Peer.outcomeEvents]
    cases peer.outcome? bus number yes <;> simp [undecided]
  | decision origin number approved envelope => rfl
  | broadcast origin envelope => rfl

/-- By acting on a message nobody writes anything but the process that acts. -/
theorem written_handleEvents_of_ne (judge : Judge) (bus : Bus) (peer : Peer) (sender : Rank)
    (message : Message) {source : Rank} (other : peer.rank ≠ source) (target : Rank) :
    (Peer.handleEvents judge bus peer sender message).filterMap
      (Event.written? source target) = [] := by
  rw [Peer.handleEvents, List.filterMap_cons_none rfl]
  apply outcomeEvents_eq_nil
  · simp [Event.written?, other]
  · simp [Event.written?, other]

/-- Acting on a message is noted once, for its sender and for the process that acts. -/
theorem handledFrom_handleEvents (judge : Judge) (bus : Bus) (peer : Peer) (sender : Rank)
    (message : Message) (source target : Rank) :
    (Peer.handleEvents judge bus peer sender message).filterMap (Event.handledFrom? source target) =
      if sender = source ∧ peer.rank = target then [message] else [] := by
  rw [Peer.handleEvents, List.filterMap_cons, outcomeEvents_eq_nil judge bus peer message
    (fun _ _ _ _ => rfl) (fun _ _ _ => rfl)]
  by_cases here : sender = source ∧ peer.rank = target <;> simp [Event.handledFrom?, here]

/-- Acting on a message sends nothing yet: replies go to the outbox. -/
theorem sentOn_handleEvents (judge : Judge) (bus : Bus) (peer : Peer) (sender : Rank)
    (message : Message) (source target : Rank) :
    (Peer.handleEvents judge bus peer sender message).filterMap
      (Event.sentOn? source target) = [] := by
  rw [Peer.handleEvents, List.filterMap_cons_none rfl]
  exact outcomeEvents_eq_nil judge bus peer message (fun _ _ _ _ => rfl) (fun _ _ _ => rfl)

/-- A peer that acts on a message judges what the message asks it to judge. -/
theorem judgedFor_handleEvents (judge : Judge) (bus : Bus) (peer : Peer) {sender : Rank}
    {message : Message} (author : message.author = sender) (source target : Rank) :
    ((Peer.handleEvents judge bus peer sender message).filterMap
      (Event.judgedFor? target source)).map
        (fun vote => (vote.1, vote.2.1)) =
      if sender = source ∧ peer.rank = target then message.proposal?.toList else [] := by
  rw [Peer.handleEvents, List.filterMap_cons_none rfl]
  cases message with
  | propose origin number envelope =>
    have own : origin = sender := author
    subst own
    by_cases voter : peer.rank = target <;> by_cases owner : origin = source <;>
      simp [Peer.outcomeEvents, Event.judgedFor?, Message.proposal?, voter, owner]
  | vote voter number yes =>
    simp only [Peer.outcomeEvents]
    cases peer.outcome? bus number yes <;> simp [Event.judgedFor?, Message.proposal?]
  | decision origin number approved envelope => simp [Peer.outcomeEvents, Message.proposal?]
  | broadcast origin envelope => simp [Peer.outcomeEvents, Message.proposal?]

/-- What has been sent on a link stays the same while a message is acted on. -/
theorem sentOn_handle (network : Network) (judge : Judge) (rank origin : Rank) (message : Message)
    (rest : List (Rank × Message)) (sender receiver : Rank) :
    (network.handle judge rank origin message rest).sentOn sender receiver =
      network.sentOn sender receiver := by
  simp [sentOn, Network.handle, sentOn_handleEvents]

/-- A message that is acted on is the last one that its process has acted on. -/
theorem handledFrom_handle {network : Network} (judge : Judge) {rank : Rank}
    (named : (network.stations rank).peer.rank = rank) (sender : Rank) (message : Message)
    (rest : List (Rank × Message)) (source target : Rank) :
    (network.handle judge rank sender message rest).handledFrom source target =
      network.handledFrom source target ++
        if sender = source ∧ rank = target then [message] else [] := by
  simp [handledFrom, Network.handle, handledFrom_handleEvents, named]

/-- A process that acts on a message changes as its own station says. -/
theorem stations_handle_self (network : Network) (judge : Judge) (rank sender : Rank)
    (message : Message) (rest : List (Rank × Message)) :
    (network.handle judge rank sender message rest).stations rank =
      (Station.handle judge network.bus (network.stations rank) message rest).2 := by
  rw [Network.handle, put_stations, if_pos rfl]

/-- No other process is changed by it. -/
theorem stations_handle_of_ne (network : Network) {rank other : Rank} (apart : other ≠ rank)
    (judge : Judge) (sender : Rank) (message : Message) (rest : List (Rank × Message)) :
    (network.handle judge rank sender message rest).stations other = network.stations other := by
  rw [Network.handle, put_stations, if_neg apart]

/-- Nobody leaves because of a message. -/
theorem finalized_handle (network : Network) (judge : Judge) (rank sender : Rank)
    (message : Message) (rest : List (Rank × Message)) (other : Rank) :
    ((network.handle judge rank sender message rest).stations other).peer.finalized =
      (network.stations other).peer.finalized := by
  by_cases own : other = rank
  · rw [own, stations_handle_self]
    exact Peer.finalized_handle judge network.bus _ message
  · rw [stations_handle_of_ne network own]

/-- What is left to be acted on was to be acted on before. -/
theorem batch_handle_subset {network : Network} {rank sender : Rank} {message : Message}
    {rest : List (Rank × Message)}
    (next : (network.stations rank).batch = (sender, message) :: rest) (judge : Judge)
    (other : Rank) :
    ((network.handle judge rank sender message rest).stations other).batch ⊆
      (network.stations other).batch := by
  by_cases own : other = rank
  · rw [own, stations_handle_self, next]
    exact List.subset_cons_self _ _
  · rw [stations_handle_of_ne network own]
    exact List.Subset.refl _

/-- What a process has to say to everybody goes over links. -/
theorem Lawful.linked_of_everyoneElse {network : Network} (lawful : network.Lawful) {rank : Rank}
    (joined : network.bus.Joined rank) {message : Message} {item : Rank × Message}
    (listed : item ∈ (network.bus.everyoneElse rank).map fun receiver => (receiver, message)) :
    network.Linked rank item.1 := by
  obtain ⟨target, inWorld, rfl⟩ := List.mem_map.1 listed
  obtain ⟨there, different⟩ := (Bus.mem_everyoneElse lawful.sound).1 inWorld
  exact ⟨joined, there, fun same => different same.symm⟩

/-- What a process replies to a message goes over links. -/
theorem Lawful.linked_of_replies {network : Network} (lawful : network.Lawful) (judge : Judge)
    {rank sender : Rank} {message : Message}
    (polled : (sender, message) ∈ (network.stations rank).batch) {item : Rank × Message}
    (replied : item ∈ Peer.replies judge network.bus (network.stations rank).peer message) :
    network.Linked rank item.1 := by
  have linked : network.Linked sender rank := (lawful.linked_of_batch polled).2
  cases message with
  | propose origin number envelope =>
    have back : item.1 = origin := by simp_all [Peer.replies]
    have author : origin = sender := lawful.author_of_batch polled
    rw [back, author]
    exact ⟨linked.2.1, linked.1, fun same => linked.2.2 same.symm⟩
  | vote voter number yes =>
    simp only [Peer.replies, lawful.named] at replied
    split at replied
    · simp at replied
    · exact lawful.linked_of_everyoneElse linked.2.1 replied
  | decision origin number approved envelope => simp [Peer.replies] at replied
  | broadcast origin envelope => simp [Peer.replies] at replied

/-- A process that acts on a message writes its replies. -/
theorem Lawful.written_handle {network : Network} (lawful : network.Lawful) (judge : Judge)
    (rank sender : Rank) (message : Message) (rest : List (Rank × Message))
    {source target : Rank} (linked : network.Linked source target) :
    (network.handle judge rank sender message rest).written source target =
      network.written source target ++
        if source = rank then
          labelled target (Peer.replies judge network.bus (network.stations rank).peer message)
        else [] := by
  have named := lawful.named rank
  rw [written, Network.handle, put_history, List.filterMap_append, written]
  congr 1
  by_cases own : source = rank
  · subst own
    have wrote :=
      written_handleEvents lawful.sound judge (network.stations source).peer sender message
        linked.2.1 (by rw [named]; exact linked.2.2)
    rw [if_pos rfl, ← wrote, named]
  · rw [if_neg own]
    apply written_handleEvents_of_ne
    rw [named]
    exact fun equal => own equal.symm

/-- What is acted on has been sent: it was polled. -/
theorem Lawful.transported_handle {network : Network} (lawful : network.Lawful) (judge : Judge)
    {rank sender : Rank} {message : Message} {rest : List (Rank × Message)}
    (next : (network.stations rank).batch = (sender, message) :: rest) (source target : Rank) :
    (network.handle judge rank sender message rest).sentOn source target =
      (network.handle judge rank sender message rest).handledFrom source target ++
        labelled source
          ((network.handle judge rank sender message rest).stations target).batch ++
        ((network.handle judge rank sender message rest).bus.waiting source target).map
          Packet.message := by
  rw [sentOn_handle, handledFrom_handle judge (lawful.named rank), lawful.transported]
  have waiting : (network.handle judge rank sender message rest).bus.waiting source target =
      network.bus.waiting source target := rfl
  rw [waiting]
  by_cases own : target = rank
  · subst own
    rw [stations_handle_self]
    by_cases here : sender = source <;> simp [Station.handle, next, here]
  · have foreign : ¬ rank = target := fun equal => own equal.symm
    simp [stations_handle_of_ne network own, foreign]

/-- A proposal that is acted on is judged, and nothing else is. -/
theorem Lawful.voted_handle {network : Network} (lawful : network.Lawful) (judge : Judge)
    {rank sender : Rank} {message : Message} (rest : List (Rank × Message))
    (polled : (sender, message) ∈ (network.stations rank).batch) (source target : Rank) :
    ((network.handle judge rank sender message rest).handledFrom source target).filterMap
        Message.proposal? =
      ((network.handle judge rank sender message rest).judgements target source).map
        fun vote => (vote.1, vote.2.1) := by
  have named := lawful.named rank
  have judged := judgedFor_handleEvents judge network.bus (network.stations rank).peer
    (lawful.author_of_batch polled) source target
  rw [named] at judged
  rw [handledFrom_handle judge named, List.filterMap_append, lawful.voted]
  simp only [judgements, Network.handle, put_history, List.filterMap_append, List.map_append,
    judged]
  by_cases here : sender = source ∧ rank = target
  · cases asked : message.proposal? <;> simp [here, asked]
  · simp [here]

/-- Acting on a message keeps the laws. -/
theorem Lawful.handle {network : Network} (lawful : network.Lawful) (judge : Judge)
    {rank sender : Rank} {message : Message} {rest : List (Rank × Message)}
    (quiet : (network.stations rank).outbox = [])
    (next : (network.stations rank).batch = (sender, message) :: rest) :
    (network.handle judge rank sender message rest).Lawful := by
  have polled : (sender, message) ∈ (network.stations rank).batch := by
    rw [next]
    exact List.mem_cons_self
  have named : (network.stations rank).peer.rank = rank := lawful.named rank
  have size : (network.handle judge rank sender message rest).bus.worldSize =
      network.bus.worldSize := rfl
  exact {
    sound := lawful.sound.withClock _
    named := by
      intro other
      by_cases own : other = rank
      · rw [own, stations_handle_self]
        exact (Peer.rank_handle judge network.bus _ message).trans named
      · rw [stations_handle_of_ne network own]
        exact lawful.named other
    addressed := by
      intro other item member
      rw [linked_iff_of_worldSize size]
      by_cases own : other = rank
      · subst own
        rw [stations_handle_self] at member
        exact lawful.linked_of_replies judge polled member
      · rw [stations_handle_of_ne network own] at member
        exact lawful.addressed member
    routed := by
      intro source target sent member
      rw [linked_iff_of_worldSize size]
      rw [sentOn_handle] at member
      exact lawful.routed member
    transported := lawful.transported_handle judge next
    scripted := by
      intro source target linked
      rw [linked_iff_of_worldSize size] at linked
      rw [lawful.written_handle judge rank sender message rest linked, lawful.scripted linked,
        sentOn_handle]
      by_cases own : source = rank
      · subst own
        simp [stations_handle_self, Station.handle, quiet]
      · simp [stations_handle_of_ne network own, own]
    voted := lawful.voted_handle judge rest polled }

/-- Where there are two processes, neither is alone in the world. -/
theorem others_ne_zero {bus : Bus} {rank target : Rank} (joined : bus.Joined rank)
    (there : bus.Joined target) (different : rank ≠ target) : Peer.others bus ≠ 0 := by
  have apart : rank.toNat ≠ target.toNat := fun same => different (Rank.toNat_inj.1 same)
  unfold Bus.Joined at joined there
  unfold Peer.others
  omega

/-- A request leaves a process's name and the size of the world as they are. -/
theorem rank_serve (bus : Bus) (station : Station) (request : Request) :
    (Station.serve bus station request).2.peer.rank = station.peer.rank := by
  cases request with
  | submitVote id envelope =>
    cases accepts : station.peer.mayOffer with
    | true => simp [Station.serve, Peer.submitVote_of_mayOffer accepts, Peer.withBallot]
    | false =>
      obtain ⟨cause, refused⟩ :=
        @Peer.submitVote_of_not_mayOffer bus station.peer accepts id envelope
      simp [Station.serve, refused]
  | progress =>
    simp only [Station.serve]
    split <;> rfl
  | checkout =>
    simp only [Station.serve, Peer.checkout]
    split <;> rfl
  | _ => rfl

/-- Answering a request leaves the world as large as it is. -/
theorem worldSize_serve (bus : Bus) (station : Station) (request : Request) :
    (Station.serve bus station request).1.worldSize = bus.worldSize := by
  cases request with
  | progress =>
    simp only [Station.serve]
    split
    · rfl
    · exact Bus.worldSize_poll _ _
  | _ => rfl

/-- What a peer writes when it takes on a request is what it has to send then. -/
theorem written_serveEvents {bus : Bus} (sound : bus.Sound) {station : Station}
    (quiet : station.outbox = []) (request : Request) {target : Rank}
    (here : bus.Joined station.peer.rank) (joined : bus.Joined target)
    (different : station.peer.rank ≠ target) :
    (Peer.serveEvents bus station.peer request).filterMap
        (Event.written? station.peer.rank target) =
      labelled target (Station.serve bus station request).2.outbox := by
  cases request with
  | submitVote id envelope =>
    have several := others_ne_zero here joined different
    simp only [Peer.serveEvents, Station.serve, Peer.offerings]
    by_cases accepts : station.peer.mayOffer = true
    · simp [accepts, several, labelled_everyoneElse sound joined different, Event.written?]
    · simp [accepts]
  | submitBroadcast id envelope =>
    simp only [Peer.serveEvents, Station.serve, Peer.announcements]
    by_cases closed : station.peer.finalized = true
    · simp [closed]
    · simp [closed, labelled_everyoneElse sound joined different, Event.written?]
  | progress =>
    simp only [Station.serve, Peer.serveEvents]
    split <;> simp [quiet]
  | checkout =>
    simp only [Station.serve, Peer.serveEvents]
    split <;> simp [quiet, Event.written?]
  | _ => simp [Station.serve, Peer.serveEvents, quiet]

/-- What a projection makes of a request that looks at nothing that requests do. -/
theorem serveEvents_eq_nil {Item : Type} (view : Event → Option Item) (bus : Bus) (peer : Peer)
    (request : Request)
    (unoffered : ∀ number envelope, view (.offered peer.rank number envelope) = none)
    (undecided : ∀ number approved envelope,
      view (.decided peer.rank number approved envelope) = none)
    (unannounced : ∀ envelope, view (.announced peer.rank envelope) = none)
    (uncollected : ∀ envelope, view (.collected peer.rank envelope) = none) :
    (Peer.serveEvents bus peer request).filterMap view = [] := by
  cases request with
  | submitVote id envelope =>
    simp only [Peer.serveEvents]
    split
    · split <;> simp [unoffered, undecided]
    · rfl
  | submitBroadcast id envelope =>
    simp only [Peer.serveEvents]
    split <;> simp [unannounced]
  | checkout =>
    simp only [Peer.serveEvents]
    split <;> simp [uncollected]
  | _ => rfl

/-- A process that answers a request changes as its own station says. -/
theorem stations_serve_self (network : Network) (rank : Rank) (request : Request) :
    (network.serve rank request).stations rank =
      (Station.serve network.bus (network.stations rank) request).2 := by
  rw [Network.serve, put_stations, if_pos rfl]

/-- No other process is changed by a request. -/
theorem stations_serve_of_ne (network : Network) {rank other : Rank} (apart : other ≠ rank)
    (request : Request) :
    (network.serve rank request).stations other = network.stations other := by
  rw [Network.serve, put_stations, if_neg apart]

/-- Requests to be served leave a poll's front in the batch and the rest on the link. -/
theorem front_serve {bus : Bus} (sound : bus.Sound) {station : Station} (idle : station.Idle)
    (request : Request) (sender receiver : Rank) :
    (labelled sender
        (if receiver = station.peer.rank then (Station.serve bus station request).2.batch
          else [])) ++
      ((Station.serve bus station request).1.waiting sender receiver).map Packet.message =
        (bus.waiting sender receiver).map Packet.message := by
  have unchanged : ∀ after : Bus × Station, after.2.batch = [] →
      after.1.waiting sender receiver = bus.waiting sender receiver →
      (labelled sender (if receiver = station.peer.rank then after.2.batch else [])) ++
        (after.1.waiting sender receiver).map Packet.message =
          (bus.waiting sender receiver).map Packet.message := by
    intro after empty same
    rw [empty, same]
    by_cases here : receiver = station.peer.rank <;> simp [here]
  cases request with
  | progress =>
    by_cases closed : station.peer.finalized = true
    · have still : Station.serve bus station .progress = (bus, station) := if_pos closed
      rw [still]
      exact unchanged (bus, station) idle.1 rfl
    · have polls : Station.serve bus station .progress =
          ((bus.poll station.peer.rank).2,
            { station with batch := (bus.poll station.peer.rank).1 }) := if_neg closed
      rw [polls]
      by_cases here : receiver = station.peer.rank
      · subst here
        have front := congrArg (List.map Packet.message)
          (Bus.poll_front sound sender station.peer.rank)
        rw [List.map_append] at front
        rw [if_pos rfl, Bus.poll_fst, ← front]
        rw [labelled_packets]
      · rw [if_neg here, labelled_nil, List.nil_append,
          Bus.waiting_poll_of_ne bus here sender]
  | submitVote id envelope => exact unchanged _ idle.1 rfl
  | checkout => exact unchanged _ idle.1 rfl
  | readClock => exact unchanged _ idle.1 rfl
  | submitBroadcast id envelope => exact unchanged _ idle.1 rfl
  | readStatus id => exact unchanged _ idle.1 rfl
  | release => exact unchanged _ idle.1 rfl
  | finalize => exact unchanged _ idle.1 rfl
  | execute proposal => exact unchanged _ idle.1 rfl

/-- Answering a request keeps the bus sound. -/
theorem sound_serve {bus : Bus} (sound : bus.Sound) (station : Station) (request : Request) :
    (Station.serve bus station request).1.Sound := by
  cases request with
  | readClock => exact sound.withClock _
  | progress =>
    simp only [Station.serve]
    split
    · exact sound
    · exact sound.poll _
  | _ => exact sound

/-- Answering a request sends nothing yet. -/
theorem sentOn_serve (network : Network) (rank : Rank) (request : Request)
    (sender receiver : Rank) :
    (network.serve rank request).sentOn sender receiver = network.sentOn sender receiver := by
  have silent := serveEvents_eq_nil (Event.sentOn? sender receiver) network.bus
    (network.stations rank).peer request (fun _ _ => rfl) (fun _ _ _ => rfl) (fun _ => rfl)
    (fun _ => rfl)
  simp [sentOn, Network.serve, silent]

/-- Answering a request acts on no message. -/
theorem handledFrom_serve (network : Network) (rank : Rank) (request : Request)
    (sender receiver : Rank) :
    (network.serve rank request).handledFrom sender receiver =
      network.handledFrom sender receiver := by
  have silent := serveEvents_eq_nil (Event.handledFrom? sender receiver) network.bus
    (network.stations rank).peer request (fun _ _ => rfl) (fun _ _ _ => rfl) (fun _ => rfl)
    (fun _ => rfl)
  simp [handledFrom, Network.serve, silent]

/-- What a process has to send because of a request goes over links. -/
theorem Lawful.linked_of_serve {network : Network} (lawful : network.Lawful) {rank : Rank}
    {request : Request} (joined : network.bus.Joined rank)
    (idle : (network.stations rank).Idle) {item : Rank × Message}
    (queued : item ∈ (Station.serve network.bus (network.stations rank) request).2.outbox) :
    network.Linked rank item.1 := by
  have named : (network.stations rank).peer.rank = rank := lawful.named rank
  cases request with
  | submitVote id envelope =>
    simp only [Station.serve, Peer.offerings, named] at queued
    split at queued
    · exact lawful.linked_of_everyoneElse joined queued
    · simp at queued
  | submitBroadcast id envelope =>
    simp only [Station.serve, Peer.announcements, named] at queued
    split at queued
    · simp at queued
    · exact lawful.linked_of_everyoneElse joined queued
  | progress =>
    simp only [Station.serve] at queued
    split at queued <;> simp [idle.2] at queued
  | _ => simp [Station.serve, idle.2] at queued

/-- A process that takes on a request writes what it has to send because of it. -/
theorem Lawful.written_serve {network : Network} (lawful : network.Lawful) {rank : Rank}
    (request : Request) (joined : network.bus.Joined rank)
    (idle : (network.stations rank).Idle) {source target : Rank}
    (linked : network.Linked source target) :
    (network.serve rank request).written source target =
      network.written source target ++
        if source = rank then
          labelled target (Station.serve network.bus (network.stations rank) request).2.outbox
        else [] := by
  have named : (network.stations rank).peer.rank = rank := lawful.named rank
  rw [written, Network.serve, put_history, List.filterMap_append, written]
  congr 1
  by_cases own : source = rank
  · subst own
    have wrote := written_serveEvents lawful.sound idle.2 request (by rw [named]; exact joined)
      linked.2.1 (by rw [named]; exact linked.2.2)
    rw [if_pos rfl, ← wrote, named]
  · have foreign : ¬ (network.stations rank).peer.rank = source := by
      rw [named]
      exact fun equal => own equal.symm
    rw [if_neg own, serveEvents_eq_nil] <;> simp [Event.written?, foreign]

/-- Answering a request of an idle process keeps the laws of delivery. -/
theorem Lawful.serve {network : Network} (lawful : network.Lawful) {rank : Rank}
    (request : Request) (joined : network.bus.Joined rank)
    (idle : (network.stations rank).Idle) : (network.serve rank request).Lawful := by
  have named : (network.stations rank).peer.rank = rank := lawful.named rank
  have size : (network.serve rank request).bus.worldSize = network.bus.worldSize :=
    worldSize_serve _ _ _
  exact {
    sound := sound_serve lawful.sound _ _
    named := by
      intro other
      by_cases own : other = rank
      · rw [own, stations_serve_self, rank_serve]
        exact named
      · rw [stations_serve_of_ne network own]
        exact lawful.named other
    addressed := by
      intro other item member
      rw [linked_iff_of_worldSize size]
      by_cases own : other = rank
      · subst own
        rw [stations_serve_self] at member
        exact lawful.linked_of_serve joined idle member
      · rw [stations_serve_of_ne network own] at member
        exact lawful.addressed member
    routed := by
      intro sender target message member
      rw [linked_iff_of_worldSize size]
      rw [sentOn_serve] at member
      exact lawful.routed member
    transported := by
      intro sender target
      rw [sentOn_serve, handledFrom_serve, lawful.transported, List.append_assoc,
        List.append_assoc]
      congr 1
      have front := front_serve lawful.sound idle request sender target
      rw [named] at front
      by_cases own : target = rank
      · subst own
        rw [if_pos rfl] at front
        rw [stations_serve_self, idle.1]
        exact front.symm
      · rw [if_neg own, labelled_nil, List.nil_append] at front
        rw [stations_serve_of_ne network own]
        exact congrArg (_ ++ ·) front.symm
    scripted := by
      intro sender target linked
      rw [linked_iff_of_worldSize size] at linked
      rw [lawful.written_serve request joined idle linked, lawful.scripted linked, sentOn_serve]
      by_cases own : sender = rank
      · subst own
        simp [stations_serve_self, idle.2]
      · simp [stations_serve_of_ne network own, own]
    voted := by
      intro sender target
      have silent := serveEvents_eq_nil (Event.judgedFor? target sender) network.bus
        (network.stations rank).peer request (fun _ _ => rfl) (fun _ _ _ => rfl) (fun _ => rfl)
        (fun _ => rfl)
      rw [handledFrom_serve, lawful.voted]
      simp [judgements, Network.serve, silent] }

/-- Every step keeps the laws of delivery. -/
theorem Lawful.step {network after : Network} (lawful : network.Lawful)
    (next : Step network after) : after.Lawful := by
  cases next with
  | time clock => exact lawful.retime clock
  | send next => exact lawful.send next
  | handle judge quiet next => exact lawful.handle judge quiet next
  | serve rank request joined idle => exact lawful.serve request joined idle

/-- Whatever the processes do in whatever order, the laws hold. -/
theorem Lawful.reaches {network after : Network} (lawful : network.Lawful)
    (steps : Reaches network after) : after.Lawful := by
  induction steps with
  | refl => exact lawful
  | step _ next inductionHypothesis => exact inductionHypothesis.step next

/-- What a process has written to another is on its way or has been acted on. -/
theorem Lawful.pipeline {network : Network} (lawful : network.Lawful) {sender receiver : Rank}
    (linked : network.Linked sender receiver) :
    network.written sender receiver =
      network.handledFrom sender receiver ++ network.inFlight sender receiver := by
  rw [lawful.scripted linked, lawful.transported, inFlight]
  simp only [List.append_assoc]

/-- A process is acted on only over a link. -/
theorem Lawful.linked_of_handled {network : Network} (lawful : network.Lawful)
    {sender receiver : Rank} {message : Message}
    (member : message ∈ network.handledFrom sender receiver) : network.Linked sender receiver := by
  have sent : message ∈ network.sentOn sender receiver := by
    rw [lawful.transported, List.append_assoc]
    exact List.mem_append_left _ member
  exact lawful.routed sent

end Network

end Concord
