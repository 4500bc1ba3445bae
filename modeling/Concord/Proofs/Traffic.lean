import Concord.Proofs.Delays

/-!
# Traffic on the bus

The ends of a bus send, broadcast and poll as they like, any of them may leave, and the clock may
be set to anything at any time. `Traffic` keeps a record of what was sent and polled, with the
times that were read for it. On every link to an end where somebody listens, what was polled, then
what is held, then what nobody has read is what was sent. Nothing is polled before it is due,
nothing is due before it is sent, and if the times that were read never go back, nothing is due
later than the largest delay after it was sent.
-/

namespace Concord

namespace Bus

/-- What a process has read before it was due. -/
def held (bus : Bus) (rank : Rank) : List Packet :=
  (bus.endpoint? rank).elim [] Endpoint.held

/-- What a process has not read. -/
def inbox (bus : Bus) (rank : Rank) : List Packet :=
  (bus.endpoint? rank).elim [] Endpoint.inbox

/-- What arrives is first what is held back, then what is in the inbox. -/
theorem arriving_eq (bus : Bus) (rank : Rank) :
    bus.arriving rank = bus.held rank ++ bus.inbox rank := by
  unfold arriving held inbox
  cases bus.endpoint? rank <;> rfl

/-! ## Who listens, and who has a link to whom -/

/-- Sending changes nothing about who listens. -/
@[simp] theorem listens_send (bus : Bus) (sender receiver : Rank) (message : Message)
    (other : Rank) :
    (bus.send sender receiver message).listens other = bus.listens other := by
  by_cases known : bus.knows sender receiver = true
  · unfold listens
    rw [endpoint?_send known]
    cases bus.endpoint? other <;> rfl
  · rw [send_eq_self known]

/-- Sending changes nothing about who has links. -/
@[simp] theorem knows_send (bus : Bus) (sender receiver : Rank) (message : Message)
    (origin other : Rank) :
    (bus.send sender receiver message).knows origin other = bus.knows origin other := by
  by_cases known : bus.knows sender receiver = true
  · unfold knows
    rw [endpoint?_send known]
    cases bus.endpoint? origin with
    | none => rfl
    | some endpoint => by_cases own : origin = sender <;> simp [afterSend, own]
  · rw [send_eq_self known]

/-- Polling changes nothing about who listens. -/
@[simp] theorem listens_poll (bus : Bus) (rank other : Rank) :
    (bus.poll rank).2.listens other = bus.listens other := by
  unfold listens
  rw [endpoint?_poll]
  cases bus.endpoint? other with
  | none => rfl
  | some endpoint => by_cases own : other = rank <;> simp [own]

/-- Polling changes nothing about who has links. -/
@[simp] theorem knows_poll (bus : Bus) (rank origin other : Rank) :
    (bus.poll rank).2.knows origin other = bus.knows origin other := by
  unfold knows
  rw [endpoint?_poll]
  cases bus.endpoint? origin with
  | none => rfl
  | some endpoint => by_cases own : origin = rank <;> simp [own]

/-- An end that leaves loses all that arrives, and the others stay as they are. -/
theorem endpoint?_detach (bus : Bus) (rank other : Rank) :
    (bus.detach rank).endpoint? other = (bus.endpoint? other).map fun endpoint =>
      if other = rank then { endpoint with inbox := [], held := [], attached := false }
      else endpoint := by
  rw [detach, endpoint?_update]

/-- Who leaves does not listen. -/
theorem listens_detach (bus : Bus) (rank other : Rank) :
    (bus.detach rank).listens other = (bus.listens other && decide (other ≠ rank)) := by
  unfold listens
  rw [endpoint?_detach]
  cases bus.endpoint? other with
  | none => rfl
  | some endpoint => by_cases own : other = rank <;> simp [own]

/-- What waits for the others is not lost when one leaves. -/
theorem waiting_detach (bus : Bus) {rank other : Rank} (stays : other ≠ rank) (origin : Rank) :
    (bus.detach rank).waiting origin other = bus.waiting origin other := by
  unfold waiting arriving
  rw [endpoint?_detach]
  cases bus.endpoint? other <;> simp [stays]

/-- When the last message on a link is due does not depend on who has left. -/
theorem lastDue_detach (bus : Bus) (rank origin other : Rank) :
    (bus.detach rank).lastDue origin other = bus.lastDue origin other := by
  unfold lastDue
  rw [endpoint?_detach]
  cases bus.endpoint? origin with
  | none => rfl
  | some endpoint => by_cases own : origin = rank <;> simp [own]

/-- Leaving changes nothing about who has links. -/
@[simp] theorem knows_detach (bus : Bus) (rank origin other : Rank) :
    (bus.detach rank).knows origin other = bus.knows origin other := by
  unfold knows
  rw [endpoint?_detach]
  cases bus.endpoint? origin with
  | none => rfl
  | some endpoint => by_cases own : origin = rank <;> simp [own]

/-- Leaving does not make the world smaller. -/
@[simp] theorem worldSize_detach (bus : Bus) (rank : Rank) :
    (bus.detach rank).worldSize = bus.worldSize := by
  rw [detach, worldSize_update]

/-- At first all ends of the bus have links to one another. -/
theorem knows_connect {worldSize : Nat} {clock : Clock} {seed : Seed} {jitter : Jitter}
    {sender receiver : Rank} (senderJoined : (connect worldSize clock seed jitter).Joined sender)
    (receiverJoined : (connect worldSize clock seed jitter).Joined receiver) :
    (connect worldSize clock seed jitter).knows sender receiver = true := by
  obtain ⟨source, found⟩ := joined_iff_endpoint?.1 senderJoined
  have wide := (Sound.connect worldSize clock seed jitter).wide found
  exact knows_iff.2 ⟨source, found, Nat.lt_of_lt_of_le receiverJoined wide⟩

end Bus

/-! ## Records -/

/-- What happened at an end of the bus, with the time that was read for it. -/
inductive Traffic.Entry where
  | sent (receiver : Rank) (readAt : Timestamp) (packet : Packet)
  /-- A poll of an end where nothing lies reads no time. -/
  | polled (receiver : Rank) (readAt : Option Timestamp) (messages : List (Rank × Message))

/-- A message that was put on a link. -/
structure Traffic.SentPacket where
  readAt : Timestamp
  packet : Packet

/-- A message that was taken from a link. -/
structure Traffic.PolledMessage where
  readAt : Option Timestamp
  message : Message

namespace Traffic.Entry

/-- The time that was read. -/
def read? : Entry → Option Timestamp
  | .sent _ readAt _ => some readAt
  | .polled _ readAt _ => readAt

/-- What an entry says was put on a link. -/
def sentPacket? (sender receiver : Rank) : Entry → Option SentPacket
  | .sent whose readAt packet =>
    if sender = packet.sender ∧ receiver = whose then some ⟨readAt, packet⟩ else none
  | .polled _ _ _ => none

/-- What an entry says was taken from a link. -/
def polledMessages (sender receiver : Rank) : Entry → List PolledMessage
  | .sent _ _ _ => []
  | .polled whose readAt messages =>
    if whose = receiver then
      (messages.filter fun message => decide (message.1 = sender)).map fun message =>
        ⟨readAt, message.2⟩
    else []

end Traffic.Entry

/-- A bus, and what has happened on it so far. -/
structure Traffic where
  bus : Bus
  record : List Traffic.Entry

namespace Traffic

/-- The times that were read. -/
def reads (traffic : Traffic) : List Timestamp :=
  traffic.record.filterMap Entry.read?

/-- What one process has sent to another. -/
def sentOn (traffic : Traffic) (sender receiver : Rank) : List SentPacket :=
  traffic.record.filterMap (Entry.sentPacket? sender receiver)

/-- What one process has polled of another. -/
def polledOn (traffic : Traffic) (sender receiver : Rank) : List PolledMessage :=
  traffic.record.flatMap (Entry.polledMessages sender receiver)

/-- A bus where nothing has happened. -/
def opening (worldSize : Nat) (clock : Clock) (seed : Seed) (jitter : Jitter) : Traffic :=
  ⟨.connect worldSize clock seed jitter, []⟩

/-- Send a message. What nobody has a link for is not sent. -/
def send (traffic : Traffic) (sender receiver : Rank) (message : Message) : Traffic where
  bus := traffic.bus.send sender receiver message
  record := traffic.record ++
    if traffic.bus.knows sender receiver then
      [.sent receiver traffic.bus.clock.time (traffic.bus.packet sender receiver message)]
    else []

/-- Send a message to each of several processes. -/
def sendEach (traffic : Traffic) (sender : Rank) (message : Message) (receivers : List Rank) :
    Traffic :=
  receivers.foldl (fun traffic receiver => traffic.send sender receiver message) traffic

/-- Poll an end. -/
def poll (traffic : Traffic) (receiver : Rank) : Traffic where
  bus := (traffic.bus.poll receiver).2
  record := traffic.record ++
    [.polled receiver
      (if traffic.bus.arriving receiver = [] then none else some traffic.bus.clock.time)
      (traffic.bus.poll receiver).1]

/-- What can happen next. Only who listens sends and polls. -/
inductive Step (traffic : Traffic) : Traffic → Prop where
  | send {sender : Rank} (listening : traffic.bus.listens sender = true) (receiver : Rank)
      (message : Message) : Step traffic (traffic.send sender receiver message)
  | broadcast {sender : Rank} (listening : traffic.bus.listens sender = true)
      (message : Message) :
      Step traffic ⟨traffic.bus.broadcast sender message,
        (traffic.sendEach sender message
          ((Rank.all traffic.bus.worldSize).filter (· ≠ sender))).record⟩
  | poll {receiver : Rank} (listening : traffic.bus.listens receiver = true) :
      Step traffic (traffic.poll receiver)
  | clock (clock : Clock) : Step traffic { traffic with bus := { traffic.bus with clock } }
  | leave (rank : Rank) : Step traffic { traffic with bus := traffic.bus.detach rank }

/-- What can happen in any number of steps. -/
inductive Reaches (start : Traffic) : Traffic → Prop where
  | refl : Reaches start start
  | step {middle last : Traffic} (before : Reaches start middle) (next : Step middle last) :
      Reaches start last

/-- The bus of a traffic in which a message goes to several is the bus that sends to each. -/
theorem bus_sendEach (traffic : Traffic) (sender : Rank) (message : Message)
    (receivers : List Rank) :
    (traffic.sendEach sender message receivers).bus =
      receivers.foldl (fun bus receiver => bus.send sender receiver message) traffic.bus := by
  induction receivers generalizing traffic with
  | nil => rfl
  | cons first rest hypothesis => exact hypothesis (traffic.send sender first message)

/-! ## What every step keeps -/

/-- The message that was taken is the one that was put there, and it was due. -/
def Came (sent : SentPacket) (polled : PolledMessage) : Prop :=
  polled.message = sent.packet.message ∧
    ∃ now, polled.readAt = some now ∧ sent.packet.deliverAt ≤ now

/-- What the record tells of every link. -/
structure Orderly (jitter : Jitter) (traffic : Traffic) : Prop where
  drawn : traffic.bus.jitter = jitter
  linked : ∀ sender receiver, traffic.bus.Joined sender → traffic.bus.Joined receiver →
    traffic.bus.knows sender receiver = true
  /-- What was taken is the front of what was sent, and what waits is the rest. -/
  carried : ∀ sender receiver, traffic.bus.listens receiver = true →
    ∃ taken left, traffic.sentOn sender receiver = taken ++ left ∧
      List.Forall₂ Came taken (traffic.polledOn sender receiver) ∧
      traffic.bus.waiting sender receiver = left.map SentPacket.packet
  ordered : ∀ sender receiver, (traffic.sentOn sender receiver).Pairwise fun first second =>
    first.packet.deliverAt ≤ second.packet.deliverAt
  /-- The last message of a link is due last. -/
  bounded : ∀ sender receiver, ∀ sent ∈ traffic.sentOn sender receiver,
    sent.packet.deliverAt ≤ traffic.bus.lastDue sender receiver
  attained : ∀ sender receiver, traffic.bus.lastDue sender receiver = .zero ∨
    ∃ sent ∈ traffic.sentOn sender receiver,
      sent.packet.deliverAt = traffic.bus.lastDue sender receiver
  notBefore : ∀ sender receiver, ∀ sent ∈ traffic.sentOn sender receiver,
    sent.readAt ≤ sent.packet.deliverAt
  /-- If the times that were read never go back, no delay exceeds the largest. -/
  withinDelay : traffic.reads.Pairwise (· ≤ ·) → ∀ sender receiver,
    ∀ sent ∈ traffic.sentOn sender receiver,
      sent.packet.deliverAt ≤ sent.readAt.after jitter.maxMicros

/-- A traffic opens orderly, with nothing sent. -/
theorem Orderly.opening (worldSize : Nat) (clock : Clock) (seed : Seed) (jitter : Jitter) :
    Orderly jitter (opening worldSize clock seed jitter) where
  drawn := rfl
  linked := fun _ _ => Bus.knows_connect
  carried := fun _ _ _ => ⟨[], [], rfl, .nil, by simp [Traffic.opening, Bus.waiting]⟩
  ordered := fun _ _ => .nil
  bounded := fun _ _ => List.forall_mem_nil _
  attained := fun sender receiver => .inl (Bus.lastDue_connect ..)
  notBefore := fun _ _ => List.forall_mem_nil _
  withinDelay := fun _ _ _ => List.forall_mem_nil _

/-! ## Sending -/

/-- Sending where there is no link does nothing. -/
theorem send_of_unknown {traffic : Traffic} {sender receiver : Rank}
    (unknown : ¬ traffic.bus.knows sender receiver = true) (message : Message) :
    traffic.send sender receiver message = traffic := by
  rw [send, Bus.send_eq_self unknown, if_neg unknown, List.append_nil]

/-- Sending reads the clock, and the record has the reading. -/
theorem readAt_mem_reads {traffic : Traffic} {sender receiver : Rank} {sent : SentPacket}
    (member : sent ∈ traffic.sentOn sender receiver) : sent.readAt ∈ traffic.reads := by
  obtain ⟨entry, noted, shape⟩ := List.mem_filterMap.1 member
  refine List.mem_filterMap.2 ⟨entry, noted, ?_⟩
  cases entry with
  | sent whose readAt packet =>
    simp only [Entry.sentPacket?] at shape
    split at shape
    · rw [← Option.some.inj shape]
      rfl
    · cases shape
  | polled whose readAt messages => cases shape

section Known

variable {traffic : Traffic} {sender receiver : Rank}
  (known : traffic.bus.knows sender receiver = true) (message : Message)

include known

/-- Sending adds one packet to what was sent on its link, and nothing on any other. -/
theorem sentOn_send (origin other : Rank) :
    (traffic.send sender receiver message).sentOn origin other = traffic.sentOn origin other ++
      if origin = sender ∧ other = receiver then
        [⟨traffic.bus.clock.time, traffic.bus.packet sender receiver message⟩] else [] := by
  simp only [send, known, if_true, sentOn, List.filterMap_append]
  by_cases here : origin = sender ∧ other = receiver
  · simp [here, Entry.sentPacket?, Bus.packet]
  · simp [here, Entry.sentPacket?, Bus.packet]

/-- Sending changes nothing about what was polled. -/
theorem polledOn_send (origin other : Rank) :
    (traffic.send sender receiver message).polledOn origin other =
      traffic.polledOn origin other := by
  simp [send, known, polledOn, Entry.polledMessages]

/-- Sending reads the clock once. -/
theorem reads_send :
    (traffic.send sender receiver message).reads = traffic.reads ++ [traffic.bus.clock.time] := by
  simp [send, known, reads, Entry.read?]

/-- A message is due after the largest delay at the latest, unless the one ahead of it was sent
at a later time. -/
theorem Orderly.deliverAt_le {jitter : Jitter} (orderly : Orderly jitter traffic)
    (forward : (traffic.send sender receiver message).reads.Pairwise (· ≤ ·)) :
    (traffic.bus.packet sender receiver message).deliverAt ≤
      traffic.bus.clock.time.after jitter.maxMicros := by
  rw [reads_send known] at forward
  obtain ⟨before, -, last⟩ := List.pairwise_append.1 forward
  have delay := traffic.bus.nextDelay_le sender
  rw [orderly.drawn] at delay
  refine Timestamp.latest_le (Timestamp.after_le_after (Nat.le_refl _) delay) ?_
  rcases orderly.attained sender receiver with none | ⟨ahead, sent, isLast⟩
  · rw [none]
    exact Nat.zero_le _
  · rw [← isLast]
    have earlier : ahead.readAt ≤ traffic.bus.clock.time :=
      last _ (readAt_mem_reads sent) _ (List.mem_singleton.2 rfl)
    exact Nat.le_trans (orderly.withinDelay before sender receiver ahead sent)
      (Timestamp.after_le_after earlier (Nat.le_refl _))

/-- The packet that was sent is now the last due on its link. -/
theorem lastDue_send (origin other : Rank) :
    (traffic.send sender receiver message).bus.lastDue origin other =
      if origin = sender ∧ other = receiver then
        (traffic.bus.packet sender receiver message).deliverAt
      else traffic.bus.lastDue origin other :=
  Bus.lastDue_send_of_known known message origin other

/-- A message that is sent waits behind what was sent on its link before. -/
theorem Orderly.carried_send {jitter : Jitter} (orderly : Orderly jitter traffic)
    {origin other : Rank}
    (listening : (traffic.send sender receiver message).bus.listens other = true) :
    ∃ taken left, (traffic.send sender receiver message).sentOn origin other = taken ++ left ∧
      List.Forall₂ Came taken ((traffic.send sender receiver message).polledOn origin other) ∧
      (traffic.send sender receiver message).bus.waiting origin other =
        left.map SentPacket.packet := by
  have listened : traffic.bus.listens other = true := by
    simpa [Traffic.send] using listening
  obtain ⟨taken, left, sent, came, waits⟩ := orderly.carried origin other listened
  rw [sentOn_send known, polledOn_send known, sent, List.append_assoc]
  refine ⟨taken, _, rfl, came, ?_⟩
  rw [List.map_append, ← waits]
  have posted : (traffic.bus.send sender receiver message).waiting origin other = _ :=
    Bus.waiting_send_of_known known message origin fun reached => reached ▸ listened
  refine posted.trans ?_
  split <;> rfl

/-- No message is due before one that was sent ahead of it on the same link. -/
theorem Orderly.ordered_send {jitter : Jitter} (orderly : Orderly jitter traffic)
    (origin other : Rank) :
    ((traffic.send sender receiver message).sentOn origin other).Pairwise fun first second =>
      first.packet.deliverAt ≤ second.packet.deliverAt := by
  rw [sentOn_send known]
  split
  · next here =>
    obtain ⟨rfl, rfl⟩ := here
    refine List.pairwise_append.2 ⟨orderly.ordered _ _, List.pairwise_singleton _ _, ?_⟩
    intro earlier sent latest isLatest
    rw [List.mem_singleton.1 isLatest]
    exact Nat.le_trans (orderly.bounded _ _ earlier sent) (Bus.le_latest_right _ _)
  · rw [List.append_nil]
    exact orderly.ordered _ _

/-- After another packet still none is due later than the last one on its link. -/
theorem Orderly.bounded_send {jitter : Jitter} (orderly : Orderly jitter traffic)
    (origin other : Rank) :
    ∀ dispatch ∈ (traffic.send sender receiver message).sentOn origin other,
      dispatch.packet.deliverAt ≤
        (traffic.send sender receiver message).bus.lastDue origin other := by
  intro dispatch sent
  rw [sentOn_send known] at sent
  rw [lastDue_send known]
  split at sent
  · next here =>
    obtain ⟨rfl, rfl⟩ := here
    rw [if_pos ⟨rfl, rfl⟩]
    rcases List.mem_append.1 sent with earlier | latest
    · exact Nat.le_trans (orderly.bounded _ _ dispatch earlier) (Bus.le_latest_right _ _)
    · rw [List.mem_singleton.1 latest]
      exact Nat.le_refl _
  · next elsewhere =>
    rw [if_neg elsewhere]
    exact orderly.bounded _ _ dispatch (by simpa using sent)

/-- What was on a link after a send was there before, or is the message sent. -/
theorem mem_sentOn_send {origin other : Rank} {dispatch : SentPacket}
    (sent : dispatch ∈ (traffic.send sender receiver message).sentOn origin other) :
    dispatch ∈ traffic.sentOn origin other ∨
      dispatch = ⟨traffic.bus.clock.time, traffic.bus.packet sender receiver message⟩ := by
  rw [sentOn_send known] at sent
  rcases List.mem_append.1 sent with earlier | latest
  · exact .inl earlier
  · split at latest
    · exact .inr (List.mem_singleton.1 latest)
    · cases latest

end Known

/-- Sending keeps the record orderly, also at a clock that was set back. -/
theorem Orderly.send {jitter : Jitter} {traffic : Traffic} (orderly : Orderly jitter traffic)
    (sender receiver : Rank) (message : Message) :
    Orderly jitter (traffic.send sender receiver message) := by
  by_cases known : traffic.bus.knows sender receiver = true
  · exact {
      drawn := (Bus.jitter_send ..).trans orderly.drawn
      linked := by simpa [Traffic.send, Bus.Joined] using orderly.linked
      carried := fun _ _ listening => orderly.carried_send known message listening
      ordered := orderly.ordered_send known message
      bounded := orderly.bounded_send known message
      attained := by
        intro origin other
        rw [sentOn_send known, lastDue_send known]
        split
        · exact .inr ⟨_, List.mem_append_right _ (List.mem_singleton.2 rfl), rfl⟩
        · rw [List.append_nil]
          exact orderly.attained origin other
      notBefore := by
        intro origin other dispatch sent
        rcases mem_sentOn_send known message sent with earlier | rfl
        · exact orderly.notBefore _ _ dispatch earlier
        · exact traffic.bus.le_deliverAt sender receiver message
      withinDelay := by
        intro forward origin other dispatch sent
        have latestDue := orderly.deliverAt_le known message forward
        rw [reads_send known] at forward
        rcases mem_sentOn_send known message sent with earlier | rfl
        · exact orderly.withinDelay (List.pairwise_append.1 forward).1 _ _ dispatch earlier
        · exact latestDue }
  · rw [send_of_unknown known]
    exact orderly

/-! ## Polling -/

/-- What a poll takes from a link. -/
theorem polledMessages_poll (traffic : Traffic) (sender receiver : Rank) :
    (traffic.poll receiver).polledOn sender receiver = traffic.polledOn sender receiver ++
      ((traffic.bus.duePackets receiver).filter fun packet => decide (packet.sender = sender)).map
        fun packet => ⟨some traffic.bus.clock.time, packet.message⟩ := by
  simp only [poll, polledOn, List.flatMap_append, Traffic.Entry.polledMessages, if_true,
    List.flatMap_singleton, Bus.poll_fst]
  congr 1
  by_cases nothing : traffic.bus.arriving receiver = []
  · simp [nothing, Bus.duePackets]
  · rw [if_neg nothing, List.filter_map, List.map_map]
    rfl

/-- Polling changes nothing about what others have polled. -/
theorem polledOn_poll_of_ne (traffic : Traffic) {receiver other : Rank} (apart : receiver ≠ other)
    (sender : Rank) :
    (traffic.poll receiver).polledOn sender other = traffic.polledOn sender other := by
  simp [poll, polledOn, Entry.polledMessages, apart]

/-- Polling changes nothing about what was sent. -/
@[simp] theorem sentOn_poll (traffic : Traffic) (whose sender receiver : Rank) :
    (traffic.poll whose).sentOn sender receiver = traffic.sentOn sender receiver := by
  simp [poll, sentOn, Entry.sentPacket?]

/-- No reading is lost by polling. -/
theorem reads_poll_sublist (traffic : Traffic) (receiver : Rank) :
    traffic.reads.Sublist (traffic.poll receiver).reads := by
  rw [reads, reads, poll, List.filterMap_append]
  exact List.sublist_append_left _ _

/-- What a poll takes from a link is the front of what waits there, and it was due. -/
theorem Orderly.carried_poll {jitter : Jitter} {traffic : Traffic}
    (orderly : Orderly jitter traffic) (receiver : Rank) {origin other : Rank}
    (listening : (traffic.poll receiver).bus.listens other = true) :
    ∃ taken left, traffic.sentOn origin other = taken ++ left ∧
      List.Forall₂ Came taken ((traffic.poll receiver).polledOn origin other) ∧
      (traffic.poll receiver).bus.waiting origin other = left.map SentPacket.packet := by
  have listened : traffic.bus.listens other = true := by
    simpa [Traffic.poll] using listening
  obtain ⟨taken, left, sent, came, waits⟩ := orderly.carried origin other listened
  by_cases own : receiver = other
  · subst own
    have ordered : (traffic.bus.waiting origin receiver).Pairwise fun first second =>
        first.deliverAt ≤ second.deliverAt := by
      rw [waits, List.pairwise_map]
      have all := orderly.ordered origin receiver
      rw [sent] at all
      exact (List.pairwise_append.1 all).2.1
    have front := Bus.poll_front_of_ordered ordered
    rw [waits] at front
    obtain ⟨now, later, split, isNow, isLater⟩ := List.map_eq_append_iff.1 front.symm
    refine ⟨taken ++ now, later, by rw [sent, split, List.append_assoc], ?_, isLater.symm⟩
    rw [polledMessages_poll]
    refine List.rel_append came ?_
    rw [← isNow, List.map_map, List.forall₂_map_right_iff, List.forall₂_same]
    intro dispatch member
    refine ⟨rfl, _, rfl, ?_⟩
    have isDue : dispatch.packet ∈ traffic.bus.duePackets receiver :=
      List.mem_of_mem_filter (isNow ▸ List.mem_map_of_mem member)
    exact of_decide_eq_true (List.mem_filter.1 isDue).2
  · rw [polledOn_poll_of_ne traffic own]
    refine ⟨taken, left, sent, came, ?_⟩
    rw [← waits]
    exact traffic.bus.waiting_poll_of_ne (fun same => own same.symm) origin

/-- Polling keeps the record orderly: what is due on a link is its front. -/
theorem Orderly.poll {jitter : Jitter} {traffic : Traffic} (orderly : Orderly jitter traffic)
    (receiver : Rank) : Orderly jitter (traffic.poll receiver) := by
  have due : ∀ origin other, (traffic.poll receiver).bus.lastDue origin other =
      traffic.bus.lastDue origin other := Bus.lastDue_poll traffic.bus receiver
  exact {
    drawn := (Bus.jitter_poll ..).trans orderly.drawn
    linked := by simpa [Traffic.poll, Bus.Joined] using orderly.linked
    carried := by
      intro origin other listening
      rw [sentOn_poll]
      exact orderly.carried_poll receiver listening
    ordered := by
      intro origin other
      rw [sentOn_poll]
      exact orderly.ordered origin other
    bounded := by
      intro origin other
      rw [sentOn_poll, due]
      exact orderly.bounded origin other
    attained := by
      intro origin other
      rw [sentOn_poll, due]
      exact orderly.attained origin other
    notBefore := by
      intro origin other
      rw [sentOn_poll]
      exact orderly.notBefore origin other
    withinDelay := by
      intro forward origin other
      rw [sentOn_poll]
      exact orderly.withinDelay (forward.sublist (traffic.reads_poll_sublist receiver))
        origin other }

/-! ## Whole runs -/

/-- Sending to several keeps a traffic orderly. -/
theorem Orderly.sendEach {jitter : Jitter} {traffic : Traffic} (orderly : Orderly jitter traffic)
    (sender : Rank) (message : Message) (receivers : List Rank) :
    Orderly jitter (traffic.sendEach sender message receivers) := by
  induction receivers generalizing traffic with
  | nil => exact orderly
  | cons first rest hypothesis => exact hypothesis (orderly.send sender first message)

/-- Every step keeps a traffic orderly, the clock set back included. -/
theorem Orderly.step {jitter : Jitter} {traffic after : Traffic}
    (orderly : Orderly jitter traffic) (step : Step traffic after) : Orderly jitter after := by
  cases step with
  | send _ receiver message => exact orderly.send _ receiver message
  | @broadcast sender _ message =>
    have sent := orderly.sendEach sender message
      ((Rank.all traffic.bus.worldSize).filter (· ≠ sender))
    have same := traffic.bus_sendEach sender message
      ((Rank.all traffic.bus.worldSize).filter (· ≠ sender))
    rw [Bus.broadcast, ← same]
    exact sent
  | poll _ => exact orderly.poll _
  | clock clock =>
    exact ⟨orderly.drawn, orderly.linked, orderly.carried, orderly.ordered, orderly.bounded,
      orderly.attained, orderly.notBefore, orderly.withinDelay⟩
  | leave rank =>
    refine ⟨orderly.drawn, by simpa [Bus.Joined] using orderly.linked, ?_, orderly.ordered,
      ?_, ?_, orderly.notBefore, orderly.withinDelay⟩
    · intro sender receiver listening
      have stays : traffic.bus.listens receiver = true ∧ receiver ≠ rank := by
        simpa [Bus.listens_detach] using listening
      obtain ⟨taken, left, sent, came, waits⟩ := orderly.carried sender receiver stays.1
      exact ⟨taken, left, sent, came, (traffic.bus.waiting_detach stays.2 sender).trans waits⟩
    · intro sender receiver
      rw [Bus.lastDue_detach]
      exact orderly.bounded sender receiver
    · intro sender receiver
      rw [Bus.lastDue_detach]
      exact orderly.attained sender receiver

/-- Every traffic that is reached from its opening is orderly. -/
theorem Orderly.of_reaches {worldSize : Nat} {clock : Clock} {seed : Seed} {jitter : Jitter}
    {traffic : Traffic} (reached : Reaches (Traffic.opening worldSize clock seed jitter) traffic) :
    Orderly jitter traffic := by
  induction reached with
  | refl => exact .opening worldSize clock seed jitter
  | step _ next hypothesis => exact hypothesis.step next

/-! ## Links -/

/-- What a link to somebody who listens keeps. -/
structure Kept (jitter : Jitter) (traffic : Traffic) (sender receiver : Rank) : Prop where
  /-- Everything that was sent on the link is in the record. -/
  linked : traffic.bus.Joined sender → traffic.bus.knows sender receiver = true
  /-- Nothing is lost, repeated or reordered. -/
  whole : (traffic.polledOn sender receiver).map PolledMessage.message ++
      ((traffic.bus.held receiver).filter fun packet => decide (packet.sender = sender)).map
        Packet.message ++
      ((traffic.bus.inbox receiver).filter fun packet => decide (packet.sender = sender)).map
        Packet.message =
    (traffic.sentOn sender receiver).map fun sent => sent.packet.message
  /-- The packets that wait are those that were sent last, with the times at which they are
  due. -/
  waiting : traffic.bus.waiting sender receiver =
    ((traffic.sentOn sender receiver).drop (traffic.polledOn sender receiver).length).map
      SentPacket.packet
  notEarly : ∀ (number : Nat) (sent : SentPacket) (polled : PolledMessage),
    (traffic.sentOn sender receiver)[number]? = some sent →
    (traffic.polledOn sender receiver)[number]? = some polled →
    ∃ now, polled.readAt = some now ∧ sent.packet.deliverAt ≤ now
  notBefore : ∀ sent ∈ traffic.sentOn sender receiver, sent.readAt ≤ sent.packet.deliverAt
  /-- Unless the times that are read go back, a poll takes what was sent no later than the
  largest delay before. -/
  prompt : (traffic.poll receiver).reads.Pairwise (· ≤ ·) →
    ∀ (limit : Timestamp) (number : Nat) (sent : SentPacket),
    (traffic.sentOn sender receiver)[number]? = some sent → sent.readAt ≤ limit →
    (traffic.bus.arriving receiver ≠ [] →
      limit.after jitter.maxMicros ≤ traffic.bus.clock.time) →
    number < ((traffic.poll receiver).polledOn sender receiver).length

/-- Packets bring the messages that were sent in them. -/
theorem messages_of_came {sent : List SentPacket} {polled : List PolledMessage}
    (came : List.Forall₂ Came sent polled) :
    polled.map PolledMessage.message = sent.map fun dispatch => dispatch.packet.message := by
  induction came with
  | nil => rfl
  | cons first _ hypothesis => rw [List.map_cons, List.map_cons, first.1, hypothesis]

/-- What has come is told apart by where it stands on its link. -/
theorem came_getElem? {sent : List SentPacket} {polled : List PolledMessage}
    (came : List.Forall₂ Came sent polled) {number : Nat} {dispatch : SentPacket}
    {pickup : PolledMessage} (isSent : sent[number]? = some dispatch)
    (isPolled : polled[number]? = some pickup) :
    Came dispatch pickup := by
  induction came generalizing number with
  | nil => cases isSent
  | cons first _ hypothesis =>
    cases number with
    | zero =>
      cases isSent
      cases isPolled
      exact first
    | succ number => exact hypothesis isSent isPolled

/-- What was sent by some time has been polled once a poll reads a clock that is past that time by
the largest jitter, if no reading went back. -/
theorem Orderly.prompt {jitter : Jitter} {traffic : Traffic} (orderly : Orderly jitter traffic)
    {sender receiver : Rank} (listening : traffic.bus.listens receiver = true)
    (forward : (traffic.poll receiver).reads.Pairwise (· ≤ ·)) {limit : Timestamp} {number : Nat}
    {sent : SentPacket} (found : (traffic.sentOn sender receiver)[number]? = some sent)
    (early : sent.readAt ≤ limit)
    (late : traffic.bus.arriving receiver ≠ [] →
      limit.after jitter.maxMicros ≤ traffic.bus.clock.time) :
    number < ((traffic.poll receiver).polledOn sender receiver).length := by
  have polled := orderly.poll receiver
  have listens : (traffic.poll receiver).bus.listens receiver = true :=
    (Bus.listens_poll ..).trans listening
  obtain ⟨taken, left, split, came, waits⟩ := polled.carried sender receiver listens
  by_contra missed
  -- Then the message still waits after the poll, so it was there and was not due.
  have stays : sent ∈ left := by
    rw [sentOn_poll] at split
    rw [split, List.getElem?_append_right (by rw [came.length_eq]; omega)] at found
    exact List.mem_of_getElem? found
  have remains : sent.packet ∈ (traffic.poll receiver).bus.waiting sender receiver := by
    rw [waits]
    exact List.mem_map_of_mem stays
  have later : sent.packet ∈ traffic.bus.laterPackets receiver := by
    have lies := List.mem_of_mem_filter remains
    rwa [show (traffic.poll receiver).bus = (traffic.bus.poll receiver).2 from rfl,
      Bus.arriving_poll, if_pos rfl] at lies
  obtain ⟨arrived, notDue⟩ := List.mem_filter.1 later
  have soon := polled.withinDelay forward sender receiver sent
    (split ▸ List.mem_append_right _ stays)
  have due : sent.packet.deliverAt ≤ traffic.bus.clock.time :=
    Nat.le_trans (Nat.le_trans soon (Timestamp.after_le_after early (Nat.le_refl _)))
      (late (List.ne_nil_of_mem arrived))
  simp [due] at notDue

/-- Every link to somebody who listens is a queue whose messages come on time, however the clock
moves and whoever leaves. -/
theorem link_is_kept {worldSize : Nat} {clock : Clock} {seed : Seed} {jitter : Jitter}
    {traffic : Traffic} (reached : Reaches (opening worldSize clock seed jitter) traffic)
    (sender : Rank) {receiver : Rank} (listening : traffic.bus.listens receiver = true) :
    Kept jitter traffic sender receiver := by
  have orderly := Orderly.of_reaches reached
  obtain ⟨taken, left, sent, came, waits⟩ := orderly.carried sender receiver listening
  have dropped : (traffic.sentOn sender receiver).drop
      (traffic.polledOn sender receiver).length = left := by
    rw [sent, ← came.length_eq, List.drop_left]
  constructor
  · intro joined
    exact orderly.linked _ _ joined (Bus.joined_of_listens listening)
  · rw [List.append_assoc, ← List.map_append, ← List.filter_append, ← Bus.arriving_eq,
      messages_of_came came, sent, List.map_append]
    congr 1
    have lies : (traffic.bus.arriving receiver).filter
        (fun packet => decide (packet.sender = sender)) = left.map SentPacket.packet := waits
    rw [lies, List.map_map]
    rfl
  · rw [waits, dropped]
  · intro number dispatch pickup isSent isPolled
    have inside : number < taken.length := by
      rw [came.length_eq]
      exact (List.getElem?_eq_some_iff.1 isPolled).1
    rw [sent, List.getElem?_append_left inside] at isSent
    exact (came_getElem? came isSent isPolled).2
  · exact orderly.notBefore sender receiver
  · intro forward limit number dispatch found early late
    exact orderly.prompt listening forward found early late

/-- Three ends with a clock that moves by three at every reading. The first sends to the second
and, after the clock was set back, to all; then the third leaves and the second polls. -/
def setBack : Traffic :=
  let first := (opening 3 ⟨⟨10⟩, 3⟩ .standard ⟨5⟩).send ⟨0⟩ ⟨1⟩ (.broadcast ⟨0⟩ [7])
  let second : Traffic := { first with bus := { first.bus with clock := ⟨⟨2⟩, 3⟩ } }
  let third : Traffic := ⟨second.bus.broadcast ⟨0⟩ (.broadcast ⟨0⟩ [8]),
    (second.sendEach ⟨0⟩ (.broadcast ⟨0⟩ [8])
      ((Rank.all second.bus.worldSize).filter (· ≠ ⟨0⟩))).record⟩
  let fourth : Traffic := { third with bus := third.bus.detach ⟨2⟩ }
  fourth.poll ⟨1⟩

/-- The run of the witness, in which the clock is set back. -/
theorem reaches_setBack : Reaches (opening 3 ⟨⟨10⟩, 3⟩ .standard ⟨5⟩) setBack :=
  .step (.step (.step (.step (.step .refl (.send rfl ⟨1⟩ _)) (.clock ⟨⟨2⟩, 3⟩))
    (.broadcast rfl _)) (.leave ⟨2⟩)) (.poll rfl)

/-- A link on which the second message was sent at an earlier time than the first. -/
theorem link_is_kept_setBack :
    Reaches (opening 3 ⟨⟨10⟩, 3⟩ .standard ⟨5⟩) setBack ∧ setBack.bus.listens ⟨1⟩ = true ∧
      Kept ⟨5⟩ setBack ⟨0⟩ ⟨1⟩ :=
  ⟨reaches_setBack, rfl, link_is_kept reaches_setBack ⟨0⟩ rfl⟩

end Traffic

end Concord
