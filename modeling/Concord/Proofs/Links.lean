import Concord.Network.Bus
import Concord.Proofs.Ranks

/-!
# Links

A link carries what one process sends to another. `Bus.waiting` is what a link holds: the
packets that lie at the receiver's end and have not been polled. The laws below say what
sending and polling do to every link at once. Under `Bus.Sound` a poll takes the front of
each link and leaves the rest, so that no link loses, repeats or reorders anything, however
the clock moves.
-/

namespace Concord

namespace Bus

/-- Whether a process takes part in the bus. -/
def Joined (bus : Bus) (rank : Rank) : Prop :=
  rank.toNat < bus.worldSize

instance (bus : Bus) (rank : Rank) : Decidable (bus.Joined rank) :=
  inferInstanceAs (Decidable (rank.toNat < bus.worldSize))

/-- Whether somebody listens at a process's end. -/
def listens (bus : Bus) (rank : Rank) : Bool :=
  (bus.endpoint? rank).any Endpoint.attached

/-- Whether one process has a link to another. -/
def knows (bus : Bus) (sender receiver : Rank) : Bool :=
  (bus.endpoint? sender).any fun endpoint => decide (receiver.toNat < endpoint.lastDelivery.length)

/-- What lies at a process's end, in the order in which it was posted. -/
def arriving (bus : Bus) (receiver : Rank) : List Packet :=
  match bus.endpoint? receiver with
  | none => []
  | some endpoint => endpoint.held ++ endpoint.inbox

/-- What the link from one process to another holds. -/
def waiting (bus : Bus) (sender receiver : Rank) : List Packet :=
  (bus.arriving receiver).filter fun packet => decide (packet.sender = sender)

/-- When the last message on a link is due. -/
def lastDue (bus : Bus) (sender receiver : Rank) : Timestamp :=
  ((bus.endpoint? sender).bind fun endpoint => endpoint.lastDelivery[receiver.toNat]?).getD .zero

/-- The delay that the next message of a process gets. -/
def nextDelay (bus : Bus) (sender : Rank) : UInt64 :=
  ((bus.endpoint? sender).map fun endpoint => (bus.jitter.sample endpoint.generator).1).getD 0

/-- The packet that a message on a link becomes. -/
def packet (bus : Bus) (sender receiver : Rank) (message : Message) : Packet :=
  ⟨sender, (bus.clock.time.after (bus.nextDelay sender)).latest (bus.lastDue sender receiver),
    message⟩

/-- Every end listens and knows all links, and each link holds its packets by the time at
which they are due. -/
structure Sound (bus : Bus) : Prop where
  small : bus.worldSize < 2 ^ 32
  attached : ∀ {rank endpoint}, bus.endpoint? rank = some endpoint → endpoint.attached = true
  wide : ∀ {rank endpoint}, bus.endpoint? rank = some endpoint →
    bus.worldSize ≤ endpoint.lastDelivery.length
  ordered : ∀ sender receiver,
    (bus.waiting sender receiver).Pairwise fun first second => first.deliverAt ≤ second.deliverAt
  bounded : ∀ {sender receiver packet}, packet ∈ bus.waiting sender receiver →
    packet.deliverAt ≤ bus.lastDue sender receiver

/-- A process is in the world exactly if it has an end. -/
theorem joined_iff_endpoint? {bus : Bus} {rank : Rank} :
    bus.Joined rank ↔ ∃ endpoint, bus.endpoint? rank = some endpoint := by
  constructor
  · intro joined
    exact ⟨_, List.getElem?_eq_getElem joined⟩
  · rintro ⟨endpoint, found⟩
    exact (List.getElem?_eq_some_iff.1 found).1

/-- Who listens is in the world. -/
theorem joined_of_listens {bus : Bus} {rank : Rank} (listening : bus.listens rank = true) :
    bus.Joined rank := by
  unfold listens at listening
  cases found : bus.endpoint? rank with
  | none => simp [found] at listening
  | some endpoint => exact joined_iff_endpoint?.2 ⟨endpoint, found⟩

/-- A sender knows a link if its table of delivery times reaches as far as the receiver. -/
theorem knows_iff {bus : Bus} {sender receiver : Rank} :
    bus.knows sender receiver = true ↔
      ∃ source, bus.endpoint? sender = some source ∧
        receiver.toNat < source.lastDelivery.length := by
  unfold knows
  cases bus.endpoint? sender <;> simp

/-- On a sound bus everybody listens. -/
theorem Sound.listens {bus : Bus} (sound : bus.Sound) {rank : Rank} (joined : bus.Joined rank) :
    bus.listens rank = true := by
  obtain ⟨endpoint, found⟩ := joined_iff_endpoint?.1 joined
  simp [Bus.listens, found, sound.attached found]

/-- On a sound bus everybody has links to all. -/
theorem Sound.knows {bus : Bus} (sound : bus.Sound) {sender receiver : Rank}
    (senderJoined : bus.Joined sender) (receiverJoined : bus.Joined receiver) :
    bus.knows sender receiver = true := by
  obtain ⟨source, found⟩ := joined_iff_endpoint?.1 senderJoined
  exact knows_iff.2 ⟨source, found, Nat.lt_of_lt_of_le receiverJoined (sound.wide found)⟩

/-- The processes of a sound bus are the ranks of its world. -/
theorem mem_all_of_joined {bus : Bus} (sound : bus.Sound) {rank : Rank} :
    rank ∈ Rank.all bus.worldSize ↔ bus.Joined rank := by
  rw [Rank.mem_all, Nat.mod_eq_of_lt sound.small, Joined]

/-! ## One end changes -/

/-- Changing an end leaves the world as large as it is. -/
@[simp] theorem worldSize_update (bus : Bus) (rank : Rank) (change : Endpoint → Endpoint) :
    (bus.update rank change).worldSize = bus.worldSize := by
  simp [update, worldSize]

/-- Changing an end leaves all others as they are. -/
theorem endpoint?_update (bus : Bus) (rank other : Rank) (change : Endpoint → Endpoint) :
    (bus.update rank change).endpoint? other =
      (bus.endpoint? other).map fun endpoint =>
        if other = rank then change endpoint else endpoint := by
  simp only [update, endpoint?, List.getElem?_modify, Option.map_eq_map]
  by_cases same : other = rank
  · simp [same]
  · have different : ¬ rank.toNat = other.toNat := fun equal => same (Rank.toNat_inj.1 equal).symm
    simp [same, different]

/-! ## Sending -/

/-- What sending does to the sender's end. -/
def noteSent (bus : Bus) (sender receiver : Rank) (message : Message) (endpoint : Endpoint) :
    Endpoint :=
  { endpoint with
    generator := (bus.jitter.sample endpoint.generator).2
    lastDelivery := endpoint.lastDelivery.set receiver.toNat
      (bus.packet sender receiver message).deliverAt }

/-- A message on a link becomes a packet at the receiver's end. -/
theorem send_eq {bus : Bus} {sender receiver : Rank}
    (known : bus.knows sender receiver = true) (message : Message) :
    bus.send sender receiver message =
      ({ bus with clock := bus.clock.read.2 }.update sender
        (bus.noteSent sender receiver message)).post receiver
          (bus.packet sender receiver message) := by
  obtain ⟨source, found, reaches⟩ := knows_iff.1 known
  have known : source.lastDelivery[receiver.toNat]? = some source.lastDelivery[receiver.toNat] :=
    List.getElem?_eq_getElem reaches
  have due : bus.packet sender receiver message = ⟨sender,
      (bus.clock.time.after (bus.jitter.sample source.generator).1).latest
        source.lastDelivery[receiver.toNat], message⟩ := by
    simp only [packet, nextDelay, lastDue, found, Option.map_some, Option.getD_some,
      Option.bind_some, known]
  have indexed : bus.endpoints[sender.toNat]? = some source := found
  simp only [send, found, known, due]
  congr 1
  simp only [update, Bus.mk.injEq, true_and]
  apply List.ext_getElem?
  intro index
  simp only [List.getElem?_modify, Option.map_eq_map]
  by_cases here : sender.toNat = index
  · subst here
    simp [indexed, noteSent, due, Clock.read]
  · simp [here]

/-- A message to somebody to whom there is no link is not sent. -/
theorem send_eq_self {bus : Bus} {sender receiver : Rank}
    (unknown : ¬ bus.knows sender receiver = true) (message : Message) :
    bus.send sender receiver message = bus := by
  unfold send
  split
  · rfl
  · next source found =>
    have outside : source.lastDelivery.length ≤ receiver.toNat :=
      Nat.le_of_not_lt fun inside => unknown (knows_iff.2 ⟨source, found, inside⟩)
    rw [List.getElem?_eq_none outside]

/-- What sending on a link does to an end: the sender's draws a delay and notes when the message
is due, and the receiver's gets the packet if anybody listens there. -/
def afterSend (bus : Bus) (sender receiver : Rank) (message : Message) (other : Rank)
    (endpoint : Endpoint) : Endpoint :=
  { endpoint with
    inbox := if other = receiver ∧ endpoint.attached = true then
      endpoint.inbox ++ [bus.packet sender receiver message] else endpoint.inbox
    lastDelivery := if other = sender then
      endpoint.lastDelivery.set receiver.toNat (bus.packet sender receiver message).deliverAt
      else endpoint.lastDelivery
    generator := if other = sender then (bus.jitter.sample endpoint.generator).2
      else endpoint.generator }

/-- What sending on a known link makes of every end. -/
theorem endpoint?_send {bus : Bus} {sender receiver : Rank}
    (known : bus.knows sender receiver = true) (message : Message) (other : Rank) :
    (bus.send sender receiver message).endpoint? other =
      (bus.endpoint? other).map (bus.afterSend sender receiver message other) := by
  rw [send_eq known]
  simp only [post, endpoint?_update, Option.map_map]
  have here : Bus.endpoint? { bus with clock := bus.clock.read.2 } other = bus.endpoint? other :=
    rfl
  rw [here]
  congr 1
  funext endpoint
  obtain ⟨_, _, _, _, _, attached⟩ := endpoint
  simp only [Function.comp_apply, afterSend]
  by_cases reached : other = receiver
  · subst reached
    by_cases own : other = sender <;> cases attached <;> simp [own, noteSent]
  · by_cases own : other = sender
    · subst own
      simp [reached, noteSent]
    · simp [own, reached]

/-- Sending leaves the world as large as it is. -/
@[simp] theorem worldSize_send (bus : Bus) (sender receiver : Rank) (message : Message) :
    (bus.send sender receiver message).worldSize = bus.worldSize := by
  unfold send
  split
  · rfl
  · split
    · rfl
    · simp only [post, worldSize_update]
      rfl

/-- Sending on a known link reads the clock once. -/
theorem clock_send_of_known {bus : Bus} {sender receiver : Rank}
    (known : bus.knows sender receiver = true) (message : Message) :
    (bus.send sender receiver message).clock = bus.clock.read.2 := by
  rw [send_eq known]
  rfl

/-- What arrives after a send arrived before, or is the message sent. -/
theorem mem_arriving_send {bus : Bus} {sender receiver other : Rank} {message : Message}
    {packet : Packet} (member : packet ∈ (bus.send sender receiver message).arriving other) :
    packet ∈ bus.arriving other ∨
      other = receiver ∧ packet = bus.packet sender receiver message := by
  by_cases known : bus.knows sender receiver = true
  · unfold arriving at member ⊢
    rw [endpoint?_send known] at member
    cases found : bus.endpoint? other with
    | none => simp [found] at member
    | some endpoint =>
      simp only [found, Option.map_some, afterSend] at member ⊢
      split at member
      · next reached =>
        rcases List.mem_append.1 member with held | inbox
        · exact .inl (List.mem_append_left _ held)
        · rcases List.mem_append.1 inbox with old | new
          · exact .inl (List.mem_append_right _ old)
          · exact .inr ⟨reached.1, List.mem_singleton.1 new⟩
      · exact .inl member
  · rw [send_eq_self known] at member
    exact .inl member

/-- What is sent on a known link arrives last, and at its receiver only. -/
theorem arriving_send_of_known {bus : Bus} {sender receiver : Rank}
    (known : bus.knows sender receiver = true) (message : Message) {other : Rank}
    (listening : other = receiver → bus.listens receiver = true) :
    (bus.send sender receiver message).arriving other = bus.arriving other ++
      if other = receiver then [bus.packet sender receiver message] else [] := by
  unfold arriving
  rw [endpoint?_send known]
  by_cases reached : other = receiver
  · have attached := listening reached
    rw [← reached, listens] at attached
    cases found : bus.endpoint? other with
    | none => simp [found] at attached
    | some endpoint =>
      have here : endpoint.attached = true := by simpa [found] using attached
      simp [afterSend, reached, here]
  · cases bus.endpoint? other <;> simp [afterSend, reached]

/-- What is sent on a known link waits behind what waits there already. -/
theorem waiting_send_of_known {bus : Bus} {sender receiver : Rank}
    (known : bus.knows sender receiver = true) (message : Message) (origin : Rank) {other : Rank}
    (listening : other = receiver → bus.listens receiver = true) :
    (bus.send sender receiver message).waiting origin other = bus.waiting origin other ++
      if origin = sender ∧ other = receiver then [bus.packet sender receiver message] else [] := by
  simp only [waiting, arriving_send_of_known known message listening, List.filter_append]
  congr 1
  by_cases reached : other = receiver
  · by_cases own : origin = sender
    · simp [reached, own, packet]
    · have foreign : ¬ sender = origin := fun equal => own equal.symm
      simp [reached, own, foreign, packet]
  · simp [reached]

/-- The last time of delivery on a link is that of the last packet that was sent there. -/
theorem lastDue_send_of_known {bus : Bus} {sender receiver : Rank}
    (known : bus.knows sender receiver = true) (message : Message) (origin other : Rank) :
    (bus.send sender receiver message).lastDue origin other =
      if origin = sender ∧ other = receiver then (bus.packet sender receiver message).deliverAt
      else bus.lastDue origin other := by
  obtain ⟨source, found, inside⟩ := knows_iff.1 known
  unfold lastDue
  rw [endpoint?_send known]
  by_cases own : origin = sender
  · subst own
    by_cases reached : other = receiver
    · simp [found, reached, afterSend, inside]
    · have apart : receiver.toNat ≠ other.toNat := fun equal =>
        reached (Rank.toNat_inj.1 equal).symm
      simp [found, reached, afterSend, List.getElem?_set_ne apart]
  · cases bus.endpoint? origin <;> simp [afterSend, own]

section Joined

variable {bus : Bus} (sound : bus.Sound) {sender receiver : Rank}
  (senderJoined : bus.Joined sender) (receiverJoined : bus.Joined receiver) (message : Message)

include sound senderJoined receiverJoined

/-- What is sent waits behind what waits on its link already. -/
theorem waiting_send (origin other : Rank) :
    (bus.send sender receiver message).waiting origin other =
      bus.waiting origin other ++
        if origin = sender ∧ other = receiver then [bus.packet sender receiver message] else [] :=
  waiting_send_of_known (sound.knows senderJoined receiverJoined) message origin
    fun _ => sound.listens receiverJoined

/-- Sending moves the last time of delivery of its own link only. -/
theorem lastDue_send (origin other : Rank) :
    (bus.send sender receiver message).lastDue origin other =
      if origin = sender ∧ other = receiver then (bus.packet sender receiver message).deliverAt
      else bus.lastDue origin other :=
  lastDue_send_of_known (sound.knows senderJoined receiverJoined) message origin other

/-- Sending reads the clock once. -/
theorem clock_send : (bus.send sender receiver message).clock = bus.clock.read.2 :=
  clock_send_of_known (sound.knows senderJoined receiverJoined) message

end Joined

/-- The later of two instants is no earlier than the first. -/
theorem le_latest_left (first second : Timestamp) : first ≤ first.latest second := by
  unfold Timestamp.latest
  split
  · assumption
  · exact Nat.le_refl _

/-- The later of two instants is no earlier than the second. -/
theorem le_latest_right (first second : Timestamp) : second ≤ first.latest second := by
  unfold Timestamp.latest
  split
  · exact Nat.le_refl _
  · next later => exact Nat.le_of_lt (Nat.lt_of_not_le later)

/-- Sending keeps a bus sound, whatever the clock shows: a message is never due before the
one ahead of it on its link. -/
theorem Sound.send {bus : Bus} (sound : bus.Sound) {sender receiver : Rank}
    (senderJoined : bus.Joined sender) (receiverJoined : bus.Joined receiver)
    (message : Message) : (bus.send sender receiver message).Sound where
  small := by
    rw [worldSize_send]
    exact sound.small
  attached := by
    intro rank endpoint found
    rw [endpoint?_send (sound.knows senderJoined receiverJoined)] at found
    obtain ⟨before, beforeFound, rfl⟩ := Option.map_eq_some_iff.1 found
    have attached := sound.attached beforeFound
    exact attached
  wide := by
    intro rank endpoint found
    rw [endpoint?_send (sound.knows senderJoined receiverJoined)] at found
    obtain ⟨before, beforeFound, rfl⟩ := Option.map_eq_some_iff.1 found
    have known := sound.wide beforeFound
    rw [worldSize_send]
    by_cases own : rank = sender <;> simp [afterSend, own, known]
  ordered := by
    intro origin other
    rw [waiting_send sound senderJoined receiverJoined]
    split
    · next here =>
      obtain ⟨rfl, rfl⟩ := here
      refine List.pairwise_append.2 ⟨sound.ordered _ _, List.pairwise_singleton _ _, ?_⟩
      intro earlier waits latest isLatest
      rw [List.mem_singleton.1 isLatest]
      exact Nat.le_trans (sound.bounded waits) (le_latest_right _ _)
    · rw [List.append_nil]
      exact sound.ordered _ _
  bounded := by
    intro origin other packet waits
    rw [waiting_send sound senderJoined receiverJoined] at waits
    rw [lastDue_send sound senderJoined receiverJoined]
    split at waits
    · next here =>
      obtain ⟨rfl, rfl⟩ := here
      rw [if_pos ⟨rfl, rfl⟩]
      rcases List.mem_append.1 waits with waited | sent
      · exact Nat.le_trans (sound.bounded waited) (le_latest_right _ _)
      · rw [List.mem_singleton.1 sent]
        exact Nat.le_refl _
    · next elsewhere =>
      rw [if_neg elsewhere]
      exact sound.bounded (by simpa using waits)

/-! ## Polling -/

/-- What a poll of a process takes. -/
def duePackets (bus : Bus) (receiver : Rank) : List Packet :=
  (bus.arriving receiver).filter fun packet => decide (packet.deliverAt ≤ bus.clock.time)

/-- What a poll of a process leaves. -/
def laterPackets (bus : Bus) (receiver : Rank) : List Packet :=
  (bus.arriving receiver).filter fun packet => !decide (packet.deliverAt ≤ bus.clock.time)

/-- A poll of an end where something lies reads the clock and splits what lies there. -/
theorem poll_eq {bus : Bus} {rank : Rank} {endpoint : Endpoint}
    (found : bus.endpoint? rank = some endpoint) (something : bus.arriving rank ≠ []) :
    bus.poll rank =
      ((bus.duePackets rank).map fun packet => (packet.sender, packet.message),
        { bus with clock := bus.clock.read.2 }.update rank fun endpoint =>
          { endpoint with inbox := [], held := bus.laterPackets rank }) := by
  have lies : endpoint.held ++ endpoint.inbox = bus.arriving rank := by simp [arriving, found]
  unfold poll
  simp only [found, lies, List.isEmpty_iff, if_neg something, List.partition_eq_filter_filter]
  rfl

/-- A poll of an end where nothing lies does nothing, not even read the clock. -/
theorem poll_eq_of_nil {bus : Bus} {rank : Rank} (nothing : bus.arriving rank = []) :
    bus.poll rank = ([], bus) := by
  unfold poll
  cases found : bus.endpoint? rank with
  | none => rfl
  | some endpoint =>
    have lies : endpoint.held ++ endpoint.inbox = [] := by simpa [arriving, found] using nothing
    simp only [lies, List.isEmpty_nil, if_true]

/-- Something arrives only at a process of the world. -/
theorem arriving_ne_nil {bus : Bus} {rank : Rank} (something : bus.arriving rank ≠ []) :
    ∃ endpoint, bus.endpoint? rank = some endpoint := by
  cases found : bus.endpoint? rank with
  | none => exact absurd (by simp [arriving, found]) something
  | some endpoint => exact ⟨endpoint, rfl⟩

/-- Polling gives the packets that are due, each with its sender. -/
theorem poll_fst (bus : Bus) (rank : Rank) :
    (bus.poll rank).1 =
      (bus.duePackets rank).map fun packet => (packet.sender, packet.message) := by
  by_cases nothing : bus.arriving rank = []
  · rw [poll_eq_of_nil nothing, duePackets, nothing]
    rfl
  · obtain ⟨endpoint, found⟩ := arriving_ne_nil nothing
    rw [poll_eq found nothing]

/-- What polling does to any end. -/
theorem endpoint?_poll (bus : Bus) (rank other : Rank) :
    (bus.poll rank).2.endpoint? other = (bus.endpoint? other).map fun endpoint =>
      if other = rank then { endpoint with inbox := [], held := bus.laterPackets rank }
      else endpoint := by
  by_cases nothing : bus.arriving rank = []
  · rw [poll_eq_of_nil nothing, laterPackets, nothing]
    cases found : bus.endpoint? other with
    | none => rfl
    | some endpoint =>
      by_cases own : other = rank
      · subst own
        have lies : endpoint.held ++ endpoint.inbox = [] := by simpa [arriving, found] using nothing
        obtain ⟨held, inbox⟩ := List.append_eq_nil_iff.1 lies
        cases endpoint
        simp_all
      · simp [own]
  · obtain ⟨endpoint, found⟩ := arriving_ne_nil nothing
    rw [poll_eq found nothing, endpoint?_update]
    rfl

/-- Polling leaves the world as large as it is. -/
@[simp] theorem worldSize_poll (bus : Bus) (rank : Rank) :
    (bus.poll rank).2.worldSize = bus.worldSize := by
  by_cases nothing : bus.arriving rank = []
  · rw [poll_eq_of_nil nothing]
  · obtain ⟨endpoint, found⟩ := arriving_ne_nil nothing
    rw [poll_eq found nothing]
    simp only [worldSize_update]
    rfl

/-- Polling leaves the packets that are not due yet, and all those of other processes. -/
theorem arriving_poll (bus : Bus) (rank other : Rank) :
    (bus.poll rank).2.arriving other =
      if other = rank then bus.laterPackets rank else bus.arriving other := by
  have laterAbsent : bus.endpoint? rank = none → bus.laterPackets rank = [] := by
    intro absent
    simp [laterPackets, arriving, absent]
  rw [arriving, endpoint?_poll]
  by_cases own : other = rank
  · subst own
    cases found : bus.endpoint? other with
    | none => simp [laterAbsent found]
    | some endpoint => simp
  · simp only [if_neg own, arriving]
    cases bus.endpoint? other <;> rfl

/-- Polling moves no time of delivery. -/
theorem lastDue_poll (bus : Bus) (rank origin other : Rank) :
    (bus.poll rank).2.lastDue origin other = bus.lastDue origin other := by
  unfold lastDue
  rw [endpoint?_poll]
  cases bus.endpoint? origin with
  | none => rfl
  | some endpoint => by_cases own : origin = rank <;> simp [own]

/-- Polling reads the clock at most once. -/
theorem clock_poll (bus : Bus) (rank : Rank) :
    (bus.poll rank).2.clock = bus.clock ∨ (bus.poll rank).2.clock = bus.clock.read.2 := by
  by_cases nothing : bus.arriving rank = []
  · rw [poll_eq_of_nil nothing]
    exact .inl rfl
  · obtain ⟨endpoint, found⟩ := arriving_ne_nil nothing
    rw [poll_eq found nothing]
    exact .inr rfl

/-- Where a test only ever fails from some point on, what passes it is the front. -/
theorem filter_append_filter_not {Item : Type} {test : Item → Bool} {items : List Item}
    (front : items.Pairwise fun first second => test second = true → test first = true) :
    items.filter test ++ items.filter (fun item => !test item) = items := by
  induction items with
  | nil => rfl
  | cons first rest inductionHypothesis =>
    obtain ⟨heads, tails⟩ := List.pairwise_cons.1 front
    by_cases passes : test first = true
    · simp [passes, inductionHypothesis tails]
    · have none : rest.filter test = [] := by
        apply List.filter_eq_nil_iff.2
        intro item member itemPasses
        exact passes (heads item member itemPasses)
      have all : rest.filter (fun item => !test item) = rest := by
        have whole := inductionHypothesis tails
        rwa [none, List.nil_append] at whole
      simp [passes, none, all]

/-- A poll takes the front of a link that holds its packets by the time at which they are due. -/
theorem poll_front_of_ordered {bus : Bus} {sender receiver : Rank}
    (ordered : (bus.waiting sender receiver).Pairwise fun first second =>
      first.deliverAt ≤ second.deliverAt) :
    ((bus.duePackets receiver).filter fun packet => decide (packet.sender = sender)) ++
      (bus.poll receiver).2.waiting sender receiver = bus.waiting sender receiver := by
  have front : (bus.waiting sender receiver).Pairwise fun first second =>
      decide (second.deliverAt ≤ bus.clock.time) = true →
        decide (first.deliverAt ≤ bus.clock.time) = true := by
    refine ordered.imp ?_
    intro first second earlier due
    exact decide_eq_true (Nat.le_trans earlier (of_decide_eq_true due))
  have split := filter_append_filter_not front
  simp only [waiting, List.filter_filter] at split
  simp only [waiting, arriving_poll, if_true, duePackets, laterPackets, List.filter_filter]
  simpa only [Bool.and_comm] using split

/-- A poll takes the front of every link and leaves the rest. -/
theorem poll_front {bus : Bus} (sound : bus.Sound) (sender receiver : Rank) :
    ((bus.duePackets receiver).filter fun packet => decide (packet.sender = sender)) ++
      (bus.poll receiver).2.waiting sender receiver = bus.waiting sender receiver :=
  poll_front_of_ordered (sound.ordered sender receiver)

/-- Polling takes nothing off the links to other processes. -/
theorem waiting_poll_of_ne (bus : Bus) {rank other : Rank} (different : other ≠ rank)
    (sender : Rank) : (bus.poll rank).2.waiting sender other = bus.waiting sender other := by
  rw [waiting, arriving_poll, if_neg different, waiting]

/-- What a poll leaves on a link was there before. -/
theorem waiting_poll_sublist (bus : Bus) (rank sender receiver : Rank) :
    ((bus.poll rank).2.waiting sender receiver).Sublist (bus.waiting sender receiver) := by
  by_cases own : receiver = rank
  · subst own
    simp only [waiting, arriving_poll, if_true, laterPackets]
    exact List.filter_sublist.filter _
  · rw [waiting_poll_of_ne bus own]

/-- Polling keeps a bus sound. -/
theorem Sound.poll {bus : Bus} (sound : bus.Sound) (rank : Rank) : (bus.poll rank).2.Sound where
  small := by
    rw [worldSize_poll]
    exact sound.small
  attached := by
    intro other endpoint found
    rw [endpoint?_poll] at found
    obtain ⟨before, beforeFound, rfl⟩ := Option.map_eq_some_iff.1 found
    have listening := sound.attached beforeFound
    by_cases own : other = rank <;> simp [own, listening]
  wide := by
    intro other endpoint found
    rw [endpoint?_poll] at found
    obtain ⟨before, beforeFound, rfl⟩ := Option.map_eq_some_iff.1 found
    have known := sound.wide beforeFound
    rw [worldSize_poll]
    by_cases own : other = rank <;> simp [own, known]
  ordered := fun sender receiver =>
    (sound.ordered sender receiver).sublist (bus.waiting_poll_sublist rank sender receiver)
  bounded := by
    intro sender receiver packet waits
    rw [lastDue_poll]
    exact sound.bounded ((bus.waiting_poll_sublist rank sender receiver).mem waits)

/-! ## The clock and the start -/

/-- Changing the clock keeps a bus sound, also where the clock is set back. -/
theorem Sound.withClock {bus : Bus} (sound : bus.Sound) (clock : Clock) :
    Bus.Sound { bus with clock } :=
  ⟨sound.small, sound.attached, sound.wide, sound.ordered, sound.bounded⟩

/-- Every end of a new bus is attached, holds nothing, and knows all links. -/
theorem endpoint?_connect {worldSize : Nat} {clock : Clock} {seed : Seed} {jitter : Jitter}
    {rank : Rank} {endpoint : Endpoint}
    (found : (connect worldSize clock seed jitter).endpoint? rank = some endpoint) :
    endpoint.inbox = [] ∧ endpoint.held = [] ∧ endpoint.attached = true ∧
      endpoint.lastDelivery = List.replicate worldSize .zero := by
  obtain ⟨owner, _, rfl⟩ := List.mem_map.1 (List.mem_of_getElem? found)
  exact ⟨rfl, rfl, rfl, rfl⟩

/-- A new bus has as many ends as fit into 32 bits. -/
@[simp] theorem worldSize_connect (worldSize : Nat) (clock : Clock) (seed : Seed)
    (jitter : Jitter) :
    (connect worldSize clock seed jitter).worldSize = worldSize % 2 ^ 32 := by
  simp [connect, Bus.worldSize]

/-- Nothing arrives on a new bus. -/
@[simp] theorem arriving_connect (worldSize : Nat) (clock : Clock) (seed : Seed)
    (jitter : Jitter) (receiver : Rank) :
    (connect worldSize clock seed jitter).arriving receiver = [] := by
  unfold arriving
  cases found : (connect worldSize clock seed jitter).endpoint? receiver with
  | none => rfl
  | some endpoint =>
    obtain ⟨inbox, held, _, _⟩ := endpoint?_connect found
    simp [inbox, held]

/-- Before anything is sent a bus is sound. -/
theorem Sound.connect (worldSize : Nat) (clock : Clock) (seed : Seed) (jitter : Jitter) :
    (Bus.connect worldSize clock seed jitter).Sound where
  small := by
    rw [worldSize_connect]
    exact Nat.mod_lt _ (by decide)
  attached := fun found => (endpoint?_connect found).2.2.1
  wide := by
    intro rank endpoint found
    rw [worldSize_connect, (endpoint?_connect found).2.2.2, List.length_replicate]
    exact Nat.mod_le _ _
  ordered := by simp [waiting]
  bounded := by simp [waiting]

end Bus

end Concord
