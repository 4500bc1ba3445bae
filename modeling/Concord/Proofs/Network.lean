import Concord.Proofs.Stations
import Mathlib.Logic.Function.Basic

/-!
# Networks

A network is a bus with a station at every process and the history of what the stations did.
`Network.Step` is authoritative for how processes interleave: a single message is sent or
acted on, a single request is taken on, or the clock is set to anything. The history adds
nothing to the stations; it is what the laws about networks are stated of.
-/

namespace Concord

/-- Something that a station did. -/
inductive Event where
  /-- A process holds a ballot. -/
  | offered (rank : Rank) (number : Nat) (envelope : Bytes)
  /-- A process tells everybody about an envelope that needs no vote. -/
  | announced (rank : Rank) (envelope : Bytes)
  /-- A process has judged what another one offered. -/
  | judged (voter origin : Rank) (number : Nat) (envelope : Bytes) (verdict : Verdict)
  /-- All votes on a ballot are in. -/
  | decided (rank : Rank) (number : Nat) (approved : Bool) (envelope : Bytes)
  | sent (sender receiver : Rank) (message : Message)
  | handled (receiver sender : Rank) (message : Message)
  /-- A process has checked out what another one got approved or announced. -/
  | collected (rank : Rank) (envelope : Bytes)
deriving DecidableEq

namespace Message

/-- The ballot that a message asks to vote on. -/
def proposal? : Message → Option (Nat × Bytes)
  | .propose _ number envelope => some (number, envelope)
  | _ => none

/-- The vote that a message is. -/
def vote? : Message → Option (Nat × Bool)
  | .vote _ number yes => some (number, yes)
  | _ => none

/-- The end of a ballot that a message tells. -/
def decision? : Message → Option (Nat × Bool × Bytes)
  | .decision _ number approved envelope => some (number, approved, envelope)
  | _ => none

/-- The envelope that a message brings for checkout. -/
def carried? : Message → Option Bytes
  | .decision _ _ approved envelope => if approved then some envelope else none
  | .broadcast _ envelope => some envelope
  | _ => none

/-- The process that a message names as its own. -/
def author : Message → Rank
  | .propose origin _ _ => origin
  | .vote voter _ _ => voter
  | .decision origin _ _ _ => origin
  | .broadcast origin _ => origin

end Message

namespace Peer

/-- Surfacing keeps an envelope behind what is already there, if it is one. -/
theorem surface_eq (peer : Peer) (envelope : Bytes) :
    peer.surface envelope = { peer with
      approved := peer.approved ++
        ((some envelope).filter fun envelope => (Envelope.decode envelope).toBool).toList } := by
  unfold surface
  cases decoded : Envelope.decode envelope <;> simp [Option.filter, decoded, Except.toBool]

/-- A message that is no vote changes nothing of a peer but what waits for checkout. -/
theorem handle_of_not_vote (judge : Judge) (bus : Bus) (peer : Peer) {message : Message}
    (other : message.vote? = none) :
    (handle judge bus peer message).2 = { peer with
      approved := peer.approved ++
        (message.carried?.filter fun envelope => (Envelope.decode envelope).toBool).toList } := by
  cases message with
  | propose origin number envelope => simp [handle, Message.carried?]
  | vote voter number yes => simp [Message.vote?] at other
  | decision origin number approved envelope =>
    cases approved with
    | false => simp [handle, Message.carried?]
    | true => exact surface_eq peer envelope
  | broadcast origin envelope => exact surface_eq peer envelope

/-- A message changes nothing of a peer but its ballot and what waits for checkout. -/
theorem exists_handle_eq (judge : Judge) (bus : Bus) (peer : Peer) (message : Message) :
    ∃ ballot approved, (handle judge bus peer message).2 = { peer with ballot, approved } := by
  cases cast : message.vote? with
  | none => exact ⟨peer.ballot, _, handle_of_not_vote judge bus peer cast⟩
  | some vote =>
    cases message <;> simp only [Message.vote?, reduceCtorEq] at cast
    obtain ⟨ballot, changed⟩ := exists_handle_vote judge bus peer _ _ _
    exact ⟨ballot, peer.approved, changed⟩

/-- A peer keeps its rank when it acts on a message. -/
@[simp] theorem rank_handle (judge : Judge) (bus : Bus) (peer : Peer) (message : Message) :
    (handle judge bus peer message).2.rank = peer.rank := by
  obtain ⟨ballot, approved, changed⟩ := exists_handle_eq judge bus peer message
  rw [changed]

/-- No message makes a peer hold a ballot. -/
@[simp] theorem ballotsHeld_handle (judge : Judge) (bus : Bus) (peer : Peer)
    (message : Message) : (handle judge bus peer message).2.ballotsHeld = peer.ballotsHeld := by
  obtain ⟨ballot, approved, changed⟩ := exists_handle_eq judge bus peer message
  rw [changed]

/-- Nobody leaves because of a message. -/
@[simp] theorem finalized_handle (judge : Judge) (bus : Bus) (peer : Peer) (message : Message) :
    (handle judge bus peer message).2.finalized = peer.finalized := by
  obtain ⟨ballot, approved, changed⟩ := exists_handle_eq judge bus peer message
  rw [changed]

/-- Acting on a message that is no vote leaves the own ballot alone. -/
theorem ballot_handle_of_not_vote (judge : Judge) (bus : Bus) (peer : Peer) {message : Message}
    (other : message.vote? = none) :
    (handle judge bus peer message).2.ballot = peer.ballot := by
  rw [handle_of_not_vote judge bus peer other]

/-- Where no ballot is held, no message makes one. -/
theorem ballot_handle_of_none (judge : Judge) (bus : Bus) {peer : Peer}
    (none : peer.ballot = none) (message : Message) :
    (handle judge bus peer message).2.ballot = peer.ballot := by
  cases cast : message.vote? with
  | none => exact ballot_handle_of_not_vote judge bus peer cast
  | some vote =>
    cases message <;> simp only [Message.vote?, reduceCtorEq] at cast
    simp [handle, countVote, none]

/-- What a message brings for checkout is put behind what is already there. -/
theorem approved_handle (judge : Judge) (bus : Bus) (peer : Peer) (message : Message) :
    (handle judge bus peer message).2.approved = peer.approved ++
      (message.carried?.filter fun envelope => (Envelope.decode envelope).toBool).toList := by
  cases cast : message.vote? with
  | none => rw [handle_of_not_vote judge bus peer cast]
  | some vote =>
    cases message <;> simp only [Message.vote?, reduceCtorEq] at cast
    obtain ⟨ballot, changed⟩ := exists_handle_vote judge bus peer _ _ _
    rw [changed]
    simp [Message.carried?]

end Peer

namespace Event

/-- What an event puts on a link. -/
def sentOn? (sender receiver : Rank) : Event → Option Message
  | .sent source target message =>
    if source = sender ∧ target = receiver then some message else none
  | _ => none

/-- What an event takes from a link. -/
def handledFrom? (sender receiver : Rank) : Event → Option Message
  | .handled target source message =>
    if source = sender ∧ target = receiver then some message else none
  | _ => none

/-- What an event makes one process write to another. -/
def written? (sender receiver : Rank) : Event → Option Message
  | .offered rank number envelope =>
    if rank = sender then some (.propose rank number envelope) else none
  | .announced rank envelope => if rank = sender then some (.broadcast rank envelope) else none
  | .judged voter origin number _ verdict =>
    if voter = sender ∧ origin = receiver then some (.vote voter number verdict.isAccept) else none
  | .decided rank number approved envelope =>
    if rank = sender then some (.decision rank number approved envelope) else none
  | _ => none

/-- The ballot that an event opens at a process. -/
def offeredBy? (process : Rank) : Event → Option (Nat × Bytes)
  | .offered rank number envelope => if rank = process then some (number, envelope) else none
  | _ => none

/-- What a process has judged of another one's ballots. -/
def judgedFor? (process owner : Rank) : Event → Option (Nat × Bytes × Verdict)
  | .judged voter origin number envelope verdict =>
    if voter = process ∧ origin = owner then some (number, envelope, verdict) else none
  | _ => none

/-- The ballot that an event ends at a process. -/
def decidedBy? (process : Rank) : Event → Option (Nat × Bool × Bytes)
  | .decided rank number approved envelope =>
    if rank = process then some (number, approved, envelope) else none
  | _ => none

/-- The envelope that an event makes a process hand to everybody else. -/
def issuedBy? (process : Rank) : Event → Option Bytes
  | .announced rank envelope => if rank = process then some envelope else none
  | .decided rank _ approved envelope =>
    if rank = process ∧ approved = true then some envelope else none
  | _ => none

/-- The vote that an event brings a process, with the process that cast it. -/
def voteFor? (process : Rank) : Event → Option (Rank × Nat × Bool)
  | .handled receiver sender message =>
    if receiver = process then message.vote?.map fun vote => (sender, vote) else none
  | _ => none

/-- The envelope that an event brings a process for checkout. -/
def surfacedAt? (process : Rank) : Event → Option Bytes
  | .handled receiver _ message =>
    if receiver = process then
      message.carried?.filter fun envelope => (Envelope.decode envelope).toBool
    else none
  | _ => none

/-- The envelope that a process checks out. -/
def collectedBy? (process : Rank) : Event → Option Bytes
  | .collected rank envelope => if rank = process then some envelope else none
  | _ => none

end Event

/-- A bus with a station at every process, and what the stations have done. -/
structure Network where
  bus : Bus
  stations : Rank → Station
  history : List Event

namespace Peer

/-- What follows, apart from sending, when a peer acts on a message. -/
def outcomeEvents (judge : Judge) (bus : Bus) (peer : Peer) : Message → List Event
  | .propose origin number envelope =>
    [.judged peer.rank origin number envelope (judge.judge bus.clock envelope).1]
  | .vote _ number yes =>
    match peer.outcome? bus number yes with
    | none => []
    | some (approved, envelope) => [.decided peer.rank number approved envelope]
  | .decision _ _ _ _ => []
  | .broadcast _ _ => []

/-- What a peer does, apart from sending, when it acts on a message. -/
def handleEvents (judge : Judge) (bus : Bus) (peer : Peer) (sender : Rank) (message : Message) :
    List Event :=
  .handled peer.rank sender message :: outcomeEvents judge bus peer message

/-- What a peer does, apart from sending, when it takes on a request. -/
def serveEvents (bus : Bus) (peer : Peer) : Request → List Event
  | .submitVote _ envelope =>
    if peer.mayOffer then
      .offered peer.rank (peer.ballotsHeld + 1) envelope ::
        if others bus = 0 then [.decided peer.rank (peer.ballotsHeld + 1) true envelope] else []
    else []
  | .submitBroadcast _ envelope =>
    if peer.finalized then [] else [.announced peer.rank envelope]
  | .checkout =>
    match peer.approved with
    | [] => []
    | envelope :: _ => [.collected peer.rank envelope]
  | _ => []

end Peer

namespace Network

/-- A network before anything has happened. -/
def opening (worldSize : Nat) (clock : Clock) (seed : Seed) (jitter : Jitter) : Network where
  bus := .connect worldSize clock seed jitter
  stations rank := .resting (.create rank)
  history := []

/-- A network in which one station has acted. -/
def put (network : Network) (rank : Rank) (acted : Bus × Station) (events : List Event) :
    Network :=
  ⟨acted.1, Function.update network.stations rank acted.2, network.history ++ events⟩

/-- Send the next message of a station. -/
def send (network : Network) (rank receiver : Rank) (message : Message)
    (rest : List (Rank × Message)) : Network :=
  network.put rank
    (network.bus.send rank receiver message, { network.stations rank with outbox := rest })
    [.sent rank receiver message]

/-- Let a station act on its next message. -/
def handle (network : Network) (judge : Judge) (rank sender : Rank) (message : Message)
    (rest : List (Rank × Message)) : Network :=
  network.put rank (Station.handle judge network.bus (network.stations rank) message rest)
    (Peer.handleEvents judge network.bus (network.stations rank).peer sender message)

/-- Let a station take on a request. -/
def serve (network : Network) (rank : Rank) (request : Request) : Network :=
  network.put rank (Station.serve network.bus (network.stations rank) request)
    (Peer.serveEvents network.bus (network.stations rank).peer request)

/-- Set the clock to anything. -/
def retime (network : Network) (clock : Clock) : Network :=
  { network with bus := { network.bus with clock } }

/-- What happens next in a network. -/
inductive Step (network : Network) : Network → Prop where
  | time (clock : Clock) : Step network (network.retime clock)
  | send {rank receiver : Rank} {message : Message} {rest : List (Rank × Message)}
      (next : (network.stations rank).outbox = (receiver, message) :: rest) :
      Step network (network.send rank receiver message rest)
  | handle (judge : Judge) {rank sender : Rank} {message : Message}
      {rest : List (Rank × Message)} (quiet : (network.stations rank).outbox = [])
      (next : (network.stations rank).batch = (sender, message) :: rest) :
      Step network (network.handle judge rank sender message rest)
  | serve (rank : Rank) (request : Request) (joined : network.bus.Joined rank)
      (idle : (network.stations rank).Idle) : Step network (network.serve rank request)

/-- What can happen after any number of steps. -/
inductive Reaches (start : Network) : Network → Prop where
  | refl : Reaches start start
  | step {middle final : Network} (prior : Reaches start middle) (next : Step middle final) :
      Reaches start final

/-- Runs that meet at a network make one run. -/
theorem Reaches.trans {start middle final : Network} (first : Reaches start middle)
    (second : Reaches middle final) : Reaches start final := by
  induction second with
  | refl => exact first
  | step _ next inductionHypothesis => exact .step inductionHypothesis next

/-! ## One station acts -/

/-- Acting for a process leaves the bus that it acted on. -/
@[simp] theorem put_bus (network : Network) (rank : Rank) (acted : Bus × Station)
    (events : List Event) : (network.put rank acted events).bus = acted.1 := rfl

/-- Acting for a process adds its events to the history. -/
@[simp] theorem put_history (network : Network) (rank : Rank) (acted : Bus × Station)
    (events : List Event) :
    (network.put rank acted events).history = network.history ++ events := rfl

/-- Acting for a process leaves all other stations as they are. -/
theorem put_stations (network : Network) (rank : Rank) (acted : Bus × Station)
    (events : List Event) (other : Rank) :
    (network.put rank acted events).stations other =
      if other = rank then acted.2 else network.stations other :=
  Function.update_apply _ _ _ _

/-! ## What lies between two processes -/

/-- The messages under a label, in their order. -/
def labelled (label : Rank) (items : List (Rank × Message)) : List Message :=
  items.filterMap fun item => if item.1 = label then some item.2 else none

/-- Nothing has no label. -/
@[simp] theorem labelled_nil (label : Rank) : labelled label [] = [] := rfl

/-- The messages under a label are those of their owner, in turn. -/
@[simp] theorem labelled_cons (label owner : Rank) (message : Message)
    (items : List (Rank × Message)) :
    labelled label ((owner, message) :: items) =
      if owner = label then message :: labelled label items else labelled label items := by
  by_cases own : owner = label <;> simp [labelled, own]

/-- A message is under a label exactly if it stands there with it. -/
theorem mem_labelled {label : Rank} {message : Message} {items : List (Rank × Message)} :
    message ∈ labelled label items ↔ (label, message) ∈ items := by
  simp [labelled]

/-- What a process has sent to another, by the history. -/
def sentOn (network : Network) (sender receiver : Rank) : List Message :=
  network.history.filterMap (Event.sentOn? sender receiver)

/-- What a process has acted on of what another sent. -/
def handledFrom (network : Network) (sender receiver : Rank) : List Message :=
  network.history.filterMap (Event.handledFrom? sender receiver)

/-- What a process has written to another, sent or not. -/
def written (network : Network) (sender receiver : Rank) : List Message :=
  network.history.filterMap (Event.written? sender receiver)

/-- What a process has not yet acted on of what another wrote to it. -/
def inFlight (network : Network) (sender receiver : Rank) : List Message :=
  labelled sender (network.stations receiver).batch ++
    (network.bus.waiting sender receiver).map Packet.message ++
      labelled receiver (network.stations sender).outbox

/-- Whether a message can travel between two processes. -/
def Linked (network : Network) (sender receiver : Rank) : Prop :=
  network.bus.Joined sender ∧ network.bus.Joined receiver ∧ sender ≠ receiver

/-! ## What the history says of ballots -/

/-- The ballots that a process has held. -/
def offers (network : Network) (rank : Rank) : List (Nat × Bytes) :=
  network.history.filterMap (Event.offeredBy? rank)

/-- What a process has judged of another one's ballots. -/
def judgements (network : Network) (voter origin : Rank) : List (Nat × Bytes × Verdict) :=
  network.history.filterMap (Event.judgedFor? voter origin)

/-- The ballots of a process that have been decided. -/
def decisions (network : Network) (rank : Rank) : List (Nat × Bool × Bytes) :=
  network.history.filterMap (Event.decidedBy? rank)

/-- The envelopes that a process got approved or announced. -/
def issued (network : Network) (rank : Rank) : List Bytes :=
  network.history.filterMap (Event.issuedBy? rank)

/-- The votes that have reached a process, each with the process that cast it. -/
def votes (network : Network) (rank : Rank) : List (Rank × Nat × Bool) :=
  network.history.filterMap (Event.voteFor? rank)

/-- What has reached a process for checkout. -/
def surfaced (network : Network) (rank : Rank) : List Bytes :=
  network.history.filterMap (Event.surfacedAt? rank)

/-- What a process has checked out. -/
def collected (network : Network) (rank : Rank) : List Bytes :=
  network.history.filterMap (Event.collectedBy? rank)

/-- Among what a process writes to another are all ballots that it holds. -/
theorem proposals_written (network : Network) (sender receiver : Rank) :
    (network.written sender receiver).filterMap Message.proposal? = network.offers sender := by
  simp only [written, offers, List.filterMap_filterMap]
  apply List.filterMap_congr
  intro event _
  cases event <;> simp only [Event.written?, Event.offeredBy?]
  all_goals
    first
    | rfl
    | split <;> simp [Message.proposal?]

/-- The votes that a process writes to another say how it has judged that one's ballots. -/
theorem votes_written (network : Network) (sender receiver : Rank) :
    (network.written sender receiver).filterMap Message.vote? =
      (network.judgements sender receiver).map fun vote => (vote.1, vote.2.2.isAccept) := by
  simp only [written, judgements, List.filterMap_filterMap, List.map_filterMap]
  apply List.filterMap_congr
  intro event _
  cases event <;> simp only [Event.written?, Event.judgedFor?]
  all_goals
    first
    | rfl
    | split <;> simp [Message.vote?]

/-- Among what a process writes to another are all its decisions. -/
theorem decisions_written (network : Network) (sender receiver : Rank) :
    (network.written sender receiver).filterMap Message.decision? = network.decisions sender := by
  simp only [written, decisions, List.filterMap_filterMap]
  apply List.filterMap_congr
  intro event _
  cases event <;> simp only [Event.written?, Event.decidedBy?]
  all_goals
    first
    | rfl
    | split <;> simp [Message.decision?]

/-- Among what a process writes to another are all envelopes that it issues. -/
theorem carried_written (network : Network) (sender receiver : Rank) :
    (network.written sender receiver).filterMap Message.carried? = network.issued sender := by
  simp only [written, issued, List.filterMap_filterMap]
  apply List.filterMap_congr
  intro event _
  cases event with
  | decided rank number approved envelope =>
    by_cases own : rank = sender <;> cases approved <;>
      simp [Event.written?, Event.issuedBy?, Message.carried?, own]
  | offered rank number envelope =>
    by_cases own : rank = sender <;>
      simp [Event.written?, Event.issuedBy?, Message.carried?, own]
  | announced rank envelope =>
    by_cases own : rank = sender <;>
      simp [Event.written?, Event.issuedBy?, Message.carried?, own]
  | judged voter origin number envelope verdict =>
    by_cases own : voter = sender ∧ origin = receiver <;>
      simp [Event.written?, Event.issuedBy?, Message.carried?, own]
  | sent sender receiver message => rfl
  | handled receiver sender message => rfl
  | collected rank envelope => rfl

/-- The votes that have reached a process from another are among what that one sent. -/
theorem votes_from (network : Network) (sender receiver : Rank) :
    ((network.votes receiver).filter fun vote => decide (vote.1 = sender)).map Prod.snd =
      (network.handledFrom sender receiver).filterMap Message.vote? := by
  simp only [votes, handledFrom, List.filter_filterMap, List.map_filterMap,
    List.filterMap_filterMap]
  apply List.filterMap_congr
  intro event _
  cases event with
  | handled target source message =>
    by_cases there : target = receiver <;> by_cases own : source = sender <;>
      cases cast : message.vote? <;>
        simp [Event.voteFor?, Event.handledFrom?, there, own, cast]
  | _ => rfl

end Network

end Concord
