import Concord.Proofs.Delivery

/-!
# Whole calls

A call on a peer does at once what a station does in many steps. `Network.settles_sendEach`
and `Network.settles_handleAll` are the two loops that a call can hold, so whatever holds
between any two steps of stations holds between any two calls on peers.
-/

namespace Concord

namespace Peer

/-- The sending of several messages, as history. -/
def sendEvents (rank : Rank) (outgoing : List (Rank × Message)) : List Event :=
  outgoing.map fun item => .sent rank item.1 item.2

/-- What a peer does when it acts on several messages in turn. -/
def batchEvents (judge : Judge) (bus : Bus) (peer : Peer) : List (Rank × Message) → List Event
  | [] => []
  | (sender, message) :: rest =>
    let (after, changed) := handle judge bus peer message
    handleEvents judge bus peer sender message ++
      (sendEvents peer.rank (replies judge bus peer message) ++
        batchEvents judge after changed rest)

end Peer

namespace Network

/-- Acting twice for one process is acting once with both records. -/
@[simp] theorem put_put (network : Network) (rank : Rank) (first second : Bus × Station)
    (earlier later : List Event) :
    (network.put rank first earlier).put rank second later =
      network.put rank second (earlier ++ later) := by
  simp [put, Function.update_idem]

/-- Putting back what is there changes nothing. -/
@[simp] theorem put_same (network : Network) (rank : Rank) :
    network.put rank (network.bus, network.stations rank) [] = network := by
  simp [put]

/-- A process that acts is afterwards as it left itself. -/
@[simp] theorem put_stations_self (network : Network) (rank : Rank) (acted : Bus × Station)
    (events : List Event) : (network.put rank acted events).stations rank = acted.2 :=
  Function.update_self _ _ _

/-- What becomes of a network by stations that only send what they have to send and act on what they
have polled. -/
inductive Settles (judge : Judge) (start : Network) : Network → Prop where
  | refl : Settles judge start start
  | send {middle : Network} {rank receiver : Rank} {message : Message}
      {rest : List (Rank × Message)} (prior : Settles judge start middle)
      (next : (middle.stations rank).outbox = (receiver, message) :: rest) :
      Settles judge start (middle.send rank receiver message rest)
  | handle {middle : Network} {rank sender : Rank} {message : Message}
      {rest : List (Rank × Message)} (prior : Settles judge start middle)
      (quiet : (middle.stations rank).outbox = [])
      (next : (middle.stations rank).batch = (sender, message) :: rest) :
      Settles judge start (middle.handle judge rank sender message rest)

/-- What settles in two parts settles. -/
theorem Settles.trans {judge : Judge} {start middle final : Network}
    (first : Settles judge start middle) (second : Settles judge middle final) :
    Settles judge start final := by
  induction second with
  | refl => exact first
  | send _ next inductionHypothesis => exact .send inductionHypothesis next
  | handle _ quiet next inductionHypothesis => exact .handle inductionHypothesis quiet next

/-- Settling is made of steps of the network. -/
theorem Settles.reaches {judge : Judge} {start final : Network}
    (settles : Settles judge start final) : Reaches start final := by
  induction settles with
  | refl => exact .refl
  | send _ next inductionHypothesis => exact .step inductionHypothesis (.send next)
  | handle _ quiet next inductionHypothesis =>
    exact .step inductionHypothesis (.handle judge quiet next)

/-- A station sends what it has to send, one message after the other. -/
theorem settles_sendEach (network : Network) (judge : Judge) (rank : Rank) (bus : Bus) (peer : Peer)
    (batch outgoing : List (Rank × Message)) (events : List Event) :
    Settles judge (network.put rank (bus, ⟨peer, batch, outgoing⟩) events)
      (network.put rank (bus.sendEach rank outgoing, ⟨peer, batch, []⟩)
        (events ++ Peer.sendEvents rank outgoing)) := by
  induction outgoing generalizing bus events with
  | nil =>
    simp only [Peer.sendEvents, List.map_nil, List.append_nil]
    exact .refl
  | cons item rest inductionHypothesis =>
    have next : Settles judge (network.put rank (bus, ⟨peer, batch, item :: rest⟩) events)
        (network.put rank (bus.send rank item.1 item.2, ⟨peer, batch, rest⟩)
          (events ++ [.sent rank item.1 item.2])) := by
      have first := @Settles.send judge
        (network.put rank (bus, ⟨peer, batch, item :: rest⟩) events) _ rank item.1 item.2 rest .refl
        (by simp)
      simpa [send] using first
    have others := inductionHypothesis (bus.send rank item.1 item.2)
      (events ++ [.sent rank item.1 item.2])
    have joined := next.trans others
    simpa [Peer.sendEvents, Bus.sendEach] using joined

/-- A station acts on what it has polled, one message after the other, and sends after each
what that makes it send. -/
theorem settles_handleAll (network : Network) (judge : Judge) {rank : Rank} (bus : Bus)
    {peer : Peer} (named : peer.rank = rank) (messages : List (Rank × Message))
    (events : List Event) :
    Settles judge (network.put rank (bus, ⟨peer, messages, []⟩) events)
      (network.put rank
        ((Peer.handleAll judge bus peer messages).1,
          .resting (Peer.handleAll judge bus peer messages).2)
        (events ++ Peer.batchEvents judge bus peer messages)) := by
  induction messages generalizing bus peer events with
  | nil =>
    simp only [Peer.batchEvents, List.append_nil]
    exact .refl
  | cons item rest inductionHypothesis =>
    obtain ⟨sender, message⟩ := item
    have acted : Settles judge
        (network.put rank (bus, ⟨peer, (sender, message) :: rest, []⟩) events)
        (network.put rank
          ({ bus with clock := Peer.clockAfter judge bus message },
            ⟨(Peer.handle judge bus peer message).2, rest, Peer.replies judge bus peer message⟩)
          (events ++ Peer.handleEvents judge bus peer sender message)) := by
      have first := @Settles.handle judge
        (network.put rank (bus, ⟨peer, (sender, message) :: rest, []⟩) events) _ rank sender message
        rest .refl (by simp) (by simp)
      simpa [handle, Station.handle] using first
    have replied := settles_sendEach network judge rank
      { bus with clock := Peer.clockAfter judge bus message }
      (Peer.handle judge bus peer message).2 rest (Peer.replies judge bus peer message)
      (events ++ Peer.handleEvents judge bus peer sender message)
    have sent := Peer.handle_fst judge bus peer message
    rw [named] at sent
    rw [← sent] at replied
    have stillNamed : (Peer.handle judge bus peer message).2.rank = rank := by
      rw [Peer.rank_handle, named]
    have others := inductionHypothesis (Peer.handle judge bus peer message).1 stillNamed
      (events ++ Peer.handleEvents judge bus peer sender message ++
        Peer.sendEvents rank (Peer.replies judge bus peer message))
    have whole := acted.trans (replied.trans others)
    simpa [Peer.batchEvents, Peer.handleAll, named] using whole

end Network

end Concord
