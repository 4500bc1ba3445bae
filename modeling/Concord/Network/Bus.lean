import Concord.Network.Message
import Concord.Seed

/-!
# The bus

The bus joins the processes of a world. Every message on a link is delivered once and in
the order sent, some time after it was sent: a random delay is added to the time of
sending, and no message is due before the one ahead of it on its link. A process sees what
is due when it polls. All processes share one clock.
-/

namespace Concord

/-- The largest delay that is added to a message, in microseconds. -/
structure Jitter where
  maxMicros : UInt64
deriving DecidableEq, Inhabited

namespace Jitter

/-- No delay at all. -/
def none : Jitter :=
  ⟨0⟩

/-- Draw a delay; where there is none, nothing is drawn. -/
def sample (jitter : Jitter) (generator : Random.Generator) : UInt64 × Random.Generator :=
  if jitter.maxMicros = 0 then (0, generator) else generator.drawUpTo jitter.maxMicros

/-- A jitter as a document. -/
def toJson (jitter : Jitter) : Json :=
  .record [("max_us", .ofNat jitter.maxMicros.toNat)]

/-- The jitter that a document describes. -/
def ofJson? (document : Json) : Option Jitter := do
  let fields ← document.fields? ["max_us"]
  let maxMicros ← fields.required? "max_us" Json.uint64?
  return ⟨maxMicros⟩

end Jitter

/-- A message on its way. -/
structure Packet where
  sender : Rank
  deliverAt : Timestamp
  message : Message
deriving DecidableEq, Inhabited

/-- One process's end of the bus. -/
structure Endpoint where
  rank : Rank
  /-- What was sent to this end and has not been looked at. -/
  inbox : List Packet
  /-- What was looked at before it was due. -/
  held : List Packet
  /-- When the last message to each process is due. -/
  lastDelivery : List Timestamp
  generator : Random.Generator
  /-- Whether anybody still listens here. -/
  attached : Bool

/-- The ends of all links, and the clock they share. -/
structure Bus where
  clock : Clock
  jitter : Jitter
  endpoints : List Endpoint

namespace Bus

/-- A bus for a world of the given size. -/
def connect (worldSize : Nat) (clock : Clock) (seed : Seed) (jitter : Jitter) : Bus where
  clock
  jitter
  endpoints := (Rank.all worldSize).map fun rank => {
    rank
    inbox := []
    held := []
    lastDelivery := List.replicate worldSize .zero
    generator := (seed.forRank rank).generator
    attached := true }

/-- How many processes the bus joins. -/
def worldSize (bus : Bus) : Nat :=
  bus.endpoints.length

/-- The end of a process. -/
def endpoint? (bus : Bus) (rank : Rank) : Option Endpoint :=
  bus.endpoints[rank.toNat]?

/-- Change the end of a process. -/
def update (bus : Bus) (rank : Rank) (change : Endpoint → Endpoint) : Bus :=
  { bus with endpoints := bus.endpoints.modify rank.toNat change }

/-- Put a packet into the inbox of its addressee, if anybody listens there. -/
def post (bus : Bus) (receiver : Rank) (packet : Packet) : Bus :=
  bus.update receiver fun endpoint =>
    if endpoint.attached then { endpoint with inbox := endpoint.inbox ++ [packet] } else endpoint

/-- Send a message. Nothing happens if the addressee is outside the bus; if nobody listens
there any more, the message is lost but its delay is drawn all the same. -/
def send (bus : Bus) (sender receiver : Rank) (message : Message) : Bus :=
  match bus.endpoint? sender with
  | none => bus
  | some source =>
    match source.lastDelivery[receiver.toNat]? with
    | none => bus
    | some last =>
      let (delay, generator) := bus.jitter.sample source.generator
      let (now, clock) := bus.clock.read
      let deliverAt := (now.after delay).latest last
      let sent := { bus with clock }.update sender fun endpoint => { endpoint with
        generator
        lastDelivery := endpoint.lastDelivery.set receiver.toNat deliverAt }
      sent.post receiver ⟨sender, deliverAt, message⟩

/-- Send a message to every other process, in the order of ranks. -/
def broadcast (bus : Bus) (sender : Rank) (message : Message) : Bus :=
  ((Rank.all bus.worldSize).filter (· ≠ sender)).foldl
    (fun bus receiver => bus.send sender receiver message) bus

/-- Take the messages that are due at a process, in the order in which they were sent to
it. The clock is read only if there are any messages at all. -/
def poll (bus : Bus) (rank : Rank) : List (Rank × Message) × Bus :=
  match bus.endpoint? rank with
  | none => ([], bus)
  | some endpoint =>
    let held := endpoint.held ++ endpoint.inbox
    if held.isEmpty then ([], bus)
    else
      let (now, clock) := bus.clock.read
      let (due, later) := held.partition fun packet => decide (packet.deliverAt ≤ now)
      (due.map fun packet => (packet.sender, packet.message),
        { bus with clock }.update rank fun endpoint =>
          { endpoint with inbox := [], held := later })

/-- Stop listening at a process's end; what waits there is lost. -/
def detach (bus : Bus) (rank : Rank) : Bus :=
  bus.update rank fun endpoint => { endpoint with inbox := [], held := [], attached := false }

/-- Change the clock that the processes share. -/
def changeClock (bus : Bus) (change : Clock → Clock) : Bus :=
  { bus with clock := change bus.clock }

end Bus

end Concord
