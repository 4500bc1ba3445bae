import Concord.Coordinator.Run
import Concord.Network.Peer
import Concord.Replica

/-!
# Sites

A site is what surrounds one process of a world: the bus, the process's peer on it, and its
replica. A site answers every request of the process's coordinator.
-/

namespace Concord

/-- The surroundings of one process. -/
structure Site where
  bus : Bus
  peer : Peer
  replica : Replica

namespace Site

/-- Answer a request of the process whose site this is. -/
def answer (judge : Judge) : (request : Request) → Site → request.Answer ObjectHandle × Site
  | .readClock, site =>
    let (now, clock) := site.bus.clock.read
    (now, { site with bus := { site.bus with clock } })
  | .progress, site =>
    let (answer, bus, peer) := Peer.progress judge site.bus site.peer
    (answer, { site with bus, peer })
  | .submitVote id envelope, site =>
    let (answer, bus, peer) := Peer.submitVote site.bus site.peer id envelope
    (answer, { site with bus, peer })
  | .submitBroadcast _ envelope, site =>
    let (answer, bus) := Peer.submitBroadcast site.bus site.peer envelope
    (answer, { site with bus })
  | .readStatus id, site => (.ok (site.peer.status id), site)
  | .checkout, site =>
    let (envelope, peer) := site.peer.checkout
    (.ok envelope, { site with peer })
  | .release, site => (.ok (), { site with peer := site.peer.release })
  | .finalize, site => (.ok (), { site with peer := site.peer.finalize })
  | .execute proposal, site =>
    let (answer, replica) := site.replica.execute proposal
    (answer, { site with replica })

/-- Sites as surroundings of a coordinator. -/
def surroundings (judge : Judge) : Surroundings Site ObjectHandle :=
  ⟨answer judge⟩

end Site

end Concord
