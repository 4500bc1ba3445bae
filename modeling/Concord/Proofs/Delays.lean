import Concord.Proofs.VotedInvariant

/-!
# Delays

The bus puts off each message by a delay that it draws. No draw exceeds the largest delay, and
a message that waits for the one ahead of it on its link waits for one that is due in time as
well. So as long as the clock does not go back, nothing is ever due later than the largest delay
from now.
-/

namespace Concord

namespace Random.Generator

/-- A draw below a range is below it, or zero where every attempt was refused. -/
theorem drawBelow_le (largest : UInt64) (attempts : Nat) (generator : Generator) :
    (drawBelow (largest.toNat + 1) attempts generator).1.toNat ≤ largest.toNat := by
  induction attempts generalizing generator with
  | zero => exact Nat.zero_le _
  | succ attempts inductionHypothesis =>
    simp only [drawBelow]
    split
    · have scaled : generator.next.1.toNat * (largest.toNat + 1) / UInt64.size <
          largest.toNat + 1 := by
        refine Nat.div_lt_of_lt_mul ?_
        exact Nat.mul_lt_mul_of_pos_right generator.next.1.toNat_lt (Nat.succ_pos _)
      have inRange := largest.toNat_lt_size
      rw [UInt64.toNat_ofNat_of_lt' (by omega)]
      exact Nat.le_of_lt_succ scaled
    · exact inductionHypothesis _

/-- What is drawn up to a bound stays within it. -/
theorem drawUpTo_le (largest : UInt64) (generator : Generator) :
    (generator.drawUpTo largest).1.toNat ≤ largest.toNat := by
  unfold drawUpTo
  split
  · next everything =>
    have bounded := generator.next.1.toNat_lt_size
    omega
  · exact drawBelow_le largest _ generator

end Random.Generator

/-- No delay exceeds the largest. -/
theorem Jitter.sample_le (jitter : Jitter) (generator : Random.Generator) :
    (jitter.sample generator).1.toNat ≤ jitter.maxMicros.toNat := by
  unfold sample
  split
  · exact Nat.zero_le _
  · exact Random.Generator.drawUpTo_le _ generator

/-- An instant counts its microseconds in 64 bits. -/
theorem Timestamp.toNat_lt (instant : Timestamp) : instant.toNat < 2 ^ 64 :=
  instant.micros.toNat_lt

/-- An instant past the end of time is the end of time. -/
theorem Timestamp.toNat_after (instant : Timestamp) (micros : UInt64) :
    (instant.after micros).toNat = min (instant.toNat + micros.toNat) (2 ^ 64 - 1) := by
  have limit : UInt64.size = 2 ^ 64 := rfl
  rw [after, toNat, limit, UInt64.toNat_ofNat', Nat.mod_eq_of_lt]
  omega

/-- Time that passes does not lead back. -/
theorem Timestamp.le_after (instant : Timestamp) (micros : UInt64) :
    instant ≤ instant.after micros := by
  have bounded := instant.toNat_lt
  show instant.toNat ≤ (instant.after micros).toNat
  rw [toNat_after]
  omega

/-- Less time after an earlier instant is no later. -/
theorem Timestamp.after_le_after {first second : Timestamp} {fewer more : UInt64}
    (earlier : first ≤ second) (less : fewer.toNat ≤ more.toNat) :
    first.after fewer ≤ second.after more := by
  have order : first.toNat ≤ second.toNat := earlier
  show (first.after fewer).toNat ≤ (second.after more).toNat
  rw [toNat_after, toNat_after]
  omega

/-- The later of two instants is within a limit if both are. -/
theorem Timestamp.latest_le {first second limit : Timestamp} (one : first ≤ limit)
    (other : second ≤ limit) : first.latest second ≤ limit := by
  unfold latest
  split
  · exact other
  · exact one

namespace Bus

/-- Whether nothing on a link is due later than the largest delay from now. -/
def WithinDelay (bus : Bus) : Prop :=
  ∀ sender receiver,
    (bus.lastDue sender receiver).toNat ≤ bus.clock.time.toNat + bus.jitter.maxMicros.toNat

/-- No delay is larger than the settings of the bus allow. -/
theorem nextDelay_le (bus : Bus) (sender : Rank) :
    (bus.nextDelay sender).toNat ≤ bus.jitter.maxMicros.toNat := by
  unfold nextDelay
  cases bus.endpoint? sender with
  | none => exact Nat.zero_le _
  | some endpoint => exact bus.jitter.sample_le endpoint.generator

/-- What is sent now is not due before now. -/
theorem le_deliverAt (bus : Bus) (sender receiver : Rank) (message : Message) :
    bus.clock.time ≤ (bus.packet sender receiver message).deliverAt :=
  Nat.le_trans (bus.clock.time.le_after _) (le_latest_left _ _)

/-- What is sent now is due within the largest delay. -/
theorem WithinDelay.deliverAt_le {bus : Bus} (withinDelay : bus.WithinDelay)
    (sender receiver : Rank) (message : Message) :
    (bus.packet sender receiver message).deliverAt.toNat ≤
      bus.clock.time.toNat + bus.jitter.maxMicros.toNat := by
  have delay := bus.nextDelay_le sender
  have ahead := withinDelay sender receiver
  simp only [packet, Timestamp.latest]
  split
  · exact ahead
  · rw [Timestamp.toNat_after]
    omega

/-- Sending leaves the settings of the delays as they are. -/
@[simp] theorem jitter_send (bus : Bus) (sender receiver : Rank) (message : Message) :
    (bus.send sender receiver message).jitter = bus.jitter := by
  unfold send
  split
  · rfl
  · split <;> rfl

/-- Polling leaves the settings of the delays as they are. -/
@[simp] theorem jitter_poll (bus : Bus) (rank : Rank) :
    (bus.poll rank).2.jitter = bus.jitter := by
  by_cases nothing : bus.arriving rank = []
  · rw [poll_eq_of_nil nothing]
  · obtain ⟨endpoint, found⟩ := arriving_ne_nil nothing
    rw [poll_eq found nothing]
    rfl

/-- On a new bus nothing has been due on any link. -/
@[simp] theorem lastDue_connect (worldSize : Nat) (clock : Clock) (seed : Seed) (jitter : Jitter)
    (sender receiver : Rank) :
    (Bus.connect worldSize clock seed jitter).lastDue sender receiver = .zero := by
  unfold lastDue
  cases found : (Bus.connect worldSize clock seed jitter).endpoint? sender with
  | none => rfl
  | some endpoint =>
    rw [Option.bind_some, (endpoint?_connect found).2.2.2, List.getElem?_replicate]
    split <;> rfl

/-- On a new bus nothing is late. -/
theorem WithinDelay.connect (worldSize : Nat) (clock : Clock) (seed : Seed) (jitter : Jitter) :
    (Bus.connect worldSize clock seed jitter).WithinDelay := by
  intro sender receiver
  rw [lastDue_connect]
  exact Nat.zero_le _

/-- Where the clock stands still, sending takes no time. -/
theorem clock_send_still {bus : Bus} (still : bus.clock.stride = 0) (sender receiver : Rank)
    (message : Message) : (bus.send sender receiver message).clock = bus.clock := by
  by_cases known : bus.knows sender receiver = true
  · rw [clock_send_of_known known, Clock.read_still still]
  · rw [send_eq_self known]

/-- What is sent is due within the largest delay, also behind what is on the link already. -/
theorem WithinDelay.send {bus : Bus} (withinDelay : bus.WithinDelay) (still : bus.clock.stride = 0)
    (sender receiver : Rank) (message : Message) :
    (bus.send sender receiver message).WithinDelay := by
  intro origin other
  rw [clock_send_still still, jitter_send]
  by_cases known : bus.knows sender receiver = true
  · rw [lastDue_send_of_known known]
    split
    · exact withinDelay.deliverAt_le sender receiver message
    · exact withinDelay origin other
  · rw [send_eq_self known]
    exact withinDelay origin other

/-- What is due within the largest delay from now is so later on. -/
theorem WithinDelay.later {bus : Bus} (withinDelay : bus.WithinDelay) {clock : Clock}
    (forward : bus.clock.time ≤ clock.time) : WithinDelay { bus with clock } :=
  fun sender receiver =>
    Nat.le_trans (withinDelay sender receiver) (Nat.add_le_add_right forward _)

end Bus

end Concord
