/-!
# Time

Instants are whole microseconds in 64 bits. Differences between instants are natural
numbers, so an instant from the future has age zero, and instants moved past either end
stay at that end. A `Clock` is a value: reading it returns the clock to read next.
-/

namespace Concord

/-- An instant, in microseconds. -/
structure Timestamp where
  micros : UInt64
deriving DecidableEq, Inhabited

namespace Timestamp

/-- The first instant. -/
def zero : Timestamp :=
  ⟨0⟩

/-- The instant as a natural number of microseconds. -/
def toNat (instant : Timestamp) : Nat :=
  instant.micros.toNat

/-- The microseconds from `earlier` to `later`, none if `later` is not later. -/
def since (later earlier : Timestamp) : Nat :=
  later.toNat - earlier.toNat

/-- The instant this many microseconds before, no earlier than the first one. -/
def before (instant : Timestamp) (micros : UInt64) : Timestamp :=
  ⟨UInt64.ofNat (instant.toNat - micros.toNat)⟩

/-- The instant this many microseconds after, no later than the last one. -/
def after (instant : Timestamp) (micros : UInt64) : Timestamp :=
  ⟨UInt64.ofNat (min (instant.toNat + micros.toNat) (UInt64.size - 1))⟩

instance : LE Timestamp where
  le left right := left.toNat ≤ right.toNat

instance : LT Timestamp where
  lt left right := left.toNat < right.toNat

instance (left right : Timestamp) : Decidable (left ≤ right) :=
  inferInstanceAs (Decidable (left.toNat ≤ right.toNat))

instance (left right : Timestamp) : Decidable (left < right) :=
  inferInstanceAs (Decidable (left.toNat < right.toNat))

/-- The later of two instants. -/
def latest (left right : Timestamp) : Timestamp :=
  if left ≤ right then right else left

/-- Seconds with six decimals. -/
def render (instant : Timestamp) : String :=
  let fraction := toString (instant.toNat % 1000000)
  toString (instant.toNat / 1000000) ++ "." ++
    String.ofList (List.replicate (6 - fraction.length) '0') ++ fraction ++ "s"

/-- Timestamps are the same if they count the same microseconds. -/
theorem toNat_inj {left right : Timestamp} : left.toNat = right.toNat ↔ left = right := by
  constructor
  · intro equal
    cases left
    cases right
    exact congrArg Timestamp.mk (UInt64.toNat_inj.1 equal)
  · intro equal
    rw [equal]

end Timestamp

/-- A clock that moves only when it is told to, and by `stride` whenever it is read. -/
structure Clock where
  time : Timestamp
  stride : UInt64
deriving DecidableEq, Inhabited

namespace Clock

/-- A clock that stands still at the given instant. -/
def startingAt (time : Timestamp) : Clock :=
  ⟨time, 0⟩

/-- Read the time, then move on by the stride, around the end if need be. -/
def read (clock : Clock) : Timestamp × Clock :=
  (clock.time, { clock with time := ⟨clock.time.micros + clock.stride⟩ })

/-- Move the clock forward, around the end if need be. -/
def advance (clock : Clock) (micros : UInt64) : Clock :=
  { clock with time := ⟨clock.time.micros + micros⟩ }

/-- Set the clock to an instant, which may lie in its past. -/
def setTo (clock : Clock) (time : Timestamp) : Clock :=
  { clock with time }

/-- Change how far the clock moves at every reading. -/
def withStride (clock : Clock) (stride : UInt64) : Clock :=
  { clock with stride }

end Clock

end Concord
