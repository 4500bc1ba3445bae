import Concord.Bytes

/-!
# A hash of bytes

The 64-bit FNV-1a hash: each byte is mixed into the state by exclusive or, and the state is
then multiplied by a prime.
-/

namespace Concord.Random

/-- The state before any byte. -/
def fnvOffset : UInt64 :=
  0xcbf29ce484222325

/-- The multiplier. -/
def fnvPrime : UInt64 :=
  0x100000001b3

/-- The hash of a byte string. -/
def fnv1a (bytes : Bytes) : UInt64 :=
  bytes.foldl (fun state byte => (state ^^^ byte.toUInt64) * fnvPrime) fnvOffset

end Concord.Random
