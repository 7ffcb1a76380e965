/-!
The 32-bit FNV-1a hash: each byte is mixed into the state by exclusive or, and
the state is then multiplied by a prime.
-/

namespace FeatureFlags.Hash

def fnvOffset : UInt32 := 0x811c9dc5

def fnvPrime : UInt32 := 0x01000193

/-- The state after one more byte. -/
def fnvStep (state : UInt32) (byte : UInt8) : UInt32 :=
  (state ^^^ byte.toUInt32) * fnvPrime

def fnv1a (bytes : List UInt8) : UInt32 :=
  bytes.foldl fnvStep fnvOffset

end FeatureFlags.Hash
