import FeatureFlags.Context
import FeatureFlags.Hash.Fnv
import FeatureFlags.Hash.Md5

/-!
Buckets. A context falls into one of 100000 buckets of a flag by a hash of the
flag's key and one of the context's attributes, so the assignment is stable and
independent between flags.
-/

namespace FeatureFlags

/-- A 32-bit hash of a text's bytes. -/
structure Bucketer where
  hash : List UInt8 → UInt32

namespace Bucketer

/-- The hash used where none is chosen. -/
def fnv1a : Bucketer := ⟨Hash.fnv1a⟩

def md5 : Bucketer := ⟨Hash.Md5.leadingWord⟩

/-- Gives every text the same hash. -/
def constant (value : UInt32) : Bucketer := ⟨fun _ => value⟩

end Bucketer

/-- The UTF-8 bytes of a text. -/
def textBytes (text : String) : List UInt8 :=
  text.toUTF8.data.toList

/-- How many buckets there are. Weights are counted in buckets. -/
def bucketCount : UInt32 := 100000

/-- The bucket of a context for a flag. The attribute is the key unless another
one is named; an attribute that is absent or has no text gives bucket 0. -/
def bucket (bucketer : Bucketer) (context : Context) (attributeName flagKey : String) : UInt32 :=
  match context.resolve (if attributeName.isEmpty then "key" else attributeName) with
  | none => 0
  | some value =>
      let text := value.toText
      if text.isEmpty then 0
      else bucketer.hash (textBytes (flagKey ++ ":" ++ text)) % bucketCount

end FeatureFlags
