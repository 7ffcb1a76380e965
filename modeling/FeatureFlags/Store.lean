import FeatureFlags.FlagSet

/-!
The flags that a client serves from, held in memory under keys. Every operation
gives a new store, so a flag or a listing taken from a store never changes.
-/

namespace FeatureFlags

structure Store where
  flags : Table Flag

namespace Store

def empty : Store := ⟨Table.empty⟩

def get? (store : Store) (key : String) : Option Flag :=
  store.flags.get? key

/-- The store of a flag set; flags that could not be read are left out. -/
def ofFlagSet (set : FlagSet) : Store :=
  ⟨set.flags⟩

def ofFlags (flags : List Flag) : Store :=
  ofFlagSet (FlagSet.ofFlags flags)

/-- Puts the flags of a set in place of all others. What was there before comes
first. -/
def replace (store : Store) (set : FlagSet) : Table Flag × Store :=
  (store.flags, ofFlagSet set)

/-- Adds a flag under its own key, or replaces the flag that is there. -/
def upsert (store : Store) (flag : Flag) : Store :=
  ⟨store.flags.insert flag.key flag⟩

/-- Removes the flag of a key. What was there comes first. -/
def remove (store : Store) (key : String) : Option Flag × Store :=
  (store.get? key, ⟨store.flags.erase key⟩)

end Store

end FeatureFlags
