import FeatureFlags.Store.Operation

/-!
Stores that hand out references. Flags and maps of flags are kept in memory,
each at its place, and answers name places. An operation that changes the store
puts a new map into memory, beside the one that was in use, and takes it into
use; nothing that was put into memory is written over, because a place may have
been handed out.
-/

namespace FeatureFlags

/-- A store in memory. A place is a number in the order in which flags, or maps,
were put there. -/
structure SharedStore where
  flags : List Flag
  /-- Maps from keys to the places of flags. -/
  maps : List (Table Nat)
  /-- The place of the map in use. -/
  current : Nat

namespace SharedStore

/-- How all flags are handed out: as the place of a map, or as a map of one's
own that names the places of the flags. -/
inductive Listing where
  | shared (place : Nat)
  | copied (map : Table Nat)

/-- A store without flags. -/
def empty : SharedStore where
  flags := []
  maps := [Table.empty]
  current := 0

def inUse (store : SharedStore) : Table Nat :=
  store.maps[store.current]?.getD Table.empty

/-- The flags at the places that a map names. -/
def flagsAt (store : SharedStore) (map : Table Nat) : Table Flag :=
  map.filterMap fun _ place => store.flags[place]?

/-- The flags of a listing, as memory has them now. -/
def held (store : SharedStore) : Listing → Table Flag
  | .shared place => store.flagsAt (store.maps[place]?.getD Table.empty)
  | .copied map => store.flagsAt map

/-- Follows the references of an answer, as memory is now. -/
def follow (store : SharedStore) : Store.Answer Nat Listing → Store.Answer Flag (Table Flag) :=
  .map (fun found => found.bind fun place => store.flags[place]?) store.held

/-- Puts flags and a map into memory and takes the map into use. -/
def put (store : SharedStore) (added : List Flag) (map : Table Nat) : SharedStore where
  flags := store.flags ++ added
  maps := store.maps ++ [map]
  current := store.maps.length

/-- The places of a table's flags when they are put into memory one after the
other, the first at `start`. -/
def placed (start : Nat) (table : Table Flag) : Table Nat where
  entries := (table.entries.zipIdx start).map fun entry => (entry.1.1, entry.2)
  ascending := by
    have hkeys : Ascending ((table.entries.zipIdx start).map (·.1)) := by
      rw [List.zipIdx_map_fst]
      exact table.ascending
    unfold Ascending at hkeys ⊢
    rw [List.pairwise_map] at hkeys ⊢
    exact hkeys

/-- Takes the flags of a table into use. -/
def adopt (store : SharedStore) (table : Table Flag) : SharedStore :=
  store.put (table.entries.map (·.2)) (placed store.flags.length table)

/-- The answer of a store, and the store afterwards. What was handed out before a
new store was created is still in memory. -/
def perform (store : SharedStore) :
    Store.Operation → Store.Answer Nat Listing × SharedStore
  | .create source =>
      match source.read with
      | .ok set => (.done, store.adopt set.flags)
      | .error error => (.failed error, store)
  | .load source =>
      match source.read with
      | .ok set => (.flags (.shared store.current), store.adopt set.flags)
      | .error error => (.failed error, store)
  | .upsert flag =>
      (.done, store.put [flag] (store.inUse.insert flag.key store.flags.length))
  | .remove key => (.flag (store.inUse.get? key), store.put [] (store.inUse.erase key))
  | .get key => (.flag (store.inUse.get? key), store)
  | .getAll => (.flags (.copied store.inUse), store)

end SharedStore

end FeatureFlags
