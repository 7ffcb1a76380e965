import FeatureFlags.Table
import Mathlib.Data.List.Nodup
import Mathlib.Data.List.Perm.Basic

/-!
Tables as finite maps. A look-up finds exactly the entries of the list, so each
operation on tables is known by what a look-up finds afterwards.
-/

namespace FeatureFlags

universe u v w

variable {α : Type u} {β : Type v} {κ : Type w}

theorem Ascending.nodup_keys {entries : List (String × α)} (h : Ascending entries) :
    (entries.map (·.1)).Nodup := by
  refine List.pairwise_map.mpr (h.imp fun hlt heq => ?_)
  rw [heq] at hlt
  exact String.lt_irrefl _ hlt

/-- In a list that has no key twice, a look-up finds each entry. -/
theorem lookup_eq_some_iff_mem [BEq κ] [LawfulBEq κ] {entries : List (κ × α)}
    (hnodup : (entries.map (·.1)).Nodup) {key : κ} {value : α} :
    entries.lookup key = some value ↔ (key, value) ∈ entries := by
  constructor
  · intro hfound
    obtain ⟨before, after, hsplit, _⟩ := List.lookup_eq_some_iff.mp hfound
    simp [hsplit]
  · intro hmem
    obtain ⟨before, after, hsplit⟩ := List.append_of_mem hmem
    refine List.lookup_eq_some_iff.mpr ⟨before, after, hsplit, fun entry hbefore => ?_⟩
    rw [hsplit, List.map_append, List.nodup_append] at hnodup
    have hne := hnodup.2.2 entry.1 (List.mem_map_of_mem hbefore) key (by simp)
    simpa using hne.symm

/-- In a list that has no key twice, a look-up does not depend on the order. -/
theorem lookup_eq_of_perm [BEq κ] [LawfulBEq κ] {left right : List (κ × α)}
    (hperm : left.Perm right) (hnodup : (right.map (·.1)).Nodup) (key : κ) :
    left.lookup key = right.lookup key := by
  have hleft : (left.map (·.1)).Nodup := (hperm.map _).nodup_iff.mpr hnodup
  refine Option.ext fun value => ?_
  rw [lookup_eq_some_iff_mem hleft, lookup_eq_some_iff_mem hnodup, hperm.mem_iff]

/-- A look-up from the end finds the same, unless a key is there twice. -/
theorem lookup_reverse_eq_some_iff_mem {entries : List (String × α)}
    (hnodup : (entries.map (·.1)).Nodup) {key : String} {value : α} :
    entries.reverse.lookup key = some value ↔ (key, value) ∈ entries := by
  have hreverse : (entries.reverse.map (·.1)).Nodup := by
    rw [List.map_reverse]
    exact List.nodup_reverse.mpr hnodup
  rw [lookup_eq_some_iff_mem hreverse, List.mem_reverse]

theorem lookup_map_snd [BEq κ] (g : α → β) (entries : List (κ × α)) (key : κ) :
    (entries.map fun entry => (entry.1, g entry.2)).lookup key = (entries.lookup key).map g := by
  induction entries with
  | nil => rfl
  | cons entry rest ih =>
      rw [List.map_cons, List.lookup_cons, List.lookup_cons, ih]
      split <;> rfl

namespace Table

theorem keys_nodup (table : Table α) : table.keys.Nodup :=
  table.ascending.nodup_keys

theorem get?_eq_some_iff {table : Table α} {key : String} {value : α} :
    table.get? key = some value ↔ (key, value) ∈ table.entries :=
  lookup_eq_some_iff_mem table.ascending.nodup_keys

theorem mem_keys_iff {table : Table α} {key : String} :
    key ∈ table.keys ↔ (table.get? key).isSome = true := by
  simp only [keys, List.mem_map, Option.isSome_iff_exists, get?_eq_some_iff]
  constructor
  · rintro ⟨⟨_, value⟩, hmem, rfl⟩
    exact ⟨value, hmem⟩
  · rintro ⟨value, hmem⟩
    exact ⟨(key, value), hmem, rfl⟩

theorem get?_map (f : String → α → β) (table : Table α) (key : String) :
    (table.map f).get? key = (table.get? key).map (f key) := by
  refine Option.ext fun value => ?_
  rw [get?_eq_some_iff, Option.map_eq_some_iff]
  simp only [map, List.mem_map, get?_eq_some_iff]
  constructor
  · rintro ⟨⟨_, found⟩, hmem, heq⟩
    cases heq
    exact ⟨found, hmem, rfl⟩
  · rintro ⟨found, hmem, rfl⟩
    exact ⟨(key, found), hmem, rfl⟩

theorem get?_filterMap (f : String → α → Option β) (table : Table α) (key : String) :
    (table.filterMap f).get? key = (table.get? key).bind (f key) := by
  refine Option.ext fun value => ?_
  rw [get?_eq_some_iff, Option.bind_eq_some_iff]
  simp only [filterMap, List.mem_filterMap, get?_eq_some_iff, Option.map_eq_some_iff]
  constructor
  · rintro ⟨⟨_, found⟩, hmem, _, hvalue, heq⟩
    cases heq
    exact ⟨found, hmem, hvalue⟩
  · rintro ⟨found, hmem, hvalue⟩
    exact ⟨(key, found), hmem, value, hvalue, rfl⟩

/-- A new key changes nothing that the table had. -/
theorem get?_insert_of_none {table : Table α} {key other : String} {found : α}
    (hnew : table.get? key = none) (hother : table.get? other = some found) (value : α) :
    (table.insert key value).get? other = some found := by
  have hne : other ≠ key := by
    intro heq
    rw [heq, hnew] at hother
    cases hother
  rw [get?_insert, if_neg hne]
  exact hother

/-- The last value given for a key wins over what the table had. -/
theorem get?_insertMany (table : Table α) (entries : List (String × α)) (key : String) :
    (table.insertMany entries).get? key = (entries.reverse.lookup key).or (table.get? key) := by
  induction entries generalizing table with
  | nil => rfl
  | cons entry rest ih =>
      obtain ⟨own, value⟩ := entry
      have hrest := ih (table.insert own value)
      rw [insertMany] at hrest ⊢
      rw [List.foldl_cons, hrest, get?_insert, List.reverse_cons, List.lookup_append]
      by_cases heq : key = own
      · simp [heq]
      · simp [List.lookup_cons, heq, beq_eq_false_iff_ne.mpr heq]

theorem get?_ofList (entries : List (String × α)) (key : String) :
    (ofList entries).get? key = entries.reverse.lookup key := by
  rw [ofList, get?_insertMany, get?_empty, Option.or_none]

/-- Without a key given twice, the order of a bulk load does not matter. -/
theorem get?_ofList_eq_some_iff {entries : List (String × α)}
    (hnodup : (entries.map (·.1)).Nodup) {key : String} {value : α} :
    (ofList entries).get? key = some value ↔ (key, value) ∈ entries := by
  rw [get?_ofList, lookup_reverse_eq_some_iff_mem hnodup]

/-- The entries of a table are what it was filled with, if no key was given
twice. -/
theorem perm_entries_ofList {entries : List (String × α)} (hnodup : (entries.map (·.1)).Nodup) :
    (ofList entries).entries.Perm entries := by
  have hkeys := (ofList entries).keys_nodup
  refine (List.perm_ext_iff_of_nodup hkeys.of_map hnodup.of_map).mpr fun entry => ?_
  rw [← get?_eq_some_iff, get?_ofList_eq_some_iff hnodup]

/-- Tables with the same look-ups are the same table. -/
theorem ext_get? {left right : Table α} (h : ∀ key, left.get? key = right.get? key) :
    left = right := by
  have hmem (entry : String × α) : entry ∈ left.entries ↔ entry ∈ right.entries := by
    rw [← get?_eq_some_iff, h, get?_eq_some_iff]
  have hperm : left.entries.Perm right.entries :=
    (List.perm_ext_iff_of_nodup left.keys_nodup.of_map right.keys_nodup.of_map).mpr hmem
  refine Table.ext (hperm.eq_of_pairwise (fun x y _ _ hlt hgt => ?_) left.ascending right.ascending)
  exact absurd hgt (String.lt_asymm hlt)

theorem ofList_entries (table : Table α) : ofList table.entries = table := by
  refine ext_get? fun key => Option.ext fun value => ?_
  rw [get?_ofList_eq_some_iff table.keys_nodup, get?_eq_some_iff]

/-- The values may as well be changed before a bulk load. -/
theorem map_ofList (g : α → β) (entries : List (String × α)) :
    (ofList entries).map (fun _ => g) = ofList (entries.map fun entry => (entry.1, g entry.2)) := by
  refine ext_get? fun key => ?_
  rw [get?_map, get?_ofList, get?_ofList, ← List.map_reverse, lookup_map_snd]

theorem mem_of_mem_ofList {entries : List (String × α)} {entry : String × α}
    (hmem : entry ∈ (ofList entries).entries) : entry ∈ entries := by
  obtain ⟨key, value⟩ := entry
  rw [← get?_eq_some_iff, get?_ofList, List.lookup_eq_some_iff] at hmem
  obtain ⟨before, after, hsplit, _⟩ := hmem
  rw [← List.mem_reverse, hsplit]
  simp

/-- The entries of one table laid over another table. -/
theorem get?_insertMany_entries (table upper : Table α) (key : String) :
    (table.insertMany upper.entries).get? key = (upper.get? key).or (table.get? key) := by
  have hfound : upper.entries.reverse.lookup key = upper.get? key := by
    refine Option.ext fun value => ?_
    rw [lookup_reverse_eq_some_iff_mem upper.ascending.nodup_keys, get?_eq_some_iff]
  rw [get?_insertMany, hfound]

end Table

end FeatureFlags
