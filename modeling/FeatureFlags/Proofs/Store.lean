import FeatureFlags.Proofs.Table
import FeatureFlags.Store.Operation

/-!
Stores as maps from keys to flags. A store that is filled flag by flag holds
each flag under its own key; a store read from a document need not. No other
operation puts a flag under a key that is not its own.
-/

namespace FeatureFlags

namespace Store

/-- Every flag is held under its own key. -/
def WellKeyed (store : Store) : Prop :=
  ∀ key flag, store.get? key = some flag → flag.key = key

theorem get?_upsert (store : Store) (flag : Flag) (key : String) :
    (store.upsert flag).get? key = if key = flag.key then some flag else store.get? key :=
  Table.get?_insert store.flags flag.key flag key

theorem get?_remove (store : Store) (removed key : String) :
    (store.remove removed).2.get? key = if key = removed then none else store.get? key :=
  Table.get?_erase store.flags removed key

/-- The last flag given for a key is the one that is held. -/
theorem get?_ofFlags (flags : List Flag) (key : String) :
    (ofFlags flags).get? key = (flags.reverse.map fun flag => (flag.key, flag)).lookup key := by
  have hentry (flags : List Flag) :
      ((flags.map fun flag => (flag.key, FlagSet.Entry.readable flag)).lookup key).bind
        FlagSet.Entry.flag? = (flags.map fun flag => (flag.key, flag)).lookup key := by
    induction flags with
    | nil => rfl
    | cons flag rest ih =>
        cases heq : key == flag.key <;> simp [List.lookup_cons, heq, ih, FlagSet.Entry.flag?]
  change ((FlagSet.ofFlags flags).entries.filterMap fun _ entry => entry.flag?).get? key = _
  rw [Table.get?_filterMap, FlagSet.ofFlags, Table.get?_ofList, ← List.map_reverse]
  exact hentry flags.reverse

theorem mem_of_get?_ofFlags {flags : List Flag} {key : String} {flag : Flag}
    (hheld : (ofFlags flags).get? key = some flag) : flag ∈ flags ∧ flag.key = key := by
  rw [get?_ofFlags] at hheld
  obtain ⟨before, after, hsplit, _⟩ := List.lookup_eq_some_iff.mp hheld
  have hmem : (key, flag) ∈ flags.reverse.map fun flag => (flag.key, flag) := by
    rw [hsplit]
    simp
  obtain ⟨found, hfound, heq⟩ := List.mem_map.mp hmem
  cases heq
  exact ⟨List.mem_reverse.mp hfound, rfl⟩

theorem wellKeyed_ofFlags (flags : List Flag) : (ofFlags flags).WellKeyed :=
  fun _ _ hheld => (mem_of_get?_ofFlags hheld).2

theorem WellKeyed.upsert {store : Store} (hkeyed : store.WellKeyed) (flag : Flag) :
    (store.upsert flag).WellKeyed := by
  intro key found hheld
  rw [get?_upsert] at hheld
  by_cases heq : key = flag.key
  · rw [if_pos heq] at hheld
    cases hheld
    exact heq.symm
  · rw [if_neg heq] at hheld
    exact hkeyed key found hheld

theorem WellKeyed.remove {store : Store} (hkeyed : store.WellKeyed) (removed : String) :
    (store.remove removed).2.WellKeyed := by
  intro key found hheld
  rw [get?_remove] at hheld
  by_cases heq : key = removed
  · rw [if_pos heq] at hheld
    cases hheld
  · rw [if_neg heq] at hheld
    exact hkeyed key found hheld

/-- A document that the operation fills a store from has no flag under a key that
is not its own. -/
def Operation.WellKeyed : Operation → Prop
  | .create (.document text) | .load (.document text) =>
      ∀ set, FlagSet.decoder.run text = some set → (ofFlagSet set).WellKeyed
  | _ => True

theorem WellKeyed.perform {store : Store} (hkeyed : store.WellKeyed) {operation : Operation}
    (hoperation : operation.WellKeyed) : (store.perform operation).2.WellKeyed := by
  cases operation with
  | create source | load source =>
      cases source with
      | listing flags => exact wellKeyed_ofFlags flags
      | document text =>
          cases hread : FlagSet.decoder.run text with
          | some set =>
              simp only [Store.perform, FlagSource.read, hread]
              exact hoperation set hread
          | none =>
              simp only [Store.perform, FlagSource.read, hread]
              exact hkeyed
  | upsert flag => exact hkeyed.upsert flag
  | remove key => exact hkeyed.remove key
  | get key | getAll => exact hkeyed

/-- Every flag of a store stays under its own key, whatever is done to the store,
unless a document has a flag under another key. -/
theorem WellKeyed.run {store : Store} (hkeyed : store.WellKeyed) {operations : List Operation}
    (hall : ∀ operation ∈ operations, operation.WellKeyed) :
    (Operation.run Store.perform store operations).2.WellKeyed := by
  induction operations generalizing store with
  | nil => exact hkeyed
  | cons operation rest ih =>
      obtain ⟨hoperation, hrest⟩ := List.forall_mem_cons.mp hall
      exact ih (hkeyed.perform hoperation) hrest

end Store

end FeatureFlags
