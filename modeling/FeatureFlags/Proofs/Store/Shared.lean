import FeatureFlags.Proofs.Store.LastWriter
import FeatureFlags.Store.Shared

/-!
What is handed out by reference stays as it was. An operation only adds to the
memory of a store, so the places that an answer names have at any later time what
they had when the answer was given. Following the references of a run after the
run, or after any further operations, therefore gives what a store without
references answers, and so what the map answers in which the last writer wins.
-/

namespace FeatureFlags

namespace SharedStore

open Store (Operation Answer)

/-- Memory has a flag at every place that a map names. -/
def Names (store : SharedStore) (map : Table Nat) : Prop :=
  ∀ key place, map.get? key = some place → place < store.flags.length

/-- Memory has the map in use, and every map names flags that it has. -/
structure Sound (store : SharedStore) : Prop where
  inUse : store.current < store.maps.length
  names : ∀ map ∈ store.maps, store.Names map

/-- A memory has all that an earlier one had, at the same places. -/
structure Extends (later earlier : SharedStore) : Prop where
  flags : earlier.flags <+: later.flags
  maps : earlier.maps <+: later.maps

/-- Memory has all that an answer refers to. -/
def Backs (store : SharedStore) : Answer Nat Listing → Prop
  | .done | .failed _ => True
  | .flag found => ∀ place, found = some place → place < store.flags.length
  | .flags (.shared place) => place < store.maps.length
  | .flags (.copied map) => store.Names map

/-- The store without references that memory stands for. -/
def toStore (store : SharedStore) : Store :=
  ⟨store.flagsAt store.inUse⟩

variable {store earlier later : SharedStore} {map : Table Nat} {added : List Flag}

/-! ### Memory only grows -/

theorem Extends.refl (store : SharedStore) : store.Extends store where
  flags := List.prefix_rfl
  maps := List.prefix_rfl

theorem Extends.trans (hlater : later.Extends store) (hearlier : store.Extends earlier) :
    later.Extends earlier where
  flags := hearlier.flags.trans hlater.flags
  maps := hearlier.maps.trans hlater.maps

theorem extends_put (store : SharedStore) (added : List Flag) (map : Table Nat) :
    (store.put added map).Extends store where
  flags := List.prefix_append _ _
  maps := List.prefix_append _ _

theorem Names.mono (hnames : earlier.Names map)
    (hle : earlier.flags.length ≤ later.flags.length) : later.Names map :=
  fun key place hplace => Nat.lt_of_lt_of_le (hnames key place hplace) hle

theorem Sound.names_inUse (hsound : store.Sound) : store.Names store.inUse := by
  unfold SharedStore.inUse
  rw [List.getElem?_eq_getElem hsound.inUse]
  exact hsound.names _ (List.getElem_mem _)

theorem Extends.getElem?_flags (hextends : later.Extends earlier) {place : Nat}
    (hplace : place < earlier.flags.length) : later.flags[place]? = earlier.flags[place]? := by
  obtain ⟨more, hmore⟩ := hextends.flags
  rw [← hmore, List.getElem?_append_left hplace]

theorem Extends.getElem?_maps (hextends : later.Extends earlier) {place : Nat}
    (hplace : place < earlier.maps.length) : later.maps[place]? = earlier.maps[place]? := by
  obtain ⟨more, hmore⟩ := hextends.maps
  rw [← hmore, List.getElem?_append_left hplace]

theorem get?_flagsAt (store : SharedStore) (map : Table Nat) (key : String) :
    (store.flagsAt map).get? key = (map.get? key).bind fun place => store.flags[place]? :=
  Table.get?_filterMap _ map key

theorem Extends.flagsAt_eq (hextends : later.Extends earlier) (hnames : earlier.Names map) :
    later.flagsAt map = earlier.flagsAt map := by
  refine Table.ext_get? fun key => ?_
  rw [get?_flagsAt, get?_flagsAt]
  cases hplace : map.get? key with
  | none => rfl
  | some place => exact hextends.getElem?_flags (hnames key place hplace)

/-- References lead to the same, however memory has grown. -/
theorem Extends.follow_eq (hextends : later.Extends earlier) (hsound : earlier.Sound)
    {answer : Answer Nat Listing} (hbacks : earlier.Backs answer) :
    later.follow answer = earlier.follow answer := by
  cases answer with
  | done => rfl
  | failed error => rfl
  | flag found =>
      cases found with
      | none => rfl
      | some place => exact congrArg Answer.flag (hextends.getElem?_flags (hbacks place rfl))
  | flags listing =>
      refine congrArg Answer.flags ?_
      cases listing with
      | copied map => exact hextends.flagsAt_eq hbacks
      | shared place =>
          have hplace : place < earlier.maps.length := hbacks
          have hmap := List.getElem?_eq_getElem hplace
          simp only [held, hextends.getElem?_maps hplace, hmap, Option.getD_some]
          exact hextends.flagsAt_eq (hsound.names _ (List.getElem_mem _))

/-! ### What is put into memory -/

theorem Sound.put (hsound : store.Sound)
    (hnames : ∀ key place, map.get? key = some place → place < (store.flags ++ added).length) :
    (store.put added map).Sound where
  inUse := by
    change store.maps.length < (store.maps ++ [map]).length
    rw [List.length_append]
    exact Nat.lt_succ_self _
  names other hmem := by
    rcases List.mem_append.mp hmem with hold | hnew
    · apply (hsound.names other hold).mono
      exact (extends_put store added map).flags.length_le
    · rw [List.mem_singleton.mp hnew]
      exact hnames

theorem toStore_put (store : SharedStore) (added : List Flag) (map : Table Nat) :
    (store.put added map).toStore = ⟨(store.put added map).flagsAt map⟩ := by
  unfold toStore inUse put
  rw [List.getElem?_concat_length]
  rfl

/-- The flags of a list, put after other flags, are found at their places. -/
theorem filterMap_zipIdx (before : List Flag) (entries : List (String × Flag)) :
    ((entries.zipIdx before.length).map fun entry => (entry.1.1, entry.2)).filterMap
      (fun entry => ((before ++ entries.map (·.2))[entry.2]?).map fun flag => (entry.1, flag)) =
        entries := by
  induction entries generalizing before with
  | nil => rfl
  | cons entry rest ih =>
      have hrest := ih (before ++ [entry.2])
      rw [List.length_append, List.length_singleton, List.append_assoc] at hrest
      have hhead : (before ++ (entry :: rest).map (·.2))[before.length]? = some entry.2 := by
        rw [List.getElem?_append_right (Nat.le_refl _), Nat.sub_self]
        rfl
      rw [List.zipIdx_cons, List.map_cons (l := rest.zipIdx _), List.filterMap_cons, hhead]
      exact congrArg (entry :: ·) hrest

theorem flagsAt_adopt (store : SharedStore) (table : Table Flag) :
    (store.adopt table).flagsAt (placed store.flags.length table) = table :=
  Table.ext (filterMap_zipIdx store.flags table.entries)

theorem toStore_adopt (store : SharedStore) (table : Table Flag) :
    (store.adopt table).toStore = ⟨table⟩ := by
  unfold adopt
  rw [toStore_put]
  exact congrArg Store.mk (flagsAt_adopt store table)

theorem Sound.adopt (hsound : store.Sound) (table : Table Flag) : (store.adopt table).Sound := by
  apply hsound.put
  intro key place hplace
  obtain ⟨entry, hentry, heq⟩ := List.mem_map.mp (Table.get?_eq_some_iff.mp hplace)
  cases heq
  have hlt := (List.mem_zipIdx hentry).2.1
  rw [List.length_append, List.length_map]
  exact hlt

theorem Sound.upsert (hsound : store.Sound) (flag : Flag) :
    (store.put [flag] (store.inUse.insert flag.key store.flags.length)).Sound := by
  apply hsound.put
  intro key place hplace
  rw [List.length_append, List.length_singleton]
  rw [Table.get?_insert] at hplace
  split at hplace
  · cases hplace
    exact Nat.lt_succ_self _
  · exact Nat.lt_succ_of_lt (hsound.names_inUse key place hplace)

theorem toStore_upsert (hsound : store.Sound) (flag : Flag) :
    (store.put [flag] (store.inUse.insert flag.key store.flags.length)).toStore =
      store.toStore.upsert flag := by
  rw [toStore_put]
  refine congrArg Store.mk (Table.ext_get? fun key => ?_)
  rw [get?_flagsAt, Table.get?_insert, Table.get?_insert]
  by_cases heq : key = flag.key
  · rw [if_pos heq, if_pos heq]
    exact List.getElem?_concat_length
  · rw [if_neg heq, if_neg heq, ← get?_flagsAt]
    have hsame := (extends_put store [flag]
      (store.inUse.insert flag.key store.flags.length)).flagsAt_eq hsound.names_inUse
    rw [hsame]
    rfl

theorem Sound.remove (hsound : store.Sound) (key : String) :
    (store.put [] (store.inUse.erase key)).Sound := by
  apply hsound.put
  intro other place hplace
  rw [List.append_nil]
  rw [Table.get?_erase] at hplace
  split at hplace
  · cases hplace
  · exact hsound.names_inUse other place hplace

theorem toStore_remove (store : SharedStore) (key : String) :
    (store.put [] (store.inUse.erase key)).toStore = (store.toStore.remove key).2 := by
  rw [toStore_put]
  refine congrArg Store.mk (Table.ext_get? fun other => ?_)
  have hflags : (store.put [] (store.inUse.erase key)).flags = store.flags := List.append_nil _
  rw [get?_flagsAt, Table.get?_erase, Table.get?_erase, hflags]
  split
  · rfl
  · exact (get?_flagsAt store store.inUse other).symm

/-! ### Steps and runs -/

theorem sound_empty : empty.Sound where
  inUse := Nat.one_pos
  names map hmem := by
    rw [List.mem_singleton.mp hmem]
    intro key place hplace
    cases hplace

/-- A step in memory agrees with one of a store without references: the memory
has grown and is sound, the answer refers to what was there before, and both
answer and memory stand for what they are without references. -/
structure Agrees (store : SharedStore) (step : Answer Nat Listing × SharedStore)
    (plain : Answer Flag (Table Flag) × Store) : Prop where
  sound : step.2.Sound
  grown : step.2.Extends store
  backs : store.Backs step.1
  answer : store.follow step.1 = plain.1
  state : step.2.toStore = plain.2

theorem Sound.agrees_failed (hsound : store.Sound) (error : FlagError) :
    store.Agrees (.failed error, store) (.failed error, store.toStore) where
  sound := hsound
  grown := .refl store
  backs := trivial
  answer := rfl
  state := rfl

/-- A flag in use is in memory, and looked up there it is the flag of the store. -/
theorem Sound.backs_get? (hsound : store.Sound) (key : String) :
    store.Backs (.flag (store.inUse.get? key)) :=
  fun place hplace => hsound.names_inUse key place hplace

theorem follow_get? (store : SharedStore) (key : String) :
    store.follow (.flag (store.inUse.get? key)) = .flag (store.toStore.get? key) :=
  congrArg Answer.flag (get?_flagsAt store store.inUse key).symm

theorem Sound.agrees_perform (hsound : store.Sound) (operation : Operation) :
    store.Agrees (store.perform operation) (store.toStore.perform operation) := by
  cases operation with
  | create source =>
      rw [perform, Store.perform]
      cases source.read with
      | error error => exact hsound.agrees_failed error
      | ok set => exact
          { sound := hsound.adopt set.flags
            grown := extends_put store _ _
            backs := trivial
            answer := rfl
            state := toStore_adopt store set.flags }
  | load source =>
      rw [perform, Store.perform]
      cases source.read with
      | error error => exact hsound.agrees_failed error
      | ok set => exact
          { sound := hsound.adopt set.flags
            grown := extends_put store _ _
            backs := hsound.inUse
            answer := rfl
            state := toStore_adopt store set.flags }
  | upsert flag => exact
      { sound := hsound.upsert flag
        grown := extends_put store _ _
        backs := trivial
        answer := rfl
        state := toStore_upsert hsound flag }
  | remove key => exact
      { sound := hsound.remove key
        grown := extends_put store _ _
        backs := hsound.backs_get? key
        answer := follow_get? store key
        state := toStore_remove store key }
  | get key => exact
      { sound := hsound
        grown := .refl store
        backs := hsound.backs_get? key
        answer := follow_get? store key
        state := rfl }
  | getAll => exact
      { sound := hsound
        grown := .refl store
        backs := hsound.names_inUse
        answer := rfl
        state := rfl }

/-- A run agrees with that of a store without references, also if its answers are
looked at later. -/
structure RunAgrees (store : SharedStore) (run : List (Answer Nat Listing) × SharedStore)
    (plain : List (Answer Flag (Table Flag)) × Store) : Prop where
  sound : run.2.Sound
  grown : run.2.Extends store
  answers : ∀ later : SharedStore, later.Extends run.2 → run.1.map later.follow = plain.1
  state : run.2.toStore = plain.2

theorem Sound.agrees_run (hsound : store.Sound) (operations : List Operation) :
    store.RunAgrees (Operation.run perform store operations)
      (Operation.run Store.perform store.toStore operations) := by
  induction operations generalizing store with
  | nil => exact
      { sound := hsound
        grown := .refl store
        answers := fun _ _ => rfl
        state := rfl }
  | cons operation rest ih =>
      have hstep := hsound.agrees_perform operation
      have hrest := ih hstep.sound
      rw [hstep.state] at hrest
      refine
        { sound := hrest.sound
          grown := hrest.grown.trans hstep.grown
          answers := fun later hlater => ?_
          state := hrest.state }
      -- the first answer refers to what the store had before all operations
      have hgrown := (hlater.trans hrest.grown).trans hstep.grown
      have hfirst := (hgrown.follow_eq hsound hstep.backs).trans hstep.answer
      exact congrArg₂ List.cons hfirst (hrest.answers later hlater)

/-- A store is a map in which the last writer wins, also for those who hold
references into it. Its answers, and what it has under every key at the end, are
those of the map; following the references of the answers after any further
operations gives the answers of the store without references; and flags that are
put in together are the same as flags put in one by one. -/
theorem refines_last_writer (operations later : List Operation) (flags : List Flag) :
    Operation.run FlagMap.perform (fun _ => none) operations =
        ((Operation.run Store.perform .empty operations).1.map (Answer.map id Table.get?),
          (Operation.run Store.perform .empty operations).2.get?) ∧
      (Operation.run perform empty operations).1.map
          (Operation.run perform empty (operations ++ later)).2.follow =
        (Operation.run Store.perform .empty operations).1 ∧
      (Operation.run perform empty operations).2.toStore =
        (Operation.run Store.perform .empty operations).2 ∧
      Store.ofFlags flags = flags.foldl Store.upsert .empty := by
  have hrun := sound_empty.agrees_run operations
  have hlater := (hrun.sound.agrees_run later).grown
  rw [← Operation.run_append] at hlater
  exact ⟨Store.run_seen .empty operations, hrun.answers _ hlater, hrun.state,
    Store.ofFlags_eq_foldl flags⟩

end SharedStore

end FeatureFlags
