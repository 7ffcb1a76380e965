import FeatureFlags.Proofs.Flag.ValueReaders
import FeatureFlags.Store

/-!
What a set of flags is read from. The object of flags is read as a table, so
under each key the last value given counts. The value is a flag in the set if it
is one as a document of its own, and otherwise it is kept and not served.
-/

namespace FeatureFlags

open Json (Decoder Document Fields maxNesting)

namespace FlagSet

/-- How deep a value in the object of flags may nest. -/
def entryNesting : Nat := maxNesting - 2

/-- The members of the object of flags. -/
def listed? (document : Document) : Option (List (Option String × Document)) :=
  (Fields.ofDocument? members maxNesting document).bind fun fields =>
    match fields.find? "flags" with
    | some (.object listed) => some listed
    | _ => none

/-- The last value given for a key. -/
def lastValue? (listed : List (Option String × Document)) (key : String) : Option Document :=
  listed.reverse.lookup (some key)

theorem listed?_eq_some_iff {document : Document} {listed : List (Option String × Document)} :
    listed? document = some listed ↔ ∃ fields,
      Fields.ofDocument? members maxNesting document = some fields ∧
        fields.find? "flags" = some (.object listed) := by
  rw [listed?, Option.bind_eq_some_iff]
  refine exists_congr fun fields => and_congr_right fun _ => ?_
  split
  · next found hfound => simp [hfound]
  · next hno => exact iff_of_false nofun (hno listed)

/-- A set is its object of flags, read as a table. -/
theorem decoder_eq_some_iff {document : Document} {set : FlagSet} :
    decoder maxNesting document = some set ↔ ∃ listed, listed? document = some listed ∧
      Decoder.table Entry.decoder (entryNesting + 1) (.object listed) = some set.entries := by
  have hdecoder : decoder maxNesting document =
      (Fields.ofDocument? members maxNesting document).bind fun fields =>
        (fields.required "flags" (.table Entry.decoder)).bind fun entries => some ⟨entries⟩ := rfl
  simp only [hdecoder, Fields.required, Option.bind_eq_some_iff, listed?_eq_some_iff]
  constructor
  · rintro ⟨fields, hfields, entries, ⟨found, hfound, hread⟩, heq⟩
    cases heq
    rw [Fields.nesting_of_ofDocument? hfields] at hread
    cases found with
    | object listed => exact ⟨listed, ⟨fields, hfields, hfound⟩, hread⟩
    | _ => cases hread
  · rintro ⟨listed, ⟨fields, hfields, hfound⟩, hread⟩
    refine ⟨fields, hfields, set.entries, ⟨_, hfound, ?_⟩, rfl⟩
    rw [Fields.nesting_of_ofDocument? hfields]
    exact hread

/-- Every value is kept with a name, as a flag if it is one. -/
theorem Entry.decoder_eq_some_iff {nesting : Nat} {document : Document} {entry : Entry} :
    decoder nesting document = some entry ↔ ∃ value, document.toJson? nesting = some value ∧
      entry = ((Flag.decoder nesting document).map .readable).getD (.unreadable value) := by
  rw [decoder, Option.bind_eq_bind, Option.bind_eq_some_iff]
  refine exists_congr fun value => and_congr_right fun _ => ?_
  cases Flag.decoder nesting document <;> simp [eq_comm]

theorem Entry.decoder_cases {nesting : Nat} {document : Document} {entry : Entry}
    (hread : decoder nesting document = some entry) :
    (∃ flag, Flag.decoder nesting document = some flag ∧ entry = .readable flag) ∨
      ∃ value, document.toJson? nesting = some value ∧ Flag.decoder nesting document = none ∧
        entry = .unreadable value := by
  obtain ⟨value, hvalue, rfl⟩ := decoder_eq_some_iff.mp hread
  cases hflag : Flag.decoder nesting document with
  | some flag => exact .inl ⟨flag, rfl, rfl⟩
  | none => exact .inr ⟨value, hvalue, rfl, rfl⟩

theorem isSome_entry_iff {nesting : Nat} {member : Option String × Document} :
    (Entry.decoder.entry nesting member).isSome = true ↔
      member.1.isSome = true ∧ (member.2.toJson? nesting).isSome = true := by
  simp only [Option.isSome_iff_exists, Json.entry_eq_some_iff, Entry.decoder_eq_some_iff]
  constructor
  · rintro ⟨⟨name, _⟩, hname, value, hvalue, _⟩
    exact ⟨⟨name, hname⟩, value, hvalue⟩
  · rintro ⟨⟨name, hname⟩, value, hvalue⟩
    exact ⟨(name, _), hname, value, hvalue, rfl⟩

/-- A value is a flag in a set if it is one as a document of its own, which may
nest deeper. -/
theorem flag?_of_decoder {document : Document} {entry : Entry}
    (hread : Entry.decoder entryNesting document = some entry) :
    entry.flag? = Flag.decoder maxNesting document := by
  obtain ⟨value, hvalue, rfl⟩ := Entry.decoder_eq_some_iff.mp hread
  have hdeeper : Flag.decoder entryNesting document = Flag.decoder maxNesting document :=
    Flag.readsValue (.deeper (Nat.sub_le _ _) (Option.isSome_of_eq_some hvalue))
  rw [← hdeeper]
  cases Flag.decoder entryNesting document <;> rfl

theorem get?_store (set : FlagSet) (key : String) :
    (Store.ofFlagSet set).get? key = (set.entries.get? key).bind Entry.flag? :=
  Table.get?_filterMap _ set.entries key

section Read

variable {document : Document} {set : FlagSet} {listed : List (Option String × Document)}

theorem forall_entry (hread : decoder maxNesting document = some set)
    (hlisted : listed? document = some listed) :
    ∀ member ∈ listed, (Entry.decoder.entry entryNesting member).isSome = true := by
  obtain ⟨found, hfound, htable⟩ := decoder_eq_some_iff.mp hread
  obtain rfl : found = listed := Option.some.inj (hfound.symm.trans hlisted)
  exact Json.isSome_table_iff.mp (Option.isSome_of_eq_some htable)

theorem get?_entries (hread : decoder maxNesting document = some set)
    (hlisted : listed? document = some listed) (key : String) :
    set.entries.get? key = (lastValue? listed key).bind (Entry.decoder entryNesting) := by
  obtain ⟨found, hfound, htable⟩ := decoder_eq_some_iff.mp hread
  obtain rfl : found = listed := Option.some.inj (hfound.symm.trans hlisted)
  exact Json.get?_table htable key

/-- The last value given for a key is always read. -/
theorem exists_entry (hread : decoder maxNesting document = some set)
    (hlisted : listed? document = some listed) {key : String} {last : Document}
    (hlast : lastValue? listed key = some last) :
    ∃ entry, Entry.decoder entryNesting last = some entry ∧ set.entries.get? key = some entry := by
  obtain ⟨before, after, hsplit, _⟩ := List.lookup_eq_some_iff.mp hlast
  have hmem : (some key, last) ∈ listed := by
    rw [← List.mem_reverse, hsplit]
    simp
  have hmember := forall_entry hread hlisted _ hmem
  obtain ⟨⟨_, entry⟩, hentry⟩ := Option.isSome_iff_exists.mp hmember
  have hvalue := (Json.entry_eq_some_iff.mp hentry).2
  refine ⟨entry, hvalue, ?_⟩
  rw [get?_entries hread hlisted, hlast, Option.bind_some, hvalue]

/-- A store holds under a key what the last value given for the key is. -/
theorem get?_ofFlagSet (hread : decoder maxNesting document = some set)
    (hlisted : listed? document = some listed) (key : String) :
    (Store.ofFlagSet set).get? key = (lastValue? listed key).bind (Flag.decoder maxNesting) := by
  rw [get?_store]
  cases hlast : lastValue? listed key with
  | none =>
      rw [get?_entries hread hlisted, hlast]
      rfl
  | some last =>
      obtain ⟨entry, hentry, hfound⟩ := exists_entry hread hlisted hlast
      rw [hfound, Option.bind_some, Option.bind_some, flag?_of_decoder hentry]

end Read

end FlagSet

end FeatureFlags
