import FeatureFlags.Proofs.Flag.Floats
import FeatureFlags.Proofs.FlagSet.Listed
import FeatureFlags.Proofs.Json.Rendered

/-!
Sets of flags that are saved and loaded again. A set that is saved is accepted
again. Each float is then the one that its text is read as, which is not always
the float that was written; otherwise flags come back as they were. A value that
was no flag is kept without the repetitions in it, and so the one flag that a set
can gain is one whose members were repeated.
-/

namespace FeatureFlags

open Binary64 (Finite)
open Binary64.Finite (reread)
open Json (Decoder Document Fields Writes maxNesting)

namespace FlagSet

variable {f : Finite → Finite}

/-- What an entry is after it was written and read again with other floats. -/
def Entry.again (f : Finite → Finite) : Entry → Entry
  | .readable flag => .readable (flag.mapFloats f)
  | .unreadable value =>
      ((Flag.decoder maxNesting (value.mapFloats f).toDocument).map .readable).getD
        (.unreadable (value.mapFloats f))

/-- The set after it was written and read again with other floats. -/
def again (f : Finite → Finite) (set : FlagSet) : FlagSet :=
  ⟨set.entries.map fun _ entry => entry.again f⟩

namespace Entry

variable {document : Document} {entry : Entry}

theorem canonical_of_decoder (hread : decoder entryNesting document = some entry) :
    entry.toJson.Canonical ∧ entry.toJson.depth ≤ entryNesting := by
  obtain ⟨flag, hflag, rfl⟩ | ⟨value, hvalue, _, rfl⟩ := decoder_cases hread
  · obtain ⟨hplain, hdepth⟩ := Flag.yields 118 entryNesting (Nat.le_refl _) document flag hflag
    exact ⟨Flag.canonical_toJson hplain, hdepth⟩
  · exact Json.canonical_of_toJson? document entryNesting hvalue

/-- An entry that was read is read again from what it is written as. -/
theorem decoder_toDocument (hread : decoder entryNesting document = some entry) :
    decoder entryNesting (entry.toJson.mapFloats f).toDocument = some (entry.again f) := by
  obtain ⟨hcanonical, hdepth⟩ := canonical_of_decoder hread
  have hwritten := Json.toJson?_toDocument (entry.toJson.mapFloats f) entryNesting
    hcanonical.mapFloats (Json.depth_mapFloats_le hdepth)
  refine decoder_eq_some_iff.mpr ⟨entry.toJson.mapFloats f, hwritten, ?_⟩
  obtain ⟨flag, hflag, rfl⟩ | ⟨value, _, _, rfl⟩ := decoder_cases hread
  · obtain ⟨hplain, _⟩ := Flag.yields 118 entryNesting (Nat.le_refl _) document flag hflag
    have hdepth : (flag.mapFloats f).toJson.depth ≤ entryNesting := by
      rw [Flag.toJson_mapFloats]
      exact Json.depth_mapFloats_le hdepth
    have hback : Flag.decoder entryNesting (flag.mapFloats f).toJson.toDocument =
        some (flag.mapFloats f) :=
      Flag.readsBack hplain.mapFloats entryNesting hdepth
    rw [toJson, ← Flag.toJson_mapFloats, hback]
    rfl
  · have hdeeper : Flag.decoder entryNesting (value.mapFloats f).toDocument =
        Flag.decoder maxNesting (value.mapFloats f).toDocument :=
      Flag.readsValue (.deeper (Nat.sub_le _ _) (Option.isSome_of_eq_some hwritten))
    rw [toJson, hdeeper]
    rfl

theorem flag?_again (value : Json) : ((unreadable value).again f).flag? =
    Flag.decoder maxNesting (value.mapFloats f).toDocument := by
  rw [again]
  cases Flag.decoder maxNesting (value.mapFloats f).toDocument <;> rfl

/-- A value that repeats no name is no flag when it is read again, if it was
none. -/
theorem flag?_again_of_distinct (hdistinct : document.Distinct)
    (hread : decoder entryNesting document = some entry) :
    (entry.again f).flag? = entry.flag?.map (Flag.mapFloats f) := by
  obtain ⟨flag, _, rfl⟩ | ⟨value, hvalue, hnone, rfl⟩ := decoder_cases hread
  · rfl
  · have hdepth := (Json.canonical_of_toJson? document entryNesting hvalue).2
    have hsame : Flag.decoder entryNesting document = Flag.decoder maxNesting value.toDocument :=
      Flag.readsValue (.written hdistinct hvalue (Nat.le_trans hdepth (Nat.sub_le _ _)))
    -- what is no flag does not become one with other floats
    have hagain := Flag.acceptsAnyFloats f maxNesting value.toDocument
    rw [← hsame, hnone, Option.isSome_none, ← Json.toDocument_mapFloats] at hagain
    rw [flag?_again, Option.not_isSome_iff_eq_none.mp (Bool.eq_false_iff.mp hagain)]
    rfl

end Entry

section Read

variable {document : Document} {set : FlagSet} {listed : List (Option String × Document)}

theorem exists_decoder_of_mem (hread : decoder maxNesting document = some set)
    {entry : String × Entry} (hmem : entry ∈ set.entries.entries) :
    ∃ last, Entry.decoder entryNesting last = some entry.2 := by
  obtain ⟨listed, hlisted, _⟩ := decoder_eq_some_iff.mp hread
  have hget := Table.get?_eq_some_iff.mpr hmem
  rw [get?_entries hread hlisted, Option.bind_eq_some_iff] at hget
  obtain ⟨last, _, hentry⟩ := hget
  exact ⟨last, hentry⟩

/-- A set that was read can be written. -/
theorem writes_toJson (hread : decoder maxNesting document = some set) :
    Writes (textBytes set.toJson.render) (set.toJson.mapFloats reread) := by
  let written := (set.entries.map fun _ entry => entry.toJson).entries
  have hentries : ∀ member ∈ written, member.2.Canonical ∧ member.2.depth ≤ entryNesting :=
    List.forall_mem_map.mpr fun entry hmem => by
      obtain ⟨last, hentry⟩ := exists_decoder_of_mem hread hmem
      exact Entry.canonical_of_decoder hentry
  have hcanonical : (Json.object written).Canonical :=
    .object (Table.ascending _) fun member hmem => (hentries member hmem).1
  have hdepth : (Json.object written).depth ≤ entryNesting + 1 :=
    Json.depth_object_le_iff.mpr fun member hmem => (hentries member hmem).2
  have hset : set.toJson.depth ≤ entryNesting + 1 + 1 :=
    Json.depth_ofMembers_le (List.forall_mem_singleton.mpr hdepth)
  exact Json.writes_render (Json.canonical_ofMembers (List.forall_mem_singleton.mpr hcanonical))
    hset

theorem toJson_mapFloats (set : FlagSet) : set.toJson.mapFloats f =
    .ofMembers [("flags", .object (set.entries.map fun _ entry => entry.toJson.mapFloats f).entries)]
    := by
  rw [toJson, Json.mapFloats_ofMembers, List.map_singleton, Json.mapFloats_object]
  simp only [Table.map, List.map_map, Function.comp_def]

/-- A set that was read is read again from what it is written as. -/
theorem decoder_toDocument (hread : decoder maxNesting document = some set) :
    decoder maxNesting (set.toJson.mapFloats f).toDocument = some (set.again f) := by
  have hagain (entry : String × Entry) (hmem : entry ∈ set.entries.entries) :
      Entry.decoder.entry entryNesting (some entry.1, (entry.2.toJson.mapFloats f).toDocument) =
        some (entry.1, entry.2.again f) := by
    obtain ⟨last, hentry⟩ := exists_decoder_of_mem hread hmem
    exact Json.entry_eq_some_iff.mpr ⟨rfl, Entry.decoder_toDocument hentry⟩
  have hall : (Json.membersToDocument
      (set.entries.map fun _ entry => entry.toJson.mapFloats f).entries).mapM
        (Entry.decoder.entry entryNesting) = some (set.again f).entries.entries := by
    rw [Json.membersToDocument_eq_map, Json.mapM_eq_some_iff_forall₂, Table.map, List.map_map,
      again, Table.map, List.forall₂_map_left_iff, List.forall₂_map_right_iff, List.forall₂_same]
    exact hagain
  rw [toJson_mapFloats]
  refine decoder_eq_some_iff.mpr ⟨_, rfl, ?_⟩
  rw [Json.table_eq_bind, hall, Option.bind_some, Table.ofList_entries]

theorem run_of_writes {saved : List UInt8} (hread : decoder maxNesting document = some set)
    (hsaved : Writes saved (set.toJson.mapFloats f)) : decoder.run saved = some (set.again f) := by
  obtain ⟨written, hwritten, hdistinct, hvalue⟩ := hsaved
  have hdepth := (Json.canonical_of_toJson? written maxNesting hvalue).2
  have hsame : decoder maxNesting written =
      decoder maxNesting (set.toJson.mapFloats f).toDocument :=
    readsValue (.written hdistinct hvalue hdepth)
  rw [Decoder.run, hwritten, Option.bind_some, hsame, decoder_toDocument hread]

theorem get?_again (set : FlagSet) (key : String) : (Store.ofFlagSet (set.again f)).get? key =
    (set.entries.get? key).bind fun entry => (entry.again f).flag? := by
  rw [get?_store, again, Table.get?_map]
  cases set.entries.get? key <;> rfl

/-- A flag that a store is filled with is plain. -/
theorem plain_of_get? (hread : decoder maxNesting document = some set) {key : String} {flag : Flag}
    (hheld : (Store.ofFlagSet set).get? key = some flag) : flag.Plain := by
  obtain ⟨listed, hlisted, _⟩ := decoder_eq_some_iff.mp hread
  rw [get?_ofFlagSet hread hlisted, Option.bind_eq_some_iff] at hheld
  obtain ⟨last, _, hflag⟩ := hheld
  exact (Flag.yields 120 maxNesting (Nat.le_refl _) last flag hflag).1

section Key

variable {key : String} {flag : Flag}

theorem get?_again_of_held (hheld : (Store.ofFlagSet set).get? key = some flag) :
    (Store.ofFlagSet (set.again f)).get? key = some (flag.mapFloats f) := by
  rw [get?_store, Option.bind_eq_some_iff] at hheld
  obtain ⟨entry, hentry, hflag⟩ := hheld
  rw [get?_again, hentry, Option.bind_some]
  cases entry with
  | readable found => exact congrArg (Option.map (Flag.mapFloats f)) hflag
  | unreadable value => cases hflag

theorem get?_again_of_unchanged (hread : decoder maxNesting document = some set)
    (hheld : (Store.ofFlagSet set).get? key = some flag)
    (hfloats : ∀ x ∈ flag.toJson.floats, f x = x) :
    (Store.ofFlagSet (set.again f)).get? key = some flag := by
  rw [get?_again_of_held hheld, Flag.mapFloats_eq_self (plain_of_get? hread hheld) hfloats]

/-- Where no flag is held, the value that was kept decides. -/
theorem get?_again_of_none (hread : decoder maxNesting document = some set)
    (hlisted : listed? document = some listed) (hnone : (Store.ofFlagSet set).get? key = none) :
    (Store.ofFlagSet (set.again f)).get? key =
      ((lastValue? listed key).bind (·.toJson? maxNesting)).bind fun value =>
        Flag.decoder maxNesting (value.mapFloats f).toDocument := by
  rw [get?_again]
  cases hlast : lastValue? listed key with
  | none =>
      rw [get?_entries hread hlisted, hlast]
      rfl
  | some last =>
      obtain ⟨entry, hentry, hfound⟩ := exists_entry hread hlisted hlast
      rw [get?_store, hfound, Option.bind_some] at hnone
      obtain ⟨flag, _, rfl⟩ | ⟨value, hvalue, _, rfl⟩ := Entry.decoder_cases hentry
      · cases hnone
      · have hdeeper := Json.toJson?_mono last (Nat.sub_le maxNesting 2) hvalue
        rw [hfound, Option.bind_some, Option.bind_some, hdeeper, Option.bind_some,
          Entry.flag?_again]

theorem get?_again_of_distinct (hread : decoder maxNesting document = some set)
    (hlisted : listed? document = some listed) {last : Document}
    (hlast : lastValue? listed key = some last) (hdistinct : last.Distinct) :
    (Store.ofFlagSet (set.again f)).get? key =
      ((Store.ofFlagSet set).get? key).map (Flag.mapFloats f) := by
  obtain ⟨entry, hentry, hfound⟩ := exists_entry hread hlisted hlast
  rw [get?_again, get?_store, hfound]
  exact Entry.flag?_again_of_distinct hdistinct hentry

end Key

/-- What a store has after the set it was filled from is saved and loaded. -/
structure Reloaded (listed : List (Option String × Document)) (before after : Store) : Prop where
  /-- Every flag is there, with each float read as its text is. -/
  held : ∀ key flag, before.get? key = some flag → after.get? key = some (flag.mapFloats reread)
  /-- A flag is there as it was if its floats are read as themselves. -/
  unchanged : ∀ key flag, before.get? key = some flag →
    (∀ x ∈ flag.toJson.floats, x.reread = x) → after.get? key = some flag
  /-- That is so for all floats of few digits. -/
  short : ∀ key flag, before.get? key = some flag →
    (∀ x ∈ flag.toJson.floats, x.Short) → after.get? key = some flag
  /-- A dropped flag comes back only if the value kept for it is a flag. -/
  dropped : ∀ key, before.get? key = none → after.get? key =
    ((lastValue? listed key).bind (·.toJson? maxNesting)).bind fun value =>
      Flag.decoder maxNesting (value.mapFloats reread).toDocument
  /-- The value kept is the one that was given, unless that repeats a name. -/
  distinct : ∀ key last, lastValue? listed key = some last → last.Distinct →
    after.get? key = (before.get? key).map (Flag.mapFloats reread)

theorem reloaded_again (hread : decoder maxNesting document = some set)
    (hlisted : listed? document = some listed) :
    Reloaded listed (Store.ofFlagSet set) (Store.ofFlagSet (set.again reread)) where
  held _ _ hheld := get?_again_of_held hheld
  unchanged _ _ hheld hfloats := get?_again_of_unchanged hread hheld hfloats
  short _ _ hheld hshort :=
    get?_again_of_unchanged hread hheld fun x hmem => (hshort x hmem).reread_eq_self
  dropped _ hnone := get?_again_of_none hread hlisted hnone
  distinct _ _ hlast hdistinct := get?_again_of_distinct hread hlisted hlast hdistinct

end Read

/-- A set that was accepted has a text, and from every text of it a set is loaded
that has the same flags, up to how floats are read, and gains no flag but from a
value that repeats a name. -/
theorem saved_set_reloads {text : List UInt8} {set : FlagSet}
    (hread : decoder.run text = some set) :
    Writes (textBytes set.toJson.render) (set.toJson.mapFloats reread) ∧
      ∀ saved, Writes saved (set.toJson.mapFloats reread) → ∃ document listed again,
        Document.parse? text = some document ∧ listed? document = some listed ∧
          decoder.run saved = some again ∧
            Reloaded listed (Store.ofFlagSet set) (Store.ofFlagSet again) := by
  obtain ⟨document, hdocument, hread⟩ := Option.bind_eq_some_iff.mp hread
  obtain ⟨listed, hlisted, _⟩ := decoder_eq_some_iff.mp hread
  refine ⟨writes_toJson hread, fun saved hsaved => ⟨document, listed, set.again reread, hdocument,
    hlisted, run_of_writes hread hsaved, reloaded_again hread hlisted⟩⟩

/-- A set with a flag, and with a value that is none and repeats no name. -/
def plainListed : List (Option String × Document) :=
  [(some "a", .array [.string "a", .boolean true, .integer (.ofInt64 7)]),
    (some "b", .object [(some "key", .string "b"), (some "enabled", .null)])]

def plainText : List UInt8 :=
  textBytes
    "\x7b\"flags\":\x7b\"a\":[\"a\",true,7],\"b\":\x7b\"key\":\"b\",\"enabled\":null\x7d\x7d\x7d"

theorem saved_set_reloads_from_plainText : ∃ set again flag,
    decoder.run plainText = some set ∧ decoder.run (textBytes set.toJson.render) = some again ∧
      (Store.ofFlagSet set).get? "a" = some flag ∧ (Store.ofFlagSet again).get? "a" = some flag ∧
      (Store.ofFlagSet set).get? "b" = none ∧ (Store.ofFlagSet again).get? "b" = none := by
  have haccepted : (decoder.run plainText).isSome = true := by decide +kernel
  obtain ⟨set, hread⟩ := Option.isSome_iff_exists.mp haccepted
  obtain ⟨hwrites, hreloads⟩ := saved_set_reloads hread
  obtain ⟨document, listed, again, hdocument, hlisted, hagain, hreloaded⟩ := hreloads _ hwrites
  have hplain : Document.parse? plainText =
      some (.object [(some "flags", .object plainListed)]) := by
    cbv
  obtain rfl := Option.some.inj (hdocument.symm.trans hplain)
  obtain rfl : listed = plainListed := Option.some.inj (hlisted.symm.trans rfl)
  have hset : decoder maxNesting (.object [(some "flags", .object plainListed)]) = some set := by
    rwa [Decoder.run, hplain, Option.bind_some] at hread
  let flag : Flag := { key := "a", enabled := true, defaultValue := .int 7 }
  have hflag : (Store.ofFlagSet set).get? "a" = some flag := by
    rw [get?_ofFlagSet hset hlisted]
    rfl
  have hnone : (Store.ofFlagSet set).get? "b" = none := by
    rw [get?_ofFlagSet hset hlisted]
    rfl
  have hfloats : flag.toJson.floats = [] := by cbv
  have hdistinct :
      Document.Distinct (.object [(some "key", .string "b"), (some "enabled", .null)]) :=
    .object (by decide) (List.forall_mem_cons.mpr ⟨.string _, List.forall_mem_singleton.mpr .null⟩)
  refine ⟨set, again, flag, hread, hagain, hflag, ?_, hnone, ?_⟩
  · refine hreloaded.unchanged "a" flag hflag ?_
    rw [hfloats]
    exact List.forall_mem_nil _
  · rw [hreloaded.distinct "b" _ rfl hdistinct, hnone]
    rfl

/-- What is seen of a store before and after its set is saved and loaded. -/
theorem exists_reload {text : List UInt8} {α : Type} {seen : Store → α} {before after : α}
    (h : ((decoder.run text).bind fun set => (decoder.run (textBytes set.toJson.render)).map
      fun again => (seen (Store.ofFlagSet set), seen (Store.ofFlagSet again))) =
        some (before, after)) :
    ∃ set again, decoder.run text = some set ∧
      decoder.run (textBytes set.toJson.render) = some again ∧
        seen (Store.ofFlagSet set) = before ∧ seen (Store.ofFlagSet again) = after := by
  obtain ⟨set, hread, hseen⟩ := Option.bind_eq_some_iff.mp h
  obtain ⟨again, hagain, hseen⟩ := Option.map_eq_some_iff.mp hseen
  exact ⟨set, again, hread, hagain, congrArg Prod.fst hseen, congrArg Prod.snd hseen⟩

/-- A set with a value that is no flag only because it has a name twice. -/
def repeatingText : List UInt8 :=
  textBytes
    "\x7b\"flags\":\x7b\"a\":\x7b\"key\":\"a\",\"key\":\"a\",\"enabled\":true,\"defaultValue\":false\x7d\x7d\x7d"

/-- A set with a float whose shortest text is read as another one. -/
def preciseText : List UInt8 :=
  textBytes "\x7b\"flags\":\x7b\"a\":[\"a\",true,0.99999999999999990]\x7d\x7d"

/-- Whether the flag of a key serves the number 1 by default. -/
def servesOne (key : String) (store : Store) : Option Bool :=
  ((store.get? key).bind (·.defaultValue.asFloat)).map (·.same (.ofInt 1))

/-- A dropped flag comes back where the repeated name is there once in what is
saved, and a flag that serves a number just below 1 serves 1. -/
theorem reloaded_flags_differ :
    (∃ set again, decoder.run repeatingText = some set ∧
      decoder.run (textBytes set.toJson.render) = some again ∧
        ((Store.ofFlagSet set).get? "a").isSome = false ∧
        ((Store.ofFlagSet again).get? "a").isSome = true) ∧
    ∃ set again, decoder.run preciseText = some set ∧
      decoder.run (textBytes set.toJson.render) = some again ∧
        servesOne "a" (Store.ofFlagSet set) = some false ∧
        servesOne "a" (Store.ofFlagSet again) = some true := by
  constructor
  · refine @exists_reload _ _ (fun store => (store.get? "a").isSome) _ _ ?_
    decide +kernel
  · refine @exists_reload _ _ (servesOne "a") _ _ ?_
    decide +kernel

end FlagSet

end FeatureFlags
