import FeatureFlags.Bucket
import FeatureFlags.Proofs.FlagSet.Listed
import Mathlib

/-!
One flag does not affect another. A value that is no flag is kept as it is, so
what stands under other keys decides neither whether a set is accepted nor which
flag is held under a key.
-/

namespace FeatureFlags

open Json (Decoder Document Fields maxNesting)

namespace FlagSet

/-- A member that is the same, or has another key and any value that can be
read. -/
inductive Replaced (key : String) : Option String × Document → Option String × Document → Prop where
  | same (member : Option String × Document) : Replaced key member member
  | other {name : String} {before after : Document} {value : Json} (hother : name ≠ key)
      (hvalue : after.toJson? entryNesting = some value) :
      Replaced key (some name, before) (some name, after)

section Replaced

variable {key : String} {listed listed' : List (Option String × Document)}

theorem lookup_of_replaced (h : List.Forall₂ (Replaced key) listed listed') :
    listed'.lookup (some key) = listed.lookup (some key) := by
  induction h with
  | nil => rfl
  | cons hhead _ ih =>
      cases hhead with
      | same => rw [List.lookup_cons, List.lookup_cons, ih]
      | other hother => simp [List.lookup_cons, beq_eq_false_iff_ne.mpr hother.symm, ih]

theorem lastValue?_of_replaced (h : List.Forall₂ (Replaced key) listed listed') :
    lastValue? listed' key = lastValue? listed key :=
  lookup_of_replaced (List.forall₂_reverse_iff.mpr h)

theorem forall_entry_of_replaced (h : List.Forall₂ (Replaced key) listed listed')
    (hall : ∀ member ∈ listed, (Entry.decoder.entry entryNesting member).isSome = true) :
    ∀ member ∈ listed', (Entry.decoder.entry entryNesting member).isSome = true := by
  refine Json.forall_mem_of_forall₂ h (fun member member' hmember hentry => ?_) hall
  cases hmember with
  | same => exact hentry
  | other _ hvalue => exact isSome_entry_iff.mpr ⟨rfl, Option.isSome_of_eq_some hvalue⟩

end Replaced

/-- What stands under a name is replaced, and nothing else. -/
theorem lookup_replaceValue (name : Option String) (value : Document)
    (members : List (Option String × Document)) :
    (members.map fun member => (member.1, if member.1 = name then value else member.2)).lookup name =
      (members.lookup name).map fun _ => value := by
  induction members with
  | nil => rfl
  | cons member rest ih =>
      rw [List.map_cons, List.lookup_cons, List.lookup_cons, ih]
      by_cases heq : name = member.1
      · simp [heq]
      · simp [beq_eq_false_iff_ne.mpr heq]

/-- The same document with other members in its object of flags. -/
def withListed (listed : List (Option String × Document)) : Document → Document
  | .object members =>
      .object (members.map fun member =>
        (member.1, if member.1 = some "flags" then .object listed else member.2))
  | .array _ => .array [.object listed]
  | document => document

theorem listed?_withListed {document : Document} {listed : List (Option String × Document)}
    (h : listed? document = some listed) (listed' : List (Option String × Document)) :
    listed? (withListed listed' document) = some listed' := by
  obtain ⟨fields, hfields, hfound⟩ := listed?_eq_some_iff.mp h
  cases document with
  | array items => rfl
  | object rest =>
      obtain ⟨kept, hkept, rfl⟩ := Option.map_eq_some_iff.mp hfields
      have hflags : members.contains "flags" = true := rfl
      have hfound : kept.lookup "flags" = some (.object listed) := hfound
      rw [Fields.lookup_ofMembers hkept, if_pos hflags] at hfound
      have hsame : (rest.map fun member => (member.1, if member.1 = some "flags" then
          .object listed' else member.2)).map (·.1) = rest.map (·.1) := by
        rw [List.map_map]
        rfl
      have hsome := Fields.isSome_ofMembers_of_perm members (List.Perm.of_eq hsame)
      obtain ⟨kept', hkept'⟩ := Option.isSome_iff_exists.mp
        (hsome.trans (Option.isSome_of_eq_some hkept))
      refine listed?_eq_some_iff.mpr ⟨⟨false, entryNesting + 1, kept'⟩,
        congrArg (Option.map _) hkept', ?_⟩
      show kept'.lookup "flags" = some (.object listed')
      rw [Fields.lookup_ofMembers hkept', if_pos hflags, lookup_replaceValue, hfound, Option.map_some]
  | _ => cases hfields

/-- In every set that is accepted, a key has the flag that the last value given
for it is, if it is one, whatever stands under the other keys. -/
theorem flags_isolated {text : List UInt8} {set : FlagSet} (hread : decoder.run text = some set) :
    ∃ document listed, Document.parse? text = some document ∧ listed? document = some listed ∧
      (∀ key, (Store.ofFlagSet set).get? key =
        (lastValue? listed key).bind (Flag.decoder maxNesting)) ∧
      ∀ key listed' text', List.Forall₂ (Replaced key) listed listed' →
        Document.parse? text' = some (withListed listed' document) →
          ∃ set', decoder.run text' = some set' ∧
            (Store.ofFlagSet set').get? key = (Store.ofFlagSet set).get? key := by
  obtain ⟨document, hdocument, hread⟩ := Option.bind_eq_some_iff.mp hread
  obtain ⟨listed, hlisted, _⟩ := decoder_eq_some_iff.mp hread
  have hall := forall_entry hread hlisted
  refine ⟨document, listed, hdocument, hlisted, get?_ofFlagSet hread hlisted, ?_⟩
  intro key listed' text' hreplaced htext'
  have hlisted' := listed?_withListed hlisted listed'
  obtain ⟨entries, hentries⟩ := Option.isSome_iff_exists.mp
    (Json.isSome_table_iff.mpr (forall_entry_of_replaced hreplaced hall))
  have hread' : decoder maxNesting (withListed listed' document) = some ⟨entries⟩ :=
    decoder_eq_some_iff.mpr ⟨listed', hlisted', hentries⟩
  refine ⟨⟨entries⟩, by rw [Decoder.run, htext', Option.bind_some, hread'], ?_⟩
  rw [get?_ofFlagSet hread' hlisted', get?_ofFlagSet hread hlisted,
    lastValue?_of_replaced hreplaced]

/-- Three values for two keys. -/
def mixedListed : List (Option String × Document) :=
  [(some "a", .object [(some "key", .string "a")]),
    (some "b", .array [.string "b", .boolean true, .integer (.ofInt64 7)]),
    (some "a", .array [.integer (.ofInt64 1)])]

def changedListed : List (Option String × Document) :=
  [(some "a", .array [.string "a", .boolean true, .integer (.ofInt64 0)]),
    (some "b", .array [.string "b", .boolean true, .integer (.ofInt64 7)]),
    (some "a", .null)]

/-- A set in which nothing given for `a` is a flag. -/
def mixedText : List UInt8 :=
  textBytes "\x7b\"flags\":\x7b\"a\":\x7b\"key\":\"a\"\x7d,\"b\":[\"b\",true,7],\"a\":[1]\x7d\x7d"

/-- The same set with other values for `a`, the first of them a flag. -/
def changedText : List UInt8 :=
  textBytes "\x7b\"flags\":\x7b\"a\":[\"a\",true,0],\"b\":[\"b\",true,7],\"a\":null\x7d\x7d"

theorem flags_isolated_in_mixedText : ∃ set set',
    decoder.run mixedText = some set ∧ decoder.run changedText = some set' ∧
      ((Store.ofFlagSet set).get? "a").isSome = false ∧
      ((Store.ofFlagSet set).get? "b").isSome = true ∧
      (Store.ofFlagSet set').get? "b" = (Store.ofFlagSet set).get? "b" := by
  have haccepted : (decoder.run mixedText).isSome = true := by decide +kernel
  obtain ⟨set, hread⟩ := Option.isSome_iff_exists.mp haccepted
  obtain ⟨document, listed, hdocument, hlisted, hheld, hkept⟩ := flags_isolated hread
  have hmixed : Document.parse? mixedText = some (.object [(some "flags", .object mixedListed)]) := by
    cbv
  obtain rfl := Option.some.inj (hdocument.symm.trans hmixed)
  obtain rfl : listed = mixedListed := Option.some.inj (hlisted.symm.trans rfl)
  have hreplaced : List.Forall₂ (Replaced "b") mixedListed changedListed :=
    .cons (.other (by decide) rfl) (.cons (.same _) (.cons (.other (by decide) rfl) .nil))
  obtain ⟨set', hread', hsame⟩ := hkept "b" changedListed changedText hreplaced (by cbv)
  refine ⟨set, set', hread, hread', ?_, ?_, hsame⟩
  · rw [hheld]
    decide +kernel
  · rw [hheld]
    decide +kernel

end FlagSet

end FeatureFlags
