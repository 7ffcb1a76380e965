import FeatureFlags.Proofs.Flag.Rearranged
import FeatureFlags.Proofs.FlagSet.Isolation

/-!
Documents that are rearranged mean the same: flags and contexts as documents of their
own, and the flags of a set. In a set a value is looked at as a whole before it is
taken apart, so what comes to its objects has to be readable there. A set in which
flags are rearranged is accepted again and holds the same flags. A value that was no
flag is none after that.
-/

namespace FeatureFlags

open Json (Change Document maxNesting readable)

namespace FlagSet

/-- The second member has the key of the first and a value that may be rearranged. -/
abbrev RearrangedMember : Option String × Document → Option String × Document → Prop :=
  Change.Member (fun _ => (Flag.Rearranged readable).orSame) entryNesting

theorem forall_entry_of_rearranged {listed listed' : List (Option String × Document)}
    (h : List.Forall₂ RearrangedMember listed listed')
    (hall : ∀ member ∈ listed, (Entry.decoder.entry entryNesting member).isSome = true) :
    ∀ member ∈ listed', (Entry.decoder.entry entryNesting member).isSome = true := by
  refine Json.forall_mem_of_forall₂ h (fun member member' hmember hentry => ?_) hall
  obtain ⟨hname, hvalue⟩ := isSome_entry_iff.mp hentry
  exact isSome_entry_iff.mpr ⟨hmember.name_eq ▸ hname,
    Flag.keepsReadable.orSame hmember.value hvalue⟩

/-- A value of a set that is rearranged is the same flag, or still none. -/
theorem flag_of_rearranged {value value' : Document} (hreadable : readable entryNesting value)
    (h : (Flag.Rearranged readable).orSame entryNesting value value') :
    Flag.decoder maxNesting value' = Flag.decoder maxNesting value := by
  have hdeeper (value : Document) (hreadable : readable entryNesting value) :
      Flag.decoder entryNesting value = Flag.decoder maxNesting value :=
    Flag.readsValue (.deeper (Nat.sub_le _ _) hreadable)
  rw [← hdeeper value hreadable, ← hdeeper value' (Flag.keepsReadable.orSame h hreadable)]
  exact (Flag.ignores readable).orSame h

/-- Under every key a set has the same flag when flags of it are rearranged. -/
theorem get?_of_rearranged {document document' : Document} {set set' : FlagSet}
    {listed listed' : List (Option String × Document)}
    (hread : decoder maxNesting document = some set) (hlisted : listed? document = some listed)
    (hread' : decoder maxNesting document' = some set')
    (hlisted' : listed? document' = some listed')
    (h : List.Forall₂ RearrangedMember listed listed') (key : String) :
    (Store.ofFlagSet set').get? key = (Store.ofFlagSet set).get? key := by
  rw [get?_ofFlagSet hread hlisted, get?_ofFlagSet hread' hlisted']
  have hlast : Option.Rel ((Flag.Rearranged readable).orSame entryNesting) (lastValue? listed key)
      (lastValue? listed' key) :=
    Json.lookup_changed (List.forall₂_reverse_iff.mpr h) (some key)
  generalize hvalue : lastValue? listed key = value, lastValue? listed' key = value' at hlast ⊢
  cases hlast with
  | none => rfl
  | some hchange =>
      obtain ⟨entry, hentry, _⟩ := exists_entry hread hlisted hvalue
      obtain ⟨_, hreadable, _⟩ := Entry.decoder_eq_some_iff.mp hentry
      exact flag_of_rearranged (Option.isSome_of_eq_some hreadable) hchange

end FlagSet

/-- What is decoded depends neither on the order of members nor on members that are
not declared. -/
structure ArrangementIgnored : Prop where
  flags : ∀ text text' document document', Document.parse? text = some document →
    Document.parse? text' = some document' →
      Flag.Rearranged (fun _ _ => True) maxNesting document document' →
        Flag.decoder.run text' = Flag.decoder.run text
  contexts : ∀ text text' document document', Document.parse? text = some document →
    Document.parse? text' = some document' →
      Context.Rearranged (fun _ _ => True) maxNesting document document' →
        Context.decoder.run text' = Context.decoder.run text
  sets : ∀ text set, FlagSet.decoder.run text = some set → ∃ document listed,
    Document.parse? text = some document ∧ FlagSet.listed? document = some listed ∧
      ∀ listed' text', List.Forall₂ FlagSet.RearrangedMember listed listed' →
        Document.parse? text' = some (FlagSet.withListed listed' document) →
          ∃ set', FlagSet.decoder.run text' = some set' ∧
            Store.ofFlagSet set' = Store.ofFlagSet set

theorem arrangement_ignored : ArrangementIgnored where
  flags text text' document document' htext htext' hchange := by
    rw [Json.Decoder.run, Json.Decoder.run, htext, htext', Option.bind_some, Option.bind_some]
    exact Flag.ignores _ hchange
  contexts text text' document document' htext htext' hchange := by
    rw [Json.Decoder.run, Json.Decoder.run, htext, htext', Option.bind_some, Option.bind_some]
    exact Context.ignores _ hchange
  sets text set hread := by
    obtain ⟨document, htext, hread⟩ := Option.bind_eq_some_iff.mp hread
    obtain ⟨listed, hlisted, _⟩ := FlagSet.decoder_eq_some_iff.mp hread
    have hall := FlagSet.forall_entry hread hlisted
    refine ⟨document, listed, htext, hlisted, fun listed' text' hchange htext' => ?_⟩
    have hlisted' := FlagSet.listed?_withListed hlisted listed'
    obtain ⟨entries, hentries⟩ := Option.isSome_iff_exists.mp
      (Json.isSome_table_iff.mpr (FlagSet.forall_entry_of_rearranged hchange hall))
    have hread' : FlagSet.decoder maxNesting (FlagSet.withListed listed' document) =
        some ⟨entries⟩ := FlagSet.decoder_eq_some_iff.mpr ⟨listed', hlisted', hentries⟩
    refine ⟨⟨entries⟩, by rw [Json.Decoder.run, htext', Option.bind_some, hread'], ?_⟩
    exact congrArg Store.mk (Table.ext_get?
      (FlagSet.get?_of_rearranged hread hlisted hread' hlisted' hchange))

/-- An object reversed, with one more member. -/
def owned (members : List (Option String × Document)) : Document :=
  .object (members ++ [(some "owner", Document.null)]).reverse

theorem rearranged_owned {names : List String} {parts : List (String × Change)} {nesting : Nat}
    {members changed : List (Option String × Document)} (hnew : "owner" ∉ names)
    (hchanged : List.Forall₂ (Change.Member (Change.partOf parts) nesting) members changed) :
    Change.record names parts readable (nesting + 1) (.object members) (owned changed) := by
  refine .object hchanged ?_ (List.reverse_perm (changed ++ [(some "owner", Document.null)]))
  exact List.forall_mem_singleton.mpr ⟨⟨"owner", rfl, hnew⟩, rfl⟩

def ruleMembers : List (Option String × Document) := [(some "id", .string "r")]

def flagMembers (rule : Document) : List (Option String × Document) :=
  [(some "key", .string "a"), (some "enabled", .boolean true), (some "defaultValue", .null),
    (some "rules", .array [rule])]

def unfinishedMembers : List (Option String × Document) := [(some "key", .string "b")]

/-- A flag with a rule, and a value that is no flag. -/
def plainListed : List (Option String × Document) :=
  [(some "a", .object (flagMembers (.object ruleMembers))), (some "b", .object unfinishedMembers)]

def ownedListed : List (Option String × Document) :=
  [(some "a", owned (flagMembers (owned ruleMembers))), (some "b", owned unfinishedMembers)]

theorem ownedListed_rearranged : List.Forall₂ FlagSet.RearrangedMember plainListed ownedListed := by
  have hrule : Rule.Rearranged readable 123 (.object ruleMembers) (owned ruleMembers) :=
    rearranged_owned (by decide) (.cons ⟨rfl, rfl⟩ .nil)
  have hflag : Flag.Rearranged readable 125 (.object (flagMembers (.object ruleMembers)))
      (owned (flagMembers (owned ruleMembers))) :=
    rearranged_owned (by decide) (.cons ⟨rfl, rfl⟩ (.cons ⟨rfl, rfl⟩ (.cons ⟨rfl, rfl⟩
      (.cons ⟨rfl, .inr (.items (.cons (.inr hrule) .nil))⟩ .nil))))
  have hunfinished : Flag.Rearranged readable 125 (.object unfinishedMembers)
      (owned unfinishedMembers) :=
    rearranged_owned (by decide) (.cons ⟨rfl, rfl⟩ .nil)
  exact .cons ⟨rfl, .inr hflag⟩ (.cons ⟨rfl, .inr hunfinished⟩ .nil)

def plainText : List UInt8 :=
  textBytes "\x7b\"flags\":\x7b\"a\":\x7b\"key\":\"a\",\"enabled\":true,\"defaultValue\":null," ++
    textBytes "\"rules\":[\x7b\"id\":\"r\"\x7d]\x7d,\"b\":\x7b\"key\":\"b\"\x7d\x7d\x7d"

def ownedText : List UInt8 :=
  textBytes "\x7b\"flags\":\x7b\"a\":\x7b\"owner\":null," ++
    textBytes "\"rules\":[\x7b\"owner\":null,\"id\":\"r\"\x7d]," ++
    textBytes "\"defaultValue\":null,\"enabled\":true,\"key\":\"a\"\x7d," ++
    textBytes "\"b\":\x7b\"owner\":null,\"key\":\"b\"\x7d\x7d\x7d"

theorem arrangement_ignored_in_ownedText : ∃ set set',
    FlagSet.decoder.run plainText = some set ∧ FlagSet.decoder.run ownedText = some set' ∧
      ((Store.ofFlagSet set).get? "a").isSome = true ∧
      ((Store.ofFlagSet set).get? "b").isSome = false ∧
      Store.ofFlagSet set' = Store.ofFlagSet set := by
  have haccepted : (FlagSet.decoder.run plainText).isSome = true := by decide +kernel
  obtain ⟨set, hread⟩ := Option.isSome_iff_exists.mp haccepted
  have hheld (key : String) : (Store.ofFlagSet set).get? key =
      (FlagSet.decoder.run plainText).bind fun set => (Store.ofFlagSet set).get? key := by
    rw [hread]
    rfl
  obtain ⟨document, listed, hdocument, hlisted, hkept⟩ :=
    arrangement_ignored.sets plainText set hread
  have hplain : Document.parse? plainText =
      some (.object [(some "flags", .object plainListed)]) := by cbv
  obtain rfl := Option.some.inj (hdocument.symm.trans hplain)
  obtain rfl : listed = plainListed := Option.some.inj (hlisted.symm.trans rfl)
  obtain ⟨set', hread', hsame⟩ := hkept ownedListed ownedText ownedListed_rearranged (by cbv)
  refine ⟨set, set', hread, hread', ?_, ?_, hsame⟩
  · rw [hheld]
    decide +kernel
  · rw [hheld]
    decide +kernel

end FeatureFlags
