import FeatureFlags.Proofs.FlagSet.Listed
import FeatureFlags.Proofs.Store
import FeatureFlags.Store.Operation
import Mathlib.Logic.Function.Basic

/-!
A store is a map in which the last writer wins. The map is given here by itself,
as a function of the key: what is loaded takes the place of everything, a flag
that is put in is written under its own key and nowhere else, and one key is
cleared at a time. A step of a store is a step of this map, so a run is a run.
-/

namespace FeatureFlags

open Json (Document maxNesting)

abbrev FlagMap := String → Option Flag

namespace FlagSet

/-- A document is a flag set if it has an object of flags in which every value is
well formed, flag or not. -/
theorem isSome_decoder_iff {document : Document} :
    (decoder maxNesting document).isSome = true ↔ ∃ listed, listed? document = some listed ∧
      ∀ member ∈ listed, member.1.isSome = true ∧ (member.2.toJson? entryNesting).isSome = true := by
  simp only [← isSome_entry_iff]
  constructor
  · intro hsome
    obtain ⟨set, hread⟩ := Option.isSome_iff_exists.mp hsome
    obtain ⟨listed, hlisted, _⟩ := decoder_eq_some_iff.mp hread
    exact ⟨listed, hlisted, forall_entry hread hlisted⟩
  · rintro ⟨listed, hlisted, hall⟩
    obtain ⟨entries, hentries⟩ := Option.isSome_iff_exists.mp (Json.isSome_table_iff.mpr hall)
    have hread : decoder maxNesting document = some ⟨entries⟩ :=
      decoder_eq_some_iff.mpr ⟨listed, hlisted, hentries⟩
    exact Option.isSome_of_eq_some hread

end FlagSet

namespace FlagSource

/-- What a source has under each key, if it can be read. A document has under a
key the last value given for it, if that value is a flag; of flags at hand the
last one with the key counts. -/
def content? : FlagSource → Option FlagMap
  | .document text =>
      (Document.parse? text).bind fun document =>
        (FlagSet.listed? document).bind fun listed =>
          if ∀ member ∈ listed,
              member.1.isSome = true ∧ (member.2.toJson? FlagSet.entryNesting).isSome = true then
            some fun key => (FlagSet.lastValue? listed key).bind (Flag.decoder maxNesting)
          else none
  | .listing flags => some fun key => flags.reverse.find? (·.key == key)

theorem content?_listing (flags : List Flag) :
    (listing flags).content? = some (Store.ofFlags flags).get? := by
  have hlookup (flags : List Flag) (key : String) :
      (flags.map fun flag => (flag.key, flag)).lookup key = flags.find? (·.key == key) := by
    induction flags with
    | nil => rfl
    | cons flag rest ih => rw [List.map_cons, List.lookup_cons, List.find?_cons, BEq.comm, ih]
  refine congrArg some (funext fun key => ?_)
  rw [Store.get?_ofFlags, hlookup]

theorem content?_document (text : List UInt8) :
    (document text).content? =
      (FlagSet.decoder.run text).map fun set => (Store.ofFlagSet set).get? := by
  rw [content?, Json.Decoder.run]
  cases Document.parse? text with
  | none => rfl
  | some document =>
      simp only [Option.bind_some]
      cases hread : FlagSet.decoder maxNesting document with
      | some set =>
          obtain ⟨listed, hlisted, hall⟩ :=
            FlagSet.isSome_decoder_iff.mp (Option.isSome_of_eq_some hread)
          rw [hlisted, Option.bind_some, if_pos hall, Option.map_some]
          exact congrArg some (funext fun key => (FlagSet.get?_ofFlagSet hread hlisted key).symm)
      | none =>
          cases hlisted : FlagSet.listed? document with
          | none => rfl
          | some listed =>
              rw [Option.bind_some, if_neg]
              · rfl
              · intro hall
                have hsome := FlagSet.isSome_decoder_iff.mpr ⟨listed, hlisted, hall⟩
                rw [hread] at hsome
                cases hsome

/-- A source can be read just where it has a content, and a store that is filled
from it holds this content. -/
theorem content?_eq (source : FlagSource) :
    source.content? = source.read.toOption.map fun set => (Store.ofFlagSet set).get? := by
  cases source with
  | listing flags => exact content?_listing flags
  | document text =>
      rw [content?_document, read]
      cases FlagSet.decoder.run text <;> rfl

theorem error_of_read {source : FlagSource} {error : FlagError}
    (hread : source.read = .error error) : error = .invalidFlagSet := by
  cases source with
  | listing flags => cases hread
  | document text =>
      rw [read] at hread
      cases hrun : FlagSet.decoder.run text with
      | some set =>
          rw [hrun] at hread
          cases hread
      | none =>
          rw [hrun] at hread
          cases hread
          rfl

end FlagSource

namespace FlagMap

/-- The answer of a map in which the last writer wins, and the map afterwards. -/
def perform (map : FlagMap) : Store.Operation → Store.Answer Flag FlagMap × FlagMap
  | .create source =>
      match source.content? with
      | some content => (.done, content)
      | none => (.failed .invalidFlagSet, map)
  | .load source =>
      match source.content? with
      | some content => (.flags map, content)
      | none => (.failed .invalidFlagSet, map)
  | .upsert flag => (.done, Function.update map flag.key (some flag))
  | .remove key => (.flag (map key), Function.update map key none)
  | .get key => (.flag (map key), map)
  | .getAll => (.flags map, map)

end FlagMap

namespace Store

theorem Operation.run_append {σ α : Type} (perform : σ → Operation → α × σ) (s : σ)
    (operations later : List Operation) :
    (run perform s (operations ++ later)).2 =
      (run perform (run perform s operations).2 later).2 := by
  induction operations generalizing s with
  | nil => rfl
  | cons operation rest ih => exact ih _

/-- If each step of one machine is seen as a step of another, so is each run. -/
theorem Operation.run_seen {σ τ α β : Type} {perform : σ → Operation → α × σ}
    {other : τ → Operation → β × τ} (state : σ → τ) (answer : α → β)
    (hstep : ∀ s operation, other (state s) operation =
      (answer (perform s operation).1, state (perform s operation).2))
    (s : σ) (operations : List Operation) :
    run other (state s) operations =
      ((run perform s operations).1.map answer, state (run perform s operations).2) := by
  induction operations generalizing s with
  | nil => rfl
  | cons operation rest ih =>
      simp only [run, hstep, ih]
      rfl

/-- A step of a store is a step of the map that it is. -/
theorem perform_seen (store : Store) (operation : Operation) :
    FlagMap.perform store.get? operation =
      ((store.perform operation).1.map id Table.get?, (store.perform operation).2.get?) := by
  cases operation with
  | create source | load source =>
      rw [FlagMap.perform, perform, source.content?_eq]
      cases hread : source.read with
      | ok set => rfl
      | error error =>
          rw [FlagSource.error_of_read hread]
          rfl
  | upsert flag =>
      refine Prod.ext rfl (funext fun key => ?_)
      exact (Function.update_apply _ _ _ _).trans (store.get?_upsert flag key).symm
  | remove key =>
      refine Prod.ext rfl (funext fun other => ?_)
      exact (Function.update_apply _ _ _ _).trans (store.get?_remove key other).symm
  | get key => rfl
  | getAll => rfl

theorem run_seen (store : Store) (operations : List Operation) :
    Operation.run FlagMap.perform store.get? operations =
      ((Operation.run perform store operations).1.map (Answer.map id Table.get?),
        (Operation.run perform store operations).2.get?) :=
  Operation.run_seen get? (Answer.map id Table.get?) perform_seen store operations

theorem get?_foldl_upsert (store : Store) (flags : List Flag) (key : String) :
    (flags.foldl upsert store).get? key =
      (flags.reverse.find? (·.key == key)).or (store.get? key) := by
  induction flags generalizing store with
  | nil => rfl
  | cons flag rest ih =>
      rw [List.foldl_cons, ih, get?_upsert, List.reverse_cons, List.find?_append, Option.or_assoc]
      refine congrArg _ ?_
      by_cases heq : key = flag.key
      · simp [heq]
      · simp [heq, Ne.symm heq]

/-- A store of flags is what comes of putting them in one by one. -/
theorem ofFlags_eq_foldl (flags : List Flag) : ofFlags flags = flags.foldl upsert empty := by
  have hget (key : String) : (ofFlags flags).get? key = (flags.foldl upsert empty).get? key := by
    have hcontent := Option.some.inj (FlagSource.content?_listing flags)
    rw [get?_foldl_upsert, ← hcontent]
    exact (Option.or_none).symm
  exact congrArg mk (Table.ext_get? hget)

end Store

end FeatureFlags
