import FeatureFlags.FlagSet
import FeatureFlags.Proofs.Json.ValueReaders

/-!
Flags are read for their values. Each part of a flag is read by a decoder that
gets the same from a document and from what restates it, and so is a set of
flags as a whole.
-/

namespace FeatureFlags

open Json (ReadsValue)

theorem Attribute.readsValue : ReadsValue decoder :=
  ReadsValue.json.map (·.bind ofJson?)

theorem FlagValue.readsValue : ReadsValue decoder :=
  ReadsValue.json.map (·.map ofJson)

theorem Operator.readsValue : ReadsValue decoder :=
  .choice ofName?

theorem FlagType.readsValue : ReadsValue decoder :=
  .choice ofName?

theorem Clause.readsValue : ReadsValue decoder := by
  refine ReadsValue.record fun fields fields' h => ?_
  rw [h.required .string, h.required Operator.readsValue,
    h.required Attribute.readsValue.list, h.withDefault .boolean]

theorem WeightedVariation.readsValue : ReadsValue decoder := by
  refine ReadsValue.record fun fields fields' h => ?_
  rw [h.required .word64, h.required .word32]

theorem Rollout.readsValue : ReadsValue decoder := by
  refine ReadsValue.record fun fields fields' h => ?_
  rw [h.optional .string, h.required WeightedVariation.readsValue.list]

theorem Rule.readsValue : ReadsValue decoder := by
  refine ReadsValue.record fun fields fields' h => ?_
  rw [h.optional .string, h.withDefault Clause.readsValue.list, h.withDefault .word64,
    h.optional .word32, h.optional Rollout.readsValue]

theorem Prerequisite.readsValue : ReadsValue decoder := by
  refine ReadsValue.record fun fields fields' h => ?_
  rw [h.required .string, h.required .word64]

theorem Variant.readsValue : ReadsValue decoder := by
  refine ReadsValue.record fun fields fields' h => ?_
  rw [h.required .string, h.required FlagValue.readsValue]

theorem Flag.readsValue : ReadsValue decoder := by
  refine ReadsValue.record fun fields fields' h => ?_
  rw [h.required .string, h.required .boolean, h.required FlagValue.readsValue,
    h.withDefault Variant.readsValue.list, h.withDefault Rule.readsValue.list,
    h.withDefault Prerequisite.readsValue.list, h.withDefault FlagType.readsValue]

namespace FlagSet

theorem Entry.readsValue : ReadsValue decoder := by
  intro nesting nesting' document document' h
  rw [decoder, decoder, Flag.readsValue h]
  obtain ⟨value, hread, hread'⟩ := h.exists_value
  rw [hread, hread']

theorem readsValue : ReadsValue decoder := by
  refine ReadsValue.record fun fields fields' h => ?_
  rw [h.required Entry.readsValue.table]

end FlagSet

end FeatureFlags
