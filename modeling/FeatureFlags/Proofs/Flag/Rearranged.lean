import FeatureFlags.Flag.Document
import FeatureFlags.Proofs.Json.Rearranged

/-!
Flags and contexts rearranged: in the object of a flag and in those of its variants,
rules, clauses, rollouts, weighted variations and prerequisites, and in the object of
a context. The values of flags, variants and attributes and the custom attributes of
a context are left as they are, and so are the objects that name an operator or a
type.
-/

namespace FeatureFlags

open Json (Admission Change Ignores KeepsReadable readable)

/-! ### The changes -/

section Changes

variable (admitted : Admission)

def Clause.Rearranged : Change := .record members [] admitted

def WeightedVariation.Rearranged : Change := .record members [] admitted

def Rollout.Rearranged : Change :=
  .record members [("variations", .list (WeightedVariation.Rearranged admitted))] admitted

def Rule.Rearranged : Change :=
  .record members
    [("clauses", .list (Clause.Rearranged admitted)), ("rollout", Rollout.Rearranged admitted)]
    admitted

def Prerequisite.Rearranged : Change := .record members [] admitted

def Variant.Rearranged : Change := .record members [] admitted

def Flag.Rearranged : Change :=
  .record members
    [("variants", .list (Variant.Rearranged admitted)),
      ("rules", .list (Rule.Rearranged admitted)),
      ("prerequisites", .list (Prerequisite.Rearranged admitted))]
    admitted

def Context.Rearranged : Change := .record members [] admitted

end Changes

/-! ### What is read of them -/

section Ignores

variable (admitted : Admission)

theorem Clause.ignores : Ignores decoder (Rearranged admitted) := by
  refine Ignores.record fun fields fields' h => ?_
  rw [h.required "attribute" (.same _), h.required "operator" (.same _),
    h.required "values" (.same _), h.withDefault "negate" (.same _)]

theorem WeightedVariation.ignores : Ignores decoder (Rearranged admitted) := by
  refine Ignores.record fun fields fields' h => ?_
  rw [h.required "variation" (.same _), h.required "weight" (.same _)]

theorem Rollout.ignores : Ignores decoder (Rearranged admitted) := by
  refine Ignores.record fun fields fields' h => ?_
  rw [h.optional "bucketBy" (.same _),
    h.required "variations" (WeightedVariation.ignores admitted).list.orSame]

theorem Rule.ignores : Ignores decoder (Rearranged admitted) := by
  refine Ignores.record fun fields fields' h => ?_
  rw [h.optional "id" (.same _), h.withDefault "clauses" (Clause.ignores admitted).list.orSame,
    h.withDefault "variation" (.same _), h.optional "percentage" (.same _),
    h.optional "rollout" (Rollout.ignores admitted).optional.orSame]

theorem Prerequisite.ignores : Ignores decoder (Rearranged admitted) := by
  refine Ignores.record fun fields fields' h => ?_
  rw [h.required "key" (.same _), h.required "variation" (.same _)]

theorem Variant.ignores : Ignores decoder (Rearranged admitted) := by
  refine Ignores.record fun fields fields' h => ?_
  rw [h.required "name" (.same _), h.required "value" (.same _)]

theorem Flag.ignores : Ignores decoder (Rearranged admitted) := by
  refine Ignores.record fun fields fields' h => ?_
  rw [h.required "key" (.same _), h.required "enabled" (.same _),
    h.required "defaultValue" (.same _),
    h.withDefault "variants" (Variant.ignores admitted).list.orSame,
    h.withDefault "rules" (Rule.ignores admitted).list.orSame,
    h.withDefault "prerequisites" (Prerequisite.ignores admitted).list.orSame,
    h.withDefault "type" (.same _)]

theorem Context.ignores : Ignores decoder (Rearranged admitted) := by
  refine Ignores.record fun fields fields' h => ?_
  rw [h.required "key" (.same _), h.optional "name" (.same _), h.optional "email" (.same _),
    h.optional "ip" (.same _), h.optional "country" (.same _),
    h.withDefault "anonymous" (.same _), h.withDefault "groups" (.same _),
    h.withDefault "custom" (.same _)]

end Ignores

/-! ### The values that they have -/

theorem Rule.keepsReadable : KeepsReadable (Rearranged readable) := by
  have hclause : KeepsReadable (Clause.Rearranged readable) := .record (List.forall_mem_nil _)
  have hentry : KeepsReadable (WeightedVariation.Rearranged readable) :=
    .record (List.forall_mem_nil _)
  have hrollout : KeepsReadable (Rollout.Rearranged readable) :=
    .record (List.forall_mem_singleton.mpr hentry.list)
  refine .record ?_
  simp only [List.forall_mem_cons]
  exact ⟨hclause.list, hrollout, List.forall_mem_nil _⟩

theorem Flag.keepsReadable : KeepsReadable (Rearranged readable) := by
  have hvariant : KeepsReadable (Variant.Rearranged readable) := .record (List.forall_mem_nil _)
  have hprerequisite : KeepsReadable (Prerequisite.Rearranged readable) :=
    .record (List.forall_mem_nil _)
  refine .record ?_
  simp only [List.forall_mem_cons]
  exact ⟨hvariant.list, Rule.keepsReadable.list, hprerequisite.list, List.forall_mem_nil _⟩

end FeatureFlags
