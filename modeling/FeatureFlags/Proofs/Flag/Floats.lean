import FeatureFlags.Proofs.Flag.Document
import FeatureFlags.Proofs.Json.Floats

/-!
Flags with other floats. The written form of such a flag is that of the flag,
with other floats in it. Whether a document is read as a flag does not depend on
its floats, because nothing in a flag asks for more than a number.
-/

namespace FeatureFlags

open Json (AcceptsAnyFloats isSome_bind_congr)

variable {f : Binary64.Finite → Binary64.Finite}

/-- The number, or another one if it is finite. -/
def Binary64.mapFinite (f : Finite → Finite) : Binary64 → Binary64
  | .finite x => .finite (f x)
  | x => x

theorem Json.mapFloats_ofBinary64 (x : Binary64) :
    (ofBinary64 x).mapFloats f = ofBinary64 (x.mapFinite f) := by
  cases x <;> simp only [ofBinary64, Binary64.mapFinite, mapFloats]

theorem Json.mapFloats_ofUInt64 (n : UInt64) : (ofUInt64 n).mapFloats f = ofUInt64 n := by
  rw [ofUInt64, mapFloats]

theorem Json.mapFloats_ofUInt32 (n : UInt32) : (ofUInt32 n).mapFloats f = ofUInt32 n :=
  mapFloats_ofUInt64 _

namespace Attribute

/-- The attribute with another number if it is one. -/
def mapFloats (f : Binary64.Finite → Binary64.Finite) : Attribute → Attribute
  | .number x => .number (x.mapFinite f)
  | subject => subject

theorem toJson_mapFloats (subject : Attribute) :
    (subject.mapFloats f).toJson = subject.toJson.mapFloats f := by
  cases subject with
  | number x => exact (Json.mapFloats_ofBinary64 x).symm
  | list items =>
      show Json.array (items.map .string) = (Json.array (items.map .string)).mapFloats f
      rw [Json.mapFloats_array_map]
      simp only [Json.mapFloats]
  | _ => simp only [mapFloats, toJson, Json.mapFloats]

theorem Plain.mapFloats {subject : Attribute} (h : subject.Plain) :
    (subject.mapFloats f).Plain := by
  cases h with
  | string s => exact .string s
  | int n => exact .int n
  | number x => exact .number (f x)
  | bool b => exact .bool b
  | list items => exact .list items

theorem string?_mapFloats (value : Json) :
    (value.mapFloats f).string? = value.string?.map id := by
  cases value <;> simp only [Json.mapFloats, Json.string?, Option.map_none, Option.map_some, id]

theorem isSome_ofJson?_mapFloats (value : Json) :
    (ofJson? (value.mapFloats f)).isSome = (ofJson? value).isSome := by
  cases value with
  | array items =>
      have hitems : (items.map (Json.mapFloats f)).mapM Json.string? = items.mapM Json.string? := by
        rw [Json.mapM_map_eq_map fun item _ => string?_mapFloats item, List.map_id_fun,
          Option.map_id_fun]
        rfl
      rw [Json.mapFloats_array, ofJson?, ofJson?, hitems]
  | _ => simp only [Json.mapFloats, ofJson?, Option.isSome_some]

theorem acceptsAnyFloats : AcceptsAnyFloats decoder := by
  intro f nesting document
  rw [decoder, decoder, Json.toJson?_mapFloats]
  cases document.toJson? nesting with
  | none => rfl
  | some value => exact isSome_ofJson?_mapFloats value

end Attribute

namespace FlagValue

/-- The flag value with other floats, also within a JSON value. -/
def mapFloats (f : Binary64.Finite → Binary64.Finite) : FlagValue → FlagValue
  | .float x => .float (x.mapFinite f)
  | .json value => .json (value.mapFloats f)
  | value => value

theorem toJson_mapFloats (value : FlagValue) :
    (value.mapFloats f).toJson = value.toJson.mapFloats f := by
  rw [toJson, toJson, Json.mapFloats_ofOption]
  cases value with
  | float x =>
      cases x <;> simp only [mapFloats, Binary64.mapFinite, asJson, Option.map_some,
        Option.map_none, Json.mapFloats]
  | _ => simp only [mapFloats, asJson, Option.map_some, Json.mapFloats]

theorem Plain.mapFloats {value : FlagValue} (h : value.Plain) : (value.mapFloats f).Plain := by
  cases h with
  | bool b => exact .bool b
  | int n => exact .int n
  | float x => exact .float (f x)
  | string s => exact .string s
  | null =>
      rw [FlagValue.mapFloats, Json.mapFloats]
      exact .null
  | array h =>
      have hother := h.mapFloats (f := f)
      rw [Json.mapFloats] at hother
      rw [FlagValue.mapFloats, Json.mapFloats]
      exact .array hother
  | object h =>
      have hother := h.mapFloats (f := f)
      rw [Json.mapFloats] at hother
      rw [FlagValue.mapFloats, Json.mapFloats]
      exact .object hother

theorem acceptsAnyFloats : AcceptsAnyFloats decoder := by
  intro f nesting document
  rw [decoder, decoder, Json.toJson?_mapFloats, Option.isSome_map, Option.isSome_map,
    Option.isSome_map]

end FlagValue

theorem Operator.acceptsAnyFloats : AcceptsAnyFloats decoder := .choice _

theorem FlagType.acceptsAnyFloats : AcceptsAnyFloats decoder := .choice _

namespace Clause

def mapFloats (f : Binary64.Finite → Binary64.Finite) (clause : Clause) : Clause :=
  { clause with values := clause.values.map (·.mapFloats f) }

theorem toJson_mapFloats (clause : Clause) :
    (clause.mapFloats f).toJson = clause.toJson.mapFloats f := by
  simp only [toJson, mapFloats, Json.mapFloats_ofMembers, List.map_cons, List.map_nil,
    Json.mapFloats_array_map, List.map_map, Function.comp_def, Attribute.toJson_mapFloats]
  simp only [Json.mapFloats]

theorem Plain.mapFloats {clause : Clause} (h : clause.Plain) : (clause.mapFloats f).Plain :=
  List.forall_mem_map.mpr fun value hmem => (h value hmem).mapFloats

theorem acceptsAnyFloats : AcceptsAnyFloats decoder := by
  refine .record fun f fields => ?_
  refine isSome_bind_congr (AcceptsAnyFloats.string.required fields "attribute") fun _ _ => ?_
  refine isSome_bind_congr (Operator.acceptsAnyFloats.required fields "operator") fun _ _ => ?_
  refine isSome_bind_congr (Attribute.acceptsAnyFloats.list.required fields "values") fun _ _ => ?_
  exact isSome_bind_congr (AcceptsAnyFloats.boolean.withDefault fields "negate" false) fun _ _ => rfl

end Clause

theorem WeightedVariation.mapFloats_toJson (entry : WeightedVariation) :
    entry.toJson.mapFloats f = entry.toJson := by
  simp only [toJson, Json.mapFloats_ofMembers, List.map_cons, List.map_nil,
    Json.mapFloats_ofUInt64, Json.mapFloats_ofUInt32]

theorem WeightedVariation.acceptsAnyFloats : AcceptsAnyFloats decoder := by
  refine .record fun f fields => ?_
  refine isSome_bind_congr (AcceptsAnyFloats.word64.required fields "variation") fun _ _ => ?_
  exact isSome_bind_congr (AcceptsAnyFloats.word32.required fields "weight") fun _ _ => rfl

theorem Rollout.mapFloats_toJson (rollout : Rollout) :
    rollout.toJson.mapFloats f = rollout.toJson := by
  simp only [toJson, Json.mapFloats_ofMembers, List.map_cons, List.map_nil,
    Json.mapFloats_ofOption, Option.map_map, Function.comp_def, Json.mapFloats_array_map,
    WeightedVariation.mapFloats_toJson]
  simp only [Json.mapFloats]

theorem Rollout.acceptsAnyFloats : AcceptsAnyFloats decoder := by
  refine .record fun f fields => ?_
  refine isSome_bind_congr (AcceptsAnyFloats.string.optional.withDefault fields "bucketBy" none)
    fun _ _ => ?_
  exact isSome_bind_congr (WeightedVariation.acceptsAnyFloats.list.required fields "variations")
    fun _ _ => rfl

namespace Rule

def mapFloats (f : Binary64.Finite → Binary64.Finite) (rule : Rule) : Rule :=
  { rule with clauses := rule.clauses.map (·.mapFloats f) }

theorem toJson_mapFloats (rule : Rule) :
    (rule.mapFloats f).toJson = rule.toJson.mapFloats f := by
  simp only [toJson, mapFloats, Json.mapFloats_ofMembers, List.map_cons, List.map_nil,
    Json.mapFloats_array_map, List.map_map, Function.comp_def, Clause.toJson_mapFloats,
    Json.mapFloats_ofOption, Option.map_map, Rollout.mapFloats_toJson, Json.mapFloats_ofUInt64,
    Json.mapFloats_ofUInt32]
  simp only [Json.mapFloats]

theorem Plain.mapFloats {rule : Rule} (h : rule.Plain) : (rule.mapFloats f).Plain :=
  List.forall_mem_map.mpr fun clause hmem => (h clause hmem).mapFloats

theorem acceptsAnyFloats : AcceptsAnyFloats decoder := by
  refine .record fun f fields => ?_
  refine isSome_bind_congr (AcceptsAnyFloats.string.optional.withDefault fields "id" none)
    fun _ _ => ?_
  refine isSome_bind_congr (Clause.acceptsAnyFloats.list.withDefault fields "clauses" [])
    fun _ _ => ?_
  refine isSome_bind_congr (AcceptsAnyFloats.word64.withDefault fields "variation" 0) fun _ _ => ?_
  refine isSome_bind_congr (AcceptsAnyFloats.word32.optional.withDefault fields "percentage" none)
    fun _ _ => ?_
  exact isSome_bind_congr (Rollout.acceptsAnyFloats.optional.withDefault fields "rollout" none)
    fun _ _ => rfl

end Rule

theorem Prerequisite.mapFloats_toJson (prerequisite : Prerequisite) :
    prerequisite.toJson.mapFloats f = prerequisite.toJson := by
  simp only [toJson, Json.mapFloats_ofMembers, List.map_cons, List.map_nil,
    Json.mapFloats_ofUInt64]
  simp only [Json.mapFloats]

theorem Prerequisite.acceptsAnyFloats : AcceptsAnyFloats decoder := by
  refine .record fun f fields => ?_
  refine isSome_bind_congr (AcceptsAnyFloats.string.required fields "key") fun _ _ => ?_
  exact isSome_bind_congr (AcceptsAnyFloats.word64.required fields "variation") fun _ _ => rfl

namespace Variant

def mapFloats (f : Binary64.Finite → Binary64.Finite) (variant : Variant) : Variant :=
  { variant with value := variant.value.mapFloats f }

theorem toJson_mapFloats (variant : Variant) :
    (variant.mapFloats f).toJson = variant.toJson.mapFloats f := by
  simp only [toJson, mapFloats, Json.mapFloats_ofMembers, List.map_cons, List.map_nil,
    FlagValue.toJson_mapFloats]
  simp only [Json.mapFloats]

theorem acceptsAnyFloats : AcceptsAnyFloats decoder := by
  refine .record fun f fields => ?_
  refine isSome_bind_congr (AcceptsAnyFloats.string.required fields "name") fun _ _ => ?_
  exact isSome_bind_congr (FlagValue.acceptsAnyFloats.required fields "value") fun _ _ => rfl

end Variant

namespace Flag

/-- The flag with other floats, in its values and in the values that its clauses
compare with. -/
def mapFloats (f : Binary64.Finite → Binary64.Finite) (flag : Flag) : Flag :=
  { flag with
    defaultValue := flag.defaultValue.mapFloats f
    variants := flag.variants.map (·.mapFloats f)
    rules := flag.rules.map (·.mapFloats f) }

theorem toJson_mapFloats (flag : Flag) :
    (flag.mapFloats f).toJson = flag.toJson.mapFloats f := by
  simp only [toJson, mapFloats, Json.mapFloats_ofMembers, List.map_cons, List.map_nil,
    FlagValue.toJson_mapFloats, Json.mapFloats_array_map, List.map_map, Function.comp_def,
    Variant.toJson_mapFloats, Rule.toJson_mapFloats, Prerequisite.mapFloats_toJson]
  simp only [Json.mapFloats]

theorem Plain.mapFloats {flag : Flag} (h : flag.Plain) : (flag.mapFloats f).Plain where
  defaultValue := h.defaultValue.mapFloats
  variants := List.forall_mem_map.mpr fun variant hmem => (h.variants variant hmem).mapFloats
  rules := List.forall_mem_map.mpr fun rule hmem => (h.rules rule hmem).mapFloats

theorem acceptsAnyFloats : AcceptsAnyFloats decoder := by
  refine .record fun f fields => ?_
  refine isSome_bind_congr (AcceptsAnyFloats.string.required fields "key") fun _ _ => ?_
  refine isSome_bind_congr (AcceptsAnyFloats.boolean.required fields "enabled") fun _ _ => ?_
  refine isSome_bind_congr (FlagValue.acceptsAnyFloats.required fields "defaultValue")
    fun _ _ => ?_
  refine isSome_bind_congr (Variant.acceptsAnyFloats.list.withDefault fields "variants" [])
    fun _ _ => ?_
  refine isSome_bind_congr (Rule.acceptsAnyFloats.list.withDefault fields "rules" [])
    fun _ _ => ?_
  refine isSome_bind_congr
    (Prerequisite.acceptsAnyFloats.list.withDefault fields "prerequisites" []) fun _ _ => ?_
  exact isSome_bind_congr (FlagType.acceptsAnyFloats.withDefault fields "type" .bool) fun _ _ => rfl

/-- A flag with its own floats is itself: both are read from the one written
form. -/
theorem mapFloats_eq_self {flag : Flag} (h : flag.Plain)
    (hfloats : ∀ x ∈ flag.toJson.floats, f x = x) : flag.mapFloats f = flag := by
  have hjson : (flag.mapFloats f).toJson = flag.toJson :=
    (toJson_mapFloats flag).trans (Json.mapFloats_eq_self hfloats)
  have hback := readsBack h.mapFloats flag.toJson.depth (Nat.le_of_eq (congrArg Json.depth hjson))
  rw [hjson, readsBack h flag.toJson.depth (Nat.le_refl _)] at hback
  exact (Option.some.inj hback).symm

end Flag

end FeatureFlags
