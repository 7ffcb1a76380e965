import FeatureFlags.Flag
import FeatureFlags.Context.Document

/-!
The written form of flags. A flag needs its key, its state and its default
value, and everything else may be left out. What is written names every member,
absent ones with `null`.
-/

namespace FeatureFlags

open Json (Decoder Fields)

def FlagValue.decoder : Decoder FlagValue := fun nesting document =>
  (document.toJson? nesting).map FlagValue.ofJson

namespace Operator

def name : Operator → String
  | .eq => "eq"
  | .neq => "neq"
  | .contains => "contains"
  | .startsWith => "startsWith"
  | .endsWith => "endsWith"
  | .isIn => "in"
  | .notIn => "notIn"
  | .gt => "gt"
  | .gte => "gte"
  | .lt => "lt"
  | .lte => "lte"
  | .matches => "matches"
  | .semverEq => "semverEq"
  | .semverGt => "semverGt"
  | .semverLt => "semverLt"

def all : List Operator :=
  [.eq, .neq, .contains, .startsWith, .endsWith, .isIn, .notIn, .gt, .gte, .lt, .lte, .matches,
    .semverEq, .semverGt, .semverLt]

def ofName? (text : String) : Option Operator :=
  all.find? (·.name == text)

def decoder : Decoder Operator := .choice ofName?

end Operator

namespace FlagType

def name : FlagType → String
  | .bool => "bool"
  | .string => "string"
  | .int => "int"
  | .float => "float"
  | .json => "json"

def all : List FlagType := [.bool, .string, .int, .float, .json]

def ofName? (text : String) : Option FlagType :=
  all.find? (·.name == text)

def decoder : Decoder FlagType := .choice ofName?

end FlagType

namespace Clause

def members : List String := ["attribute", "operator", "values", "negate"]

def decoder : Decoder Clause := fun nesting document => do
  let fields ← Fields.ofDocument? members nesting document
  return {
    attributeName := ← fields.required "attribute" .string
    operator := ← fields.required "operator" Operator.decoder
    values := ← fields.required "values" (.list Attribute.decoder)
    negate := ← fields.withDefault "negate" .boolean false }

def toJson (clause : Clause) : Json :=
  .ofMembers [
    ("attribute", .string clause.attributeName),
    ("operator", .string clause.operator.name),
    ("values", .array (clause.values.map (·.toJson))),
    ("negate", .boolean clause.negate)]

end Clause

namespace WeightedVariation

def members : List String := ["variation", "weight"]

def decoder : Decoder WeightedVariation := fun nesting document => do
  let fields ← Fields.ofDocument? members nesting document
  return {
    variation := ← fields.required "variation" .word64
    weight := ← fields.required "weight" .word32 }

def toJson (entry : WeightedVariation) : Json :=
  .ofMembers [("variation", .ofUInt64 entry.variation), ("weight", .ofUInt32 entry.weight)]

end WeightedVariation

namespace Rollout

def members : List String := ["bucketBy", "variations"]

def decoder : Decoder Rollout := fun nesting document => do
  let fields ← Fields.ofDocument? members nesting document
  return {
    bucketBy := ← fields.optional "bucketBy" .string
    variations := ← fields.required "variations" (.list WeightedVariation.decoder) }

def toJson (rollout : Rollout) : Json :=
  .ofMembers [
    ("bucketBy", .ofOption (rollout.bucketBy.map .string)),
    ("variations", .array (rollout.variations.map (·.toJson)))]

end Rollout

namespace Rule

def members : List String := ["id", "clauses", "variation", "percentage", "rollout"]

def decoder : Decoder Rule := fun nesting document => do
  let fields ← Fields.ofDocument? members nesting document
  return {
    id := ← fields.optional "id" .string
    clauses := ← fields.withDefault "clauses" (.list Clause.decoder) []
    variation := ← fields.withDefault "variation" .word64 0
    percentage := ← fields.optional "percentage" .word32
    rollout := ← fields.optional "rollout" Rollout.decoder }

def toJson (rule : Rule) : Json :=
  .ofMembers [
    ("id", .ofOption (rule.id.map .string)),
    ("clauses", .array (rule.clauses.map (·.toJson))),
    ("variation", .ofUInt64 rule.variation),
    ("percentage", .ofOption (rule.percentage.map .ofUInt32)),
    ("rollout", .ofOption (rule.rollout.map (·.toJson)))]

end Rule

namespace Prerequisite

def members : List String := ["key", "variation"]

def decoder : Decoder Prerequisite := fun nesting document => do
  let fields ← Fields.ofDocument? members nesting document
  return {
    key := ← fields.required "key" .string
    variation := ← fields.required "variation" .word64 }

def toJson (prerequisite : Prerequisite) : Json :=
  .ofMembers [
    ("key", .string prerequisite.key),
    ("variation", .ofUInt64 prerequisite.variation)]

end Prerequisite

namespace Variant

def members : List String := ["name", "value"]

def decoder : Decoder Variant := fun nesting document => do
  let fields ← Fields.ofDocument? members nesting document
  return {
    name := ← fields.required "name" .string
    value := ← fields.required "value" FlagValue.decoder }

def toJson (variant : Variant) : Json :=
  .ofMembers [("name", .string variant.name), ("value", variant.value.toJson)]

end Variant

namespace Flag

def members : List String :=
  ["key", "enabled", "defaultValue", "variants", "rules", "prerequisites", "type"]

def decoder : Decoder Flag := fun nesting document => do
  let fields ← Fields.ofDocument? members nesting document
  return {
    key := ← fields.required "key" .string
    enabled := ← fields.required "enabled" .boolean
    defaultValue := ← fields.required "defaultValue" FlagValue.decoder
    variants := ← fields.withDefault "variants" (.list Variant.decoder) []
    rules := ← fields.withDefault "rules" (.list Rule.decoder) []
    prerequisites := ← fields.withDefault "prerequisites" (.list Prerequisite.decoder) []
    flagType := ← fields.withDefault "type" FlagType.decoder .bool }

def toJson (flag : Flag) : Json :=
  .ofMembers [
    ("key", .string flag.key),
    ("enabled", .boolean flag.enabled),
    ("defaultValue", flag.defaultValue.toJson),
    ("variants", .array (flag.variants.map (·.toJson))),
    ("rules", .array (flag.rules.map (·.toJson))),
    ("prerequisites", .array (flag.prerequisites.map (·.toJson))),
    ("type", .string flag.flagType.name)]

end Flag

end FeatureFlags
