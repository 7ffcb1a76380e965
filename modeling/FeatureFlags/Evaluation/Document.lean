import FeatureFlags.Evaluation
import FeatureFlags.Flag.Document

/-!
The written form of an evaluation. The index is always written, as `null` where
there is none; the ids of a rule and of a prerequisite only where they are set.
-/

namespace FeatureFlags

open Json (Decoder Fields)

namespace Reason

def name : Reason → String
  | .fallthrough => "FALLTHROUGH"
  | .targetMatch => "TARGET_MATCH"
  | .ruleMatch => "RULE_MATCH"
  | .prerequisiteFailed => "PREREQUISITE_FAILED"
  | .off => "OFF"
  | .error => "ERROR"

def all : List Reason :=
  [.fallthrough, .targetMatch, .ruleMatch, .prerequisiteFailed, .off, .error]

def ofName? (text : String) : Option Reason :=
  all.find? (·.name == text)

def decoder : Decoder Reason := .choice ofName?

end Reason

namespace Evaluation

def members : List String :=
  ["key", "value", "variationIndex", "reason", "ruleId", "inExperiment", "prerequisiteFailed",
    "prerequisiteKey"]

def decoder : Decoder Evaluation := fun nesting document => do
  let fields ← Fields.ofDocument? members nesting document
  return {
    key := ← fields.required "key" .string
    value := ← fields.required "value" FlagValue.decoder
    variationIndex := ← fields.optionalByName "variationIndex" .word64
    reason := ← fields.required "reason" Reason.decoder
    ruleId := ← fields.optional "ruleId" .string
    inExperiment := ← fields.withDefault "inExperiment" .boolean false
    prerequisiteFailed := ← fields.withDefault "prerequisiteFailed" .boolean false
    prerequisiteKey := ← fields.optional "prerequisiteKey" .string }

def toJson (evaluation : Evaluation) : Json :=
  .ofMembers <|
    [("key", .string evaluation.key),
      ("value", evaluation.value.toJson),
      ("variationIndex", .ofOption (evaluation.variationIndex.map .ofUInt64)),
      ("reason", .string evaluation.reason.name),
      ("inExperiment", .boolean evaluation.inExperiment),
      ("prerequisiteFailed", .boolean evaluation.prerequisiteFailed)] ++
      Context.textMember "ruleId" evaluation.ruleId ++
      Context.textMember "prerequisiteKey" evaluation.prerequisiteKey

end Evaluation

end FeatureFlags
