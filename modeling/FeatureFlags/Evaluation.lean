import FeatureFlags.Flag

/-!
Evaluations: the value that a flag resolves to for a context, and why.
-/

namespace FeatureFlags

/-- Why a flag resolved to its value. -/
inductive Reason where
  /-- No rule decided, and the default value is served. -/
  | fallthrough
  /-- The value of an override is served. -/
  | targetMatch
  | ruleMatch
  /-- A prerequisite did not resolve to the variation it has to. -/
  | prerequisiteFailed
  /-- The flag is disabled. -/
  | off
  /-- The evaluation failed, and a default of the caller is served. -/
  | error
deriving DecidableEq

structure Evaluation where
  key : String
  value : FlagValue
  /-- The variant that is served. There is none for a default or an override. -/
  variationIndex : Option UInt64 := none
  reason : Reason
  ruleId : Option String := none
  /-- Whether the weights of a rollout selected the variation. -/
  inExperiment : Bool := false
  prerequisiteFailed : Bool := false
  /-- The prerequisite that failed. -/
  prerequisiteKey : Option String := none

namespace Evaluation

/-- A flag's default value. -/
def ofDefault (flag : Flag) (reason : Reason) : Evaluation where
  key := flag.key
  value := flag.defaultValue
  reason

/-- The default value of a flag with an unmet prerequisite. -/
def ofUnmetPrerequisite (flag : Flag) (prerequisiteKey : String) : Evaluation :=
  { ofDefault flag .prerequisiteFailed with
    prerequisiteFailed := true
    prerequisiteKey := some prerequisiteKey }

/-- The variation that a rule serves. A variation that the flag does not have
gives the default value and no index. -/
def ofRule (flag : Flag) (rule : Rule) (variation : UInt64) (inExperiment : Bool) :
    Evaluation where
  key := flag.key
  value := flag.variantValue variation
  variationIndex := if variation.toNat < flag.variants.length then some variation else none
  reason := .ruleMatch
  ruleId := rule.id
  inExperiment

/-- The value of an override. -/
def ofOverride (key : String) (value : FlagValue) : Evaluation where
  key
  value
  reason := .targetMatch

/-- A default that takes the place of a failed evaluation. -/
def ofError (key : String) (default : FlagValue) : Evaluation where
  key
  value := default
  reason := .error

end Evaluation

end FeatureFlags
