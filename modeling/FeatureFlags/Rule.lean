import FeatureFlags.Bucket
import FeatureFlags.Clause

/-!
What a rule decides for a context. All clauses of the rule have to be
satisfied. Then a rollout chooses a variation by weights; without a rollout the
percentage lets a part of the contexts pass, and these get the rule's own
variation.
-/

namespace FeatureFlags

/-- What a rule says about a context. -/
inductive RuleOutcome where
  /-- The rule serves a variation. -/
  | served (variation : UInt64) (inExperiment : Bool)
  /-- The clauses are satisfied, but the percentage leaves the context out. -/
  | outsidePercentage
  | notMatched
deriving DecidableEq

namespace Rollout

/-- The first variation whose weight, added to those before it, exceeds the
bucket. -/
def variationFrom (bucket : UInt64) (sum : UInt64) : List WeightedVariation → Option UInt64
  | [] => none
  | entry :: rest =>
      let sum := sum + entry.weight.toUInt64
      if bucket < sum then some entry.variation else variationFrom bucket sum rest

/-- The variation of a bucket. Where the weights do not reach, the first entry
takes over; without entries there is no variation. -/
def variationForBucket (rollout : Rollout) (bucket : UInt32) : Option UInt64 :=
  match rollout.variations with
  | [] => none
  | first :: rest =>
      some ((variationFrom bucket.toUInt64 0 (first :: rest)).getD first.variation)

/-- The variation that a rollout selects for a context. -/
def select (rollout : Rollout) (bucketer : Bucketer) (context : Context) (flagKey : String) :
    Option UInt64 :=
  rollout.variationForBucket (bucket bucketer context (rollout.bucketBy.getD "") flagKey)

end Rollout

namespace Rule

/-- Whether a context satisfies all clauses. -/
def accepts (rule : Rule) (context : Context) : Bool :=
  rule.clauses.all (·.accepts context)

/-- Whether a percentage lets a context pass. A hundredth is a thousand
buckets. -/
def passesPercentage (percentage : Option UInt32) (bucket : UInt32) : Bool :=
  match percentage with
  | none => true
  | some percentage => bucket / 1000 < percentage

/-- The decision for a context that satisfies the clauses. A rollout without
entries is passed over. -/
def decide (rule : Rule) (bucketer : Bucketer) (context : Context) (flagKey : String) :
    RuleOutcome :=
  match rule.rollout with
  | some rollout =>
      match rollout.select bucketer context flagKey with
      | some variation => .served variation true
      | none => .notMatched
  | none =>
      if passesPercentage rule.percentage (bucket bucketer context "key" flagKey) then
        .served rule.variation false
      else .outsidePercentage

def outcome (rule : Rule) (bucketer : Bucketer) (context : Context) (flagKey : String) :
    RuleOutcome :=
  if rule.accepts context then rule.decide bucketer context flagKey else .notMatched

end Rule

end FeatureFlags
