import FeatureFlags.Attribute
import FeatureFlags.FlagValue

/-!
Feature flags and what they are made of. A flag has variants to choose from and
rules that choose among them; a rule has clauses that say for which contexts it
stands, and shares out those contexts by a percentage or by weights.
-/

namespace FeatureFlags

/-- How a clause compares an attribute with a value. -/
inductive Operator where
  | eq
  | neq
  | contains
  | startsWith
  | endsWith
  | isIn
  | notIn
  | gt
  | gte
  | lt
  | lte
  | matches
  | semverEq
  | semverGt
  | semverLt
deriving DecidableEq

/-- A comparison of one attribute. It holds if it holds for any of the values. -/
structure Clause where
  attributeName : String
  operator : Operator
  values : List Attribute
  negate : Bool := false

/-- A share of the buckets for a variation. -/
structure WeightedVariation where
  variation : UInt64
  weight : UInt32
deriving DecidableEq

/-- Shares of the buckets, in order. -/
structure Rollout where
  /-- The attribute to bucket by; the context's key if there is none. -/
  bucketBy : Option String := none
  variations : List WeightedVariation
deriving DecidableEq

structure Rule where
  id : Option String := none
  /-- All have to hold. -/
  clauses : List Clause := []
  variation : UInt64 := 0
  /-- The part of the contexts, of 100, that the rule serves. -/
  percentage : Option UInt32 := none
  /-- Takes the place of the variation and the percentage. -/
  rollout : Option Rollout := none

/-- Another flag that has to resolve to a certain variation. -/
structure Prerequisite where
  key : String
  variation : UInt64
deriving DecidableEq

structure Variant where
  name : String
  value : FlagValue

/-- The kind of a flag's values. It is informational; nothing enforces it. -/
inductive FlagType where
  | bool
  | string
  | int
  | float
  | json
deriving DecidableEq

structure Flag where
  key : String
  enabled : Bool
  /-- Served when the flag is off, when a prerequisite fails, when no rule
  decides, and in place of a variant that does not exist. -/
  defaultValue : FlagValue
  variants : List Variant := []
  /-- The first rule that decides is the one that counts. -/
  rules : List Rule := []
  prerequisites : List Prerequisite := []
  flagType : FlagType := .bool

/-- The value of a variant, or the default value if there is no such variant. -/
def Flag.variantValue (flag : Flag) (index : UInt64) : FlagValue :=
  match flag.variants[index.toNat]? with
  | some variant => variant.value
  | none => flag.defaultValue

end FeatureFlags
