/-!
The errors of evaluating flags. A disabled flag, an unmet prerequisite and
rules that do not match are no errors; an evaluation tells of them by its
reason.
-/

namespace FeatureFlags

inductive FlagError where
  /-- There is no flag under the key. -/
  | flagNotFound (key : String)
  /-- The client has no store. -/
  | noStore
  /-- A flag depends on itself. The chain ends with the key that it has twice. -/
  | cyclicPrerequisite (chain : List String)
  /-- A chain of prerequisites is too long at the flag of this key. -/
  | depthExceeded (key : String) (maxDepth : UInt64)
  /-- A document is no flag set. -/
  | invalidFlagSet
deriving DecidableEq

namespace FlagError

/-- Whether the error ends the whole evaluation. Other errors of a prerequisite
only make it unmet. -/
def isFatal : FlagError → Bool
  | .cyclicPrerequisite _ | .depthExceeded _ _ => true
  | .flagNotFound _ | .noStore | .invalidFlagSet => false

def message : FlagError → String
  | .flagNotFound key => "flag not found: " ++ key
  | .noStore => "flag store is not configured"
  | .cyclicPrerequisite chain => "cyclic prerequisite: " ++ " -> ".intercalate chain
  | .depthExceeded key maxDepth =>
      "prerequisite chain for " ++ key ++ " exceeds maximum depth of " ++
        toString maxDepth.toNat
  | .invalidFlagSet => "invalid flag set"

end FlagError

end FeatureFlags
