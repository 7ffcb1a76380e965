import FeatureFlags.Pattern.Meaning
import FeatureFlags.Pattern.Reading
import FeatureFlags.Pattern.Size

/-!
Patterns that a text may match in some part. A pattern is valid if it can be
read, means something, and is not too large.
-/

namespace FeatureFlags.Pattern

/-- The matcher of a valid pattern. -/
def compile? (pattern : String) : Option (Matcher Atom) := do
  let form ← Form.ofText? pattern.toList
  let matcher ← form.matcher?
  if matcher.size false ≤ sizeLimit then some matcher else none

/-- Whether some part of a text matches a pattern, if the pattern is valid. -/
def isMatch? (pattern text : String) : Option Bool :=
  (compile? pattern).map fun matcher => matcher.occursIn text.toList

end FeatureFlags.Pattern
