import FeatureFlags.Unicode.Age
import FeatureFlags.Unicode.Segmentation

/-!
Sets of code points by the names that patterns use for them. Names are compared
loosely: capitals, blanks, hyphens, underscores and a leading "is" make no
difference.
-/

namespace FeatureFlags.Unicode

/-- A name without what makes no difference. A name that is left with a single
"c" after its "is" keeps both, for it means something else than "c" does. -/
def looseName (name : String) : String :=
  let small (c : Char) : Option Char :=
    if c = ' ' ∨ c = '_' ∨ c = '-' ∨ 128 ≤ c.toNat then none else some c.toLower
  match name.toList with
  | i :: s :: rest =>
      if (i = 'i' ∨ i = 'I') ∧ (s = 's' ∨ s = 'S') then
        let short := rest.filterMap small
        if short = ['c'] then "isc" else String.ofList short
      else String.ofList ((i :: s :: rest).filterMap small)
  | text => String.ofList (text.filterMap small)

/-- The set of a name: a property, a category or a script. -/
def named? (name : String) : Option CharSet :=
  let name := looseName name
  (property? name).or ((category? name).or (script? name))

/-- The set of a value of one of the properties that have several. -/
def valued? (property value : String) : Option CharSet :=
  let value := looseName value
  match looseName property with
  | "gc" | "generalcategory" => category? value
  | "sc" | "script" => script? value
  | "scx" | "scriptextensions" => scriptExtension? value
  | "age" => age? value
  | "gcb" | "graphemeclusterbreak" => graphemeBreak? value
  | "wb" | "wordbreak" => wordBreak? value
  | "sb" | "sentencebreak" => sentenceBreak? value
  | _ => none

end FeatureFlags.Unicode
