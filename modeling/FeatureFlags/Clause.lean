import FeatureFlags.Context
import FeatureFlags.Flag
import FeatureFlags.Pattern
import FeatureFlags.Version

/-!
When a clause holds for a context. An operator compares the attribute with one
value, or says nothing where it cannot compare them: texts that are not
numbers, patterns and versions that cannot be read. A clause holds if some
comparison does, and never holds for an absent attribute or without values; a
negated clause is the exact opposite.
-/

namespace FeatureFlags

/-- Whether a text occurs within another. -/
def occursIn (part : List Char) : List Char → Bool
  | [] => part.isEmpty
  | c :: rest => part.isPrefixOf (c :: rest) || occursIn part rest

/-- The order of two numbers. Two integers are compared as such, and otherwise
both are compared as binary64 numbers. -/
def Attribute.compare? : Attribute → Attribute → Option Ordering
  | .int m, .int n => some (compare m.toInt n.toInt)
  | left, right => do
      let x ← left.toNumber?
      let y ← right.toNumber?
      x.compare? y

/-- Whether an attribute contains a text: a list as one of its items, and
anything else within its text. -/
def Attribute.contains (subject : Attribute) (text : String) : Bool :=
  match subject with
  | .list items => items.contains text
  | _ => occursIn text.toList subject.toText.toList

/-- The order of the versions that two attributes spell. -/
def Attribute.compareVersions? (left right : Attribute) : Option Ordering := do
  let v ← Version.ofText? left.toText
  let w ← Version.ofText? right.toText
  return v.compare w

namespace Operator

/-- Compares an attribute with one value. The answer is absent if the operator
cannot compare the two, and for `notIn`, which has no meaning for one value. -/
def compare? (operator : Operator) (subject value : Attribute) : Option Bool :=
  match operator with
  | .eq | .isIn => some (subject.toText == value.toText)
  | .neq => some (subject.toText != value.toText)
  | .notIn => none
  | .contains => some (subject.contains value.toText)
  | .startsWith => some (value.toText.toList.isPrefixOf subject.toText.toList)
  | .endsWith => some (value.toText.toList.isSuffixOf subject.toText.toList)
  | .gt => (subject.compare? value).map (· == .gt)
  | .gte => (subject.compare? value).map (· != .lt)
  | .lt => (subject.compare? value).map (· == .lt)
  | .lte => (subject.compare? value).map (· != .gt)
  | .matches => Pattern.isMatch? value.toText subject.toText
  | .semverEq => (subject.compareVersions? value).map (· == .eq)
  | .semverGt => (subject.compareVersions? value).map (· == .gt)
  | .semverLt => (subject.compareVersions? value).map (· == .lt)

/-- Whether a comparison holds for any of the values. -/
def holdsForAny (operator : Operator) (subject : Attribute) (values : List Attribute) : Bool :=
  values.any fun value => (operator.compare? subject value).getD false

/-- Whether the operator holds for an attribute and values. Not to be among the
values is the opposite of being among them, for all values at once. -/
def holds (operator : Operator) (subject : Attribute) (values : List Attribute) : Bool :=
  match operator with
  | .notIn => !holdsForAny .isIn subject values
  | operator => holdsForAny operator subject values

end Operator

/-- Whether a clause holds, leaving negation aside. -/
def Clause.holds (clause : Clause) (context : Context) : Bool :=
  match context.resolve clause.attributeName with
  | none => false
  | some subject => !clause.values.isEmpty && clause.operator.holds subject clause.values

/-- Whether a context satisfies a clause. -/
def Clause.accepts (clause : Clause) (context : Context) : Bool :=
  clause.holds context != clause.negate

end FeatureFlags
