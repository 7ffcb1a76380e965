import FeatureFlags.Json.Value
import FeatureFlags.Numeric.Decimal

/-!
Attribute values: what a context says about the entity that a flag is evaluated
for, and what a clause compares it with. Integers are apart from other numbers
so that their text is exact.
-/

namespace FeatureFlags

inductive Attribute where
  | string (s : String)
  | int (n : Int64)
  | number (x : Binary64)
  | bool (b : Bool)
  | list (items : List String)

namespace Attribute

/-- The text that string comparisons and bucketing go by. -/
def toText : Attribute → String
  | .string s => s
  | .int n => toString n.toInt
  | .number x => x.toText
  | .bool b => if b then "true" else "false"
  | .list items => ",".intercalate items

/-- The number, for those attributes that are one. -/
def toNumber? : Attribute → Option Binary64
  | .int n => some (.ofInt n.toInt)
  | .number x => some x
  | _ => none

/-- Equality of the same kind of value, with numbers compared as numbers. -/
def same : Attribute → Attribute → Bool
  | .string s, .string t => s == t
  | .int m, .int n => m == n
  | .number x, .number y => x.same y
  | .bool a, .bool b => a == b
  | .list xs, .list ys => xs == ys
  | _, _ => false

/-- The attribute that a JSON value stands for. An integer beyond 63 bits
becomes the nearest number, and an array has to hold strings only. -/
def ofJson? : Json → Option Attribute
  | .string s => some (.string s)
  | .integer n =>
      match n.toInt64? with
      | some i => some (.int i)
      | none => some (.number n.toBinary64)
  | .float x => some (.number (.finite x))
  | .boolean b => some (.bool b)
  | .array items => (items.mapM Json.string?).map .list
  | .null | .object _ => none

def toJson : Attribute → Json
  | .string s => .string s
  | .int n => .integer (.ofInt64 n)
  | .number x => .ofBinary64 x
  | .bool b => .boolean b
  | .list items => .array (items.map .string)

end Attribute

end FeatureFlags
