import FeatureFlags.Numeric.Binary64
import FeatureFlags.Table

/-!
JSON values as data. A number is an integer of at most 64 bits, signed or
unsigned, or a finite binary64 number, and `1` and `1.0` are different values.
The members of an object stand in ascending order of their names when the
object is built by `Json.ofMembers`, so member order is no part of a value.
-/

namespace FeatureFlags

/-- An integer that fits in 64 bits, signed or unsigned. -/
structure Json.Integer where
  value : Int
  lower : -0x8000000000000000 ≤ value := by decide
  upper : value < 0x10000000000000000 := by decide
deriving DecidableEq

inductive Json where
  | null
  | boolean (b : Bool)
  | integer (n : Json.Integer)
  | float (x : Binary64.Finite)
  | string (s : String)
  | array (items : List Json)
  | object (members : List (String × Json))

namespace Json

/-- The integer `n`, if it fits. -/
def Integer.ofInt? (n : Int) : Option Integer :=
  if h : -0x8000000000000000 ≤ n ∧ n < 0x10000000000000000 then some ⟨n, h.1, h.2⟩ else none

def Integer.ofInt64 (n : Int64) : Integer where
  value := n.toInt
  lower := n.le_toInt
  upper := Int.lt_trans n.toInt_lt (by decide)

def Integer.ofUInt64 (n : UInt64) : Integer where
  value := n.toNat
  lower := Int.le_trans (by decide) (Int.natCast_nonneg _)
  upper := Int.ofNat_lt.2 n.toNat_lt

/-- The integer as a signed word, if it is one. -/
def Integer.toInt64? (n : Integer) : Option Int64 :=
  if n.value < 0x8000000000000000 then some (Int64.ofInt n.value) else none

/-- The integer as an unsigned word, if it is one. -/
def Integer.toUInt64? (n : Integer) : Option UInt64 :=
  if 0 ≤ n.value then some (UInt64.ofNat n.value.toNat) else none

/-- The nearest binary64 number. -/
def Integer.toBinary64 (n : Integer) : Binary64 :=
  .ofInt n.value

/-- The text of a string value. -/
def string? : Json → Option String
  | .string s => some s
  | _ => none

/-- The object of these members; the last value given for a name wins. -/
def ofMembers (members : List (String × Json)) : Json :=
  .object (Table.ofList members).entries

/-- A number as a value; one that is not finite has no form of its own. -/
def ofBinary64 : Binary64 → Json
  | .finite x => .float x
  | _ => .null

def ofUInt64 (n : UInt64) : Json := .integer (.ofUInt64 n)

def ofUInt32 (n : UInt32) : Json := .ofUInt64 n.toUInt64

/-- An absent value is written as `null`. -/
def ofOption (value : Option Json) : Json :=
  value.getD .null

end Json

end FeatureFlags
