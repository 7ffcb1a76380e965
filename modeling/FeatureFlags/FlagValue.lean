import FeatureFlags.Json.Value

/-!
The values that flags are resolved to, and their conversions to the types that
callers ask for. A value that is none of the simple kinds is a JSON value, and
the conversions look into one in the same way as at a simple value.
-/

namespace FeatureFlags

inductive FlagValue where
  | bool (b : Bool)
  | int (n : Int64)
  | float (x : Binary64)
  | string (s : String)
  | json (value : Json)

namespace FlagValue

/-- The integer of a number without a fractional part that is in range. -/
def wholeNumber? : Binary64 → Option Int64
  | .finite x =>
      x.toInt?.bind fun n =>
        if -0x8000000000000000 ≤ n ∧ n < 0x8000000000000000 then some (Int64.ofInt n) else none
  | _ => none

def asBool : FlagValue → Option Bool
  | .bool b => some b
  | .json (.boolean b) => some b
  | _ => none

def asString : FlagValue → Option String
  | .string s => some s
  | .json (.string s) => some s
  | _ => none

def asInt : FlagValue → Option Int64
  | .int n => some n
  | .float x => wholeNumber? x
  | .json (.integer n) => n.toInt64?.or (wholeNumber? n.toBinary64)
  | .json (.float x) => wholeNumber? (.finite x)
  | _ => none

def asFloat : FlagValue → Option Binary64
  | .float x => some x
  | .int n => some (.ofInt n.toInt)
  | .json (.integer n) => some n.toBinary64
  | .json (.float x) => some (.finite x)
  | _ => none

/-- The JSON value of a flag value. Only numbers that are not finite have
none. -/
def asJson : FlagValue → Option Json
  | .bool b => some (.boolean b)
  | .int n => some (.integer (.ofInt64 n))
  | .float (.finite x) => some (.float x)
  | .float _ => none
  | .string s => some (.string s)
  | .json value => some value

/-- The flag value that a JSON value stands for. An integer beyond 63 bits
becomes the nearest number. -/
def ofJson : Json → FlagValue
  | .boolean b => .bool b
  | .integer n =>
      match n.toInt64? with
      | some i => .int i
      | none => .float n.toBinary64
  | .float x => .float (.finite x)
  | .string s => .string s
  | value => .json value

/-- The written form, in which numbers that are not finite are `null`. -/
def toJson (value : FlagValue) : Json :=
  .ofOption value.asJson

end FlagValue

end FeatureFlags
