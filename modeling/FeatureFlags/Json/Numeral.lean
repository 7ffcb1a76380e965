import FeatureFlags.Json.Value
import FeatureFlags.Numeric.Decimal

/-!
Numbers as they are written, and how they are read. A number without a fraction
and an exponent is an integer if it fits in 64 bits.

Every other number is read in two parts, each rounded on its own: a significand
of at most 64 bits, and the power of ten that it is multiplied or divided by.
The result is close to the number that is written and need not be the nearest
one, so this is not `Decimal.round`.
-/

namespace FeatureFlags.Json

open Binary64 (Format Finite)

/-- A number as it is written: the digits in front of the point, those behind
it, of which there are none where there is no point, and the exponent. -/
structure Numeral where
  negative : Bool
  whole : List Nat
  fraction : List Nat
  power : Option Int
deriving DecidableEq

/-- Takes digits up as long as the number that they spell fits in 64 bits, and
gives the number and the digits that are left. -/
def takeUp (significand : Nat) : List Nat → Nat × List Nat
  | [] => (significand, [])
  | digit :: rest =>
      if 10 * significand + digit < UInt64.size then takeUp (10 * significand + digit) rest
      else (significand, digit :: rest)

namespace Numeral

/-- The integer that a number without fraction and exponent writes. A written
`-0` is a float, because no integer has a signed zero. -/
def integer? (n : Numeral) : Option Integer :=
  if n.fraction.isEmpty && n.power.isNone then
    let size := Decimal.ofDigits n.whole
    if n.negative then if size = 0 then none else Integer.ofInt? (-size)
    else Integer.ofInt? size
  else none

/-- The significand and the power of ten that goes with it. Digits in front of
the point that are too many count as zeros, and digits behind it are left out
from the first one that is too many. -/
def scaled (n : Numeral) : Nat × Int :=
  let (whole, beyond) := takeUp 0 n.whole
  let (significand, dropped) := takeUp whole n.fraction
  let places : Int := n.fraction.length - dropped.length
  (significand, beyond.length - places + n.power.getD 0)

/-- The highest power of ten that is a binary64 number. -/
def maxPower : Nat := 308

/-- The binary64 number nearest to a power of ten, in units. -/
def tenTo (power : Nat) : Nat :=
  Format.binary64.roundUnits (Nat.pow 10 power * Binary64.one) 1

/-- A magnitude, in units, divided by a power of ten: by the highest one so
many times, unless nothing is left before, and then by the rest. -/
def lower (negative : Bool) (units power : Nat) : Nat → Binary64
  | 0 => Format.binary64.round negative (units * Binary64.one) (tenTo power)
  | times + 1 =>
      if units = 0 then .finite (Binary64.zero negative)
      else
        lower negative (Format.binary64.roundUnits (units * Binary64.one) (tenTo maxPower))
          (power - maxPower) times

/-- A magnitude, in units, multiplied or divided by a power of ten. -/
def scale (negative : Bool) (units : Nat) : Int → Binary64
  | .ofNat power =>
      if units = 0 then .finite (Binary64.zero negative)
      else if maxPower < power then .infinite negative
      else Format.binary64.round negative (units * tenTo power) Binary64.one
  | .negSucc power => lower negative units (power + 1) (power / maxPower)

/-- The float that a number is read as. A number too large for one is read as
none. -/
def float? (n : Numeral) : Option Finite :=
  let (significand, power) := n.scaled
  match scale n.negative (Format.binary64.roundUnits (significand * Binary64.one) 1) power with
  | .finite x => some x
  | _ => none

end Numeral

end FeatureFlags.Json
