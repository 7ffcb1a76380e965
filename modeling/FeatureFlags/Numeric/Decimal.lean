import FeatureFlags.Numeric.Binary64

/-!
Decimal numbers and how they meet binary64. `Decimal.round` rounds a decimal
once, exactly, which is how a number given as a text of its own is read. Numbers
inside documents are read less exactly, by `Json.Numeral.float?`.

A binary64 number is written with the fewest digits that round to the same
number: the coarsest power of ten that has a multiple in reach decides their
count, and the nearer multiple decides the digits. Where two are equally near, a
text of its own and a document take different ones.

The written form of a number is positional. It has no exponent and no point
behind a whole number, and zeros fill the places that the digits leave open.
-/

namespace FeatureFlags

/-- The number `± coefficient * 10 ^ exponent`. -/
structure Decimal where
  negative : Bool
  coefficient : Nat
  exponent : Int
deriving DecidableEq

namespace Decimal

open Binary64 (Format Finite)

/-- The number that a run of digits spells. -/
def ofDigits (digits : List Nat) : Nat :=
  digits.foldl (fun value digit => 10 * value + digit) 0

/-- The digits of a number, without a zero to spare. -/
def digits (n : Nat) : List Nat :=
  (Nat.toDigits 10 n).map fun c => c.toNat - '0'.toNat

/-- The magnitude in binary64 units, as a fraction. -/
def unitFraction (coefficient : Nat) : Int → Nat × Nat
  | .ofNat e => (coefficient * Nat.pow 10 e * Binary64.one, 1)
  | .negSucc e => (coefficient * Binary64.one, Nat.pow 10 (e + 1))

/-- The nearest number of a format. A magnitude whose first digit stands
beyond the 400th place on either side is out of every format's range, so its
digits are not looked at. -/
def round (format : Format) (d : Decimal) : Binary64 :=
  let size : Int := (Nat.toDigits 10 d.coefficient).length + d.exponent
  if d.coefficient = 0 ∨ size < -400 then .finite (Binary64.zero d.negative)
  else if 400 < size then .infinite d.negative
  else
    let (num, den) := unitFraction d.coefficient d.exponent
    format.round d.negative num den

/-- Whether a decimal is read as the number `x`. -/
def readsAs (x : Finite) (d : Decimal) : Bool :=
  d.round .binary64 = .finite x

/-- All digits of a number: a unit is `5 ^ 1074` times `10 ^ -1074`. -/
def exact (x : Finite) : Decimal :=
  ⟨x.negative, x.units * Nat.pow 5 1074, -1074⟩

/-- A magnitude in multiples of `10 ^ place`, as a fraction. -/
def gridFraction (units : Nat) : Int → Nat × Nat
  | .ofNat e => (units, Binary64.one * Nat.pow 10 e)
  | .negSucc e => (units * Nat.pow 10 (e + 1), Binary64.one)

/-- Which of two equally near multiples is taken. -/
inductive Tie where
  | awayFromZero
  | even

/-- Whether the next multiple is taken instead of this one. -/
def Tie.goesUp : Tie → Nat → Bool
  | .awayFromZero, _ => true
  | .even, below => below % 2 == 1

/-- The two multiples of `10 ^ place` next to a number, the nearer one first. -/
def neighbours (tie : Tie) (x : Finite) (place : Int) : List Decimal :=
  let (num, den) := gridFraction x.units place
  let below := num / den
  let twice := 2 * (num % den)
  let points :=
    if twice < den ∨ twice = den ∧ tie.goesUp below = false then [below, below + 1]
    else [below + 1, below]
  points.map fun coefficient => ⟨x.negative, coefficient, place⟩

/-- The first neighbour that reads back, over finer and finer places. -/
def firstReadBack (tie : Tie) (x : Finite) (place : Int) : Nat → Decimal
  | 0 => exact x
  | finer + 1 =>
      match (neighbours tie x place).find? (readsAs x) with
      | some d => d
      | none => firstReadBack tie x (place - 1) finer

/-- The decimal of fewest digits that reads back as the number. The search
starts above the first digit, and 17 digits are always enough. -/
def shortest (tie : Tie) (x : Finite) : Decimal :=
  if x.units = 0 then ⟨x.negative, 0, 0⟩
  else firstReadBack tie x (((x.units.log2 : Int) - 1073) * 30103 / 100000 + 2) 24

/-- The digits with the point set in, and zeros where there is no digit. -/
def toText (d : Decimal) : String :=
  let digits := Nat.toDigits 10 d.coefficient
  let magnitude :=
    match d.exponent with
    | .ofNat e => digits ++ List.replicate e '0'
    | .negSucc e =>
        let places := e + 1
        let padded := List.replicate (places + 1 - digits.length) '0' ++ digits
        let whole := padded.length - places
        padded.take whole ++ '.' :: padded.drop whole
  String.ofList (if d.negative then '-' :: magnitude else magnitude)

/-- Splits off the decimal digits that a text begins with. -/
def spanDigits (text : List Char) : List Nat × List Char :=
  ((text.takeWhile Char.isDigit).map fun c => c.toNat - '0'.toNat, text.dropWhile Char.isDigit)

/-- Reads an optional sign; `true` is a minus. -/
def readSign : List Char → Bool × List Char
  | '-' :: rest => (true, rest)
  | '+' :: rest => (false, rest)
  | text => (false, text)

/-- Reads a number such as `-12.5e3`: a sign, digits with at most one point
among them, and an exponent, of which only some digits have to be there. -/
def ofText? (text : String) : Option Decimal :=
  let (negative, unsigned) := readSign text.toList
  let (whole, rest) := spanDigits unsigned
  let (fraction, rest) :=
    match rest with
    | '.' :: rest => spanDigits rest
    | _ => ([], rest)
  let coefficient := ofDigits (whole ++ fraction)
  let places : Int := fraction.length
  if whole.isEmpty && fraction.isEmpty then none
  else
    match rest with
    | [] => some ⟨negative, coefficient, -places⟩
    | e :: rest =>
        let (down, rest) := readSign rest
        match spanDigits rest with
        | ([], _) => none
        | (digits, []) =>
            let size : Int := ofDigits digits
            if e = 'e' ∨ e = 'E' then
              some ⟨negative, coefficient, (if down then -size else size) - places⟩
            else none
        | _ => none

end Decimal

namespace Binary64

def Finite.toText (x : Finite) : String :=
  (Decimal.shortest .awayFromZero x).toText

/-- The written form of a number; the three that are not finite have names. -/
def toText : Binary64 → String
  | .nan => "NaN"
  | .infinite false => "inf"
  | .infinite true => "-inf"
  | .finite x => x.toText

/-- Reads a written number, rounding it to a format. -/
def ofText? (format : Format) (text : String) : Option Binary64 :=
  match text with
  | "NaN" => some .nan
  | "inf" => some (.infinite false)
  | "-inf" => some (.infinite true)
  | _ => (Decimal.ofText? text).map (Decimal.round format)

end Binary64

end FeatureFlags
