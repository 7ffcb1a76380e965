/-!
Binary64 numbers as exact numbers. The least positive one is `2 ^ -1074` and
every finite one is a whole multiple of it, so a finite number is a sign and a
natural number of these units. Comparison, the test for a whole number and the
conversion from integers are then arithmetic on natural numbers, and rounding
is one division.

`round_multiple` is the reason why rounding ends in a number of the format:
a multiple of a power of two whose quotient has at most 53 bits keeps no set
bit below the last place that its size allows.
-/

namespace FeatureFlags

/-- The number of units in one. -/
def Binary64.one : Nat := 1 <<< 1074

/-- The magnitudes of finite numbers, in units: of at most 2098 binary digits,
which is below `2 ^ 1024`, and with at most 53 digits from the first to the
last one set. -/
def Binary64.Representable (units : Nat) : Prop :=
  units.log2 < 2098 ∧ 1 <<< (units.log2 - 52) ∣ units

instance (units : Nat) : Decidable (Binary64.Representable units) :=
  inferInstanceAs (Decidable (_ ∧ _))

/-- A finite number. Zero has a sign as well. -/
structure Binary64.Finite where
  negative : Bool
  units : Nat
  representable : Binary64.Representable units
deriving DecidableEq

inductive Binary64 where
  | nan
  | infinite (negative : Bool)
  | finite (x : Binary64.Finite)
deriving DecidableEq

namespace Binary64

/-- A precision in binary digits, the exponent of the finest place and the
exponent at which numbers become infinite, both counted from `2 ^ -1074`. -/
structure Format where
  precision : Nat
  finest : Nat
  limit : Nat
  precision_le : precision ≤ 53
  limit_le : limit ≤ 2098

def Format.binary64 : Format := ⟨53, 0, 2098, by decide, by decide⟩

def Format.binary32 : Format := ⟨24, 925, 1202, by decide, by decide⟩

/-- The quotient to the nearest whole number, a half going to the even one. -/
def roundHalfEven (num den : Nat) : Nat :=
  let quotient := num / den
  let twice := 2 * (num % den)
  if twice < den then quotient
  else if den < twice then quotient + 1
  else if quotient % 2 = 0 then quotient
  else quotient + 1

theorem roundHalfEven_le (num den : Nat) : roundHalfEven num den ≤ num / den + 1 := by
  unfold roundHalfEven
  dsimp only
  split
  · exact Nat.le_succ _
  · split
    · exact Nat.le_refl _
    · split
      · exact Nat.le_succ _
      · exact Nat.le_refl _

/-- The exponent of the last place of a number of this whole part. -/
def Format.lastPlace (format : Format) (whole : Nat) : Nat :=
  max format.finest (whole.log2 + 1 - format.precision)

/-- The magnitude `num / den` in units, to the nearest one that the precision
allows, without regard to the limit. -/
def Format.roundUnits (format : Format) (num den : Nat) : Nat :=
  let place := format.lastPlace (num / den)
  roundHalfEven num (den <<< place) <<< place

theorem round_multiple {quotient place : Nat} (h : quotient ≤ 1 <<< 53) :
    1 <<< ((quotient <<< place).log2 - 52) ∣ quotient <<< place := by
  simp only [Nat.shiftLeft_eq, Nat.one_mul] at h ⊢
  rcases Nat.eq_zero_or_pos quotient with hzero | hpos
  · simp [hzero]
  rcases Nat.lt_or_eq_of_le h with hlt | heq
  · have hne : quotient * 2 ^ place ≠ 0 :=
      Nat.ne_of_gt (Nat.mul_pos hpos (Nat.two_pow_pos place))
    have hlog : (quotient * 2 ^ place).log2 < 53 + place := by
      refine (Nat.log2_lt hne).2 ?_
      rw [Nat.pow_add]
      exact Nat.mul_lt_mul_of_pos_right hlt (Nat.two_pow_pos place)
    exact Nat.dvd_trans (Nat.pow_dvd_pow 2 (by omega)) (Nat.dvd_mul_left _ _)
  · rw [heq, ← Nat.pow_add, Nat.log2_two_pow]
    exact Nat.pow_dvd_pow 2 (by omega)

theorem Format.multiple_roundUnits (format : Format) (num den : Nat) :
    1 <<< ((format.roundUnits num den).log2 - 52) ∣ format.roundUnits num den := by
  refine round_multiple ?_
  refine Nat.le_trans (roundHalfEven_le _ _) ?_
  have hplace : (num / den).log2 + 1 - 53 ≤ format.lastPlace (num / den) := by
    have := format.precision_le
    exact Nat.le_trans (by omega) (Nat.le_max_right _ _)
  have hlt : num / (den <<< format.lastPlace (num / den)) < 1 <<< 53 := by
    simp only [Nat.shiftLeft_eq, Nat.one_mul]
    rw [← Nat.div_div_eq_div_mul]
    refine Nat.div_lt_of_lt_mul ?_
    rw [Nat.mul_comm, ← Nat.pow_add]
    exact Nat.lt_of_lt_of_le Nat.lt_log2_self (Nat.pow_le_pow_right (by decide) (by omega))
  exact hlt

/-- The number nearest to `num / den` units, infinite from the limit on. -/
def Format.round (format : Format) (negative : Bool) (num den : Nat) : Binary64 :=
  if h : (format.roundUnits num den).log2 < format.limit then
    .finite ⟨negative, format.roundUnits num den,
      Nat.lt_of_lt_of_le h format.limit_le, format.multiple_roundUnits num den⟩
  else .infinite negative

def zero (negative : Bool) : Finite := ⟨negative, 0, by decide, by decide⟩

/-- The number nearest to an integer. -/
def ofInt (n : Int) : Binary64 :=
  Format.binary64.round (decide (n < 0)) (n.natAbs * one) 1

/-- The signed number of units. Both zeros are `0`. -/
def Finite.signed (x : Finite) : Int :=
  if x.negative then -(x.units : Int) else x.units

/-- The order of two numbers, which a NaN is no part of. Zeros are equal. -/
def compare? : Binary64 → Binary64 → Option Ordering
  | .nan, _ => none
  | _, .nan => none
  | .infinite left, .infinite right =>
      some (if left = right then .eq else if left then .lt else .gt)
  | .infinite left, .finite _ => some (if left then .lt else .gt)
  | .finite _, .infinite right => some (if right then .gt else .lt)
  | .finite x, .finite y => some (compare x.signed y.signed)

/-- Numeric equality: zeros are equal, and a NaN differs from everything. -/
def same (left right : Binary64) : Bool :=
  compare? left right == some .eq

/-- The integer that a finite number is, if it has no fractional part. -/
def Finite.toInt? (x : Finite) : Option Int :=
  if x.units % one = 0 then
    let whole : Int := (x.units / one : Nat)
    some (if x.negative then -whole else whole)
  else none

end Binary64

end FeatureFlags
