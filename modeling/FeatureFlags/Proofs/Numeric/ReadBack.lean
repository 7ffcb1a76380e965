import FeatureFlags.Json.Value
import FeatureFlags.Numeric.Decimal

/-!
Written numbers read back. Rounding leaves a number of the format as it is, so
all digits of a binary64 number read back as that number. The search for fewer
digits ends in digits that read back, or in all of them.
-/

namespace FeatureFlags

namespace Binary64

theorem lastPlace_binary64 (whole : Nat) :
    Format.binary64.lastPlace whole = whole.log2 - 52 := by
  simp only [Format.lastPlace, Format.binary64]
  omega

theorem roundHalfEven_multiple (quotient : Nat) {den : Nat} (hpos : 0 < den) :
    roundHalfEven (quotient * den) den = quotient := by
  simp only [roundHalfEven, Nat.mul_mod_left, Nat.mul_div_cancel _ hpos]
  rw [if_pos (by omega)]

theorem shiftLeft_eq_mul (n place : Nat) : n <<< place = n * 1 <<< place := by
  rw [Nat.shiftLeft_eq, Nat.one_shiftLeft]

theorem one_shiftLeft_pos (place : Nat) : 0 < 1 <<< place := by
  rw [Nat.one_shiftLeft]
  exact Nat.two_pow_pos place

/-- A representable magnitude is not rounded. -/
theorem roundUnits_representable {units den : Nat} (hrepresentable : Representable units)
    (hpos : 0 < den) : Format.binary64.roundUnits (units * den) den = units := by
  obtain ⟨quotient, hquotient⟩ := hrepresentable.2
  have hwhole : units * den / den = units := Nat.mul_div_cancel _ hpos
  have hplace := one_shiftLeft_pos (units.log2 - 52)
  rw [Format.roundUnits, hwhole, lastPlace_binary64, shiftLeft_eq_mul den, shiftLeft_eq_mul]
  generalize 1 <<< (units.log2 - 52) = place at hquotient hplace ⊢
  have hmultiple : units * den = quotient * (den * place) := by
    rw [hquotient]
    ac_rfl
  rw [hmultiple, roundHalfEven_multiple quotient (Nat.mul_pos hpos hplace), hquotient,
    Nat.mul_comm]

theorem round_finite (x : Finite) {den : Nat} (hpos : 0 < den) :
    Format.binary64.round x.negative (x.units * den) den = .finite x := by
  have hunits := roundUnits_representable x.representable hpos
  have hlimit : (Format.binary64.roundUnits (x.units * den) den).log2 < Format.binary64.limit := by
    rw [hunits]
    exact x.representable.1
  rw [Format.round, dif_pos hlimit]
  simp only [hunits]

theorem log2_lt_of_le {n m bits : Nat} (hle : n ≤ m) (hlog : m.log2 < bits) : n.log2 < bits := by
  by_cases hn : n = 0
  · rw [hn, Nat.log2_zero]
    exact Nat.zero_lt_of_lt hlog
  · have hm : m ≠ 0 := by omega
    exact (Nat.log2_lt hn).mpr (Nat.lt_of_le_of_lt hle ((Nat.log2_lt hm).mp hlog))

theorem log2_shiftLeft_lt {n bits : Nat} (place : Nat) (hlog : n.log2 < bits) :
    (n <<< place).log2 < bits + place := by
  by_cases hn : n = 0
  · rw [hn, Nat.zero_shiftLeft, Nat.log2_zero]
    omega
  · have hpower := Nat.two_pow_pos place
    have hscaled := Nat.mul_lt_mul_of_pos_right ((Nat.log2_lt hn).mp hlog) hpower
    rw [← Nat.pow_add, ← Nat.shiftLeft_eq] at hscaled
    have hne : n <<< place ≠ 0 := by
      rw [Nat.shiftLeft_eq]
      exact Nat.mul_ne_zero hn (Nat.ne_of_gt hpower)
    exact (Nat.log2_lt hne).mpr hscaled

/-- Rounding a whole number of units at most doubles it. -/
theorem roundUnits_le {units : Nat} (hunits : units ≠ 0) :
    Format.binary64.roundUnits units 1 ≤ 2 * units := by
  have hplace : 1 <<< (units.log2 - 52) ≤ units := by
    rw [Nat.one_shiftLeft]
    exact Nat.le_trans (Nat.pow_le_pow_right (by decide) (Nat.sub_le _ _)) (Nat.log2_self_le hunits)
  rw [Format.roundUnits, Nat.div_one, lastPlace_binary64, shiftLeft_eq_mul]
  generalize 1 <<< (units.log2 - 52) = place at hplace ⊢
  have hround := Nat.mul_le_mul_right place (roundHalfEven_le units place)
  have hdiv := Nat.div_mul_le_self units place
  rw [Nat.add_mul, Nat.one_mul] at hround
  omega

/-- A whole number of units below the limit is not rounded to infinity. -/
theorem exists_finite_round (negative : Bool) {units : Nat} (hlog : units.log2 < 2097) :
    ∃ x, Format.binary64.round negative units 1 = .finite x := by
  have hlimit : (Format.binary64.roundUnits units 1).log2 < Format.binary64.limit := by
    by_cases hunits : units = 0
    · rw [hunits]
      decide
    · refine log2_lt_of_le (roundUnits_le hunits) ?_
      rw [Nat.log2_two_mul hunits]
      exact Nat.succ_lt_succ hlog
  exact ⟨_, dif_pos hlimit⟩

end Binary64

namespace Decimal

open Binary64 (Format Finite)

/-- The number of digits of a whole multiple, where the factor and the size are
known between powers. -/
theorem length_toDigits_multiple {units factor bits low high : Nat} (hunits : units ≠ 0)
    (hbits : units.log2 < bits) (hlow : Nat.pow 10 low ≤ factor)
    (hhigh : Nat.pow 2 bits * factor ≤ Nat.pow 10 high) (hplaces : 0 < low ∧ low ≤ high) :
    low < (Nat.toDigits 10 (units * factor)).length ∧
      (Nat.toDigits 10 (units * factor)).length ≤ high := by
  have hpos : 0 < factor := Nat.lt_of_lt_of_le (Nat.pow_pos (by decide)) hlow
  constructor
  · refine Nat.lt_of_not_le fun hle => ?_
    have hfew : units * factor < Nat.pow 10 low :=
      (Nat.length_toDigits_le_iff (by decide) hplaces.1).mp hle
    have hmany : factor ≤ units * factor := Nat.le_mul_of_pos_left _ (Nat.pos_of_ne_zero hunits)
    exact Nat.not_lt.mpr (Nat.le_trans hlow hmany) hfew
  · refine (Nat.length_toDigits_le_iff (by decide) (by omega)).mpr ?_
    have hlt : units < Nat.pow 2 bits := (Nat.log2_lt hunits).mp hbits
    exact Nat.lt_of_lt_of_le (Nat.mul_lt_mul_of_pos_right hlt hpos) hhigh

/-- A number in places, where so many places are one. -/
theorem round_places (x : Finite) {unit one : Nat} (hunit : unit * Binary64.one = one)
    (hpos : 0 < one) :
    Format.binary64.round x.negative (x.units * unit * Binary64.one) one = .finite x := by
  rw [Nat.mul_assoc, hunit]
  exact Binary64.round_finite x hpos

theorem unitFraction_negSucc (coefficient e : Nat) :
    unitFraction coefficient (.negSucc e) = (coefficient * Binary64.one, Nat.pow 10 (e + 1)) := rfl

/-- All digits of a number read back as the number. -/
theorem readsAs_exact (x : Finite) (hunits : x.units ≠ 0) : readsAs x (exact x) = true := by
  have hdigits : 673 < (Nat.toDigits 10 (exact x).coefficient).length ∧
      (Nat.toDigits 10 (exact x).coefficient).length ≤ 1474 :=
    length_toDigits_multiple hunits x.representable.1 (by decide +kernel) (by decide +kernel)
      (by decide)
  have hexponent : (exact x).exponent = .negSucc 1073 := rfl
  have hcoefficient : (exact x).coefficient ≠ 0 := Nat.mul_ne_zero hunits (by decide +kernel)
  have hround : (exact x).round .binary64 = .finite x := by
    rw [round, if_neg (by omega), if_neg (by omega), hexponent, unitFraction_negSucc]
    exact round_places x (by decide +kernel) (by decide +kernel)
  exact decide_eq_true hround

theorem readsAs_firstReadBack (tie : Tie) (x : Finite) (hunits : x.units ≠ 0) (place : Int)
    (finer : Nat) : readsAs x (firstReadBack tie x place finer) = true := by
  induction finer generalizing place with
  | zero => exact readsAs_exact x hunits
  | succ finer ih =>
      rw [firstReadBack]
      split
      · next d hfound => exact List.find?_some hfound
      · exact ih (place - 1)

/-- The shortest form of a number reads back as the number, a signed zero
included. -/
theorem round_shortest (tie : Tie) (x : Finite) :
    (shortest tie x).round .binary64 = .finite x := by
  by_cases hunits : x.units = 0
  · obtain ⟨negative, units, representable⟩ := x
    obtain rfl : units = 0 := hunits
    rfl
  · rw [shortest, if_neg hunits]
    exact of_decide_eq_true (readsAs_firstReadBack tie x hunits _ 24)

end Decimal

namespace Json

/-- The number nearest to an integer of 64 bits is finite. -/
theorem Integer.exists_finite (n : Integer) : ∃ x, n.toBinary64 = .finite x := by
  have hlt : n.value.natAbs < 2 ^ 64 := by
    have hlower := n.lower
    have hupper := n.upper
    omega
  have hlog : n.value.natAbs.log2 < 64 := by
    by_cases hzero : n.value.natAbs = 0
    · rw [hzero, Nat.log2_zero]
      decide
    · exact (Nat.log2_lt hzero).mpr hlt
  have hunits : n.value.natAbs * Binary64.one = n.value.natAbs <<< 1074 := by
    rw [Binary64.one, Binary64.shiftLeft_eq_mul n.value.natAbs]
  apply Binary64.exists_finite_round
  rw [hunits]
  exact Nat.lt_trans (Binary64.log2_shiftLeft_lt 1074 hlog) (by decide)

theorem Integer.ofInt?_value (n : Integer) : Integer.ofInt? n.value = some n := by
  rw [ofInt?, dif_pos ⟨n.lower, n.upper⟩]

theorem Integer.toInt64?_ofInt64 (n : Int64) : (Integer.ofInt64 n).toInt64? = some n := by
  have hlt : (Integer.ofInt64 n).value < 0x8000000000000000 := n.toInt_lt
  rw [toInt64?, if_pos hlt]
  exact congrArg some (Int64.ofInt_toInt n)

theorem Integer.toUInt64?_ofUInt64 (n : UInt64) : (Integer.ofUInt64 n).toUInt64? = some n := by
  have hle : 0 ≤ (Integer.ofUInt64 n).value := Int.natCast_nonneg _
  rw [toUInt64?, if_pos hle]
  exact congrArg some UInt64.ofNat_toNat

end Json

end FeatureFlags
