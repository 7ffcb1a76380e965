import FeatureFlags.Proofs.Json.Numeral
import FeatureFlags.Proofs.Numeric.Rounding

/-!
The float that the text of a float is read as. The significand and the power of
ten are rounded apart from one another, so it need not be the same float, but it
is never out of range: what is read is larger than what is written by less than
the distance between a few of the largest floats, and for those it is known what
they are read as. A float of few digits and a small power of ten is read as
itself, because then only the result is rounded.
-/

namespace FeatureFlags

namespace Json

open Binary64 (Format Finite one)
open Decimal (ofDigits)

/-! ### Significands -/

theorem ofDigits_cons (digit : Nat) (rest : List Nat) :
    ofDigits (digit :: rest) = digit * 10 ^ rest.length + ofDigits rest := by
  rw [← List.singleton_append, Decimal.ofDigits_append]
  congr 2
  exact Nat.zero_add digit

theorem ofDigits_lt {digits : List Nat} (h : ∀ digit ∈ digits, digit < 10) :
    ofDigits digits < 10 ^ digits.length := by
  induction digits with
  | nil => decide
  | cons digit rest ih =>
      obtain ⟨hdigit, hrest⟩ := List.forall_mem_cons.mp h
      have hle := Nat.mul_le_mul_right (10 ^ rest.length) (Nat.le_of_lt_succ hdigit)
      have hlt := ih hrest
      rw [ofDigits_cons, List.length_cons, Nat.pow_succ]
      omega

/-- A significand with one more digit. -/
theorem value_cons (significand digit : Nat) (rest : List Nat) :
    significand * 10 ^ (digit :: rest).length + ofDigits (digit :: rest) =
      (10 * significand + digit) * 10 ^ rest.length + ofDigits rest := by
  rw [ofDigits_cons, List.length_cons]
  ring

/-- Digits that are left out make a number smaller. -/
theorem takeUp_le (significand : Nat) (digits : List Nat) :
    (takeUp significand digits).1 * 10 ^ (takeUp significand digits).2.length ≤
      significand * 10 ^ digits.length + ofDigits digits := by
  induction digits generalizing significand with
  | nil => exact Nat.le_refl _
  | cons digit rest ih =>
      rw [takeUp]
      split
      · rw [value_cons]
        exact ih _
      · exact Nat.le_add_right _ _

theorem takeUp_lt {significand : Nat} (digits : List Nat) (h : significand < UInt64.size) :
    (takeUp significand digits).1 < UInt64.size := by
  induction digits generalizing significand with
  | nil => exact h
  | cons digit rest ih =>
      rw [takeUp]
      split
      · next hfits => exact ih hfits
      · exact h

/-- Digits are all taken up if the number that they spell fits. -/
theorem takeUp_eq {significand : Nat} {digits : List Nat}
    (h : significand * 10 ^ digits.length + ofDigits digits < UInt64.size) :
    takeUp significand digits = (significand * 10 ^ digits.length + ofDigits digits, []) := by
  induction digits generalizing significand with
  | nil =>
      rw [takeUp]
      simp [ofDigits]
  | cons digit rest ih =>
      rw [value_cons] at h ⊢
      have hfits : 10 * significand + digit < UInt64.size :=
        Nat.lt_of_le_of_lt
          (Nat.le_trans (Nat.le_mul_of_pos_right _ (Nat.pow_pos (by decide))) (Nat.le_add_right _ _)) h
      rw [takeUp, if_pos hfits]
      exact ih h

namespace Numeral

variable {n : Numeral}

/-- The number has so few digits in front of its point that all are taken up. -/
theorem takeUp_whole (h : n.WellFormed) (hwhole : n.whole.length ≤ 16) :
    takeUp 0 n.whole = (ofDigits n.whole, []) := by
  have hlt : ofDigits n.whole < UInt64.size :=
    Nat.lt_of_lt_of_le (ofDigits_lt h.whole_lt)
      (Nat.le_trans (Nat.pow_le_pow_right (by decide) hwhole) (by decide))
  have htake : takeUp 0 n.whole = _ := takeUp_eq (by rwa [Nat.zero_mul, Nat.zero_add])
  rwa [Nat.zero_mul, Nat.zero_add] at htake

/-- The significand is no more than the coefficient, and the digits that were left
out count in the power. -/
theorem exists_scaled (h : n.WellFormed) (hwhole : n.whole.length ≤ 16) :
    ∃ significand dropped : Nat, n.scaled = (significand, dropped + n.decimal.exponent) ∧
      significand * 10 ^ dropped ≤ n.decimal.coefficient ∧ significand < UInt64.size := by
  have hlt : (takeUp 0 n.whole).1 < UInt64.size := takeUp_lt n.whole (by decide)
  rw [takeUp_whole h hwhole] at hlt
  refine ⟨(takeUp (ofDigits n.whole) n.fraction).1, (takeUp (ofDigits n.whole) n.fraction).2.length,
    ?_, ?_, takeUp_lt n.fraction hlt⟩
  · rw [scaled, takeUp_whole h hwhole]
    simp only [decimal, List.length_nil, Prod.mk.injEq, true_and]
    omega
  · rw [decimal, Decimal.ofDigits_append]
    exact takeUp_le _ _

/-! ### Powers of ten -/

theorem pow_le_tenTo (power : Nat) : 10 ^ power * one ≤ 2 * tenTo power := by
  have hle := Binary64.div_le_two_mul_roundUnits (10 ^ power * one) 1
  rwa [Nat.div_one] at hle

theorem one_le_tenTo (power : Nat) : one ≤ 2 * tenTo power :=
  Nat.le_trans (Nat.le_mul_of_pos_left _ (Nat.pow_pos (by decide))) (pow_le_tenTo power)

theorem tenTo_pos (power : Nat) : 0 < tenTo power := by
  have hone := one_le_tenTo power
  have hpos := Binary64.one_pos
  omega

/-- To divide by the highest power makes a magnitude smaller. -/
theorem roundUnits_maxPower_le {units : Nat} (hunits : units ≠ 0) :
    Format.binary64.roundUnits (units * one) (tenTo maxPower) ≤ units := by
  have hpower : 4 * one ≤ tenTo maxPower := by decide +kernel
  have hquotient : units * one / tenTo maxPower ≤ units / 4 := by
    calc units * one / tenTo maxPower ≤ units * one / (4 * one) :=
          Nat.div_le_div_left hpower (Nat.mul_pos (by decide) Binary64.one_pos)
      _ = units / 4 := Nat.mul_div_mul_right _ _ Binary64.one_pos
  have hle := Binary64.roundUnits_le_two_mul (units * one) (tenTo maxPower)
  omega

/-- What is divided stays in range. -/
theorem exists_finite_lower (negative : Bool) {units : Nat} (power times : Nat)
    (hsmall : 2 * units < (2 ^ 53 - 1) * 2 ^ Binary64.topPlace) :
    ∃ x, lower negative units power times = .finite x := by
  induction times generalizing units power with
  | zero =>
      refine Binary64.exists_finite_of_lt negative (Nat.lt_of_le_of_lt ?_ hsmall)
      refine Nat.div_le_of_le_mul ?_
      calc units * one ≤ units * (2 * tenTo power) := Nat.mul_le_mul_left _ (one_le_tenTo power)
        _ = tenTo power * (2 * units) := by ring
  | succ times ih =>
      rw [lower]
      split
      · exact ⟨_, rfl⟩
      · next hunits =>
          refine ih _ (Nat.lt_of_le_of_lt ?_ hsmall)
          exact Nat.mul_le_mul_left 2 (roundUnits_maxPower_le hunits)

/-- The power that is read belongs to a number within the range. -/
theorem le_maxPower {significand power : Nat} (hpos : 0 < significand)
    (hsmall : significand * (10 ^ power * one) < (2 ^ 53 - 3) * 2 ^ Binary64.topPlace) :
    power ≤ maxPower := by
  have hrange : (2 ^ 53 - 3) * 2 ^ Binary64.topPlace ≤ 10 ^ (maxPower + 1) * one := by
    decide +kernel
  by_contra hlarge
  have hpower : 10 ^ (maxPower + 1) * one ≤ 10 ^ power * one :=
    Nat.mul_le_mul_right _ (Nat.pow_le_pow_right (by decide) (Nat.lt_of_not_le hlarge))
  have hle : 10 ^ power * one ≤ significand * (10 ^ power * one) := Nat.le_mul_of_pos_left _ hpos
  omega

/-- Rounding a whole number makes it larger by at most `2 ^ -53` of it. -/
theorem roundUnits_whole_le {n : Nat} (hpos : 0 < n) :
    2 ^ 53 * Format.binary64.roundUnits (n * one) 1 ≤ (2 ^ 53 + 1) * (n * one) := by
  have hnormal : 2 ^ 52 * 1 ≤ n * one :=
    Nat.le_trans (by decide +kernel : 2 ^ 52 * 1 ≤ one) (Nat.le_mul_of_pos_left _ hpos)
  have hle := Binary64.roundUnits_relative Nat.one_pos hnormal
  rwa [Nat.mul_one] at hle

/-- A number that is not written among the largest is read within the range: the
three roundings add less than two units in the last place. -/
theorem exists_finite_scale (negative : Bool) {significand power : Nat}
    (hsmall : significand * (10 ^ power * one) < (2 ^ 53 - 3) * 2 ^ Binary64.topPlace) :
    ∃ x, scale negative (Format.binary64.roundUnits (significand * one) 1) (.ofNat power) =
      .finite x := by
  rw [scale]
  split
  · exact ⟨_, rfl⟩
  next hunits =>
  have hpos : 0 < significand := by
    refine Nat.pos_of_ne_zero ?_
    rintro rfl
    rw [Nat.zero_mul] at hunits
    exact hunits (by decide)
  have hsignificand := roundUnits_whole_le hpos
  have hten : 2 ^ 53 * tenTo power ≤ (2 ^ 53 + 1) * (10 ^ power * one) :=
    roundUnits_whole_le (Nat.pow_pos (by decide))
  rw [if_neg (Nat.not_lt.mpr (le_maxPower hpos hsmall))]
  refine Binary64.exists_finite_of_lt negative ((Nat.div_lt_iff_lt_mul Binary64.one_pos).mpr ?_)
  -- from here on only the bounds matter, and the numbers are too long to compute with
  generalize Format.binary64.roundUnits (significand * one) 1 = units at hsignificand
  generalize tenTo power = ten at hten
  generalize 10 ^ power * one = exact at hsmall hten
  generalize 2 ^ Binary64.topPlace = place at hsmall ⊢
  have hpositive := Binary64.one_pos
  generalize one = one at hsignificand hpositive ⊢
  refine Nat.lt_of_mul_lt_mul_left (a := 2 ^ 106) ?_
  calc 2 ^ 106 * (units * ten)
      = (2 ^ 53 * units) * (2 ^ 53 * ten) := by ring
    _ ≤ ((2 ^ 53 + 1) * (significand * one)) * ((2 ^ 53 + 1) * exact) :=
        Nat.mul_le_mul hsignificand hten
    _ = (2 ^ 53 + 1) ^ 2 * (significand * exact * one) := by ring
    _ < (2 ^ 53 + 1) ^ 2 * ((2 ^ 53 - 3) * place * one) :=
        Nat.mul_lt_mul_of_pos_left (Nat.mul_lt_mul_of_pos_right hsmall hpositive) (by decide)
    _ = (2 ^ 53 + 1) ^ 2 * (2 ^ 53 - 3) * (place * one) := by ring
    _ ≤ 2 ^ 106 * (2 ^ 53 - 1) * (place * one) := Nat.mul_le_mul_right _ (by decide)
    _ = 2 ^ 106 * ((2 ^ 53 - 1) * place * one) := by ring

/-! ### Floats -/

/-- A decimal that is rounded to less than a multiple of the last place is less. -/
theorem unitFraction_lt {d : Decimal} {x : Finite} {multiple place : Nat}
    (hround : d.round .binary64 = .finite x) (hunits : x.units ≠ 0) (hlow : 2 ^ 52 ≤ multiple)
    (hhigh : multiple ≤ 2 ^ 53) (hlt : x.units < multiple * 2 ^ place) :
    (Decimal.unitFraction d.coefficient d.exponent).1 <
      multiple * 2 ^ place * (Decimal.unitFraction d.coefficient d.exponent).2 := by
  have hden : 0 < (Decimal.unitFraction d.coefficient d.exponent).2 := by
    cases d.exponent with
    | ofNat e => exact Nat.one_pos
    | negSucc e => exact Nat.pow_pos (by decide)
  rw [Decimal.round] at hround
  split at hround
  · cases hround
    exact absurd rfl hunits
  · split at hround
    · cases hround
    · obtain ⟨_, hvalue⟩ := Binary64.eq_of_round hround
      refine Nat.lt_of_not_le fun hle => ?_
      have hrounded : multiple * 2 ^ place ≤ x.units := by
        rw [hvalue]
        exact Binary64.le_roundUnits_of_le hden hlow hhigh hle
      omega

/-- A significand that is no more than the coefficient, with its power of ten, is
no more than the decimal. -/
theorem significand_lt {coefficient significand dropped power bound : Nat} {exponent : Int}
    (hle : significand * 10 ^ dropped ≤ coefficient) (hpower : dropped + exponent = (power : Int))
    (hlt : (Decimal.unitFraction coefficient exponent).1 <
      bound * (Decimal.unitFraction coefficient exponent).2) :
    significand * (10 ^ power * one) < bound := by
  cases exponent with
  | ofNat e =>
      obtain rfl : dropped + e = power := Int.ofNat.inj hpower
      rw [Decimal.unitFraction, Nat.mul_one] at hlt
      refine Nat.lt_of_le_of_lt ?_ hlt
      calc significand * (10 ^ (dropped + e) * one)
          = significand * 10 ^ dropped * 10 ^ e * one := by ring
        _ ≤ coefficient * 10 ^ e * one :=
            Nat.mul_le_mul_right _ (Nat.mul_le_mul_right _ hle)
  | negSucc e =>
      obtain rfl : dropped = power + (e + 1) := by omega
      rw [Decimal.unitFraction_negSucc] at hlt
      refine Nat.lt_of_mul_lt_mul_right (a := 10 ^ (e + 1)) (Nat.lt_of_le_of_lt ?_ hlt)
      calc significand * (10 ^ power * one) * 10 ^ (e + 1)
          = significand * 10 ^ (power + (e + 1)) * one := by ring
        _ ≤ coefficient * one := Nat.mul_le_mul_right _ hle

theorem float?_eq_some {significand : Nat} {power : Int} {x : Finite}
    (hscaled : n.scaled = (significand, power))
    (hscale : scale n.negative (Format.binary64.roundUnits (significand * one) 1) power =
      .finite x) : n.float? = some x := by
  rw [float?, hscaled]
  simp only [hscale]

/-- The text of a float that is not among the largest is read as a float. -/
theorem exists_float?_of_lt {x : Finite} (hunits : x.units ≠ 0)
    (hlt : x.units < (2 ^ 53 - 3) * 2 ^ Binary64.topPlace) :
    ∃ y, (ofFloat x).float? = some y := by
  obtain ⟨significand, dropped, hscaled, hle, hword⟩ :=
    exists_scaled (wellFormed_ofFloat x) (length_whole_ofFloat_le x)
  have hfinite : ∃ y, scale (ofFloat x).negative
      (Format.binary64.roundUnits (significand * one) 1)
        (dropped + (ofFloat x).decimal.exponent) = .finite y := by
    cases hpower : (dropped : Int) + (ofFloat x).decimal.exponent with
    | ofNat power =>
        refine exists_finite_scale _ (significand_lt hle hpower ?_)
        exact unitFraction_lt (round_decimal_ofFloat x) hunits (by decide) (by decide) hlt
    | negSucc power =>
        have hrounded := Binary64.roundUnits_le_two_mul (significand * one) 1
        have hsignificand : significand * one ≤ UInt64.size * one :=
          Nat.mul_le_mul_right _ (Nat.le_of_lt hword)
        have hrange : 2 * (2 * (UInt64.size * one) + 1) < (2 ^ 53 - 1) * 2 ^ Binary64.topPlace := by
          decide +kernel
        rw [Nat.div_one] at hrounded
        exact exists_finite_lower _ _ _ (by omega)
  obtain ⟨y, hy⟩ := hfinite
  exact ⟨y, float?_eq_some hscaled hy⟩

theorem representable_largest : ∀ i : Fin 3,
    Binary64.Representable ((2 ^ 53 - 1 - i.val) * 2 ^ Binary64.topPlace) := by
  decide +kernel

/-- The three largest magnitudes of floats. -/
def largest (negative : Bool) (i : Fin 3) : Finite :=
  ⟨negative, (2 ^ 53 - 1 - i.val) * 2 ^ Binary64.topPlace, representable_largest i⟩

theorem exists_eq_largest {x : Finite}
    (hlarge : (2 ^ 53 - 3) * 2 ^ Binary64.topPlace ≤ x.units) :
    ∃ i, x = largest x.negative i := by
  have hlow : 2 ^ 52 * 2 ^ Binary64.topPlace ≤ x.units :=
    Nat.le_trans (Nat.mul_le_mul_right (2 ^ Binary64.topPlace) (by decide)) hlarge
  have hhigh : x.units.log2 < 53 + Binary64.topPlace :=
    Binary64.limit_eq ▸ x.representable.1
  obtain ⟨multiple, hmultiple, hmost⟩ := Binary64.Finite.exists_multiple hlow hhigh
  rw [hmultiple] at hlarge
  have hleast := Nat.le_of_mul_le_mul_right hlarge (Nat.two_pow_pos Binary64.topPlace)
  have hindex : 2 ^ 53 - 1 - (2 ^ 53 - 1 - multiple) = multiple := by omega
  refine ⟨⟨2 ^ 53 - 1 - multiple, by omega⟩, Binary64.Finite.ext_units rfl ?_⟩
  exact hmultiple.trans (congrArg (· * 2 ^ Binary64.topPlace) hindex.symm)

/-- The error that was allowed for is too large for these, but their digits can be
computed. -/
theorem shortest_largest : ∀ (negative : Bool) (i : Fin 3),
    Decimal.shortest .even (largest negative i) = ⟨negative, 17976931348623157 - 2 * i.val, 292⟩ := by
  decide +kernel

theorem exists_float?_largest (negative : Bool) (i : Fin 3) :
    ∃ y, (ofFloat (largest negative i)).float? = some y := by
  have hread : ∀ (negative : Bool) (i : Fin 3),
      ((scientific ⟨negative, 17976931348623157 - 2 * i.val, 292⟩).float?).isSome = true := by
    decide +kernel
  have hform : ofFloat (largest negative i) = scientific (Decimal.shortest .even (largest negative i)) := by
    rw [ofFloat, if_neg]
    rw [shortest_largest]
    revert negative i
    decide +kernel
  rw [hform, shortest_largest]
  exact Option.isSome_iff_exists.mp (hread negative i)

/-- The text of a float is read as a float. -/
theorem exists_float?_ofFloat (x : Finite) : ∃ y, (ofFloat x).float? = some y := by
  by_cases hunits : x.units = 0
  · have hzero : x = Binary64.zero x.negative := Binary64.Finite.ext_units rfl hunits
    have hread : ∀ negative, ((ofFloat (Binary64.zero negative)).float?).isSome = true := by
      decide +kernel
    rw [hzero]
    exact Option.isSome_iff_exists.mp (hread x.negative)
  · by_cases hlt : x.units < (2 ^ 53 - 3) * 2 ^ Binary64.topPlace
    · exact exists_float?_of_lt hunits hlt
    · obtain ⟨i, hlargest⟩ := exists_eq_largest (Nat.le_of_not_lt hlt)
      rw [hlargest]
      exact exists_float?_largest x.negative i

/-! ### Floats that are read as themselves -/

theorem representable_whole {n : Nat} (hn : n < 2 ^ 53) : Binary64.Representable (n * one) := by
  have hshift : n * one = n <<< 1074 := by rw [one, ← Binary64.shiftLeft_eq_mul]
  have hlog : n.log2 < 53 := by
    by_cases hzero : n = 0
    · rw [hzero, Nat.log2_zero]
      decide
    · exact (Nat.log2_lt hzero).mpr hn
  rw [hshift]
  exact ⟨Nat.lt_trans (Binary64.log2_shiftLeft_lt 1074 hlog) (by decide),
    Binary64.round_multiple (Nat.le_of_lt hn)⟩

theorem roundUnits_whole_eq {n : Nat} (hn : n < 2 ^ 53) :
    Format.binary64.roundUnits (n * one) 1 = n * one := by
  have hexact := Binary64.roundUnits_representable (representable_whole hn) Nat.one_pos
  rwa [Nat.mul_one] at hexact

theorem tenTo_eq {power : Nat} (hpower : power ≤ 22) : tenTo power = 10 ^ power * one := by
  have hexact : ∀ power : Fin 23, tenTo power.val = 10 ^ power.val * one := by
    decide +kernel
  exact hexact ⟨power, Nat.lt_succ_of_le hpower⟩

theorem scale_zero (negative : Bool) {power : Int} (hpower : power.natAbs ≤ 22) :
    scale negative 0 power = .finite (Binary64.zero negative) := by
  cases power with
  | ofNat p => rfl
  | negSucc p =>
      have hsmall : p + 1 ≤ 22 := hpower
      have htimes : p / maxPower = 0 := Nat.div_eq_of_lt (by simp only [maxPower]; omega)
      have hround := Binary64.round_finite (Binary64.zero negative) (tenTo_pos (p + 1))
      rw [scale, htimes, lower, Nat.zero_mul]
      exact (congrArg (Format.binary64.round negative · _) (Nat.zero_mul _)).symm.trans hround

/-- Where significand and power are exact, only the result is rounded. -/
theorem scale_eq_round (negative : Bool) {significand : Nat} {power : Int}
    (hsignificand : significand < 2 ^ 53) (hpower : power.natAbs ≤ 22) :
    scale negative (significand * one) power =
      Decimal.round .binary64 ⟨negative, significand, power⟩ := by
  by_cases hzero : significand = 0
  · subst hzero
    rw [Nat.zero_mul, scale_zero negative hpower, Decimal.round, if_pos (.inl rfl)]
  · have hlength : (Nat.toDigits 10 significand).length ≤ 16 :=
      (Nat.length_toDigits_le_iff (by decide) (by decide)).mpr
        (Nat.lt_trans hsignificand (by decide))
    have hunits : significand * one ≠ 0 := Nat.mul_ne_zero hzero (Nat.ne_of_gt Binary64.one_pos)
    rw [Decimal.round, if_neg (by simp only; omega), if_neg (by simp only; omega)]
    cases power with
    | ofNat p =>
        have hsmall : p ≤ 22 := hpower
        have hround := Binary64.round_mul .binary64 negative one (significand * 10 ^ p * one) 1
          Binary64.one_pos
        have hproduct : significand * one * (10 ^ p * one) = one * (significand * 10 ^ p * one) := by
          ring
        rw [Nat.mul_one] at hround
        rw [scale, if_neg hunits, if_neg (by simp only [maxPower]; omega), tenTo_eq hsmall,
          hproduct, hround]
        rfl
    | negSucc p =>
        have hsmall : p + 1 ≤ 22 := hpower
        have hround := Binary64.round_mul .binary64 negative one (significand * one) (10 ^ (p + 1))
          Binary64.one_pos
        have htimes : p / maxPower = 0 := Nat.div_eq_of_lt (by simp only [maxPower]; omega)
        rw [scale, htimes, lower, tenTo_eq hsmall, Nat.mul_comm (significand * one),
          Nat.mul_comm (10 ^ (p + 1)), hround]
        rfl

/-- A number of few digits and a small power of ten is read as its decimal is
rounded. -/
theorem float?_eq_of_round {x : Finite} (h : n.WellFormed) (hwhole : n.whole.length ≤ 16)
    (hsmall : n.decimal.coefficient < 2 ^ 53) (hpower : n.decimal.exponent.natAbs ≤ 22)
    (hround : n.decimal.round .binary64 = .finite x) : n.float? = some x := by
  have htaken : takeUp (ofDigits n.whole) n.fraction = (n.decimal.coefficient, []) := by
    have hvalue : n.decimal.coefficient = _ := Decimal.ofDigits_append n.whole n.fraction
    rw [hvalue] at hsmall ⊢
    exact takeUp_eq (Nat.lt_trans hsmall (by decide))
  have hscaled : n.scaled = (n.decimal.coefficient, n.decimal.exponent) := by
    rw [scaled, takeUp_whole h hwhole]
    simp only [htaken, decimal, List.length_nil, Prod.mk.injEq, true_and]
    omega
  refine float?_eq_some hscaled ?_
  rw [roundUnits_whole_eq hsmall, scale_eq_round n.negative hsmall hpower]
  exact hround

end Numeral

end Json

namespace Binary64.Finite

open Json (Numeral)

/-- The float that the text of a float is read as. -/
def reread (x : Finite) : Finite :=
  (Numeral.ofFloat x).float?.getD x

theorem float?_ofFloat (x : Finite) : (Numeral.ofFloat x).float? = some x.reread := by
  obtain ⟨y, hy⟩ := Numeral.exists_float?_ofFloat x
  rw [reread, hy, Option.getD_some]

/-- A float that is written with few digits, which are a number of 53 bits, and
with a small power of ten, which is a float itself. -/
structure Short (x : Finite) : Prop where
  digits : (Numeral.ofFloat x).decimal.coefficient < 2 ^ 53
  power : (Numeral.ofFloat x).decimal.exponent.natAbs ≤ 22

/-- A float that is written short is read as itself. -/
theorem Short.reread_eq_self {x : Finite} (h : x.Short) : x.reread = x := by
  have hread := Numeral.float?_eq_of_round (Numeral.wellFormed_ofFloat x)
    (Numeral.length_whole_ofFloat_le x) h.digits h.power (Numeral.round_decimal_ofFloat x)
  rw [reread, hread, Option.getD_some]

end Binary64.Finite

end FeatureFlags
