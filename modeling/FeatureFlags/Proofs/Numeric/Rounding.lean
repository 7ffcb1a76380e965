import FeatureFlags.Proofs.Numeric.ReadBack
import Mathlib.Data.Nat.Bits
import Mathlib.Tactic.Ring

/-!
How far rounding goes. The quotient is at most half a place away from the number
that is rounded, and a place is at most `2 ^ -52` of the number unless the number
is among the smallest. Multiples of the last place are not passed by, so what is
rounded to less than such a multiple is less than it.
-/

namespace FeatureFlags.Binary64

theorem one_pos : 0 < one := one_shiftLeft_pos 1074

theorem eq_of_round {format : Format} {negative : Bool} {num den : Nat} {x : Finite}
    (hround : format.round negative num den = .finite x) :
    x.negative = negative ∧ x.units = format.roundUnits num den := by
  rw [Format.round] at hround
  split at hround
  · cases hround
    exact ⟨rfl, rfl⟩
  · cases hround

theorem Finite.ext_units {x y : Finite} (hnegative : x.negative = y.negative)
    (hunits : x.units = y.units) : x = y := by
  cases x
  cases y
  cases hnegative
  cases hunits
  rfl

theorem le_roundHalfEven (num den : Nat) : num / den ≤ roundHalfEven num den := by
  unfold roundHalfEven
  dsimp only
  split
  · exact Nat.le_refl _
  · split
    · exact Nat.le_succ _
    · split
      · exact Nat.le_refl _
      · exact Nat.le_succ _

/-- The quotient is at most a half too large. -/
theorem two_mul_roundHalfEven_le (num den : Nat) :
    2 * (roundHalfEven num den * den) ≤ 2 * num + den := by
  have hsplit := Nat.div_add_mod num den
  rw [Nat.mul_comm] at hsplit
  unfold roundHalfEven
  dsimp only
  split
  · omega
  · split
    · rw [Nat.add_mul, Nat.one_mul]
      omega
    · split
      · omega
      · rw [Nat.add_mul, Nat.one_mul]
        omega

section Units

variable {num den : Nat}

theorem roundUnits_eq (num den : Nat) : Format.binary64.roundUnits num den =
    roundHalfEven num (den * 2 ^ ((num / den).log2 - 52)) * 2 ^ ((num / den).log2 - 52) := by
  rw [Format.roundUnits, lastPlace_binary64, Nat.shiftLeft_eq, Nat.shiftLeft_eq]

/-- The last place is no larger than the number. -/
theorem place_le (hwhole : num / den ≠ 0) : 2 ^ ((num / den).log2 - 52) ≤ num / den :=
  Nat.le_trans (Nat.pow_le_pow_right (by decide) (Nat.sub_le _ _)) (Nat.log2_self_le hwhole)

theorem le_roundUnits (num den : Nat) :
    num / den / 2 ^ ((num / den).log2 - 52) * 2 ^ ((num / den).log2 - 52) ≤
      Format.binary64.roundUnits num den := by
  rw [roundUnits_eq, Nat.div_div_eq_div_mul]
  exact Nat.mul_le_mul_right _ (le_roundHalfEven _ _)

theorem roundUnits_le_succ (num den : Nat) : Format.binary64.roundUnits num den ≤
    (num / den / 2 ^ ((num / den).log2 - 52) + 1) * 2 ^ ((num / den).log2 - 52) := by
  rw [roundUnits_eq, Nat.div_div_eq_div_mul]
  exact Nat.mul_le_mul_right _ (roundHalfEven_le _ _)

theorem roundUnits_le_two_mul (num den : Nat) :
    Format.binary64.roundUnits num den ≤ 2 * (num / den) + 1 := by
  have hle := roundUnits_le_succ num den
  have hmultiple := Nat.div_mul_le_self (num / den) (2 ^ ((num / den).log2 - 52))
  rw [Nat.add_mul, Nat.one_mul] at hle
  by_cases hwhole : num / den = 0
  · rw [hwhole] at hle hmultiple ⊢
    exact Nat.le_trans hle (by decide)
  · have hplace := place_le hwhole
    omega

theorem div_le_two_mul_roundUnits (num den : Nat) :
    num / den ≤ 2 * Format.binary64.roundUnits num den := by
  by_cases hwhole : num / den = 0
  · rw [hwhole]
    exact Nat.zero_le _
  · have hle := le_roundUnits num den
    have hplace := place_le hwhole
    have hpos := Nat.two_pow_pos ((num / den).log2 - 52)
    generalize 2 ^ ((num / den).log2 - 52) = place at hle hplace hpos
    have hone : 1 ≤ num / den / place := (Nat.one_le_div_iff hpos).mpr hplace
    have hlt := Nat.lt_div_mul_add hpos (a := num / den)
    have hmultiple := Nat.mul_le_mul_right place hone
    omega

/-- The error is at most `2 ^ -53` of the number, unless it is among the
smallest. -/
theorem roundUnits_relative (hden : 0 < den) (hnormal : 2 ^ 52 * den ≤ num) :
    2 ^ 53 * (Format.binary64.roundUnits num den * den) ≤ (2 ^ 53 + 1) * num := by
  have hwhole : 2 ^ 52 ≤ num / den := (Nat.le_div_iff_mul_le hden).mpr hnormal
  have hne : num / den ≠ 0 := by omega
  have hlog : 52 ≤ (num / den).log2 := (Nat.le_log2 hne).mpr hwhole
  have hfull : 2 ^ 52 * 2 ^ ((num / den).log2 - 52) ≤ num / den := by
    rw [← Nat.pow_add, Nat.add_sub_cancel' hlog]
    exact Nat.log2_self_le hne
  have hhalf := two_mul_roundHalfEven_le num (den * 2 ^ ((num / den).log2 - 52))
  rw [roundUnits_eq]
  generalize 2 ^ ((num / den).log2 - 52) = place at hfull hhalf ⊢
  have hplace : 2 ^ 52 * (den * place) ≤ num := by
    have hmul := (Nat.le_div_iff_mul_le hden).mp hfull
    calc 2 ^ 52 * (den * place) = 2 ^ 52 * place * den := by ring
      _ ≤ num := hmul
  calc 2 ^ 53 * (roundHalfEven num (den * place) * place * den)
      = 2 ^ 52 * (2 * (roundHalfEven num (den * place) * (den * place))) := by ring
    _ ≤ 2 ^ 52 * (2 * num + den * place) := Nat.mul_le_mul_left _ hhalf
    _ ≤ (2 ^ 53 + 1) * num := by omega

/-- What is at least a multiple of the last place is rounded to no less. -/
theorem le_roundUnits_of_le {multiple place : Nat} (hden : 0 < den) (hlow : 2 ^ 52 ≤ multiple)
    (hhigh : multiple ≤ 2 ^ 53) (hle : multiple * 2 ^ place * den ≤ num) :
    multiple * 2 ^ place ≤ Format.binary64.roundUnits num den := by
  have hwhole : multiple * 2 ^ place ≤ num / den := (Nat.le_div_iff_mul_le hden).mpr hle
  have hpower : 2 ^ (52 + place) ≤ num / den := by
    rw [Nat.pow_add]
    exact Nat.le_trans (Nat.mul_le_mul_right _ hlow) hwhole
  have hne : num / den ≠ 0 := Nat.ne_of_gt (Nat.lt_of_lt_of_le (Nat.two_pow_pos _) hpower)
  have hlog : 52 + place ≤ (num / den).log2 := (Nat.le_log2 hne).mpr hpower
  refine Nat.le_trans ?_ (le_roundUnits num den)
  rcases Nat.eq_or_lt_of_le hlog with heq | hlt
  · have hplace : (num / den).log2 - 52 = place := by omega
    rw [hplace]
    exact Nat.mul_le_mul_right _ ((Nat.le_div_iff_mul_le (Nat.two_pow_pos _)).mpr hwhole)
  · -- The last place is larger than `2 ^ place`, and more than 52 digits are left of it.
    have hbits : 2 ^ 52 ≤ num / den / 2 ^ ((num / den).log2 - 52) := by
      rw [Nat.le_div_iff_mul_le (Nat.two_pow_pos _), ← Nat.pow_add, Nat.add_sub_cancel' (by omega)]
      exact Nat.log2_self_le hne
    have hplaces : 2 ^ (place + 1) ≤ 2 ^ ((num / den).log2 - 52) :=
      Nat.pow_le_pow_right (by decide) (by omega)
    calc multiple * 2 ^ place ≤ 2 ^ 53 * 2 ^ place := Nat.mul_le_mul_right _ hhigh
      _ = 2 ^ 52 * 2 ^ (place + 1) := by ring
      _ ≤ _ := Nat.mul_le_mul hbits hplaces

/-- What is less than the largest number of this last place is rounded to no
more. -/
theorem roundUnits_lt {place : Nat} (hlt : num / den < (2 ^ 53 - 1) * 2 ^ place) :
    Format.binary64.roundUnits num den < 2 ^ (53 + place) := by
  have hle := roundUnits_le_succ num den
  by_cases hplace : (num / den).log2 - 52 = place
  · have hquotient : num / den / 2 ^ place < 2 ^ 53 - 1 :=
      (Nat.div_lt_iff_lt_mul (Nat.two_pow_pos _)).mpr hlt
    rw [hplace] at hle
    rw [Nat.pow_add]
    exact Nat.lt_of_le_of_lt hle (Nat.mul_lt_mul_of_pos_right (by omega) (Nat.two_pow_pos _))
  · have hlog : (num / den).log2 < 53 + place := by
      by_cases hne : num / den = 0
      · rw [hne, Nat.log2_zero]
        omega
      · refine (Nat.log2_lt hne).mpr (Nat.lt_trans hlt ?_)
        rw [Nat.pow_add]
        exact Nat.mul_lt_mul_of_pos_right (by decide) (Nat.two_pow_pos _)
    have hbits : num / den / 2 ^ ((num / den).log2 - 52) < 2 ^ 53 := by
      rw [Nat.div_lt_iff_lt_mul (Nat.two_pow_pos _), ← Nat.pow_add]
      exact Nat.lt_of_lt_of_le Nat.lt_log2_self (Nat.pow_le_pow_right (by decide) (by omega))
    rw [Nat.pow_add]
    refine Nat.lt_of_le_of_lt (Nat.le_trans hle (Nat.mul_le_mul_right _ hbits)) ?_
    exact Nat.mul_lt_mul_of_pos_left (Nat.pow_lt_pow_right (by decide) (by omega)) (by decide)

/-- The last place of the largest numbers. Its power of two is too large to be
looked at by accident. -/
@[irreducible]
def topPlace : Nat := 2045

theorem limit_eq : Format.binary64.limit = 53 + topPlace := by
  rw [topPlace]
  rfl

/-- What is less than the largest number is rounded to a finite number. -/
theorem exists_finite_of_lt (negative : Bool) (hlt : num / den < (2 ^ 53 - 1) * 2 ^ topPlace) :
    ∃ x, Format.binary64.round negative num den = .finite x := by
  have hunits := roundUnits_lt hlt
  refine ⟨_, dif_pos ?_⟩
  rw [limit_eq]
  by_cases hzero : Format.binary64.roundUnits num den = 0
  · rw [hzero, Nat.log2_zero]
    omega
  · exact (Nat.log2_lt hzero).mpr hunits

/-- A number with this last place is a multiple of it. -/
theorem Finite.exists_multiple {x : Finite} {place : Nat} (hlow : 2 ^ 52 * 2 ^ place ≤ x.units)
    (hhigh : x.units.log2 < 53 + place) :
    ∃ multiple, x.units = multiple * 2 ^ place ∧ multiple < 2 ^ 53 := by
  rw [← Nat.pow_add] at hlow
  have hne : x.units ≠ 0 := Nat.ne_of_gt (Nat.lt_of_lt_of_le (Nat.two_pow_pos _) hlow)
  have hlog : 52 + place ≤ x.units.log2 := (Nat.le_log2 hne).mpr hlow
  have hplace : x.units.log2 - 52 = place := by omega
  obtain ⟨multiple, hmultiple⟩ := x.representable.2
  rw [hplace, Nat.one_shiftLeft, Nat.mul_comm] at hmultiple
  have hlt := (Nat.log2_lt hne).mp hhigh
  rw [hmultiple, Nat.pow_add] at hlt
  exact ⟨multiple, hmultiple, Nat.lt_of_mul_lt_mul_right hlt⟩

end Units

end FeatureFlags.Binary64
