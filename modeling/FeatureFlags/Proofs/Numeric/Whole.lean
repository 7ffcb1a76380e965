import FeatureFlags.Proofs.Numeric.Rendered
import FeatureFlags.Proofs.Numeric.Rounding

/-!
Whole numbers as binary64 numbers. An integer of 64 bits that is too large for a
signed word has 64 digits, eleven more than a binary64 number keeps, so it is
rounded to a multiple of 2048. Two such integers become the same number just if
the same multiple is nearest to both, and that multiple is never below the least
of these integers.

The text of a number has the shortest digits that read back, with zeros behind
them. If these are the digits of an integer, the number is the one nearest to
it. So no integer that fits in a signed word has the text of a rounded one: the
only number that comes from both kinds is the least, and its text is too large.
-/

namespace FeatureFlags

namespace Binary64

theorem log2_shiftLeft {n : Nat} (hn : n ≠ 0) (places : Nat) :
    (n <<< places).log2 = n.log2 + places := by
  have hpower := Nat.two_pow_pos places
  have hne : n * 2 ^ places ≠ 0 := Nat.mul_ne_zero hn (Nat.ne_of_gt hpower)
  obtain ⟨hlow, hhigh⟩ := (Nat.log2_eq_iff hn).mp rfl
  rw [Nat.shiftLeft_eq, Nat.log2_eq_iff hne, Nat.add_right_comm, Nat.pow_add, Nat.pow_add]
  exact ⟨Nat.mul_le_mul_right _ hlow, Nat.mul_lt_mul_of_pos_right hhigh hpower⟩

/-- A whole number of so many binary digits is rounded to a multiple of the power
that leaves it 53 of them. -/
theorem roundUnits_whole {n bits : Nat} (hlow : 2 ^ (bits + 52) ≤ n)
    (hhigh : n < 2 ^ (bits + 53)) :
    Format.binary64.roundUnits (n * one) 1 = one * (roundHalfEven n (2 ^ bits) * 2 ^ bits) := by
  have hn : n ≠ 0 := Nat.ne_of_gt (Nat.lt_of_lt_of_le (Nat.two_pow_pos _) hlow)
  have hlog : n.log2 = bits + 52 := (Nat.log2_eq_iff hn).mpr ⟨hlow, hhigh⟩
  have hplace : (n * one).log2 - 52 = 1074 + bits := by
    rw [one, ← shiftLeft_eq_mul, log2_shiftLeft hn, hlog]
    omega
  have hden : 1 <<< (1074 + bits) = one * 2 ^ bits := by
    rw [Nat.shiftLeft_add, Nat.shiftLeft_eq _ bits]
    rfl
  rw [Format.roundUnits, Nat.div_one, lastPlace_binary64, hplace, shiftLeft_eq_mul, hden,
    Nat.mul_comm n one, roundHalfEven_mul one n one_pos, Nat.mul_left_comm]

end Binary64

namespace Decimal

open Binary64 (Format Finite)

/-- An integer is rounded like the decimal of its digits. -/
theorem round_natAbs {n : Int} (hn : n.natAbs < 10 ^ 20) :
    round .binary64 ⟨n < 0, n.natAbs, 0⟩ = Binary64.ofInt n := by
  by_cases hzero : n = 0
  · subst hzero
    rfl
  · have hlength : (Nat.toDigits 10 n.natAbs).length ≤ 20 :=
      (Nat.length_toDigits_le_iff (by decide) (by decide)).mpr hn
    have hne : n.natAbs ≠ 0 := Int.natAbs_ne_zero.mpr hzero
    rw [round, if_neg (by simp only; omega), if_neg (by simp only; omega)]
    show Format.binary64.round _ (n.natAbs * 1 * Binary64.one) 1 = _
    rw [Nat.mul_one]
    rfl

theorem toText_natAbs (n : Int) : toText ⟨n < 0, n.natAbs, 0⟩ = toString n := by
  have htext : (toText ⟨n < 0, n.natAbs, .ofNat 0⟩).toList = _ :=
    toList_toText_ofNat _ fun _ => rfl
  rw [Nat.pow_zero, Nat.mul_one, ← toList_toString] at htext
  exact String.toList_injective htext

/-- A number that is written as an integer is the number nearest to the integer. -/
theorem ofInt_of_toText_eq {x : Finite} {n : Int} (hn : n.natAbs < 10 ^ 20)
    (htext : x.toText = toString n) : Binary64.ofInt n = .finite x := by
  have hround := round_eq_of_toText_eq .binary64 exponent_shortest_of_zero (fun _ => rfl)
    (htext.trans (toText_natAbs n).symm)
  rw [round_shortest, round_natAbs hn] at hround
  exact hround.symm

end Decimal

namespace Json

open Binary64 (one)

/-- The integer does not fit in a signed word. -/
def Integer.Wide (n : Integer) : Prop :=
  0x8000000000000000 ≤ n.value

/-- The multiple of 2048 nearest to an integer that is not negative; of two
equally near ones, the even one. -/
def Integer.nearest (n : Integer) : Nat :=
  Binary64.roundHalfEven n.value.toNat 2048 * 2048

variable {m n : Integer}

/-- A wide integer becomes the multiple of 2048 nearest to it. -/
theorem Integer.Wide.exists_finite (hwide : n.Wide) :
    ∃ x, n.toBinary64 = .finite x ∧ x.negative = false ∧ x.units = one * n.nearest := by
  obtain ⟨x, hfinite⟩ := n.exists_finite
  have hvalue : n.value.natAbs = n.value.toNat := by
    unfold Wide at hwide
    omega
  have hlow : 2 ^ (11 + 52) ≤ n.value.toNat := by
    unfold Wide at hwide
    omega
  have hhigh : n.value.toNat < 2 ^ (11 + 53) := by
    have hupper := n.upper
    omega
  obtain ⟨hnegative, hunits⟩ := Binary64.eq_of_round hfinite
  refine ⟨x, hfinite, ?_, ?_⟩
  · rw [hnegative, decide_eq_false_iff_not]
    unfold Wide at hwide
    omega
  · rw [hunits, hvalue, Binary64.roundUnits_whole hlow hhigh]
    rfl

theorem Integer.Wide.le_nearest (hwide : n.Wide) : 0x8000000000000000 ≤ n.nearest := by
  have hquotient := Binary64.le_roundHalfEven n.value.toNat 2048
  unfold Wide at hwide
  unfold nearest
  omega

/-- Wide integers become the same number just if the same multiple is nearest to
both. -/
theorem Integer.Wide.toBinary64_eq_iff (hm : m.Wide) (hn : n.Wide) :
    m.toBinary64 = n.toBinary64 ↔ m.nearest = n.nearest := by
  obtain ⟨x, hx, hxnegative, hxunits⟩ := hm.exists_finite
  obtain ⟨y, hy, hynegative, hyunits⟩ := hn.exists_finite
  rw [hx, hy]
  constructor
  · intro hsame
    cases hsame
    rw [hxunits] at hyunits
    exact Nat.eq_of_mul_eq_mul_left Binary64.one_pos hyunits
  · intro hsame
    have hunits : x.units = y.units := by rw [hxunits, hyunits, hsame]
    rw [Binary64.Finite.ext_units (hxnegative.trans hynegative.symm) hunits]

/-- Of the numbers that wide integers become, only the least is the nearest
number of an integer that is not wide. -/
theorem Integer.nearest_eq_of_toBinary64_eq (hm : ¬ m.Wide) (hn : n.Wide)
    (hsame : m.toBinary64 = n.toBinary64) : n.nearest = 0x8000000000000000 := by
  obtain ⟨x, hx, hnegative, hunits⟩ := hn.exists_finite
  have hlow := hn.le_nearest
  have hround := hsame.trans hx
  obtain ⟨hsign, hrounded⟩ := Binary64.eq_of_round hround
  rw [hunits] at hrounded
  have hsmall : m.value.natAbs < 0x8000000000000000 := by
    rw [hnegative, eq_comm, decide_eq_false_iff_not] at hsign
    unfold Wide at hm
    omega
  by_cases hlarge : 2 ^ (10 + 52) ≤ m.value.natAbs
  · rw [Binary64.roundUnits_whole hlarge (by omega)] at hrounded
    have hnearest := Nat.eq_of_mul_eq_mul_left Binary64.one_pos hrounded
    have hle := Binary64.roundHalfEven_le m.value.natAbs (2 ^ 10)
    omega
  · have hle : one * n.nearest ≤ one * (2 * m.value.natAbs) := by
      by_cases hzero : m.value.natAbs = 0
      · rw [hrounded, hzero, Nat.zero_mul]
        decide
      · have hne : m.value.natAbs * one ≠ 0 := Nat.mul_ne_zero hzero (Nat.ne_of_gt Binary64.one_pos)
        rw [hrounded, Nat.mul_comm one, Nat.mul_assoc]
        exact Binary64.roundUnits_le hne
    have := Nat.le_of_mul_le_mul_left hle Binary64.one_pos
    omega

theorem Integer.Wide.exists_whole (hwide : n.Wide) :
    ∃ x, n.toBinary64 = .finite x ∧ x.toInt? = some (n.nearest : Int) := by
  obtain ⟨x, hx, hnegative, hunits⟩ := hwide.exists_finite
  refine ⟨x, hx, ?_⟩
  rw [Binary64.Finite.toInt?, hunits, if_pos (Nat.mul_mod_right one _), hnegative,
    Nat.mul_div_cancel_left _ Binary64.one_pos]
  rfl

/-- The least integer that does not fit in a signed word. -/
def Integer.leastWide : Integer := ⟨0x8000000000000000, by decide, by decide⟩

theorem Integer.wide_leastWide : leastWide.Wide :=
  Int.le_refl _

/-- It is written with sixteen digits and zeros behind them, as a larger integer. -/
theorem Integer.toText_leastWide :
    leastWide.toBinary64.toText = toString (9223372036854776000 : Int) := by
  decide +kernel

/-- The text of a wide integer that was rounded is not the text of any integer
that is not wide. -/
theorem Integer.Wide.toText_ne (hn : n.Wide) (hm : ¬ m.Wide) :
    n.toBinary64.toText ≠ toString m.value := by
  intro htext
  have hsmall : m.value.natAbs < 10 ^ 20 := by
    have hlower := m.lower
    have hupper := m.upper
    omega
  have hsame : m.toBinary64 = n.toBinary64 := by
    obtain ⟨x, hx⟩ := n.exists_finite
    rw [hx] at htext ⊢
    exact Decimal.ofInt_of_toText_eq hsmall htext
  have hleast : n.toBinary64 = leastWide.toBinary64 := by
    rw [hn.toBinary64_eq_iff wide_leastWide, nearest_eq_of_toBinary64_eq hm hn hsame]
    decide
  rw [hleast, toText_leastWide] at htext
  have hvalue := Int.repr_inj.mp htext
  unfold Wide at hm
  omega

end Json

end FeatureFlags
