import FeatureFlags.Proofs.Numeric.ReadBack
import Mathlib

/-!
Numbers as texts. Rounding looks at the value of a decimal and not at its zeros. A
whole number is written with the digits of an integer and every other number with
a point among its digits, so the text of a number tells the decimal, up to zeros
behind it, and with it the number.
-/

namespace FeatureFlags

namespace Binary64

theorem roundHalfEven_mul (factor num : Nat) {den : Nat} (hpos : 0 < factor) :
    roundHalfEven (factor * num) (factor * den) = roundHalfEven num den := by
  have hquotient : factor * num / (factor * den) = num / den := Nat.mul_div_mul_left num den hpos
  have hrest : 2 * (factor * num % (factor * den)) = factor * (2 * (num % den)) := by
    rw [Nat.mul_mod_mul_left, Nat.mul_left_comm]
  simp only [roundHalfEven, hquotient, hrest, Nat.mul_lt_mul_left hpos]

/-- Rounding a fraction does not depend on how it is written. -/
theorem round_mul (format : Format) (negative : Bool) (factor num den : Nat)
    (hpos : 0 < factor) :
    format.round negative (factor * num) (factor * den) = format.round negative num den := by
  have hunits : format.roundUnits (factor * num) (factor * den) = format.roundUnits num den := by
    simp only [Format.roundUnits, Nat.mul_div_mul_left num den hpos]
    rw [Nat.shiftLeft_eq (factor * den), Nat.mul_assoc, ← Nat.shiftLeft_eq,
      roundHalfEven_mul factor num hpos]
  simp only [Format.round, hunits]

end Binary64

namespace Decimal

open Binary64 (Format Finite)

/-- Zeros behind a number that is not zero are digits of their own. -/
theorem toDigits_mul_pow {n : Nat} (hpos : 0 < n) (places : Nat) :
    Nat.toDigits 10 (n * 10 ^ places) = Nat.toDigits 10 n ++ List.replicate places '0' := by
  induction places with
  | zero => simp
  | succ places ih =>
      have happend := Nat.toDigits_append_toDigits (b := 10) (n := n * 10 ^ places) (d := 0)
        (by decide) (Nat.mul_pos hpos (Nat.pow_pos (by decide))) (by decide)
      rw [ih, Nat.add_zero, Nat.toDigits_zero] at happend
      rw [Nat.pow_succ, ← Nat.mul_assoc, Nat.mul_comm _ 10, ← happend, List.replicate_succ',
        List.append_assoc]

theorem round_scaled (format : Format) (negative : Bool) (coefficient places : Nat) :
    round format ⟨negative, coefficient * 10 ^ (places + 1), -1⟩ =
      round format ⟨negative, coefficient, Int.ofNat places⟩ := by
  rcases Nat.eq_zero_or_pos coefficient with rfl | hpos
  · simp [round]
  · have hscaled : coefficient * 10 ^ (places + 1) ≠ 0 :=
      Nat.ne_of_gt (Nat.mul_pos hpos (Nat.pow_pos (by decide)))
    have hsize : (((Nat.toDigits 10 (coefficient * 10 ^ (places + 1))).length : Nat) : Int) + -1 =
        (Nat.toDigits 10 coefficient).length + (Int.ofNat places) := by
      rw [toDigits_mul_pow hpos, List.length_append, List.length_replicate]
      simp
      omega
    simp only [round, hsize, hscaled, Nat.ne_of_gt hpos, false_or]
    split
    · rfl
    · split
      · rfl
      · have hnum : coefficient * 10 ^ (places + 1) * Binary64.one =
            10 * (coefficient * 10 ^ places * Binary64.one) := by
          rw [Nat.pow_succ]
          ac_rfl
        have hround := Binary64.round_mul format negative 10
          (coefficient * 10 ^ places * Binary64.one) 1 (by decide)
        rw [← hnum] at hround
        exact hround

/-- What is not zero is written with a coefficient that is not zero. -/
theorem coefficient_shortest_ne_zero (tie : Tie) {x : Finite} (hunits : x.units ≠ 0) :
    (shortest tie x).coefficient ≠ 0 := by
  intro hzero
  have hround := round_shortest tie x
  simp only [round, hzero, true_or, if_true] at hround
  exact hunits (congrArg Finite.units (Binary64.finite.inj hround)).symm

/-- Zero is written without zeros behind it. -/
theorem exponent_shortest_of_zero {tie : Tie} {x : Finite}
    (hzero : (shortest tie x).coefficient = 0) : (shortest tie x).exponent = 0 := by
  have hunits : x.units = 0 := Decidable.not_not.mp fun hne =>
    coefficient_shortest_ne_zero tie hne hzero
  rw [shortest, if_pos hunits]

/-! ### Digits -/

/-- A number that is not zero does not begin with a zero. -/
theorem head?_toDigits {n : Nat} (hn : n ≠ 0) : (Nat.toDigits 10 n).head? ≠ some '0' := by
  induction n using Nat.strongRecOn with
  | _ n ih =>
      by_cases hsmall : n < 10
      · rw [Nat.toDigits_of_lt_base hsmall, List.head?_cons]
        exact fun h => hn (Nat.digitChar_eq_zero.mp (Option.some.inj h))
      · have hhead := ih (n / 10) (by omega) (by omega)
        obtain ⟨first, rest, hdigits⟩ := List.exists_cons_of_ne_nil
          (Nat.toDigits_ne_nil (n := n / 10) (b := 10))
        rw [hdigits] at hhead
        rw [Nat.toDigits_of_base_le (by decide) (Nat.le_of_not_lt hsmall), hdigits]
        exact hhead

/-- Digits that write a whole number, without a zero to spare. -/
structure WholeDigits (digits : List Char) : Prop where
  isDigit : ∀ c ∈ digits, c.isDigit = true
  ne_nil : digits ≠ []
  no_spare : 1 < digits.length → digits.head? ≠ some '0'

theorem wholeDigits_toDigits (n : Nat) : WholeDigits (Nat.toDigits 10 n) where
  isDigit _ hmem := Nat.isDigit_of_mem_toDigits (by decide) (by decide) hmem
  ne_nil := Nat.toDigits_ne_nil
  no_spare hlength := by
    refine head?_toDigits ?_
    rintro rfl
    rw [Nat.toDigits_zero] at hlength
    exact absurd hlength (by decide)

/-- Digits with zeros behind them are those of a whole number, unless the digits
are a zero themselves. -/
theorem toDigits_append_zeros {coefficient e : Nat} (hspare : coefficient = 0 → e = 0) :
    Nat.toDigits 10 coefficient ++ List.replicate e '0' =
      Nat.toDigits 10 (coefficient * 10 ^ e) := by
  rcases Nat.eq_zero_or_pos coefficient with rfl | hpos
  · rw [hspare rfl]
    rfl
  · rw [toDigits_mul_pow hpos]

/-! ### Texts -/

/-- Characters behind a minus, if there is one. -/
def signed (negative : Bool) (magnitude : List Char) : List Char :=
  if negative then '-' :: magnitude else magnitude

theorem signed_inj {left right : Bool} {first second : List Char} (hfirst : '-' ∉ first)
    (hsecond : '-' ∉ second) (hsame : signed left first = signed right second) :
    left = right ∧ first = second := by
  cases left <;> cases right <;> simp only [signed, Bool.false_eq_true, if_true, if_false] at hsame
  · exact ⟨rfl, hsame⟩
  · exact absurd (hsame ▸ List.mem_cons_self) hfirst
  · exact absurd (hsame ▸ List.mem_cons_self) hsecond
  · exact ⟨rfl, List.tail_eq_of_cons_eq hsame⟩

theorem not_mem_of_isDigit {c : Char} {digits : List Char} (hc : c.isDigit = false)
    (hdigits : ∀ digit ∈ digits, digit.isDigit = true) : c ∉ digits := by
  intro hmem
  rw [hdigits c hmem] at hc
  cases hc

theorem not_mem_toDigits {c : Char} (hc : c.isDigit = false) (n : Nat) : c ∉ Nat.toDigits 10 n :=
  not_mem_of_isDigit hc (wholeDigits_toDigits n).isDigit

theorem toDigits_inj {m n : Nat} (hsame : Nat.toDigits 10 m = Nat.toDigits 10 n) : m = n := by
  have hvalue := congrArg (Nat.ofDigitChars 10 · 0) hsame
  simpa only [Nat.ofDigitChars_ten_toDigits] using hvalue

theorem toList_toString (n : Int) :
    (toString n).toList = signed (n < 0) (Nat.toDigits 10 n.natAbs) := by
  cases n with
  | ofNat m => exact String.toList_ofList
  | negSucc m =>
      have htext : (toString (Int.negSucc m)).toList =
          ("-" ++ String.ofList (Nat.toDigits 10 (m + 1))).toList := rfl
      have hnegative : decide (Int.negSucc m < 0) = true := decide_eq_true (Int.negSucc_lt_zero m)
      rw [htext, String.toList_append, hnegative]
      exact congrArg ('-' :: ·) String.toList_ofList

/-- A whole number is written with the digits of an integer. -/
theorem toList_toText_ofNat (negative : Bool) {coefficient e : Nat}
    (hspare : coefficient = 0 → e = 0) : (toText ⟨negative, coefficient, .ofNat e⟩).toList =
      signed negative (Nat.toDigits 10 (coefficient * 10 ^ e)) := by
  rw [← toDigits_append_zeros hspare]
  exact String.toList_ofList

/-- Every other number has a point among its digits, with so many of them behind
it. -/
theorem exists_toList_toText_negSucc (negative : Bool) (coefficient e : Nat) :
    ∃ whole fraction, (toText ⟨negative, coefficient, .negSucc e⟩).toList =
        signed negative (whole ++ '.' :: fraction) ∧ fraction.length = e + 1 ∧
      (∀ c ∈ whole ++ fraction, c.isDigit = true) ∧
        Nat.ofDigitChars 10 (whole ++ fraction) 0 = coefficient := by
  let padded := List.replicate (e + 1 + 1 - (Nat.toDigits 10 coefficient).length) '0' ++
    Nat.toDigits 10 coefficient
  have hplaces : e + 1 < padded.length := by
    rw [List.length_append, List.length_replicate]
    omega
  refine ⟨padded.take (padded.length - (e + 1)), padded.drop (padded.length - (e + 1)),
    String.toList_ofList, ?_, ?_, ?_⟩
  · rw [List.length_drop]
    omega
  · rw [List.take_append_drop]
    intro c hmem
    rcases List.mem_append.mp hmem with hmem | hmem
    · rw [List.eq_of_mem_replicate hmem]
      rfl
    · exact (wholeDigits_toDigits coefficient).isDigit c hmem
  · rw [List.take_append_drop, Nat.ofDigitChars_append, Nat.ofDigitChars_replicate_zero,
      Nat.mul_zero, Nat.ofDigitChars_ten_toDigits]

theorem mem_point_toText_negSucc (negative : Bool) (coefficient e : Nat) :
    '.' ∈ (toText ⟨negative, coefficient, .negSucc e⟩).toList := by
  obtain ⟨whole, fraction, htext, _⟩ := exists_toList_toText_negSucc negative coefficient e
  rw [htext]
  cases negative <;> simp [signed]

theorem not_mem_point_signed (negative : Bool) (n : Nat) :
    '.' ∉ signed negative (Nat.toDigits 10 n) := by
  have hdigits : '.' ∉ Nat.toDigits 10 n := not_mem_toDigits rfl n
  cases negative <;> simp [signed, hdigits]

theorem round_ofNat (format : Format) (negative : Bool) (coefficient e : Nat) :
    round format ⟨negative, coefficient, .ofNat e⟩ =
      round format ⟨negative, coefficient * 10 ^ e, 0⟩ := by
  have hwhole := round_scaled format negative (coefficient * 10 ^ e) 0
  rw [Nat.mul_assoc, ← Nat.pow_add, ← Nat.add_assoc, Nat.add_zero] at hwhole
  rw [← round_scaled, hwhole]
  rfl

/-- Decimals with one text are rounded to one number. -/
theorem round_eq_of_toText_eq (format : Format) {d d' : Decimal}
    (hspare : d.coefficient = 0 → d.exponent = 0) (hspare' : d'.coefficient = 0 → d'.exponent = 0)
    (htext : d.toText = d'.toText) : d.round format = d'.round format := by
  obtain ⟨negative, coefficient, exponent⟩ := d
  obtain ⟨negative', coefficient', exponent'⟩ := d'
  have hlist := congrArg String.toList htext
  cases exponent with
  | ofNat e =>
      rw [toList_toText_ofNat negative fun hzero => Int.ofNat.inj (hspare hzero)] at hlist
      cases exponent' with
      | ofNat e' =>
          rw [toList_toText_ofNat negative' fun hzero => Int.ofNat.inj (hspare' hzero)] at hlist
          obtain ⟨rfl, hdigits⟩ := signed_inj (not_mem_toDigits rfl _) (not_mem_toDigits rfl _) hlist
          rw [round_ofNat, round_ofNat, toDigits_inj hdigits]
      | negSucc e' =>
          exact absurd (hlist ▸ mem_point_toText_negSucc _ _ _) (not_mem_point_signed _ _)
  | negSucc e =>
      cases exponent' with
      | ofNat e' =>
          rw [toList_toText_ofNat negative' fun hzero => Int.ofNat.inj (hspare' hzero)] at hlist
          exact absurd (hlist ▸ mem_point_toText_negSucc _ _ _) (not_mem_point_signed _ _)
      | negSucc e' =>
          obtain ⟨whole, fraction, htext, hlength, hdigits, hvalue⟩ :=
            exists_toList_toText_negSucc negative coefficient e
          obtain ⟨whole', fraction', htext', hlength', hdigits', hvalue'⟩ :=
            exists_toList_toText_negSucc negative' coefficient' e'
          rw [htext, htext'] at hlist
          have hminus := not_mem_of_isDigit (c := '-') rfl hdigits
          have hminus' := not_mem_of_isDigit (c := '-') rfl hdigits'
          have hpoint := not_mem_of_isDigit (c := '.') rfl hdigits
          rw [List.mem_append, not_or] at hpoint
          obtain ⟨rfl, hmagnitude⟩ := signed_inj (by simpa using hminus) (by simpa using hminus')
            hlist
          obtain ⟨rfl, _, rfl⟩ :=
            (List.append_cons_inj_of_notMem hpoint.1 hpoint.2).mp hmagnitude
          obtain rfl : e = e' := Nat.succ.inj (hlength.symm.trans hlength')
          rw [← hvalue, ← hvalue']

end Decimal

/-- The text of a finite number belongs to no other. -/
theorem Binary64.Finite.toText_inj {x y : Finite} (htext : x.toText = y.toText) : x = y := by
  have hround := Decimal.round_eq_of_toText_eq .binary64 Decimal.exponent_shortest_of_zero
    Decimal.exponent_shortest_of_zero htext
  rw [Decimal.round_shortest, Decimal.round_shortest] at hround
  exact Binary64.finite.inj hround

end FeatureFlags
