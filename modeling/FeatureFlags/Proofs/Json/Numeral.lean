import FeatureFlags.Json.Render
import FeatureFlags.Proofs.Numeric.Rendered

/-!
Numbers as they are written. What is written for an integer or a float has digits
in front of the point without a zero to spare. The decimal that is written for a
float is rounded to the float, and it has a fraction or an exponent, so it is no
integer.
-/

namespace FeatureFlags

/-! ### Digits -/

namespace Json

/-- The number that a digit stands for. -/
def digitValue (c : Char) : Nat := c.toNat - '0'.toNat

theorem toNat_of_isDigit {c : Char} (h : c.isDigit = true) : 48 ≤ c.toNat ∧ c.toNat ≤ 57 := by
  simpa [Char.isDigit, UInt32.le_iff_toNat_le] using h

theorem digitValue_lt {c : Char} (h : c.isDigit = true) : digitValue c < 10 := by
  have hrange := toNat_of_isDigit h
  show c.toNat - 48 < 10
  omega

theorem digitValue_eq_zero {c : Char} (h : c.isDigit = true) (hzero : digitValue c = 0) :
    c = '0' := by
  have hrange := toNat_of_isDigit h
  have htoNat : c.toNat = '0'.toNat := by
    rw [digitValue] at hzero
    exact Nat.le_antisymm (Nat.sub_eq_zero_iff_le.mp hzero) hrange.1
  exact Char.toNat_inj.mp htoNat

theorem digitChar_digitValue {c : Char} (h : c.isDigit = true) :
    Nat.digitChar (digitValue c) = c := by
  have hrange := toNat_of_isDigit h
  apply Char.toNat_inj.mp
  rw [Nat.toNat_digitChar_of_lt_ten (digitValue_lt h)]
  show 48 + (c.toNat - 48) = c.toNat
  omega

theorem head?_map_digitValue {digits : List Char} (h : ∀ c ∈ digits, c.isDigit = true) :
    (digits.map digitValue).head? = some 0 ↔ digits.head? = some '0' := by
  cases digits with
  | nil => exact iff_of_false nofun nofun
  | cons c rest =>
      rw [List.map_cons, List.head?_cons, List.head?_cons, Option.some_inj, Option.some_inj]
      exact ⟨digitValue_eq_zero (h c List.mem_cons_self), fun hzero => hzero ▸ rfl⟩

theorem ofDigits_map_digitValue (digits : List Char) :
    Decimal.ofDigits (digits.map digitValue) = Nat.ofDigitChars 10 digits 0 := by
  rw [Decimal.ofDigits, List.foldl_map, Nat.ofDigitChars_eq_foldl]
  rfl

end Json

namespace Decimal

open Json (digitValue)

theorem foldl_digits (value : Nat) (digits : List Nat) :
    digits.foldl (fun value digit => 10 * value + digit) value =
      value * 10 ^ digits.length + ofDigits digits := by
  induction digits generalizing value with
  | nil => simp [ofDigits]
  | cons digit rest ih =>
      rw [ofDigits, List.foldl_cons, List.foldl_cons, ih, ih (10 * 0 + digit), List.length_cons,
        Nat.pow_succ, Nat.mul_zero, Nat.zero_add, Nat.add_mul, Nat.mul_comm 10 value,
        Nat.mul_assoc, Nat.mul_comm 10, Nat.add_assoc]

theorem ofDigits_append (front back : List Nat) :
    ofDigits (front ++ back) = ofDigits front * 10 ^ back.length + ofDigits back := by
  rw [ofDigits, List.foldl_append, foldl_digits]
  rfl

theorem ofDigits_zeros (places : Nat) : ofDigits (List.replicate places 0) = 0 := by
  induction places with
  | zero => rfl
  | succ places ih =>
      rw [List.replicate_succ', ofDigits_append, ih, Nat.zero_mul]
      rfl

theorem ofDigits_digits (n : Nat) : ofDigits (digits n) = n :=
  (Json.ofDigits_map_digitValue _).trans Nat.ofDigitChars_ten_toDigits

theorem lt_of_mem_digits {n digit : Nat} (hmem : digit ∈ digits n) : digit < 10 := by
  obtain ⟨c, hc, rfl⟩ := List.mem_map.mp hmem
  exact Json.digitValue_lt ((wholeDigits_toDigits n).isDigit c hc)

theorem digits_ne_nil (n : Nat) : digits n ≠ [] :=
  mt List.map_eq_nil_iff.mp Nat.toDigits_ne_nil

theorem head?_digits {n : Nat} (hn : n ≠ 0) : (digits n).head? ≠ some 0 :=
  mt (Json.head?_map_digitValue (wholeDigits_toDigits n).isDigit).mp (head?_toDigits hn)

theorem map_digitChar_digits (n : Nat) : (digits n).map Nat.digitChar = Nat.toDigits 10 n := by
  rw [digits, List.map_map]
  refine (List.map_congr_left fun c hmem => ?_).trans (List.map_id _)
  exact Json.digitChar_digitValue ((wholeDigits_toDigits n).isDigit c hmem)

end Decimal

namespace Json.Numeral

open Binary64 (Format Finite)
open Decimal (digits ofDigits)

/-- The number has digits, and in front of the point none of them is a zero to
spare. -/
structure WellFormed (n : Numeral) : Prop where
  whole_ne_nil : n.whole ≠ []
  no_spare : 1 < n.whole.length → n.whole.head? ≠ some 0
  whole_lt : ∀ digit ∈ n.whole, digit < 10
  fraction_lt : ∀ digit ∈ n.fraction, digit < 10

/-- The decimal that a number writes. -/
def decimal (n : Numeral) : Decimal :=
  ⟨n.negative, ofDigits (n.whole ++ n.fraction), n.power.getD 0 - n.fraction.length⟩

/-! ### Integers -/

/-- An integer as it is written. -/
def ofInteger (n : Integer) : Numeral :=
  ⟨n.value < 0, digits n.value.natAbs, [], none⟩

theorem toText_ofInteger (n : Integer) : (ofInteger n).toText = toString n.value := by
  refine String.toList_injective ?_
  rw [Decimal.toList_toString, ← Decimal.map_digitChar_digits]
  simp [toText, ofInteger, fractionText, powerText, Decimal.signed]

theorem no_spare_digits (n : Nat) : 1 < (digits n).length → (digits n).head? ≠ some 0 := by
  intro hlength
  refine Decimal.head?_digits ?_
  rintro rfl
  exact absurd hlength (by decide)

theorem wellFormed_ofInteger (n : Integer) : (ofInteger n).WellFormed where
  whole_ne_nil := Decimal.digits_ne_nil _
  no_spare := no_spare_digits _
  whole_lt _ := Decimal.lt_of_mem_digits
  fraction_lt := List.forall_mem_nil _

/-- The digits of an integer are read as the integer. -/
theorem integer?_ofInteger (n : Integer) : (ofInteger n).integer? = some n := by
  have hread : (ofInteger n).integer? =
      if n.value < 0 then if n.value.natAbs = 0 then none else Integer.ofInt? (-n.value.natAbs)
      else Integer.ofInt? n.value.natAbs := by
    simp [integer?, ofInteger, Decimal.ofDigits_digits]
  rw [hread]
  split
  · rw [if_neg (by omega), Int.ofNat_natAbs_of_nonpos (by omega), Int.neg_neg]
    exact n.ofInt?_value
  · rw [Int.natAbs_of_nonneg (by omega)]
    exact n.ofInt?_value

/-! ### Decimals with their point -/

section Positional

theorem lt_length_padded (n places : Nat) : places < (padded n places).length := by
  rw [padded, List.length_append, List.length_replicate]
  omega

theorem ofDigits_padded (n places : Nat) : ofDigits (padded n places) = n := by
  rw [padded, Decimal.ofDigits_append, Decimal.ofDigits_zeros, Nat.zero_mul, Nat.zero_add,
    Decimal.ofDigits_digits]

theorem lt_of_mem_padded {n places digit : Nat} (hmem : digit ∈ padded n places) : digit < 10 := by
  rcases List.mem_append.mp hmem with hmem | hmem
  · rw [List.eq_of_mem_replicate hmem]
    decide
  · exact Decimal.lt_of_mem_digits hmem

/-- Where the digits are more than the places and one, no zero was put in front. -/
theorem padded_eq_digits {n places : Nat} (hmany : places + 1 < (padded n places).length) :
    padded n places = digits n := by
  have hnone : places + 1 - (digits n).length = 0 := by
    rw [padded, List.length_append, List.length_replicate] at hmany
    omega
  rw [padded, hnone, List.replicate_zero, List.nil_append]

theorem positional_ofNat (negative : Bool) (coefficient e : Nat) :
    positional ⟨negative, coefficient, .ofNat e⟩ =
      ⟨negative, digits coefficient ++ List.replicate e 0, [0], none⟩ := rfl

theorem positional_negSucc (negative : Bool) (coefficient e : Nat) :
    positional ⟨negative, coefficient, .negSucc e⟩ =
      ⟨negative,
        (padded coefficient (e + 1)).take ((padded coefficient (e + 1)).length - (e + 1)),
        (padded coefficient (e + 1)).drop ((padded coefficient (e + 1)).length - (e + 1)),
        none⟩ := rfl

variable {d : Decimal}

theorem wellFormed_positional (hspare : d.coefficient = 0 → d.exponent = 0) :
    (positional d).WellFormed := by
  obtain ⟨negative, coefficient, e | e⟩ := d
  · rw [positional_ofNat]
    refine ⟨?_, fun hlength => ?_, fun digit hmem => ?_, List.forall_mem_singleton.mpr (by decide)⟩
    · exact List.append_ne_nil_of_left_ne_nil (Decimal.digits_ne_nil _) _
    · have hne : coefficient ≠ 0 := by
        rintro rfl
        obtain rfl : e = 0 := Int.ofNat.inj (hspare rfl)
        cases hlength with
        | step h => cases h
      rw [List.head?_append_of_ne_nil _ (Decimal.digits_ne_nil _)]
      exact Decimal.head?_digits hne
    · rcases List.mem_append.mp hmem with hmem | hmem
      · exact Decimal.lt_of_mem_digits hmem
      · rw [List.eq_of_mem_replicate hmem]
        decide
  · have hplaces := lt_length_padded coefficient (e + 1)
    rw [positional_negSucc]
    refine ⟨List.ne_nil_of_length_pos ?_, fun hlength => ?_,
      fun _ hmem => lt_of_mem_padded (List.mem_of_mem_take hmem),
      fun _ hmem => lt_of_mem_padded (List.mem_of_mem_drop hmem)⟩
    · rw [List.length_take]
      omega
    · rw [List.length_take] at hlength
      have hdigits : padded coefficient (e + 1) = digits coefficient :=
        padded_eq_digits (by omega)
      rw [List.head?_take, if_neg (by omega), hdigits]
      exact no_spare_digits coefficient (hdigits ▸ by omega)

theorem decimal_positional_negSucc (negative : Bool) (coefficient e : Nat) :
    (positional ⟨negative, coefficient, .negSucc e⟩).decimal =
      ⟨negative, coefficient, .negSucc e⟩ := by
  have hplaces := lt_length_padded coefficient (e + 1)
  rw [positional_negSucc, decimal, List.take_append_drop, ofDigits_padded, Option.getD_none,
    List.length_drop, Nat.sub_sub_self (Nat.le_of_lt hplaces), Int.zero_sub]
  rfl

/-- A point and a zero behind it do not matter to rounding. -/
theorem round_decimal_positional (format : Format) (d : Decimal) :
    (positional d).decimal.round format = d.round format := by
  obtain ⟨negative, coefficient, e | e⟩ := d
  · have hvalue : ofDigits (digits coefficient ++ List.replicate e 0 ++ [0]) =
        coefficient * 10 ^ (e + 1) := by
      rw [Decimal.ofDigits_append, Decimal.ofDigits_append, Decimal.ofDigits_zeros,
        Decimal.ofDigits_digits, List.length_replicate, Nat.add_zero, Nat.pow_succ, Nat.mul_assoc]
      rfl
    rw [positional_ofNat, decimal, hvalue]
    exact Decimal.round_scaled format negative coefficient e
  · rw [decimal_positional_negSucc]

theorem length_whole_positional_le {places : Nat} (hplaces : 0 < places)
    (h : (digits d.coefficient).length + d.exponent ≤ places) :
    (positional d).whole.length ≤ places := by
  obtain ⟨negative, coefficient, e | e⟩ := d
  · rw [positional_ofNat, List.length_append, List.length_replicate]
    exact Int.ofNat_le.mp h
  · rw [positional_negSucc, List.length_take, padded, List.length_append, List.length_replicate]
    simp only at h
    omega

theorem fraction_positional_ne_nil (d : Decimal) : (positional d).fraction ≠ [] := by
  obtain ⟨negative, coefficient, e | e⟩ := d
  · exact List.cons_ne_nil _ _
  · have hplaces := lt_length_padded coefficient (e + 1)
    rw [positional_negSucc]
    refine List.ne_nil_of_length_pos ?_
    rw [List.length_drop]
    omega

end Positional

/-! ### Decimals with an exponent -/

theorem wellFormed_scientific (d : Decimal) : (scientific d).WellFormed where
  whole_ne_nil := by
    refine List.ne_nil_of_length_pos ?_
    have hlength := List.length_pos_iff.mpr (Decimal.digits_ne_nil d.coefficient)
    show 0 < ((digits d.coefficient).take 1).length
    rw [List.length_take]
    omega
  no_spare hlength := absurd hlength (Nat.not_lt.mpr (List.length_take_le 1 _))
  whole_lt _ hmem := Decimal.lt_of_mem_digits (List.mem_of_mem_take hmem)
  fraction_lt _ hmem := Decimal.lt_of_mem_digits (List.mem_of_mem_drop hmem)

theorem decimal_scientific (d : Decimal) : (scientific d).decimal = d := by
  have hlength := List.length_pos_iff.mpr (Decimal.digits_ne_nil d.coefficient)
  have hvalue : ofDigits ((digits d.coefficient).take 1 ++ (digits d.coefficient).drop 1) =
      d.coefficient := by
    rw [List.take_append_drop, Decimal.ofDigits_digits]
  have hexponent : ((digits d.coefficient).length + d.exponent - 1 : Int) -
      ((digits d.coefficient).drop 1).length = d.exponent := by
    rw [List.length_drop]
    omega
  show Decimal.mk _ (ofDigits _) (_ - _) = d
  exact congrArg₂ (Decimal.mk d.negative) hvalue hexponent

/-! ### Floats -/

section Floats

variable (x : Finite)

theorem ofFloat_cases :
    (digits (Decimal.shortest .even x).coefficient).length + (Decimal.shortest .even x).exponent ≤ 16 ∧
        ofFloat x = positional (Decimal.shortest .even x) ∨
      ofFloat x = scientific (Decimal.shortest .even x) := by
  rw [ofFloat]
  split
  · next h => exact .inl ⟨h.2, rfl⟩
  · exact .inr rfl

theorem wellFormed_ofFloat : (ofFloat x).WellFormed := by
  rcases ofFloat_cases x with ⟨_, hform⟩ | hform
  · rw [hform]
    exact wellFormed_positional Decimal.exponent_shortest_of_zero
  · rw [hform]
    exact wellFormed_scientific _

/-- The decimal that is written for a float is rounded to the float. -/
theorem round_decimal_ofFloat : (ofFloat x).decimal.round .binary64 = .finite x := by
  rcases ofFloat_cases x with ⟨_, hform⟩ | hform
  · rw [hform, round_decimal_positional, Decimal.round_shortest]
  · rw [hform, decimal_scientific, Decimal.round_shortest]

theorem length_whole_ofFloat_le : (ofFloat x).whole.length ≤ 16 := by
  rcases ofFloat_cases x with ⟨hpoint, hform⟩ | hform
  · rw [hform]
    exact length_whole_positional_le (by decide) hpoint
  · rw [hform]
    exact Nat.le_trans (List.length_take_le 1 _) (by decide)

/-- A float is not written as an integer is. -/
theorem integer?_ofFloat : (ofFloat x).integer? = none := by
  have hform : ((ofFloat x).fraction.isEmpty && (ofFloat x).power.isNone) = false := by
    rcases ofFloat_cases x with ⟨_, hform⟩ | hform
    · rw [hform, List.isEmpty_eq_false_iff.mpr (fraction_positional_ne_nil _), Bool.false_and]
    · rw [hform]
      exact Bool.and_false _
  rw [integer?, hform, if_neg Bool.false_ne_true]

end Floats

end Json.Numeral

end FeatureFlags
