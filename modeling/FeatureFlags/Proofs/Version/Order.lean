import FeatureFlags.Proofs.Version.Text
import Mathlib

/-!
The order of versions is total, and versions that it does not tell apart are the
same. It is put together from the orders of numbers and texts: identifiers are
compared by kind, value, length and characters, lists of them identifier by
identifier, and versions part by part.
-/

namespace FeatureFlags

namespace Version

open Std

/-! ### Identifiers -/

theorem Identifier.number?_eq_some_iff {identifier : Identifier} {n : Nat} :
    identifier.number? = some n ↔ (∀ c ∈ identifier.text.toList, c.isDigit = true) ∧
      Nat.ofDigitChars 10 identifier.text.toList 0 = n := by
  rw [number?, Decimal.spanDigits]
  by_cases hall : ∀ c ∈ identifier.text.toList, c.isDigit = true
  · rw [List.takeWhile_eq_self_iff.mpr hall, List.dropWhile_eq_nil_iff.mpr hall,
      ← Json.ofDigits_map_digitValue, and_iff_right hall]
    exact Option.some_inj
  · obtain ⟨c, rest, hrest⟩ := List.exists_cons_of_ne_nil (mt List.dropWhile_eq_nil_iff.mp hall)
    rw [hrest]
    exact iff_of_false nofun fun h => hall h.1

/-- Numbers stand before words. A number is told by its value and its length, a
word by its characters. -/
theorem Identifier.compare_eq : Identifier.compare =
    compareLex (compareOn fun identifier => identifier.number?.isNone)
      (compareLex (compareOn fun identifier => identifier.number?.getD 0)
        (compareLex
          (compareOn fun identifier =>
            if identifier.number?.isSome then identifier.text.length else 0)
          (compareOn fun identifier =>
            if identifier.number?.isSome then "" else identifier.text))) := by
  funext left right
  cases hleft : left.number? <;> cases hright : right.number? <;>
    simp [Identifier.compare, compareLex, compareOn, hleft, hright]
  -- What is left compares a word with a number, which the kinds decide.
  · rfl
  · rfl

instance : TransCmp Identifier.compare := by
  rw [Identifier.compare_eq]
  infer_instance

/-- Digits of one length are told by their number. -/
theorem eq_of_ofDigitChars_eq {left right : List Char}
    (hleft : ∀ c ∈ left, c.isDigit = true) (hright : ∀ c ∈ right, c.isDigit = true)
    (hlength : left.length = right.length)
    (hvalue : Nat.ofDigitChars 10 left 0 = Nat.ofDigitChars 10 right 0) : left = right := by
  -- A digit in front keeps the zeros that the number alone does not show.
  have hone := toDigits_append_digits hleft Nat.one_pos
  rw [Nat.ofDigitChars_eq_ofDigitChars_zero, hlength, hvalue,
    ← Nat.ofDigitChars_eq_ofDigitChars_zero, ← toDigits_append_digits hright Nat.one_pos] at hone
  exact List.append_cancel_left hone

instance : LawfulEqCmp Identifier.compare where
  eq_of_compare {left right} heq := by
    have htext : left.text = right.text := by
      unfold Identifier.compare at heq
      split at heq
      · next m n hleft hright =>
          obtain ⟨hm, hn⟩ := Ordering.then_eq_eq.mp heq
          obtain ⟨hleftDigits, hleftValue⟩ := Identifier.number?_eq_some_iff.mp hleft
          obtain ⟨hrightDigits, hrightValue⟩ := Identifier.number?_eq_some_iff.mp hright
          have hlength : left.text.toList.length = right.text.toList.length := by
            rw [String.length_toList, String.length_toList]
            exact LawfulEqOrd.eq_of_compare hn
          refine String.toList_inj.mp (eq_of_ofDigitChars_eq hleftDigits hrightDigits hlength ?_)
          rw [hleftValue, hrightValue]
          exact LawfulEqOrd.eq_of_compare hm
      · cases heq
      · cases heq
      · exact LawfulEqOrd.eq_of_compare heq
    cases left
    cases right
    exact congrArg Identifier.mk htext

/-! ### Lists of identifiers -/

theorem compareIdentifiers_eq : compareIdentifiers = List.compareLex Identifier.compare := by
  funext left right
  induction left generalizing right with
  | nil => cases right <;> rfl
  | cons first rest ih =>
      cases right with
      | nil => rfl
      | cons other more => rw [compareIdentifiers, List.compareLex_cons_cons, ih]

instance : TransCmp compareIdentifiers := by
  rw [compareIdentifiers_eq]
  infer_instance

instance : LawfulEqCmp compareIdentifiers := by
  rw [compareIdentifiers_eq]
  infer_instance

theorem comparePreReleases_eq :
    comparePreReleases = compareLex (compareOn List.isEmpty) compareIdentifiers := by
  funext left right
  cases left <;> cases right <;> rfl

instance : TransCmp comparePreReleases := by
  rw [comparePreReleases_eq]
  infer_instance

instance : LawfulEqCmp comparePreReleases where
  eq_of_compare {left right} heq := by
    rw [comparePreReleases_eq] at heq
    exact LawfulEqCmp.eq_of_compare (Ordering.then_eq_eq.mp heq).2

/-! ### Versions -/

instance : TransCmp fun left right : Version =>
    comparePreReleases left.preRelease right.preRelease where
  eq_swap := (inferInstance : OrientedCmp comparePreReleases).eq_swap
  isLE_trans := (inferInstance : TransCmp comparePreReleases).isLE_trans

instance : TransCmp fun left right : Version => compareIdentifiers left.build right.build where
  eq_swap := (inferInstance : OrientedCmp compareIdentifiers).eq_swap
  isLE_trans := (inferInstance : TransCmp compareIdentifiers).isLE_trans

instance : TransCmp compare :=
  inferInstanceAs <| TransCmp <|
    compareLex (compareOn Version.major) <| compareLex (compareOn Version.minor) <|
      compareLex (compareOn Version.patch) <|
        compareLex (fun left right : Version => comparePreReleases left.preRelease right.preRelease)
          fun left right : Version => compareIdentifiers left.build right.build

instance : LawfulEqCmp compare where
  eq_of_compare {left right} heq := by
    simp only [compare, Ordering.then_eq_eq, LawfulEqCmp.compare_eq_iff_eq] at heq
    cases left
    cases right
    obtain ⟨rfl, rfl, rfl, rfl, rfl⟩ := heq
    rfl

end Version

end FeatureFlags
