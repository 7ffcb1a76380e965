import FeatureFlags.Proofs.Prerequisite.Depth

/-!
Using an answer again, for every bound. A remembered answer is checked against
the bound and one flag more, and this sum is taken in 64 bits. With the greatest
of all bounds it comes round to zero. So a remembered answer is used just where
its tree fits, as numbers go, with every bound but that one; and with that one,
which should allow everything, no answer is ever used again.
-/

namespace FeatureFlags

namespace Evaluator

/-- A remembered answer is used wherever the flags that wait and the flags below
are no more than the bound allows. -/
def ReusesWhatFits (e : Evaluator) : Prop :=
  ∀ (context : Context) (chain : List String) (own key : String) (walk : Walk) (answer : Resolved),
    walk.resolved.get? key = some answer →
    (chain ++ [own]).length + answer.height ≤ e.maxDepth.toNat + 1 →
      e.resolveBehind context (chain ++ [own]) key walk = (.ok answer, walk)

variable {e : Evaluator} {context : Context} {chain : List String} {own key : String}
  {walk : Walk} {answer : Resolved} {chainLength height : Nat}

/-- One more than the greatest bound is nothing. -/
theorem maxDepth_add_one_of_not_fits (hfits : ¬ e.DepthFits) : (e.maxDepth + 1).toNat = 0 := by
  have hlt : e.maxDepth.toNat < UInt64.size := e.maxDepth.toNat_lt_size
  have hsize : e.maxDepth.toNat + 1 = UInt64.size := by
    unfold DepthFits at hfits
    omega
  rw [UInt64.toNat_add]
  change (e.maxDepth.toNat + 1) % UInt64.size = 0
  rw [hsize, Nat.mod_self]

/-- Behind a flag, a tree is let through if it fits and the bound is not the
greatest. -/
theorem tooHigh_eq_false_iff (hpos : 0 < chainLength) :
    e.tooHigh chainLength height = false ↔
      e.DepthFits ∧ chainLength + height ≤ e.maxDepth.toNat + 1 := by
  by_cases hfits : e.DepthFits
  · rw [← Bool.not_eq_true, tooHigh_iff hfits, Nat.not_lt]
    exact (and_iff_right hfits).symm
  · have hhigh : e.tooHigh chainLength height = true := by
      unfold tooHigh
      rw [maxDepth_add_one_of_not_fits hfits]
      exact decide_eq_true (Nat.add_pos_left hpos height)
    rw [hhigh]
    exact iff_of_false Bool.noConfusion (fun hboth => hfits hboth.1)

/-- What becomes of a remembered answer behind a chain of flags. -/
theorem resolveBehind_remembered (hmemo : walk.resolved.get? key = some answer) :
    e.resolveBehind context (chain ++ [own]) key walk =
      (if e.DepthFits ∧ (chain ++ [own]).length + answer.height ≤ e.maxDepth.toNat + 1 then
        .ok answer else .error (.depthExceeded key e.maxDepth), walk) := by
  have hpos : 0 < (chain ++ [own]).length := by simp
  rw [resolveBehind, resolve_remembered hmemo]
  by_cases hroom : e.DepthFits ∧ (chain ++ [own]).length + answer.height ≤ e.maxDepth.toNat + 1
  · rw [if_pos hroom, (tooHigh_eq_false_iff hpos).mpr hroom]
    rfl
  · have hhigh : e.tooHigh (chain ++ [own]).length answer.height = true := by
      rw [← Bool.not_eq_false, tooHigh_eq_false_iff hpos]
      exact hroom
    rw [if_neg hroom, hhigh]
    rfl

theorem resolveBehind_refused (hfits : ¬ e.DepthFits)
    (hmemo : walk.resolved.get? key = some answer) :
    e.resolveBehind context (chain ++ [own]) key walk =
      (.error (.depthExceeded key e.maxDepth), walk) := by
  rw [resolveBehind_remembered hmemo, if_neg (fun hboth => hfits hboth.1)]

theorem reusesWhatFits_of_fits (hfits : e.DepthFits) : e.ReusesWhatFits := by
  intro context chain own key walk answer hmemo hroom
  rw [resolveBehind_remembered hmemo, if_pos ⟨hfits, hroom⟩]

theorem not_reusesWhatFits (hfits : ¬ e.DepthFits) : ¬ e.ReusesWhatFits := by
  intro hreuses
  -- one flag, met again behind one other flag
  have hmemo := Walk.get?_remembering_self {} "base" ⟨none, 1⟩
  have hroom : 1 + 1 ≤ e.maxDepth.toNat + 1 := by
    have hsize : 1 + 1 ≤ UInt64.size := by decide
    unfold DepthFits at hfits
    omega
  have hused := hreuses { key := "user" } [] "right" "base" _ ⟨none, 1⟩ hmemo hroom
  rw [resolveBehind_refused hfits hmemo] at hused
  cases hused

/-- Remembered answers are used wherever they fit with every bound but the
greatest. With the greatest, every use of one is refused as too deep. -/
theorem reusesWhatFits_iff (e : Evaluator) :
    (e.ReusesWhatFits ↔ e.DepthFits) ∧
      (¬ e.DepthFits → ∀ (context : Context) (chain : List String) (own key : String)
        (walk : Walk) (answer : Resolved), walk.resolved.get? key = some answer →
          e.resolveBehind context (chain ++ [own]) key walk =
            (.error (.depthExceeded key e.maxDepth), walk)) := by
  refine ⟨⟨?_, reusesWhatFits_of_fits⟩, ?_⟩
  · intro hreuses
    by_contra hfits
    exact not_reusesWhatFits hfits hreuses
  · intro hfits context chain own key walk answer hmemo
    exact resolveBehind_refused hfits hmemo

/-- The greatest bound that can be set. -/
def unlimited : Evaluator :=
  diamond.withMaxDepth 18446744073709551615

theorem reusesWhatFits_iff_in_diamond :
    diamond.ReusesWhatFits ∧ ¬ unlimited.DepthFits ∧
      unlimited.resolveBehind { key := "user" } ["top", "right"] "base"
          (({} : Walk).remembering "base" ⟨some 0, 1⟩) =
        (.error (.depthExceeded "base" 18446744073709551615),
          ({} : Walk).remembering "base" ⟨some 0, 1⟩) := by
  have hfits : ¬ unlimited.DepthFits := by decide
  exact ⟨(reusesWhatFits_iff diamond).1.mpr depthFits_diamond, hfits,
    (reusesWhatFits_iff unlimited).2 hfits { key := "user" } ["top"] "right" "base" _ _
      (Walk.get?_remembering_self {} "base" ⟨some 0, 1⟩)⟩

/-- Not every bound is kept to: with the greatest one a diamond of three levels
is too deep, and with a bound of two it is not. -/
theorem unlimited_refuses :
    ¬ (∀ e : Evaluator, e.ReusesWhatFits) ∧
      (unlimited.evaluate { key := "user" } "top").result =
        .error (.depthExceeded "base" 18446744073709551615) ∧
      (diamond.evaluate { key := "user" } "top").result.toOption.isSome = true := by
  have hfits : ¬ unlimited.DepthFits := by decide
  refine ⟨fun hall => not_reusesWhatFits hfits (hall unlimited), ?_, ?_⟩
  · cbv
  · cbv

end Evaluator

end FeatureFlags
