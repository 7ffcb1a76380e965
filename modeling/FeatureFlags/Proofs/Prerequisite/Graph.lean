import FeatureFlags.Proofs.Prerequisite.Memo
import Mathlib.Logic.Relation

/-!
The graph of prerequisites, and evaluations that end well because of its shape.
Where the paths from a flag are bounded by the depth, no chain is too long and
none returns to a flag that waits, so nothing stands in the way of an answer.
-/

namespace FeatureFlags

namespace Evaluator

open Relation (TransGen ReflTransGen)

/-- A flag of the store names another flag of the store as a prerequisite. -/
def Requires (e : Evaluator) (key required : String) : Prop :=
  ∃ flag, e.lookup key = some flag ∧
    (∃ prerequisite ∈ flag.prerequisites, prerequisite.key = required) ∧
    (e.lookup required).isSome = true

/-- No path of prerequisites from a key has more edges. -/
def PathsWithin (e : Evaluator) (key : String) (edges : Nat) : Prop :=
  ∀ path, List.IsChain e.Requires (key :: path) → path.length ≤ edges

variable {e : Evaluator} {context : Context} {key next : String} {edges : Nat}

theorem PathsWithin.after_step (hpaths : e.PathsWithin key edges) (hstep : e.Requires key next) :
    ∃ fewer, edges = fewer + 1 ∧ e.PathsWithin next fewer := by
  have hone : 1 ≤ edges := hpaths [next] (.cons_cons hstep (.singleton next))
  refine ⟨edges - 1, by omega, fun path hpath => ?_⟩
  have hlonger := hpaths (next :: path) (.cons_cons hstep hpath)
  rw [List.length_cons] at hlonger
  omega

/-- Bounded paths do not return. -/
theorem PathsWithin.not_cyclic (hpaths : e.PathsWithin key edges) :
    ¬ TransGen e.Requires key key := by
  induction edges generalizing key with
  | zero =>
      intro hcycle
      obtain ⟨next, hstep, _⟩ := TransGen.head'_iff.mp hcycle
      obtain ⟨fewer, hfewer, _⟩ := hpaths.after_step hstep
      omega
  | succ edges ih =>
      intro hcycle
      obtain ⟨next, hstep, hback⟩ := TransGen.head'_iff.mp hcycle
      obtain ⟨fewer, hfewer, hnext⟩ := hpaths.after_step hstep
      obtain rfl : edges = fewer := by omega
      exact ih hnext (.tail' hback hstep)

/-- A number that falls along every edge bounds the paths. -/
theorem pathsWithin_of_rank (rank : String → Nat)
    (hrank : ∀ key next, e.Requires key next → rank next < rank key) (key : String) :
    e.PathsWithin key (rank key) := by
  intro path hpath
  induction path generalizing key with
  | nil => exact Nat.zero_le _
  | cons next rest ih =>
      obtain ⟨hstep, hrest⟩ := List.isChain_cons_cons.mp hpath
      have hlt := hrank key next hstep
      have hle := ih next hrest
      rw [List.length_cons]
      omega

/-- A flag whose paths fit under the bound has an answer behind every chain
that leads to it. -/
theorem visitAfresh_ok_of_pathsWithin (hkeyed : e.WellKeyed) {chain : List String} {flag : Flag}
    (hheld : e.lookup flag.key = some flag) (hpaths : e.PathsWithin flag.key edges)
    (hroom : chain.length + edges ≤ e.maxDepth.toNat)
    (hchain : ∀ waiting ∈ chain, TransGen e.Requires waiting flag.key) :
    ∃ answer, e.visitAfresh context chain flag = .ok answer := by
  induction edges using Nat.strongRecOn generalizing chain flag with
  | _ edges ih =>
      have hmem : flag.key ∉ chain := fun hmem => hpaths.not_cyclic (hchain flag.key hmem)
      have hdeep : ¬ e.maxDepth.toNat < chain.length := by omega
      cases henabled : flag.enabled with
      | false => exact ⟨_, visitAfresh_disabled hmem hdeep henabled⟩
      | true =>
          have hanswers : ∀ prerequisite ∈ flag.prerequisites, ∀ error,
              e.answerAfresh context (chain ++ [flag.key]) prerequisite.key = .error error →
                error.isFatal = false := by
            intro prerequisite hprerequisite error herror
            cases hfound : e.lookup prerequisite.key with
            | none =>
                rw [answerAfresh_missing hfound] at herror
                cases herror
                rfl
            | some required =>
                have hkey : required.key = prerequisite.key := hkeyed _ _ hfound
                have hstep : e.Requires flag.key required.key :=
                  ⟨flag, hheld, ⟨prerequisite, hprerequisite, hkey.symm⟩, by rw [hkey, hfound]; rfl⟩
                obtain ⟨fewer, hfewer, hrequired⟩ := hpaths.after_step hstep
                have hlonger : ∀ waiting ∈ chain ++ [flag.key],
                    TransGen e.Requires waiting required.key := by
                  intro waiting hwaiting
                  rcases List.mem_append.mp hwaiting with hold | hown
                  · exact .tail (hchain waiting hold) hstep
                  · rw [List.mem_singleton.mp hown]
                    exact .single hstep
                obtain ⟨answer, hanswer⟩ := ih fewer (by omega) (hkey ▸ hfound) hrequired
                  (by rw [List.length_append, List.length_singleton]; omega) hlonger
                rw [answerAfresh_held hfound, hanswer] at herror
                cases herror
          obtain ⟨unmet, reached, hunmet⟩ := unmetAmong_ok hanswers
          rw [visitAfresh_enabled hmem hdeep henabled, hunmet]
          exact ⟨_, rfl⟩

/-- A flag whose paths fit under the bound has an evaluation for every context,
whatever it shares, misses or finds unmet. -/
theorem evaluate_ok_of_pathsWithin (hkeyed : e.WellKeyed) (hfits : e.DepthFits)
    (hheld : (e.lookup key).isSome = true) (hpaths : e.PathsWithin key e.maxDepth.toNat)
    (context : Context) : ∃ evaluation, (e.evaluate context key).result = .ok evaluation := by
  obtain ⟨flag, hflag⟩ := Option.isSome_iff_exists.mp hheld
  obtain rfl : flag.key = key := hkeyed key flag hflag
  have hroom : ([] : List String).length + e.maxDepth.toNat ≤ e.maxDepth.toNat := by simp
  have hvisit : ∃ answer, e.visitAfresh context [] flag = .ok answer :=
    visitAfresh_ok_of_pathsWithin hkeyed hflag hpaths hroom fun waiting hmem => nomatch hmem
  obtain ⟨⟨evaluation, height⟩, hanswer⟩ := hvisit
  exact ⟨evaluation, (evaluate_eq_ok_iff hkeyed hfits).mpr ⟨flag, height, hflag, hanswer⟩⟩

/-- The number of edges on the longest path in `diamond`. -/
def diamondRank : String → Nat
  | "top" => 2
  | "left" | "right" => 1
  | _ => 0

theorem pathsWithin_diamond (key : String) : diamond.PathsWithin key (diamondRank key) := by
  have hfalls : ∀ flag ∈ diamondFlags, ∀ prerequisite ∈ flag.prerequisites,
      diamondRank prerequisite.key < diamondRank flag.key := by decide
  refine pathsWithin_of_rank diamondRank ?_ key
  rintro key next ⟨flag, hheld, ⟨prerequisite, hprerequisite, rfl⟩, _⟩
  obtain ⟨hflag, rfl⟩ := Store.mem_of_get?_ofFlags hheld
  exact hfalls flag hflag prerequisite hprerequisite

theorem evaluate_ok_in_diamond :
    diamond.WellKeyed ∧ diamond.DepthFits ∧ (diamond.lookup "top").isSome = true ∧
      diamond.PathsWithin "top" diamond.maxDepth.toNat ∧
      ∃ evaluation, (diamond.evaluate { key := "user" } "top").result = .ok evaluation := by
  have hheld : (diamond.lookup "top").isSome = true := by
    change ((Store.ofFlags diamondFlags).get? "top").isSome = true
    rw [Store.get?_ofFlags]
    rfl
  exact ⟨wellKeyed_diamond, depthFits_diamond, hheld, pathsWithin_diamond "top",
    evaluate_ok_of_pathsWithin wellKeyed_diamond depthFits_diamond hheld
      (pathsWithin_diamond "top") { key := "user" }⟩

end Evaluator

end FeatureFlags
