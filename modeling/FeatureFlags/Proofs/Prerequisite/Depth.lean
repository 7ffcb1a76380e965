import FeatureFlags.Proofs.Prerequisite.Height
import FeatureFlags.Proofs.Prerequisite.Memo
import Mathlib

/-!
The depth bound is a threshold on the height. Next to a run that comes to an
answer, the run with another bound does the same step by step until a chain of
flags is too long for it. A flag that is visited and an answer that is used
again are checked in different places, and both checks compare the same number:
the flags above together with the height below.
-/

namespace FeatureFlags

namespace Evaluator

/-- The evaluator with another bound on the depth. -/
def withMaxDepth (e : Evaluator) (bound : UInt64) : Evaluator :=
  { e with maxDepth := bound }

/-- A step that ends as another run did if so many flags in a row are allowed,
and otherwise with the error that there are too many. -/
structure Retraces {α : Type} (e : Evaluator) (flags : Nat) (answer : α) (next : Walk)
    (step : Except FlagError α × Walk) : Prop where
  same : flags ≤ e.maxDepth.toNat + 1 → step = (.ok answer, next)
  deep : e.maxDepth.toNat + 1 < flags →
    ∃ key broken, step = (.error (.depthExceeded key e.maxDepth), broken)

section Retraces

variable {α : Type} {e : Evaluator} {flags : Nat} {answer : α} {next broken : Walk}
  {step : Except FlagError α × Walk} {key : String}

theorem Retraces.of_le (hle : flags ≤ e.maxDepth.toNat + 1) (hstep : step = (.ok answer, next)) :
    e.Retraces flags answer next step where
  same _ := hstep
  deep hlt := absurd hle (by omega)

theorem Retraces.of_lt (hlt : e.maxDepth.toNat + 1 < flags)
    (hstep : step = (.error (.depthExceeded key e.maxDepth), broken)) :
    e.Retraces flags answer next step where
  same hle := absurd hle (by omega)
  deep _ := ⟨key, broken, hstep⟩

theorem Retraces.threshold (hretraces : e.Retraces flags answer next step) :
    e.Threshold flags answer step.1 where
  fits hle := by rw [hretraces.same hle]
  exceeds hlt := by
    obtain ⟨key, broken, hstep⟩ := hretraces.deep hlt
    exact ⟨key, by rw [hstep]⟩

end Retraces

variable {e : Evaluator} {context : Context} {bound : UInt64} {chain : List String}
  {key : String} {flag : Flag} {walk next : Walk} {evaluation : Evaluation} {height : Nat}

/-- The flag that is evaluated counts. -/
theorem height_pos_of_visit
    (hvisit : e.visit context chain flag walk = (.ok (evaluation, height), next)) : 0 < height := by
  have hcourse := e.course context chain flag walk
  rw [hvisit] at hcourse
  cases hcourse with
  | disabled _ hroom hdisabled => exact Nat.one_pos
  | concluded _ hroom henabled unmet height next hlist => exact hlist.height_le rfl

theorem resolveBehind_retraces (hfits : (e.withMaxDepth bound).DepthFits)
    (hvisit : ∀ flag walk evaluation height next,
      e.visit context chain flag walk = (.ok (evaluation, height), next) →
        (e.withMaxDepth bound).Retraces (chain.length + height) (evaluation, height) next
          ((e.withMaxDepth bound).visit context chain flag walk))
    {answer : Resolved} (hresolve : e.resolveBehind context chain key walk = (.ok answer, next)) :
    (e.withMaxDepth bound).Retraces (chain.length + answer.height) answer next
      ((e.withMaxDepth bound).resolveBehind context chain key walk) := by
  have hresolution := e.resolution context chain key walk
  rw [hresolve] at hresolution
  unfold resolveBehind
  cases hresolution with
  | remembered answer hmemo _ =>
      have hhigh := tooHigh_iff hfits chain.length answer.height
      by_cases hroom : chain.length + answer.height ≤ (e.withMaxDepth bound).maxDepth.toNat + 1
      · have hlow : ¬ (e.withMaxDepth bound).tooHigh chain.length answer.height = true :=
          fun habove => absurd (hhigh.mp habove) (Nat.not_lt.mpr hroom)
        apply Retraces.of_le hroom
        rw [resolve_remembered hmemo, if_neg hlow]
      · have hdeep := Nat.not_le.mp hroom
        apply Retraces.of_lt hdeep
        rw [resolve_remembered hmemo, if_pos (hhigh.mpr hdeep)]
  | visited flag evaluation height next hmemo hheld hvisited =>
      have hbelow := hvisit flag (walk.asking key) evaluation height next hvisited
      constructor
      · intro hroom
        exact resolve_visited hmemo hheld (hbelow.same hroom)
      · intro hdeep
        obtain ⟨deep, broken, hbroken⟩ := hbelow.deep hdeep
        exact ⟨deep, broken, resolve_failed hmemo hheld hbroken⟩

/-- A prerequisite that fails without ending the evaluation does so with any
bound: it is missing. -/
theorem resolveBehind_absorbed {error : FlagError}
    (hresolve : e.resolveBehind context chain key walk = (.error error, next))
    (habsorbed : error.isFatal = false) :
    (e.withMaxDepth bound).resolveBehind context chain key walk = (.error error, next) := by
  obtain ⟨hmemo, hmissing, rfl, rfl⟩ := missing_of_absorbed hresolve habsorbed
  exact resolve_missing hmemo hmissing

/-- The way through a list, from a height that is allowed, if its steps come as
far as they are allowed. -/
theorem Passage.retraces {limited : Evaluator} {flags : Nat}
    {resolve other : String → Walk.Step Resolved} {prerequisites : List Prerequisite}
    {outcome : Except FlagError (Option String × Nat) × Walk} {found : Option String × Nat}
    (hpassage : Passage resolve prerequisites height walk outcome)
    (hanswer : ∀ key walk answer next, resolve key walk = (.ok answer, next) →
      limited.Retraces (flags + (answer.height + 1)) answer next (other key walk))
    (habsent : ∀ key walk error next, resolve key walk = (.error error, next) →
      error.isFatal = false → other key walk = (.error error, next))
    (hstart : flags + height ≤ limited.maxDepth.toNat + 1) (hfound : outcome.1 = .ok found) :
    limited.Retraces (flags + found.2) found outcome.2
      (firstUnmet other prerequisites height walk) := by
  induction hpassage with
  | nil =>
      cases hfound
      exact .of_le hstart firstUnmet_nil
  | @met prerequisite rest height walk next answer outcome hresolve hmet hrest ih =>
      have hstep := hanswer prerequisite.key walk answer next hresolve
      -- Where a step fails, the height that is reached has too many flags as well.
      by_cases hroom : flags + (answer.height + 1) ≤ limited.maxDepth.toNat + 1
      · rw [firstUnmet_met (hstep.same hroom) hmet]
        exact ih (by omega) hfound
      · obtain ⟨deep, broken, hbroken⟩ := hstep.deep (Nat.not_le.mp hroom)
        have hreached := hrest.height_le hfound
        exact .of_lt (by omega) (firstUnmet_fatal hbroken rfl)
  | @unmet prerequisite rest height walk next answer hresolve hunmet =>
      cases hfound
      have hstep := hanswer prerequisite.key walk answer next hresolve
      by_cases hroom : flags + (answer.height + 1) ≤ limited.maxDepth.toNat + 1
      · exact .of_le (by omega) (firstUnmet_unmet (hstep.same hroom) hunmet)
      · obtain ⟨deep, broken, hbroken⟩ := hstep.deep (Nat.not_le.mp hroom)
        exact .of_lt (by omega) (firstUnmet_fatal hbroken rfl)
  | fatal hresolve hfatal => cases hfound
  | absorbed hresolve habsorbed =>
      cases hfound
      exact .of_le hstart (firstUnmet_absorbed (habsent _ _ _ _ hresolve habsorbed) habsorbed)

/-- The flag that was put last in the chain may be counted with the flags below. -/
theorem length_behind (chain : List String) (key : String) (height : Nat) :
    (chain ++ [key]).length + height = chain.length + (height + 1) := by
  rw [List.length_append, List.length_singleton]
  omega

theorem visit_retraces (hfits : (e.withMaxDepth bound).DepthFits)
    (hvisit : e.visit context chain flag walk = (.ok (evaluation, height), next)) :
    (e.withMaxDepth bound).Retraces (chain.length + height) (evaluation, height) next
      ((e.withMaxDepth bound).visit context chain flag walk) := by
  induction chain, flag, walk using visit.induct e generalizing evaluation height next with
  | case1 chain flag walk hmem =>
      rw [visit_cyclic hmem] at hvisit
      cases hvisit
  | case2 chain flag walk hmem hdeep =>
      rw [visit_tooDeep hmem hdeep] at hvisit
      cases hvisit
  | case3 chain flag walk hmem hdeep ih =>
      -- A chain that is too long already is refused at the flag, which counts as one.
      by_cases hlong : (e.withMaxDepth bound).maxDepth.toNat < chain.length
      · have hpos := height_pos_of_visit hvisit
        exact .of_lt (by omega) (visit_tooDeep hmem hlong)
      have hroom' : chain.length ≤ (e.withMaxDepth bound).maxDepth.toNat := Nat.not_lt.mp hlong
      have hcourse := e.course context chain flag walk
      rw [hvisit] at hcourse
      cases hcourse with
      | disabled _ hroom hdisabled =>
          exact .of_le (by omega) (visit_disabled hmem hroom' hdisabled)
      | concluded _ hroom henabled unmet height next hlist =>
          have hanswer {key : String} {walk next : Walk} {answer : Resolved}
              (hresolve : e.resolveBehind context (chain ++ [flag.key]) key walk =
                (.ok answer, next)) :=
            resolveBehind_retraces hfits
              (fun prerequisite walk _ _ _ hvisit => ih prerequisite walk hvisit) hresolve
          simp only [length_behind] at hanswer
          have hretraces := hlist.retraces (fun _ _ _ _ hresolve => hanswer hresolve)
            (fun _ _ _ _ hresolve habsorbed => resolveBehind_absorbed hresolve habsorbed)
            (by omega) rfl
          constructor
          · intro hle
            exact visit_concluded hmem hroom' henabled (hretraces.same hle)
          · intro hlt
            obtain ⟨deep, broken, hbroken⟩ := hretraces.deep hlt
            exact ⟨deep, broken, visit_failed hmem hroom' henabled hbroken⟩

theorem walkFrom_retraces (hfits : (e.withMaxDepth bound).DepthFits)
    (hwalk : e.walkFrom context key walk = (.ok (evaluation, height), next)) :
    (e.withMaxDepth bound).Retraces height (evaluation, height) next
      ((e.withMaxDepth bound).walkFrom context key walk) := by
  cases hheld : e.lookup key with
  | none =>
      rw [walkFrom_missing hheld] at hwalk
      cases hwalk
  | some flag =>
      have hheld' : (e.withMaxDepth bound).lookup key = some flag := hheld
      rw [walkFrom_held hheld] at hwalk
      rw [walkFrom_held hheld']
      have hretraces := visit_retraces hfits hwalk
      rwa [List.length_nil, Nat.zero_add] at hretraces

/-- An evaluation that succeeds with one bound depends on the bound by its
height alone, the number of flags on the longest chain that was followed. It is
the same with every bound that allows as many, and with every other bound there
are too many. So a greater bound neither changes an evaluation nor loses it. -/
theorem bound_is_threshold (hresult : (e.evaluate context key).result = .ok evaluation) :
    ∃ height, (e.walkFrom context key {}).1 = .ok (evaluation, height) ∧
      e.LongestChain (e.walkFrom context key {}).2.resolved key height ∧
      (∀ bound, (e.withMaxDepth bound).DepthFits →
        (e.withMaxDepth bound).Threshold height evaluation
          ((e.withMaxDepth bound).evaluate context key).result) ∧
      ∀ bound, (e.withMaxDepth bound).DepthFits → e.maxDepth ≤ bound →
        ((e.withMaxDepth bound).evaluate context key).result = .ok evaluation := by
  cases hrun : e.walkFrom context key {} with
  | mk result next =>
      rw [evaluate, hrun] at hresult
      obtain error | ⟨answer, height⟩ := result
      · cases hresult
      cases hresult
      have hthreshold (bound : UInt64) (hfits : (e.withMaxDepth bound).DepthFits) :
          (e.withMaxDepth bound).Threshold height answer
            ((e.withMaxDepth bound).evaluate context key).result :=
        (walkFrom_retraces hfits hrun).threshold.map (·.1)
      refine ⟨height, rfl, longestChain_of_walkFrom hrun, hthreshold, ?_⟩
      intro bound hfits hle
      have hbounds : e.maxDepth.toNat ≤ bound.toNat := UInt64.le_iff_toNat_le.mp hle
      have hown : (e.withMaxDepth e.maxDepth).DepthFits :=
        Nat.lt_of_le_of_lt (Nat.succ_le_succ hbounds) hfits
      -- The evaluation succeeds with its own bound, so the height is allowed there.
      have hallowed : height ≤ e.maxDepth.toNat + 1 := by
        by_contra hhigh
        have hthreshold := (walkFrom_retraces hown hrun).threshold
        obtain ⟨deep, hdeep⟩ := hthreshold.exceeds (Nat.not_le.mp hhigh)
        change (e.walkFrom context key {}).1 = _ at hdeep
        rw [hrun] at hdeep
        cases hdeep
      exact (hthreshold bound hfits).fits (Nat.le_trans hallowed (Nat.succ_le_succ hbounds))

/-- The longest chain in `diamond` has three flags, the deepest of which is reached
a second time through the memory. -/
theorem bound_is_threshold_in_diamond :
    ∃ evaluation, (diamond.evaluate { key := "user" } "top").result = .ok evaluation ∧
      ((diamond.withMaxDepth 7).evaluate { key := "user" } "top").result = .ok evaluation ∧
      ∃ deep, ((diamond.withMaxDepth 1).evaluate { key := "user" } "top").result =
        .error (.depthExceeded deep 1) := by
  have hthree : (diamond.walkFrom { key := "user" } "top" {}).1.map (·.2) = .ok 3 := by cbv
  cases hrun : (diamond.walkFrom { key := "user" } "top" {}).1 with
  | error error =>
      rw [hrun] at hthree
      cases hthree
  | ok answer =>
      have hresult : (diamond.evaluate { key := "user" } "top").result = .ok answer.1 := by
        rw [evaluate, Outcome.ofStep, hrun]
        rfl
      obtain ⟨height, hheight, _, hthreshold, hraised⟩ := bound_is_threshold hresult
      rw [hheight] at hthree
      obtain rfl : height = 3 := Except.ok.inj hthree
      exact ⟨answer.1, hresult, hraised 7 (by decide) (by decide),
        (hthreshold 1 (by decide)).exceeds (by decide)⟩

end Evaluator

end FeatureFlags
