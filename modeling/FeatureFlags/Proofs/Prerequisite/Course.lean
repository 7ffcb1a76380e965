import FeatureFlags.Proofs.Prerequisite.Step

/-!
The courses that a walk may take. The resolution of a prerequisite, the way
through a list of prerequisites and the visit of a flag each come to an end in
one of a few ways. Each way is one case here, with what is known when it is
taken. A proof about all walks goes by these cases, by induction on the list
and on the visit, and does not open the steps again.
-/

namespace FeatureFlags

namespace Evaluator

/-- Resolves a prerequisite of the last flag in a chain. -/
def resolveBehind (e : Evaluator) (context : Context) (chain : List String) :
    String → Walk.Step Resolved :=
  e.resolve chain.length (e.visit context chain)

/-- The ways in which a prerequisite of the last flag in a chain is resolved. -/
inductive Resolution (e : Evaluator) (context : Context) (chain : List String) (key : String)
    (walk : Walk) : Except FlagError Resolved × Walk → Prop where
  | remembered (answer : Resolved) (hmemo : walk.resolved.get? key = some answer)
      (hroom : e.tooHigh chain.length answer.height = false) :
      Resolution e context chain key walk (.ok answer, walk)
  | tooHigh (answer : Resolved) (hmemo : walk.resolved.get? key = some answer)
      (hhigh : e.tooHigh chain.length answer.height = true) :
      Resolution e context chain key walk (.error (.depthExceeded key e.maxDepth), walk)
  | missing (hmemo : walk.resolved.get? key = none) (hmissing : e.lookup key = none) :
      Resolution e context chain key walk (.error (.flagNotFound key), walk.asking key)
  | failed (flag : Flag) (error : FlagError) (next : Walk)
      (hmemo : walk.resolved.get? key = none) (hheld : e.lookup key = some flag)
      (hvisit : e.visit context chain flag (walk.asking key) = (.error error, next)) :
      Resolution e context chain key walk (.error error, next)
  | visited (flag : Flag) (evaluation : Evaluation) (height : Nat) (next : Walk)
      (hmemo : walk.resolved.get? key = none) (hheld : e.lookup key = some flag)
      (hvisit : e.visit context chain flag (walk.asking key) = (.ok (evaluation, height), next)) :
      Resolution e context chain key walk
        (.ok ⟨evaluation.variationIndex, height⟩,
          next.remembering key ⟨evaluation.variationIndex, height⟩)

theorem resolution (e : Evaluator) (context : Context) (chain : List String) (key : String)
    (walk : Walk) :
    e.Resolution context chain key walk (e.resolveBehind context chain key walk) := by
  unfold resolveBehind
  cases hmemo : walk.resolved.get? key with
  | some answer =>
      rw [resolve_remembered hmemo]
      cases hhigh : e.tooHigh chain.length answer.height with
      | true => exact .tooHigh answer hmemo hhigh
      | false => exact .remembered answer hmemo hhigh
  | none =>
      cases hheld : e.lookup key with
      | none =>
          rw [resolve_missing hmemo hheld]
          exact .missing hmemo hheld
      | some flag =>
          cases hvisit : e.visit context chain flag (walk.asking key) with
          | mk result next =>
              cases result with
              | error error =>
                  rw [resolve_failed hmemo hheld hvisit]
                  exact .failed flag error next hmemo hheld hvisit
              | ok answer =>
                  rw [resolve_visited hmemo hheld hvisit]
                  exact .visited flag answer.1 answer.2 next hmemo hheld hvisit

/-- The ways through a list of prerequisites, from a height on. -/
inductive Passage (resolve : String → Walk.Step Resolved) :
    List Prerequisite → Nat → Walk → Except FlagError (Option String × Nat) × Walk → Prop where
  | nil {height : Nat} {walk : Walk} : Passage resolve [] height walk (.ok (none, height), walk)
  | met {prerequisite : Prerequisite} {rest : List Prerequisite} {height : Nat} {walk next : Walk}
      {answer : Resolved} {outcome : Except FlagError (Option String × Nat) × Walk}
      (hresolve : resolve prerequisite.key walk = (.ok answer, next))
      (hmet : answer.variationIndex = some prerequisite.variation)
      (hrest : Passage resolve rest (max height (answer.height + 1)) next outcome) :
      Passage resolve (prerequisite :: rest) height walk outcome
  | unmet {prerequisite : Prerequisite} {rest : List Prerequisite} {height : Nat}
      {walk next : Walk} {answer : Resolved}
      (hresolve : resolve prerequisite.key walk = (.ok answer, next))
      (hunmet : answer.variationIndex ≠ some prerequisite.variation) :
      Passage resolve (prerequisite :: rest) height walk
        (.ok (some prerequisite.key, max height (answer.height + 1)), next)
  | fatal {prerequisite : Prerequisite} {rest : List Prerequisite} {height : Nat}
      {walk next : Walk} {error : FlagError}
      (hresolve : resolve prerequisite.key walk = (.error error, next))
      (hfatal : error.isFatal = true) :
      Passage resolve (prerequisite :: rest) height walk (.error error, next)
  | absorbed {prerequisite : Prerequisite} {rest : List Prerequisite} {height : Nat}
      {walk next : Walk} {error : FlagError}
      (hresolve : resolve prerequisite.key walk = (.error error, next))
      (habsorbed : error.isFatal = false) :
      Passage resolve (prerequisite :: rest) height walk (.ok (some prerequisite.key, height), next)

theorem passage (resolve : String → Walk.Step Resolved) (prerequisites : List Prerequisite)
    (height : Nat) (walk : Walk) :
    Passage resolve prerequisites height walk (firstUnmet resolve prerequisites height walk) := by
  induction prerequisites generalizing height walk with
  | nil => exact .nil
  | cons prerequisite rest ih =>
      cases hresolve : resolve prerequisite.key walk with
      | mk result next =>
          cases verdict prerequisite result with
          | met answer hmet =>
              rw [firstUnmet_met hresolve hmet]
              exact .met hresolve hmet (ih _ next)
          | unmet answer hunmet =>
              rw [firstUnmet_unmet hresolve hunmet]
              exact .unmet hresolve hunmet
          | fatal error hfatal =>
              rw [firstUnmet_fatal hresolve hfatal]
              exact .fatal hresolve hfatal
          | absorbed error habsorbed =>
              rw [firstUnmet_absorbed hresolve habsorbed]
              exact .absorbed hresolve habsorbed

/-- A passage ends where the way through the list does. -/
theorem Passage.firstUnmet_eq {resolve : String → Walk.Step Resolved}
    {prerequisites : List Prerequisite} {height : Nat} {walk : Walk}
    {outcome : Except FlagError (Option String × Nat) × Walk}
    (hpassage : Passage resolve prerequisites height walk outcome) :
    firstUnmet resolve prerequisites height walk = outcome := by
  induction hpassage with
  | nil => exact firstUnmet_nil
  | met hresolve hmet hrest ih =>
      rw [firstUnmet_met hresolve hmet]
      exact ih
  | unmet hresolve hunmet => exact firstUnmet_unmet hresolve hunmet
  | fatal hresolve hfatal => exact firstUnmet_fatal hresolve hfatal
  | absorbed hresolve habsorbed => exact firstUnmet_absorbed hresolve habsorbed

/-- The ways in which the visit of a flag comes to an end. -/
inductive Course (e : Evaluator) (context : Context) (chain : List String) (flag : Flag)
    (walk : Walk) : Except FlagError (Evaluation × Nat) × Walk → Prop where
  | cyclic (hmem : flag.key ∈ chain) :
      Course e context chain flag walk (.error (.cyclicPrerequisite (chain ++ [flag.key])), walk)
  | tooDeep (hmem : flag.key ∉ chain) (hdeep : e.maxDepth.toNat < chain.length) :
      Course e context chain flag walk (.error (.depthExceeded flag.key e.maxDepth), walk)
  | disabled (hmem : flag.key ∉ chain) (hroom : chain.length ≤ e.maxDepth.toNat)
      (hdisabled : flag.enabled = false) :
      Course e context chain flag walk (.ok (.ofDefault flag .off, 1), walk)
  | failed (hmem : flag.key ∉ chain) (hroom : chain.length ≤ e.maxDepth.toNat)
      (henabled : flag.enabled = true) (error : FlagError) (next : Walk)
      (hlist : Passage (e.resolveBehind context (chain ++ [flag.key])) flag.prerequisites 1 walk
        (.error error, next)) :
      Course e context chain flag walk (.error error, next)
  | concluded (hmem : flag.key ∉ chain) (hroom : chain.length ≤ e.maxDepth.toNat)
      (henabled : flag.enabled = true) (unmet : Option String) (height : Nat) (next : Walk)
      (hlist : Passage (e.resolveBehind context (chain ++ [flag.key])) flag.prerequisites 1 walk
        (.ok (unmet, height), next)) :
      Course e context chain flag walk (.ok (e.conclusion context flag unmet, height), next)

section Visit

variable {e : Evaluator} {context : Context} {chain : List String} {flag : Flag}
  {walk next : Walk}

theorem visit_disabled (hmem : flag.key ∉ chain) (hroom : chain.length ≤ e.maxDepth.toNat)
    (hdisabled : flag.enabled = false) :
    e.visit context chain flag walk = (.ok (.ofDefault flag .off, 1), walk) := by
  rw [visit_steps hmem (by omega), steps_disabled hdisabled]

theorem visit_failed {error : FlagError} (hmem : flag.key ∉ chain)
    (hroom : chain.length ≤ e.maxDepth.toNat) (henabled : flag.enabled = true)
    (hlist : firstUnmet (e.resolveBehind context (chain ++ [flag.key])) flag.prerequisites 1 walk =
      (.error error, next)) :
    e.visit context chain flag walk = (.error error, next) := by
  rw [resolveBehind, List.length_append, List.length_singleton] at hlist
  rw [visit_steps hmem (by omega), steps_failed henabled hlist]

theorem visit_concluded {unmet : Option String} {height : Nat} (hmem : flag.key ∉ chain)
    (hroom : chain.length ≤ e.maxDepth.toNat) (henabled : flag.enabled = true)
    (hlist : firstUnmet (e.resolveBehind context (chain ++ [flag.key])) flag.prerequisites 1 walk =
      (.ok (unmet, height), next)) :
    e.visit context chain flag walk = (.ok (e.conclusion context flag unmet, height), next) := by
  rw [resolveBehind, List.length_append, List.length_singleton] at hlist
  rw [visit_steps hmem (by omega), steps_concluded henabled hlist]

end Visit

theorem course (e : Evaluator) (context : Context) (chain : List String) (flag : Flag)
    (walk : Walk) :
    e.Course context chain flag walk (e.visit context chain flag walk) := by
  by_cases hmem : flag.key ∈ chain
  · rw [visit_cyclic hmem]
    exact .cyclic hmem
  by_cases hdeep : e.maxDepth.toNat < chain.length
  · rw [visit_tooDeep hmem hdeep]
    exact .tooDeep hmem hdeep
  have hroom : chain.length ≤ e.maxDepth.toNat := Nat.not_lt.mp hdeep
  cases henabled : flag.enabled with
  | false =>
      rw [visit_disabled hmem hroom henabled]
      exact .disabled hmem hroom henabled
  | true =>
      have hpassage := passage (e.resolveBehind context (chain ++ [flag.key]))
        flag.prerequisites 1 walk
      cases hlist : firstUnmet (e.resolveBehind context (chain ++ [flag.key]))
          flag.prerequisites 1 walk with
      | mk result next =>
          rw [hlist] at hpassage
          cases result with
          | error error =>
              rw [visit_failed hmem hroom henabled hlist]
              exact .failed hmem hroom henabled error next hpassage
          | ok found =>
              rw [visit_concluded hmem hroom henabled hlist]
              exact .concluded hmem hroom henabled found.1 found.2 next hpassage

variable {e : Evaluator} {context : Context} {chain : List String} {key : String} {flag : Flag}
  {walk next : Walk} {error : FlagError}

theorem evaluate_missing (hmissing : e.lookup key = none) :
    (e.evaluate context key).result = .error (.flagNotFound key) := by
  rw [evaluate, walkFrom_missing hmissing]
  rfl

/-- An error of a list comes from one of its prerequisites, and is fatal. -/
theorem Passage.origin {resolve : String → Walk.Step Resolved} {prerequisites : List Prerequisite}
    {height : Nat} {outcome : Except FlagError (Option String × Nat) × Walk}
    (hpassage : Passage resolve prerequisites height walk outcome)
    (herror : outcome.1 = .error error) :
    error.isFatal = true ∧ ∃ prerequisite ∈ prerequisites, ∃ earlier,
      resolve prerequisite.key earlier = (.error error, outcome.2) := by
  induction hpassage with
  | nil => cases herror
  | met hresolve hmet hrest ih =>
      obtain ⟨hfatal, prerequisite, hmem, earlier, hearlier⟩ := ih herror
      exact ⟨hfatal, prerequisite, List.mem_cons_of_mem _ hmem, earlier, hearlier⟩
  | unmet hresolve hunmet => cases herror
  | fatal hresolve hfatal =>
      cases herror
      exact ⟨hfatal, _, List.mem_cons_self, _, hresolve⟩
  | absorbed hresolve habsorbed => cases herror

/-- A prerequisite that is reported as unmet is one of the list. It resolved to
another variation, or it failed without ending the evaluation. -/
theorem Passage.unmet_listed {resolve : String → Walk.Step Resolved}
    {prerequisites : List Prerequisite} {height : Nat}
    {outcome : Except FlagError (Option String × Nat) × Walk} {unmet : String} {reached : Nat}
    (hpassage : Passage resolve prerequisites height walk outcome)
    (hunmet : outcome.1 = .ok (some unmet, reached)) :
    ∃ prerequisite ∈ prerequisites, prerequisite.key = unmet ∧ ∃ earlier result,
      resolve prerequisite.key earlier = (result, outcome.2) ∧
        (∀ answer, result = .ok answer →
          answer.variationIndex ≠ some prerequisite.variation) ∧
        ∀ error, result = .error error → error.isFatal = false := by
  induction hpassage with
  | nil => cases hunmet
  | met hresolve hmet hrest ih =>
      obtain ⟨prerequisite, hmem, hlisted⟩ := ih hunmet
      exact ⟨prerequisite, List.mem_cons_of_mem _ hmem, hlisted⟩
  | @unmet prerequisite rest height walk next answer hresolve hother =>
      cases hunmet
      refine ⟨prerequisite, List.mem_cons_self, rfl, walk, _, hresolve, ?_, ?_⟩
      · rintro _ ⟨⟩
        exact hother
      · rintro _ ⟨⟩
  | fatal hresolve hfatal => cases hunmet
  | @absorbed prerequisite rest height walk next error hresolve habsorbed =>
      cases hunmet
      refine ⟨prerequisite, List.mem_cons_self, rfl, walk, _, hresolve, ?_, ?_⟩
      · rintro _ ⟨⟩
      · rintro _ ⟨⟩
        exact habsorbed

/-- The height never falls on the way through a list. -/
theorem Passage.height_le {resolve : String → Walk.Step Resolved}
    {prerequisites : List Prerequisite} {height : Nat}
    {outcome : Except FlagError (Option String × Nat) × Walk} {found : Option String × Nat}
    (hpassage : Passage resolve prerequisites height walk outcome)
    (hfound : outcome.1 = .ok found) :
    height ≤ found.2 := by
  induction hpassage with
  | nil =>
      cases hfound
      exact Nat.le_refl _
  | met hresolve hmet hrest ih =>
      have hle := ih hfound
      omega
  | unmet hresolve hunmet =>
      cases hfound
      exact Nat.le_max_left _ _
  | fatal hresolve hfatal => cases hfound
  | absorbed hresolve habsorbed =>
      cases hfound
      exact Nat.le_refl _

/-- A flag that waits is not evaluated again. -/
theorem not_mem_of_visit {answer : Evaluation × Nat}
    (hvisit : e.visit context chain flag walk = (.ok answer, next)) : flag.key ∉ chain := by
  intro hmem
  rw [visit_cyclic hmem] at hvisit
  cases hvisit

/-- A visit that fails ends the whole evaluation. -/
theorem isFatal_of_visit (hvisit : e.visit context chain flag walk = (.error error, next)) :
    error.isFatal = true := by
  have hcourse := e.course context chain flag walk
  rw [hvisit] at hcourse
  cases hcourse with
  | cyclic hmem => rfl
  | tooDeep hmem hdeep => rfl
  | failed hmem hroom henabled error next hlist => exact (hlist.origin rfl).1

/-- A prerequisite that fails without ending the evaluation is missing. -/
theorem missing_of_absorbed
    (hresolve : e.resolveBehind context chain key walk = (.error error, next))
    (habsorbed : error.isFatal = false) :
    walk.resolved.get? key = none ∧ e.lookup key = none ∧ error = .flagNotFound key ∧
      next = walk.asking key := by
  have hresolution := e.resolution context chain key walk
  rw [hresolve] at hresolution
  cases hresolution with
  | tooHigh answer hmemo hhigh => cases habsorbed
  | missing hmemo hmissing => exact ⟨hmemo, hmissing, rfl, rfl⟩
  | failed flag error next hmemo hheld hvisit =>
      rw [isFatal_of_visit hvisit] at habsorbed
      cases habsorbed

end Evaluator

end FeatureFlags
