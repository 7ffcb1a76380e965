import FeatureFlags.Evaluator

/-!
The steps of a walk through prerequisites. Each step has one equation for each
of its outcomes, and other modules go by these equations. Two facts then hold
of every walk: it preserves whatever one look-up and one remembered answer
preserve, and its answers do not depend on the keys that were asked before.
-/

namespace FeatureFlags

namespace Walk

/-- The walk after one more look-up. -/
def asking (walk : Walk) (key : String) : Walk :=
  { walk with lookups := walk.lookups ++ [key] }

/-- The walk with one more remembered answer. -/
def remembering (walk : Walk) (key : String) (resolved : Resolved) : Walk :=
  { walk with resolved := walk.resolved.insert key resolved }

/-- The walk as it would be if other keys had been asked before. -/
def behind (earlier : List String) (walk : Walk) : Walk :=
  { walk with lookups := earlier ++ walk.lookups }

@[simp] theorem remembering_resolved (walk : Walk) (key : String) (resolved : Resolved) :
    (walk.remembering key resolved).resolved = walk.resolved.insert key resolved := rfl

theorem get?_remembering_self (walk : Walk) (key : String) (resolved : Resolved) :
    (walk.remembering key resolved).resolved.get? key = some resolved := by
  rw [remembering_resolved, Table.get?_insert, if_pos rfl]

@[simp] theorem behind_asking (earlier : List String) (walk : Walk) (key : String) :
    (walk.behind earlier).asking key = (walk.asking key).behind earlier := by
  simp [asking, behind]

@[simp] theorem behind_remembering (earlier : List String) (walk : Walk) (key : String)
    (resolved : Resolved) :
    (walk.behind earlier).remembering key resolved =
      (walk.remembering key resolved).behind earlier := rfl

end Walk

namespace Evaluator

variable {e : Evaluator} {context : Context} {key : String} {walk next : Walk}

/-- Every flag of the store is held under its own key. -/
def WellKeyed (e : Evaluator) : Prop :=
  ∀ key flag, e.lookup key = some flag → flag.key = key

/-- One more than the bound is still a 64-bit number. -/
def DepthFits (e : Evaluator) : Prop :=
  e.maxDepth.toNat + 1 < UInt64.size

instance (e : Evaluator) : Decidable e.DepthFits :=
  inferInstanceAs (Decidable (_ < _))

theorem tooHigh_iff (hfits : e.DepthFits) (chainLength height : Nat) :
    e.tooHigh chainLength height = true ↔ e.maxDepth.toNat + 1 < chainLength + height := by
  have hbound : (e.maxDepth + 1).toNat = e.maxDepth.toNat + 1 := by
    rw [UInt64.toNat_add]
    exact Nat.mod_eq_of_lt hfits
  simp [tooHigh, hbound]

/-! ### One equation for each outcome -/

section Fetch

variable {visit : Flag → Walk.Step (Evaluation × Nat)} {flag : Flag}

theorem visitKey_held (hheld : e.lookup key = some flag) :
    e.visitKey visit key walk = visit flag (walk.asking key) := by
  simp [visitKey, fetch, hheld, Walk.asking]

theorem visitKey_missing (hmissing : e.lookup key = none) :
    e.visitKey visit key walk = (.error (.flagNotFound key), walk.asking key) := by
  simp [visitKey, fetch, hmissing, Walk.asking]

theorem walkFrom_held (hheld : e.lookup key = some flag) :
    e.walkFrom context key walk = e.visit context [] flag (walk.asking key) :=
  visitKey_held hheld

theorem walkFrom_missing (hmissing : e.lookup key = none) :
    e.walkFrom context key walk = (.error (.flagNotFound key), walk.asking key) :=
  visitKey_missing hmissing

end Fetch

section Resolve

variable {chainLength : Nat} {visit : Flag → Walk.Step (Evaluation × Nat)}

theorem resolve_remembered {resolved : Resolved} (hmemo : walk.resolved.get? key = some resolved) :
    e.resolve chainLength visit key walk =
      (if e.tooHigh chainLength resolved.height then .error (.depthExceeded key e.maxDepth)
        else .ok resolved, walk) := by
  simp only [resolve, hmemo]
  split <;> rfl

theorem resolve_resolved {evaluation : Evaluation} {height : Nat}
    (hmemo : walk.resolved.get? key = none)
    (hkey : e.visitKey visit key walk = (.ok (evaluation, height), next)) :
    e.resolve chainLength visit key walk =
      (.ok ⟨evaluation.variationIndex, height⟩,
        next.remembering key ⟨evaluation.variationIndex, height⟩) := by
  simp [resolve, hmemo, hkey, Walk.remembering]

theorem resolve_unresolved {error : FlagError} (hmemo : walk.resolved.get? key = none)
    (hkey : e.visitKey visit key walk = (.error error, next)) :
    e.resolve chainLength visit key walk = (.error error, next) := by
  simp [resolve, hmemo, hkey]

theorem resolve_missing (hmemo : walk.resolved.get? key = none) (hmissing : e.lookup key = none) :
    e.resolve chainLength visit key walk = (.error (.flagNotFound key), walk.asking key) :=
  resolve_unresolved hmemo (visitKey_missing hmissing)

theorem resolve_failed {flag : Flag} {error : FlagError} (hmemo : walk.resolved.get? key = none)
    (hheld : e.lookup key = some flag) (hvisit : visit flag (walk.asking key) = (.error error, next)) :
    e.resolve chainLength visit key walk = (.error error, next) :=
  resolve_unresolved hmemo ((visitKey_held hheld).trans hvisit)

theorem resolve_visited {flag : Flag} {evaluation : Evaluation} {height : Nat}
    (hmemo : walk.resolved.get? key = none) (hheld : e.lookup key = some flag)
    (hvisit : visit flag (walk.asking key) = (.ok (evaluation, height), next)) :
    e.resolve chainLength visit key walk =
      (.ok ⟨evaluation.variationIndex, height⟩,
        next.remembering key ⟨evaluation.variationIndex, height⟩) :=
  resolve_resolved hmemo ((visitKey_held hheld).trans hvisit)

end Resolve

section FirstUnmet

variable {resolve : String → Walk.Step Resolved} {prerequisite : Prerequisite}
  {rest : List Prerequisite} {height : Nat} {resolved : Resolved} {error : FlagError}

theorem firstUnmet_nil : firstUnmet resolve [] height walk = (.ok (none, height), walk) := rfl

theorem firstUnmet_met (hresolve : resolve prerequisite.key walk = (.ok resolved, next))
    (hmet : resolved.variationIndex = some prerequisite.variation) :
    firstUnmet resolve (prerequisite :: rest) height walk =
      firstUnmet resolve rest (max height (resolved.height + 1)) next := by
  simp [firstUnmet, hresolve, hmet]

theorem firstUnmet_unmet (hresolve : resolve prerequisite.key walk = (.ok resolved, next))
    (hunmet : resolved.variationIndex ≠ some prerequisite.variation) :
    firstUnmet resolve (prerequisite :: rest) height walk =
      (.ok (some prerequisite.key, max height (resolved.height + 1)), next) := by
  simp [firstUnmet, hresolve, hunmet]

theorem firstUnmet_fatal (hresolve : resolve prerequisite.key walk = (.error error, next))
    (hfatal : error.isFatal = true) :
    firstUnmet resolve (prerequisite :: rest) height walk = (.error error, next) := by
  simp [firstUnmet, hresolve, hfatal]

theorem firstUnmet_absorbed (hresolve : resolve prerequisite.key walk = (.error error, next))
    (habsorbed : error.isFatal = false) :
    firstUnmet resolve (prerequisite :: rest) height walk =
      (.ok (some prerequisite.key, height), next) := by
  simp [firstUnmet, hresolve, habsorbed]

end FirstUnmet

/-- What the way through a list does with what its head resolves to. -/
inductive Verdict (prerequisite : Prerequisite) : Except FlagError Resolved → Prop where
  | met (resolved : Resolved) (hmet : resolved.variationIndex = some prerequisite.variation) :
      Verdict prerequisite (.ok resolved)
  | unmet (resolved : Resolved) (hunmet : resolved.variationIndex ≠ some prerequisite.variation) :
      Verdict prerequisite (.ok resolved)
  | fatal (error : FlagError) (hfatal : error.isFatal = true) : Verdict prerequisite (.error error)
  | absorbed (error : FlagError) (habsorbed : error.isFatal = false) :
      Verdict prerequisite (.error error)

theorem verdict (prerequisite : Prerequisite) (result : Except FlagError Resolved) :
    Verdict prerequisite result := by
  cases result with
  | ok resolved =>
      by_cases hmet : resolved.variationIndex = some prerequisite.variation
      · exact .met resolved hmet
      · exact .unmet resolved hmet
  | error error =>
      cases hfatal : error.isFatal with
      | true => exact .fatal error hfatal
      | false => exact .absorbed error hfatal

/-- The evaluation of an enabled flag, given its first unmet prerequisite. -/
def conclusion (e : Evaluator) (context : Context) (flag : Flag) : Option String → Evaluation
  | some key => .ofUnmetPrerequisite flag key
  | none => flag.serve e.bucketer context

section Steps

variable {flag : Flag} {resolve : String → Walk.Step Resolved}

theorem steps_disabled (hdisabled : flag.enabled = false) :
    e.steps context flag resolve walk = (.ok (.ofDefault flag .off, 1), walk) := by
  simp [steps, hdisabled]

theorem steps_failed {error : FlagError} (henabled : flag.enabled = true)
    (hunmet : firstUnmet resolve flag.prerequisites 1 walk = (.error error, next)) :
    e.steps context flag resolve walk = (.error error, next) := by
  simp [steps, henabled, hunmet]

theorem steps_concluded {unmet : Option String} {height : Nat} (henabled : flag.enabled = true)
    (hunmet : firstUnmet resolve flag.prerequisites 1 walk = (.ok (unmet, height), next)) :
    e.steps context flag resolve walk =
      (.ok (e.conclusion context flag unmet, height), next) := by
  cases unmet <;> simp [steps, henabled, hunmet, conclusion]

/-- An enabled flag leaves the walk that its prerequisites leave. -/
theorem snd_steps (henabled : flag.enabled = true) :
    (e.steps context flag resolve walk).2 =
      (firstUnmet resolve flag.prerequisites 1 walk).2 := by
  cases hrun : firstUnmet resolve flag.prerequisites 1 walk with
  | mk result next =>
      cases result with
      | error error => rw [steps_failed henabled hrun]
      | ok answer => rw [steps_concluded henabled hrun]

end Steps

section Visit

variable {chain : List String} {flag : Flag}

theorem visit_cyclic (hmem : flag.key ∈ chain) :
    e.visit context chain flag walk = (.error (.cyclicPrerequisite (chain ++ [flag.key])), walk) := by
  rw [visit, if_pos hmem]

theorem visit_tooDeep (hmem : flag.key ∉ chain) (hdeep : e.maxDepth.toNat < chain.length) :
    e.visit context chain flag walk = (.error (.depthExceeded flag.key e.maxDepth), walk) := by
  rw [visit, if_neg hmem, if_pos hdeep]

theorem visit_steps (hmem : flag.key ∉ chain) (hdeep : ¬ e.maxDepth.toNat < chain.length) :
    e.visit context chain flag walk =
      e.steps context flag
        (e.resolve (chain.length + 1) (e.visit context (chain ++ [flag.key]))) walk := by
  rw [visit, if_neg hmem, if_neg hdeep]

end Visit

/-! ### What every walk preserves -/

/-- A relation between walks that one look-up and one remembered answer keep. -/
structure Preserved (R : Walk → Walk → Prop) : Prop where
  refl (walk : Walk) : R walk walk
  trans {first second third : Walk} : R first second → R second third → R first third
  asking (walk : Walk) (key : String) : R walk (walk.asking key)
  remembering (walk : Walk) (key : String) (resolved : Resolved) :
    R walk (walk.remembering key resolved)

section Preserved

variable {R : Walk → Walk → Prop}

theorem resolve_preserves (hR : Preserved R) {chainLength : Nat}
    {visit : Flag → Walk.Step (Evaluation × Nat)}
    (hvisit : ∀ flag walk, R walk (visit flag walk).2) (key : String) (walk : Walk) :
    R walk (e.resolve chainLength visit key walk).2 := by
  cases hmemo : walk.resolved.get? key with
  | some resolved =>
      rw [resolve_remembered hmemo]
      exact hR.refl walk
  | none =>
      have hasked := hR.asking walk key
      cases hheld : e.lookup key with
      | none =>
          rw [resolve_missing hmemo hheld]
          exact hasked
      | some flag =>
          have hwalked := hR.trans hasked (hvisit flag (walk.asking key))
          cases hrun : visit flag (walk.asking key) with
          | mk result next =>
              rw [hrun] at hwalked
              cases result with
              | error error =>
                  rw [resolve_failed hmemo hheld hrun]
                  exact hwalked
              | ok answer =>
                  rw [resolve_visited hmemo hheld hrun]
                  exact hR.trans hwalked (hR.remembering next key _)

theorem firstUnmet_preserves (hR : Preserved R) {resolve : String → Walk.Step Resolved}
    (hresolve : ∀ key walk, R walk (resolve key walk).2) (prerequisites : List Prerequisite)
    (height : Nat) (walk : Walk) :
    R walk (firstUnmet resolve prerequisites height walk).2 := by
  induction prerequisites generalizing height walk with
  | nil =>
      rw [firstUnmet_nil]
      exact hR.refl walk
  | cons prerequisite rest ih =>
      have hstep := hresolve prerequisite.key walk
      cases hrun : resolve prerequisite.key walk with
      | mk result next =>
          rw [hrun] at hstep
          cases verdict prerequisite result with
          | met resolved hmet =>
              rw [firstUnmet_met hrun hmet]
              exact hR.trans hstep (ih _ next)
          | unmet resolved hunmet =>
              rw [firstUnmet_unmet hrun hunmet]
              exact hstep
          | fatal error hfatal =>
              rw [firstUnmet_fatal hrun hfatal]
              exact hstep
          | absorbed error habsorbed =>
              rw [firstUnmet_absorbed hrun habsorbed]
              exact hstep

theorem steps_preserves (hR : Preserved R) {resolve : String → Walk.Step Resolved}
    (hresolve : ∀ key walk, R walk (resolve key walk).2) (flag : Flag) (walk : Walk) :
    R walk (e.steps context flag resolve walk).2 := by
  cases henabled : flag.enabled with
  | false =>
      rw [steps_disabled henabled]
      exact hR.refl walk
  | true =>
      rw [snd_steps henabled]
      exact firstUnmet_preserves hR hresolve flag.prerequisites 1 walk

/-- A whole visit keeps what its two elementary changes keep. -/
theorem visit_preserves (hR : Preserved R) (chain : List String) (flag : Flag) (walk : Walk) :
    R walk (e.visit context chain flag walk).2 := by
  induction chain, flag, walk using visit.induct e with
  | case1 chain flag walk hmem =>
      rw [visit_cyclic hmem]
      exact hR.refl walk
  | case2 chain flag walk hmem hdeep =>
      rw [visit_tooDeep hmem hdeep]
      exact hR.refl walk
  | case3 chain flag walk hmem hdeep ih =>
      rw [visit_steps hmem hdeep]
      exact steps_preserves hR (resolve_preserves hR ih) flag walk

end Preserved

/-! ### Earlier look-ups leave no trace -/

/-- Steps whose answers do not depend on the keys asked before. -/
def Oblivious {α : Type} (step : Walk.Step α) : Prop :=
  ∀ earlier walk, step (walk.behind earlier) = ((step walk).1, (step walk).2.behind earlier)

private theorem resolve_oblivious {chainLength : Nat} {visit : Flag → Walk.Step (Evaluation × Nat)}
    (hvisit : ∀ flag, Oblivious (visit flag)) (key : String) :
    Oblivious (e.resolve chainLength visit key) := by
  intro earlier walk
  cases hmemo : walk.resolved.get? key with
  | some resolved =>
      have hmemo' : (walk.behind earlier).resolved.get? key = some resolved := hmemo
      rw [resolve_remembered hmemo, resolve_remembered hmemo']
  | none =>
      have hmemo' : (walk.behind earlier).resolved.get? key = none := hmemo
      cases hheld : e.lookup key with
      | none =>
          rw [resolve_missing hmemo hheld, resolve_missing hmemo' hheld, Walk.behind_asking]
      | some flag =>
          have hmoved := hvisit flag earlier (walk.asking key)
          rw [← Walk.behind_asking] at hmoved
          cases hrun : visit flag (walk.asking key) with
          | mk result next =>
              rw [hrun] at hmoved
              cases result with
              | error error =>
                  rw [resolve_failed hmemo hheld hrun, resolve_failed hmemo' hheld hmoved]
              | ok answer =>
                  rw [resolve_visited hmemo hheld hrun, resolve_visited hmemo' hheld hmoved,
                    Walk.behind_remembering]

private theorem firstUnmet_oblivious {resolve : String → Walk.Step Resolved}
    (hresolve : ∀ key, Oblivious (resolve key)) (prerequisites : List Prerequisite) (height : Nat) :
    Oblivious (firstUnmet resolve prerequisites height) := by
  intro earlier walk
  induction prerequisites generalizing height walk with
  | nil => rw [firstUnmet_nil, firstUnmet_nil]
  | cons prerequisite rest ih =>
      have hmoved := hresolve prerequisite.key earlier walk
      cases hrun : resolve prerequisite.key walk with
      | mk result next =>
          rw [hrun] at hmoved
          cases verdict prerequisite result with
          | met resolved hmet =>
              rw [firstUnmet_met hrun hmet, firstUnmet_met hmoved hmet]
              exact ih _ next
          | unmet resolved hunmet =>
              rw [firstUnmet_unmet hrun hunmet, firstUnmet_unmet hmoved hunmet]
          | fatal error hfatal => rw [firstUnmet_fatal hrun hfatal, firstUnmet_fatal hmoved hfatal]
          | absorbed error habsorbed =>
              rw [firstUnmet_absorbed hrun habsorbed, firstUnmet_absorbed hmoved habsorbed]

private theorem steps_oblivious {flag : Flag} {resolve : String → Walk.Step Resolved}
    (hresolve : ∀ key, Oblivious (resolve key)) :
    Oblivious (e.steps context flag resolve) := by
  intro earlier walk
  cases henabled : flag.enabled with
  | false => rw [steps_disabled henabled, steps_disabled henabled]
  | true =>
      have hmoved := firstUnmet_oblivious hresolve flag.prerequisites 1 earlier walk
      cases hrun : firstUnmet resolve flag.prerequisites 1 walk with
      | mk result next =>
          rw [hrun] at hmoved
          cases result with
          | error error => rw [steps_failed henabled hrun, steps_failed henabled hmoved]
          | ok answer => rw [steps_concluded henabled hrun, steps_concluded henabled hmoved]

theorem visit_oblivious (chain : List String) (flag : Flag) :
    Oblivious (e.visit context chain flag) := by
  intro earlier walk
  induction chain, flag, walk using visit.induct e generalizing earlier with
  | case1 chain flag walk hmem => rw [visit_cyclic hmem, visit_cyclic hmem]
  | case2 chain flag walk hmem hdeep => rw [visit_tooDeep hmem hdeep, visit_tooDeep hmem hdeep]
  | case3 chain flag walk hmem hdeep ih =>
      rw [visit_steps hmem hdeep, visit_steps hmem hdeep]
      have hvisit (prerequisite : Flag) :
          Oblivious (e.visit context (chain ++ [flag.key]) prerequisite) :=
        fun earlier walk => ih prerequisite walk earlier
      exact steps_oblivious (resolve_oblivious hvisit) earlier walk

/-- A flag that the store holds evaluates to the same, fetched or at hand. -/
theorem evaluate_result_eq_evaluateFlag {flag : Flag} (hheld : e.lookup key = some flag) :
    (e.evaluate context key).result = (e.evaluateFlag context flag).result := by
  have hfetched : e.walkFrom context key {} =
      e.visit context [] flag (({} : Walk).behind [key]) := by
    rw [walkFrom_held hheld]
    rfl
  have hmoved : e.visit context [] flag (({} : Walk).behind [key]) =
      ((e.visit context [] flag {}).1, (e.visit context [] flag {}).2.behind [key]) :=
    visit_oblivious [] flag [key] {}
  rw [evaluate, hfetched, hmoved]
  rfl

end Evaluator

end FeatureFlags
