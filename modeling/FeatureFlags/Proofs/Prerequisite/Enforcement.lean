import FeatureFlags.Proofs.Prerequisite.Graph
import Mathlib

/-!
Prerequisites are enforced through every level. A flag that is served, by a
rule or by falling through, rests on prerequisites that are served themselves,
and the height of what was walked falls along every edge. Hence nothing below
it is cyclic, and a single flag below it that is off or gone is enough to stop
it from being served.
-/

namespace FeatureFlags

/-- An evaluation of a flag whose prerequisites are met. -/
def Evaluation.IsServed (evaluation : Evaluation) : Prop :=
  evaluation.reason = .ruleMatch ∨ evaluation.reason = .fallthrough

/-- A variation comes from a rule, and the flag has it. -/
theorem Flag.serve_variationIndex {flag : Flag} {bucketer : Bucketer} {context : Context}
    {variation : UInt64} (hindex : (flag.serve bucketer context).variationIndex = some variation) :
    (flag.serve bucketer context).reason = .ruleMatch ∧
      variation.toNat < flag.variants.length := by
  unfold Flag.serve at hindex ⊢
  split at hindex
  · rename_i rule served inExperiment _
    by_cases hbound : served.toNat < flag.variants.length
    · simp only [Evaluation.ofRule, if_pos hbound] at hindex
      cases hindex
      exact ⟨rfl, hbound⟩
    · simp only [Evaluation.ofRule, if_neg hbound] at hindex
      cases hindex
  · cases hindex

namespace Evaluator

open Relation (TransGen ReflTransGen)

variable {e : Evaluator} {context : Context} {chain : List String} {key other : String}
  {flag : Flag} {evaluation : Evaluation} {height : Nat}

/-- A flag that is served is enabled, and none of its prerequisites is unmet. -/
theorem unmetAmong_of_isServed (hvisit : e.visitAfresh context chain flag = .ok (evaluation, height))
    (hserved : evaluation.IsServed) :
    flag.enabled = true ∧ evaluation = flag.serve e.bucketer context ∧
      unmetAmong (e.answerAfresh context (chain ++ [flag.key])) flag.prerequisites 1 =
        .ok (none, height) := by
  obtain ⟨_, _, ⟨_, rfl⟩ | ⟨henabled, unmet, rfl, hlist⟩⟩ := visitAfresh_ok_cases hvisit
  · rcases hserved with hreason | hreason <;> cases hreason
  · cases unmet with
    | none => exact ⟨henabled, rfl, hlist⟩
    | some key => rcases hserved with hreason | hreason <;> cases hreason

/-- A flag that resolves to a variation serves it by a rule. -/
theorem ruleMatch_of_variationIndex {variation : UInt64}
    (hvisit : e.visitAfresh context chain flag = .ok (evaluation, height))
    (hindex : evaluation.variationIndex = some variation) :
    flag.enabled = true ∧ evaluation.reason = .ruleMatch ∧
      variation.toNat < flag.variants.length := by
  obtain ⟨_, _, ⟨_, rfl⟩ | ⟨henabled, unmet, rfl, _⟩⟩ := visitAfresh_ok_cases hvisit
  · cases hindex
  · cases unmet with
    | none => exact ⟨henabled, Flag.serve_variationIndex hindex⟩
    | some key => cases hindex

/-! ### Everything below a served flag is served -/

/-- The flag of a key is served at top level, after a walk of a height. -/
def Serves (e : Evaluator) (context : Context) (key : String) (height : Nat) : Prop :=
  ∃ flag evaluation, e.lookup key = some flag ∧
    e.visitAfresh context [] flag = .ok (evaluation, height) ∧ evaluation.IsServed

theorem Serves.unique {lower : Nat} (hserves : e.Serves context key height)
    (hother : e.Serves context key lower) : height = lower := by
  obtain ⟨flag, evaluation, hheld, hvisit, _⟩ := hserves
  obtain ⟨flag', evaluation', hheld', hvisit', _⟩ := hother
  obtain rfl : flag = flag' := Option.some.inj (hheld.symm.trans hheld')
  rw [hvisit] at hvisit'
  cases hvisit'
  rfl

/-- A prerequisite of a served flag resolves to its variation at top level too,
after a lower walk. -/
theorem Serves.prerequisite (hserves : e.Serves context key height)
    (hheld : e.lookup key = some flag) {prerequisite : Prerequisite}
    (hmem : prerequisite ∈ flag.prerequisites) :
    ∃ required found lower, e.lookup prerequisite.key = some required ∧
      e.visitAfresh context [] required = .ok (found, lower) ∧ lower < height ∧
      found.variationIndex = some prerequisite.variation := by
  obtain ⟨flag', evaluation, hheld', hvisit, hserved⟩ := hserves
  obtain rfl : flag' = flag := Option.some.inj (hheld'.symm.trans hheld)
  obtain ⟨_, _, hlist⟩ := unmetAmong_of_isServed hvisit hserved
  obtain ⟨resolved, hanswer, hindex, hlower⟩ := (metWithin_of_unmetAmong hlist).2 prerequisite hmem
  obtain ⟨required, found, hrequired, hbehind, hsame⟩ := visitAfresh_of_answerAfresh hanswer
  have htop := visitAfresh_shorter (List.nil_subset _) (Nat.zero_le _) hbehind
  exact ⟨required, found, resolved.height, hrequired, htop, hlower, hsame.trans hindex⟩

theorem Serves.required (hserves : e.Serves context key height) (hstep : e.Requires key other) :
    ∃ lower, lower < height ∧ e.Serves context other lower := by
  obtain ⟨flag, hheld, ⟨prerequisite, hmem, rfl⟩, _⟩ := hstep
  obtain ⟨required, found, lower, hrequired, hvisit, hlower, hindex⟩ :=
    hserves.prerequisite hheld hmem
  have hrule := (ruleMatch_of_variationIndex hvisit hindex).2.1
  exact ⟨lower, hlower, required, found, hrequired, hvisit, .inl hrule⟩

theorem Serves.of_transGen (hserves : e.Serves context key height)
    (hpath : TransGen e.Requires key other) :
    ∃ lower, lower < height ∧ e.Serves context other lower := by
  induction hpath with
  | single hstep => exact hserves.required hstep
  | tail _ hstep ih =>
      obtain ⟨middle, hmiddle, hserves'⟩ := ih
      obtain ⟨lower, hlower, hserves''⟩ := hserves'.required hstep
      exact ⟨lower, by omega, hserves''⟩

theorem Serves.of_reflTransGen (hserves : e.Serves context key height)
    (hpath : ReflTransGen e.Requires key other) : ∃ lower, e.Serves context other lower := by
  rcases Relation.reflTransGen_iff_eq_or_transGen.mp hpath with rfl | hpath
  · exact ⟨height, hserves⟩
  · obtain ⟨lower, _, hlower⟩ := hserves.of_transGen hpath
    exact ⟨lower, hlower⟩

/-- A served flag lies on no cycle. -/
theorem Serves.not_cyclic (hserves : e.Serves context key height) :
    ¬ TransGen e.Requires key key := by
  intro hcycle
  obtain ⟨lower, hlower, hserves'⟩ := hserves.of_transGen hcycle
  have heq := hserves.unique hserves'
  omega

/-! ### One flag below that is off or gone -/

/-- The evaluator with another flag, or none, under a key. -/
def replacing (e : Evaluator) (key : String) (replacement : Option Flag) : Evaluator :=
  { e with lookup := Function.update e.lookup key replacement }

/-- The evaluator with the flag of a key removed from its store. -/
def removing (e : Evaluator) (key : String) : Evaluator :=
  e.replacing key none

/-- The evaluator with the flag of a key disabled in its store. -/
def disabling (e : Evaluator) (key : String) : Evaluator :=
  e.replacing key ((e.lookup key).map fun flag => { flag with enabled := false })

/-- What may stand under a key so that no variation is resolved there: nothing,
or a disabled flag of that key. -/
def Off (key : String) (replacement : Option Flag) : Prop :=
  ∀ flag, replacement = some flag → flag.key = key ∧ flag.enabled = false

theorem off_none (key : String) : Off key none :=
  fun _ hnone => nomatch hnone

theorem off_disabled (hkeyed : e.WellKeyed) (key : String) :
    Off key ((e.lookup key).map fun flag => { flag with enabled := false }) := by
  intro flag hflag
  obtain ⟨held, hheld, rfl⟩ := Option.map_eq_some_iff.mp hflag
  exact ⟨hkeyed key held hheld, rfl⟩

section Replacing

variable {off : String} {replacement : Option Flag}

theorem lookup_replacing_self : (e.replacing off replacement).lookup off = replacement := by
  simp [replacing]

theorem lookup_replacing_of_ne (hne : key ≠ off) :
    (e.replacing off replacement).lookup key = e.lookup key := by
  simp [replacing, hne]

theorem WellKeyed.replacing (hkeyed : e.WellKeyed) (hoff : Off off replacement) :
    (e.replacing off replacement).WellKeyed := by
  intro key flag hheld
  by_cases heq : key = off
  · rw [heq, lookup_replacing_self] at hheld
    rw [heq]
    exact (hoff flag hheld).1
  · rw [lookup_replacing_of_ne heq] at hheld
    exact hkeyed key flag hheld

/-- Where a flag had an answer, the key that is now off has no variation. -/
theorem answerAfresh_off (hkeyed : e.WellKeyed) (hoff : Off off replacement) {resolved : Resolved}
    (hanswer : e.answerAfresh context chain off = .ok resolved) :
    (e.replacing off replacement).answerAfresh context chain off = .error (.flagNotFound off) ∨
      (e.replacing off replacement).answerAfresh context chain off = .ok ⟨none, 1⟩ := by
  cases hreplacement : replacement with
  | none => exact .inl (answerAfresh_missing lookup_replacing_self)
  | some flag =>
      obtain ⟨hkey, hdisabled⟩ := hoff flag hreplacement
      obtain ⟨held, evaluation, hheld, hvisit, _⟩ := visitAfresh_of_answerAfresh hanswer
      obtain ⟨hmem, hdeep, _⟩ := visitAfresh_ok_cases hvisit
      have hmem' : flag.key ∉ chain := by
        rw [hkey, ← hkeyed off held hheld]
        exact hmem
      have hdeep' : ¬ (e.replacing off (some flag)).maxDepth.toNat < chain.length := hdeep
      right
      rw [answerAfresh_held lookup_replacing_self,
        visitAfresh_disabled hmem' hdeep' hdisabled]
      rfl

/-- What a prerequisite may resolve to after the change: it may be missing, and
where it is blocked it has no variation. -/
inductive Weakened (blocked : Prop) : Except FlagError Resolved → Prop where
  | missing (key : String) : Weakened blocked (.error (.flagNotFound key))
  | resolved (answer : Resolved) (hblocked : blocked → answer.variationIndex = none) :
      Weakened blocked (.ok answer)

theorem Weakened.absorbed {blocked : Prop} {error : FlagError}
    (hweakened : Weakened blocked (.error error)) : error.isFatal = false := by
  cases hweakened
  rfl

theorem Weakened.variationIndex {blocked : Prop} {answer : Resolved}
    (hweakened : Weakened blocked (.ok answer)) (hblocked : blocked) :
    answer.variationIndex = none := by
  cases hweakened with
  | resolved _ hnone => exact hnone hblocked

theorem weakened_off (hkeyed : e.WellKeyed) (hoff : Off off replacement) {resolved : Resolved}
    (hanswer : e.answerAfresh context chain off = .ok resolved) :
    Weakened (ReflTransGen e.Requires off off)
      ((e.replacing off replacement).answerAfresh context chain off) := by
  rcases answerAfresh_off hkeyed hoff hanswer with hgone | hdisabled
  · rw [hgone]
    exact .missing off
  · rw [hdisabled]
    exact .resolved _ fun _ => rfl

/-- An unmet prerequisite blocks the flag that is waiting for it. -/
theorem weakened_of_visit (hkeyed : e.WellKeyed) (hne : key ≠ off)
    (hheld : e.lookup key = some flag)
    (hvisit : (e.replacing off replacement).visitAfresh context chain flag = .ok (evaluation, height))
    (hblocked : TransGen e.Requires flag.key off →
      ∃ unmet, evaluation = .ofUnmetPrerequisite flag unmet) :
    Weakened (ReflTransGen e.Requires key off)
      ((e.replacing off replacement).answerAfresh context chain key) := by
  obtain rfl : flag.key = key := hkeyed key flag hheld
  rw [answerAfresh_held ((lookup_replacing_of_ne hne).trans hheld), hvisit]
  refine .resolved _ fun hpath => ?_
  rcases Relation.reflTransGen_iff_eq_or_transGen.mp hpath with hself | hpath
  · exact absurd hself.symm hne
  · obtain ⟨unmet, rfl⟩ := hblocked hpath
    rfl

/-- A flag that was served still has an evaluation. If paths lead from it to the
flag that is off, it now has an unmet prerequisite. -/
theorem visitAfresh_replacing (hkeyed : e.WellKeyed) (hoff : Off off replacement)
    (hheld : e.lookup flag.key = some flag)
    (hvisit : e.visitAfresh context chain flag = .ok (evaluation, height))
    (hserved : evaluation.IsServed) :
    ∃ after reached,
      (e.replacing off replacement).visitAfresh context chain flag = .ok (after, reached) ∧
        (TransGen e.Requires flag.key off →
          ∃ unmet, after = .ofUnmetPrerequisite flag unmet) := by
  -- The walk below a prerequisite that is met is lower than the walk below the flag.
  induction height using Nat.strongRecOn generalizing chain flag evaluation with
  | _ height ih =>
      obtain ⟨hmem, hdeep, _⟩ := visitAfresh_ok_cases hvisit
      obtain ⟨henabled, _, hlist⟩ := unmetAmong_of_isServed hvisit hserved
      have hweakened : ∀ prerequisite ∈ flag.prerequisites,
          Weakened (ReflTransGen e.Requires prerequisite.key off)
            ((e.replacing off replacement).answerAfresh context (chain ++ [flag.key])
              prerequisite.key) := by
        intro prerequisite hprerequisite
        obtain ⟨resolved, hanswer, hindex, hlower⟩ :=
          (metWithin_of_unmetAmong hlist).2 prerequisite hprerequisite
        by_cases heq : prerequisite.key = off
        · rw [heq] at hanswer ⊢
          exact weakened_off hkeyed hoff hanswer
        · obtain ⟨required, found, hrequired, hbehind, hsame⟩ := visitAfresh_of_answerAfresh hanswer
          have hkey : required.key = prerequisite.key := hkeyed _ _ hrequired
          have hrule := (ruleMatch_of_variationIndex hbehind (hsame.trans hindex)).2.1
          obtain ⟨after, reached, hafter, hunmet⟩ :=
            ih resolved.height hlower (hkey ▸ hrequired) hbehind (.inl hrule)
          exact weakened_of_visit hkeyed heq hrequired hafter hunmet
      have habsorbed : ∀ prerequisite ∈ flag.prerequisites, ∀ error,
          (e.replacing off replacement).answerAfresh context (chain ++ [flag.key])
            prerequisite.key = .error error → error.isFatal = false := by
        intro prerequisite hprerequisite error herror
        have h := hweakened prerequisite hprerequisite
        rw [herror] at h
        exact h.absorbed
      obtain ⟨unmet, reached, hunmet⟩ := unmetAmong_ok habsorbed
      have hdeep' : ¬ (e.replacing off replacement).maxDepth.toNat < chain.length := hdeep
      refine ⟨e.conclusion context flag unmet, reached, ?_, fun hpath => ?_⟩
      · rw [visitAfresh_enabled hmem hdeep' henabled, hunmet]
        rfl
      · obtain ⟨next, ⟨held, hheld', ⟨prerequisite, hprerequisite, rfl⟩, _⟩, hrest⟩ :=
          TransGen.head'_iff.mp hpath
        obtain rfl : held = flag := Option.some.inj (hheld'.symm.trans hheld)
        cases unmet with
        | some key => exact ⟨key, rfl⟩
        | none =>
            obtain ⟨resolved, hanswer, hindex, _⟩ :=
              (metWithin_of_unmetAmong hunmet).2 prerequisite hprerequisite
            have h := hweakened prerequisite hprerequisite
            rw [hanswer] at h
            rw [h.variationIndex hrest] at hindex
            cases hindex

end Replacing

/-! ### Evaluations -/

/-- An evaluation that serves comes from a flag that is served. -/
theorem serves_of_evaluate (hkeyed : e.WellKeyed) (hfits : e.DepthFits)
    (hresult : (e.evaluate context key).result = .ok evaluation) (hserved : evaluation.IsServed) :
    ∃ height, e.Serves context key height := by
  obtain ⟨flag, height, hheld, hvisit⟩ := (evaluate_eq_ok_iff hkeyed hfits).mp hresult
  exact ⟨height, flag, evaluation, hheld, hvisit, hserved⟩

/-- A prerequisite that is held, enabled and evaluated by a rule to the
variation it has to resolve to, which is one that it has. -/
def Satisfied (e : Evaluator) (context : Context) (prerequisite : Prerequisite) : Prop :=
  ∃ required found, e.lookup prerequisite.key = some required ∧ required.enabled = true ∧
    (e.evaluate context prerequisite.key).result = .ok found ∧ found.reason = .ruleMatch ∧
    found.variationIndex = some prerequisite.variation ∧
    prerequisite.variation.toNat < required.variants.length

theorem Serves.satisfied (hkeyed : e.WellKeyed) (hfits : e.DepthFits)
    (hserves : e.Serves context key height) (hheld : e.lookup key = some flag)
    {prerequisite : Prerequisite} (hmem : prerequisite ∈ flag.prerequisites) :
    e.Satisfied context prerequisite := by
  obtain ⟨required, found, lower, hrequired, hvisit, _, hindex⟩ := hserves.prerequisite hheld hmem
  obtain ⟨henabled, hrule, hvariant⟩ := ruleMatch_of_variationIndex hvisit hindex
  have hresult := (evaluate_eq_ok_iff hkeyed hfits).mpr ⟨required, lower, hrequired, hvisit⟩
  exact ⟨required, found, hrequired, henabled, hresult, hrule, hindex, hvariant⟩

/-- The flag of a key is refused for a prerequisite, and its default is served. -/
def Refuses (e : Evaluator) (context : Context) (key : String) : Prop :=
  ∃ flag found, e.lookup key = some flag ∧ (e.evaluate context key).result = .ok found ∧
    found.reason = .prerequisiteFailed ∧ found.value = flag.defaultValue

theorem Serves.refuses_replacing {off : String} {replacement : Option Flag}
    (hkeyed : e.WellKeyed) (hfits : e.DepthFits) (hoff : Off off replacement)
    (hserves : e.Serves context key height) (hpath : ReflTransGen e.Requires key off)
    (hne : off ≠ key) : (e.replacing off replacement).Refuses context key := by
  obtain ⟨flag, evaluation, hheld, hvisit, hserved⟩ := hserves
  obtain rfl : flag.key = key := hkeyed key flag hheld
  obtain ⟨after, reached, hafter, hunmet⟩ :=
    visitAfresh_replacing hkeyed hoff hheld hvisit hserved
  have hbelow : TransGen e.Requires flag.key off :=
    (Relation.reflTransGen_iff_eq_or_transGen.mp hpath).resolve_left hne
  obtain ⟨unmet, rfl⟩ := hunmet hbelow
  have hheld' : (e.replacing off replacement).lookup flag.key = some flag :=
    (lookup_replacing_of_ne hne.symm).trans hheld
  have hfits' : (e.replacing off replacement).DepthFits := hfits
  have hresult := (evaluate_eq_ok_iff (hkeyed.replacing hoff) hfits').mpr
    ⟨flag, reached, hheld', hafter⟩
  exact ⟨flag, _, hheld', hresult, rfl, rfl⟩

/-- Where a flag is served, the flags below it form no cycle, every prerequisite
of each of them is satisfied, and to disable or remove any one of them makes the
flag fall back to its default. -/
theorem prerequisites_enforced (hkeyed : e.WellKeyed) (hfits : e.DepthFits)
    (hresult : (e.evaluate context key).result = .ok evaluation) (hserved : evaluation.IsServed) :
    (∀ below, ReflTransGen e.Requires key below → ¬ TransGen e.Requires below below) ∧
      (∀ below flag, ReflTransGen e.Requires key below → e.lookup below = some flag →
        ∀ prerequisite ∈ flag.prerequisites, e.Satisfied context prerequisite) ∧
      ∀ below, ReflTransGen e.Requires key below → below ≠ key →
        (e.disabling below).Refuses context key ∧ (e.removing below).Refuses context key := by
  obtain ⟨height, hserves⟩ := serves_of_evaluate hkeyed hfits hresult hserved
  refine ⟨?_, ?_, ?_⟩
  · intro below hpath
    obtain ⟨lower, hlower⟩ := hserves.of_reflTransGen hpath
    exact hlower.not_cyclic
  · intro below flag hpath hheld prerequisite hmem
    obtain ⟨lower, hlower⟩ := hserves.of_reflTransGen hpath
    exact hlower.satisfied hkeyed hfits hheld hmem
  · intro below hpath hne
    exact ⟨hserves.refuses_replacing hkeyed hfits (off_disabled hkeyed below) hpath hne,
      hserves.refuses_replacing hkeyed hfits (off_none below) hpath hne⟩

theorem prerequisites_enforced_in_diamond :
    diamond.WellKeyed ∧ diamond.DepthFits ∧
      ∃ evaluation, (diamond.evaluate { key := "user" } "top").result = .ok evaluation ∧
        evaluation.IsServed ∧ (diamond.disabling "base").Refuses { key := "user" } "top" ∧
        (diamond.removing "base").Refuses { key := "user" } "top" := by
  have hresult : (diamond.evaluate { key := "user" } "top").result =
      .ok (.ofRule (.steady "top" [⟨"left", 0⟩, ⟨"right", 0⟩]) { variation := 0 } 0 false) := by cbv
  have hleft : diamond.Requires "top" "left" := ⟨_, by cbv, ⟨⟨"left", 0⟩, by decide, rfl⟩, by cbv⟩
  have hbase : diamond.Requires "left" "base" := ⟨_, by cbv, ⟨⟨"base", 0⟩, by decide, rfl⟩, by cbv⟩
  have hpath : ReflTransGen diamond.Requires "top" "base" := .tail (.single hleft) hbase
  have hwhole := prerequisites_enforced wellKeyed_diamond depthFits_diamond hresult (.inl rfl)
  exact ⟨wellKeyed_diamond, depthFits_diamond, _, hresult, .inl rfl,
    hwhole.2.2 "base" hpath (by decide)⟩

end Evaluator

end FeatureFlags
