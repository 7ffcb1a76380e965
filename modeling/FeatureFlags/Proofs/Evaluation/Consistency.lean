import FeatureFlags.Proofs.Prerequisite.Course
import Mathlib

/-!
The members of an evaluation go together. A flag is evaluated in one of four
ways: it is off, a prerequisite is unmet, a rule decides, or nothing does. Each
way fills all members of the evaluation at once, and each member can tell by the
reason what the others are.
-/

namespace FeatureFlags

variable {flag : Flag} {bucketer : Bucketer} {context : Context} {rule : Rule}
  {variation : UInt64} {inExperiment : Bool}

/-! ### The rule that decides -/

/-- A rule with a rollout that has entries. -/
def Rule.HasEntries (rule : Rule) : Prop :=
  ∃ rollout, rule.rollout = some rollout ∧ rollout.variations ≠ []

theorem Rule.not_hasEntries (hrollout : rule.rollout = none) : ¬ rule.HasEntries := by
  rintro ⟨rollout, hsome, _⟩
  rw [hrollout] at hsome
  cases hsome

/-- The first rule of a flag that serves a variation. -/
structure Flag.DecidedBy (flag : Flag) (bucketer : Bucketer) (context : Context) (rule : Rule)
    (variation : UInt64) (inExperiment : Bool) : Prop where
  served : rule.outcome bucketer context flag.key = .served variation inExperiment
  first : ∃ before after, flag.rules = before ++ rule :: after ∧ ∀ earlier ∈ before,
    ∀ other weighted, earlier.outcome bucketer context flag.key ≠ .served other weighted

theorem Flag.decidedBy_of_decision
    (hdecision : flag.decision bucketer context = some (rule, variation, inExperiment)) :
    flag.DecidedBy bucketer context rule variation inExperiment := by
  obtain ⟨before, found, after, hsplit, hfound, hbefore⟩ :=
    List.findSome?_eq_some_iff.mp hdecision
  have hserved : found = rule ∧
      found.outcome bucketer context flag.key = .served variation inExperiment := by
    split at hfound
    · next served weighted houtcome =>
        cases hfound
        exact ⟨rfl, houtcome⟩
    · cases hfound
    · cases hfound
  obtain ⟨rfl, houtcome⟩ := hserved
  refine ⟨houtcome, before, after, hsplit, fun earlier hmem other weighted hearlier => ?_⟩
  have hnone := hbefore earlier hmem
  rw [hearlier] at hnone
  cases hnone

/-- A rollout without entries selects nothing. -/
theorem Rollout.variations_ne_nil {rollout : Rollout} {flagKey : String}
    (hselect : rollout.select bucketer context flagKey = some variation) :
    rollout.variations ≠ [] := by
  intro hnil
  rw [select, variationForBucket, hnil] at hselect
  cases hselect

/-- Weights select the variation just where a rollout has entries. -/
theorem Rule.inExperiment_iff {flagKey : String}
    (hserved : rule.outcome bucketer context flagKey = .served variation inExperiment) :
    inExperiment = true ↔ rule.HasEntries := by
  unfold outcome decide at hserved
  split at hserved
  · cases hrollout : rule.rollout with
    | some rollout =>
        simp only [hrollout] at hserved
        split at hserved
        · next selected hselect =>
            cases hserved
            exact iff_of_true rfl ⟨rollout, hrollout, Rollout.variations_ne_nil hselect⟩
        · cases hserved
    | none =>
        simp only [hrollout] at hserved
        split at hserved
        · cases hserved
          exact iff_of_false Bool.false_ne_true (not_hasEntries hrollout)
        · cases hserved
  · cases hserved

/-! ### Evaluations -/

/-- How the members of an evaluation of a flag go together. -/
structure Evaluation.Consistent (evaluation : Evaluation) (flag : Flag) (bucketer : Bucketer)
    (context : Context) : Prop where
  key : evaluation.key = flag.key
  reason : evaluation.reason ∈ [.off, .prerequisiteFailed, .ruleMatch, .fallthrough]
  off : evaluation.reason = .off ↔ flag.enabled = false
  variant : ∀ index, evaluation.variationIndex = some index →
    evaluation.reason = .ruleMatch ∧ ∃ variant, flag.variants[index.toNat]? = some variant ∧
      evaluation.value = variant.value
  default : evaluation.variationIndex = none → evaluation.value = flag.defaultValue
  failed : evaluation.prerequisiteFailed = true ↔ evaluation.reason = .prerequisiteFailed
  blamed : evaluation.prerequisiteKey.isSome = true ↔ evaluation.reason = .prerequisiteFailed
  listed : ∀ key, evaluation.prerequisiteKey = some key →
    ∃ prerequisite ∈ flag.prerequisites, prerequisite.key = key
  /-- Only a rule has an id, and only a rule has weights. -/
  unruled : evaluation.reason ≠ .ruleMatch →
    evaluation.ruleId = none ∧ evaluation.inExperiment = false
  ruled : evaluation.reason = .ruleMatch → ∃ rule variation,
    flag.DecidedBy bucketer context rule variation evaluation.inExperiment ∧
      evaluation.ruleId = rule.id ∧ (evaluation.inExperiment = true ↔ rule.HasEntries)

theorem Evaluation.consistent_off (hdisabled : flag.enabled = false) :
    (ofDefault flag .off).Consistent flag bucketer context := by
  constructor <;> simp [ofDefault, hdisabled]

theorem Evaluation.consistent_fallthrough (henabled : flag.enabled = true) :
    (ofDefault flag .fallthrough).Consistent flag bucketer context := by
  constructor <;> simp [ofDefault, henabled]

theorem Evaluation.consistent_unmet (henabled : flag.enabled = true) {unmet : String}
    (hlisted : ∃ prerequisite ∈ flag.prerequisites, prerequisite.key = unmet) :
    (ofUnmetPrerequisite flag unmet).Consistent flag bucketer context := by
  constructor <;> simp [ofUnmetPrerequisite, ofDefault, henabled, hlisted]

/-- The index of a variation is checked once when it is set, and the value is
looked up by itself; both come to the same. -/
theorem Evaluation.consistent_ofRule (henabled : flag.enabled = true)
    (hdecided : flag.DecidedBy bucketer context rule variation inExperiment) :
    (ofRule flag rule variation inExperiment).Consistent flag bucketer context where
  key := rfl
  reason := by simp [ofRule]
  off := by simp [ofRule, henabled]
  variant index hindex := by
    by_cases hbound : variation.toNat < flag.variants.length
    · simp only [ofRule, if_pos hbound] at hindex
      cases hindex
      refine ⟨rfl, _, List.getElem?_eq_getElem hbound, ?_⟩
      simp only [ofRule, Flag.variantValue, List.getElem?_eq_getElem hbound]
    · simp only [ofRule, if_neg hbound] at hindex
      cases hindex
  default hindex := by
    by_cases hbound : variation.toNat < flag.variants.length
    · simp only [ofRule, if_pos hbound] at hindex
      cases hindex
    · have hnone : flag.variants[variation.toNat]? = none :=
        List.getElem?_eq_none (Nat.not_lt.mp hbound)
      simp only [ofRule, Flag.variantValue, hnone]
  failed := by simp [ofRule]
  blamed := by simp [ofRule]
  listed := by simp [ofRule]
  unruled := by simp [ofRule]
  ruled _ := ⟨rule, variation, hdecided, rfl, Rule.inExperiment_iff hdecided.served⟩

theorem Flag.serve_consistent (henabled : flag.enabled = true) :
    (flag.serve bucketer context).Consistent flag bucketer context := by
  rw [serve]
  cases hdecision : flag.decision bucketer context with
  | none => exact Evaluation.consistent_fallthrough henabled
  | some decision =>
      exact Evaluation.consistent_ofRule henabled (decidedBy_of_decision hdecision)

namespace Evaluator

variable {e : Evaluator} {evaluation : Evaluation} {height : Nat} {chain : List String}
  {walk next : Walk}

theorem consistent_of_visit
    (hvisit : e.visit context chain flag walk = (.ok (evaluation, height), next)) :
    evaluation.Consistent flag e.bucketer context := by
  have hcourse := e.course context chain flag walk
  rw [hvisit] at hcourse
  cases hcourse with
  | disabled hmem hroom hdisabled => exact Evaluation.consistent_off hdisabled
  | concluded hmem hroom henabled unmet height next hlist =>
      cases unmet with
      | none => exact Flag.serve_consistent henabled
      | some key =>
          obtain ⟨prerequisite, hprerequisite, hkey, _⟩ := hlist.unmet_listed rfl
          exact Evaluation.consistent_unmet henabled ⟨prerequisite, hprerequisite, hkey⟩

/-- Whatever a flag evaluates to is consistent in itself and with the flag, in
every store and under every bound. -/
theorem evaluateFlag_consistent (hresult : (e.evaluateFlag context flag).result = .ok evaluation) :
    evaluation.Consistent flag e.bucketer context := by
  cases hvisit : e.visit context [] flag {} with
  | mk result next =>
      rw [evaluateFlag, hvisit] at hresult
      cases result with
      | error error => cases hresult
      | ok answer =>
          cases hresult
          exact consistent_of_visit hvisit

/-- A flag whose first rule has a rollout without entries, and whose second one
selects a variation that the flag does not have. -/
def trial : Flag where
  key := "trial"
  enabled := true
  defaultValue := .bool false
  variants := [⟨"on", .bool true⟩]
  rules := [{ id := some "empty", rollout := some { variations := [] } },
    { id := some "beyond", rollout := some { variations := [⟨7, 1⟩] } }]

/-- The context without a key, in a store without flags. -/
theorem evaluateFlag_consistent_in_trial :
    ∃ evaluation,
      (({ lookup := fun _ => none } : Evaluator).evaluateFlag { key := "" } trial).result =
        .ok evaluation ∧
      evaluation.ruleId = some "beyond" ∧ evaluation.inExperiment = true ∧
      evaluation.variationIndex = none ∧
      evaluation.Consistent trial .fnv1a { key := "" } := by
  have hresult :
      (({ lookup := fun _ => none } : Evaluator).evaluateFlag { key := "" } trial).result =
        .ok (.ofRule trial
          { id := some "beyond", rollout := some { variations := [⟨7, 1⟩] } } 7 true) := by
    cbv
  exact ⟨_, hresult, rfl, rfl, rfl, evaluateFlag_consistent hresult⟩

end Evaluator

end FeatureFlags
