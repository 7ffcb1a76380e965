import FeatureFlags.Proofs.Evaluation.FirstEligible
import FeatureFlags.Proofs.Rule.Shares

/-!
A percentage and weights cut the contexts at the same place. A percentage
divides the bucket by a thousand and compares what is left, and weights are
added up and compared with the bucket. For a part of 100 both come to the same
comparison of the bucket with a thousand times the part, also for a context
without a key, which is in bucket 0.
-/

namespace FeatureFlags

variable {bucketer : Bucketer} {context : Context} {flagKey : String} {rule : Rule}
  {percentage : UInt32}

/-- Rollouts that name no attribute, the empty one or the key bucket by the
key, as percentages do. -/
theorem bucket_byKey {bucketBy : Option String} (hkey : bucketBy ∈ [none, some "", some "key"]) :
    bucket bucketer context (bucketBy.getD "") flagKey =
      bucket bucketer context "key" flagKey := by
  simp only [List.mem_cons, List.not_mem_nil, or_false] at hkey
  rcases hkey with rfl | rfl | rfl <;> rfl

namespace Rollout

variable {rollout : Rollout} {inside outside : UInt64} {first second bucket : UInt32}

/-- Of two entries that the bucket lies below, the first has the buckets below
its weight. -/
theorem variationForBucket_pair (hpair : rollout.variations = [⟨inside, first⟩, ⟨outside, second⟩])
    (hreached : bucket.toNat < first.toNat + second.toNat) :
    rollout.variationForBucket bucket =
      some (if bucket.toNat < first.toNat then inside else outside) := by
  have hstart : rollout.start 1 = first.toNat := by
    simp [start, hpair, weightOfFirst]
  have hend : rollout.start 2 = first.toNat + second.toNat := by
    simp [start, hpair, weightOfFirst]
  have hlength : rollout.variations.length = 2 := by simp [hpair]
  have htotal : bucket.toNat < rollout.total := by rwa [total, hlength, hend]
  rw [variationForBucket_eq]
  split
  · next hbelow =>
      have hposition : rollout.position bucket = 0 :=
        (position_eq_iff htotal).mpr ⟨by omega, Nat.zero_le _, by rwa [hstart]⟩
      simp [hposition, hpair]
  · next habove =>
      have hposition : rollout.position bucket = 1 :=
        (position_eq_iff htotal).mpr ⟨by omega, by omega, by rwa [hend]⟩
      simp [hposition, hpair]

end Rollout

namespace Rule

theorem passesPercentage_some_iff {bucket : UInt32} :
    passesPercentage (some percentage) bucket = true ↔
      bucket.toNat < 1000 * percentage.toNat := by
  rw [passesPercentage_iff]
  simp only [Option.mem_def, Option.some.injEq, forall_eq']
  rw [Nat.div_lt_iff_lt_mul (by decide), Nat.mul_comm]

/-- A rule without a rollout serves its own variation. -/
theorem outcome_of_served {variation : UInt64} {inExperiment : Bool}
    (hrollout : rule.rollout = none)
    (hserved : rule.outcome bucketer context flagKey = .served variation inExperiment) :
    rule.outcome bucketer context flagKey = .served rule.variation false := by
  rw [outcome_of_eligible (eligible_of_served hserved), servedVariation, hrollout]
  rfl

theorem decide_of_percentage (hrollout : rule.rollout = none)
    (hpercentage : rule.percentage = some percentage) :
    rule.decide bucketer context flagKey =
      if (bucket bucketer context "key" flagKey).toNat < 1000 * percentage.toNat then
        .served rule.variation false
      else .outsidePercentage := by
  simp only [decide, hrollout, hpercentage, passesPercentage_some_iff]

theorem decide_of_rollout {rollout : Rollout} {variation : UInt64}
    (hrollout : rule.rollout = some rollout)
    (hselect : rollout.select bucketer context flagKey = some variation) :
    rule.decide bucketer context flagKey = .served variation true := by
  simp only [decide, hrollout, hselect]

/-- A rule that serves a variation to a part of its contexts, of 100, and a rule
for the same contexts whose rollout gives this part of the buckets of the key to
the variation and the rest to another one. -/
structure CutAlike (gate weighted : Rule) (part : UInt32) (inside outside : UInt64) : Prop where
  clauses : weighted.clauses = gate.clauses
  unweighted : gate.rollout = none
  percentage : gate.percentage = some part
  variation : gate.variation = inside
  rollout : ∃ bucketBy ∈ [none, some "", some "key"], weighted.rollout =
    some { bucketBy, variations := [⟨inside, 1000 * part⟩, ⟨outside, 100000 - 1000 * part⟩] }

end Rule

/-- What becomes of an outcome if those that a percentage leaves out get another
variation. -/
def RuleOutcome.withRest (outside : UInt64) : RuleOutcome → RuleOutcome
  | .served variation _ => .served variation true
  | .outsidePercentage => .served outside true
  | .notMatched => .notMatched

namespace Rule

variable {gate weighted : Rule} {part : UInt32} {inside outside : UInt64}

theorem toNat_mul_part (hpart : part ≤ 100) : (1000 * part).toNat = 1000 * part.toNat := by
  have hle : part.toNat ≤ 100 := UInt32.le_iff_toNat_le.mp hpart
  rw [UInt32.toNat_mul]
  apply Nat.mod_eq_of_lt
  change 1000 * part.toNat < 2 ^ 32
  omega

theorem toNat_sub_part (hpart : part ≤ 100) :
    (100000 - 1000 * part).toNat = 100000 - 1000 * part.toNat := by
  have hle : part.toNat ≤ 100 := UInt32.le_iff_toNat_le.mp hpart
  have hbound : 1000 * part ≤ 100000 := by
    rw [UInt32.le_iff_toNat_le, toNat_mul_part hpart]
    change 1000 * part.toNat ≤ 100000
    omega
  rw [UInt32.toNat_sub_of_le _ _ hbound, toNat_mul_part hpart]
  rfl

theorem CutAlike.decide_eq (hcut : gate.CutAlike weighted part inside outside)
    (hpart : part ≤ 100) :
    weighted.decide bucketer context flagKey =
      (gate.decide bucketer context flagKey).withRest outside := by
  obtain ⟨bucketBy, hkey, hrollout⟩ := hcut.rollout
  have hbucket := toNat_bucket_lt bucketer context "key" flagKey
  have hinside := toNat_mul_part hpart
  have houtside := toNat_sub_part hpart
  have hselect : Rollout.select
      { bucketBy, variations := [⟨inside, 1000 * part⟩, ⟨outside, 100000 - 1000 * part⟩] }
      bucketer context flagKey =
        some (if (bucket bucketer context "key" flagKey).toNat < 1000 * part.toNat then inside
          else outside) := by
    rw [Rollout.select, bucket_byKey hkey, Rollout.variationForBucket_pair rfl (by omega), hinside]
  rw [decide_of_rollout hrollout hselect, decide_of_percentage hcut.unweighted hcut.percentage,
    hcut.variation]
  split <;> rfl

/-- The rollout gives the other variation to those that the percentage leaves
out, and changes nothing else. -/
theorem CutAlike.outcome_eq (hcut : gate.CutAlike weighted part inside outside)
    (hpart : part ≤ 100) :
    weighted.outcome bucketer context flagKey =
      (gate.outcome bucketer context flagKey).withRest outside := by
  have haccepts : weighted.accepts context = gate.accepts context := by
    rw [accepts, accepts, hcut.clauses]
  rw [outcome, outcome, haccepts, hcut.decide_eq hpart]
  split <;> rfl

/-- A percentage up to 100 and the rollout that divides the buckets in the same
way serve the variation to the same contexts, and the rest of the contexts that
satisfy the clauses gets the other variation. -/
theorem percentage_cuts_as_rollout (hcut : gate.CutAlike weighted part inside outside)
    (hpart : part ≤ 100) (hother : inside ≠ outside) (bucketer : Bucketer) (context : Context)
    (flagKey : String) :
    ((∃ inExperiment, gate.outcome bucketer context flagKey = .served inside inExperiment) ↔
        ∃ inExperiment, weighted.outcome bucketer context flagKey = .served inside inExperiment) ∧
      (gate.accepts context = true →
        gate.outcome bucketer context flagKey = .outsidePercentage →
          weighted.outcome bucketer context flagKey = .served outside true) ∧
      weighted.outcome bucketer context flagKey =
        (gate.outcome bucketer context flagKey).withRest outside := by
  have hsame : weighted.outcome bucketer context flagKey =
      (gate.outcome bucketer context flagKey).withRest outside := hcut.outcome_eq hpart
  refine ⟨?_, fun _ houtside => by rw [hsame, houtside]; rfl, hsame⟩
  rw [hsame]
  cases houtcome : gate.outcome bucketer context flagKey with
  | served variation inExperiment =>
      have hown := outcome_of_served hcut.unweighted houtcome
      rw [houtcome, hcut.variation] at hown
      rw [hown]
      exact iff_of_true ⟨_, rfl⟩ ⟨_, rfl⟩
  | outsidePercentage =>
      refine iff_of_false (by rintro ⟨_, ⟨⟩⟩) ?_
      rintro ⟨_, hserved⟩
      cases hserved
      exact hother rfl
  | notMatched => exact iff_of_false (by rintro ⟨_, ⟨⟩⟩) (by rintro ⟨_, ⟨⟩⟩)

/-- Serves the first variation to 42 of 100 contexts. -/
def gated : Rule where
  percentage := some 42

/-- Serves the first variation to 42 of 100 contexts, and the second to others. -/
def divided : Rule where
  rollout := some { bucketBy := some "", variations := [⟨0, 42000⟩, ⟨1, 58000⟩] }

theorem cutAlike_gated_divided : gated.CutAlike divided 42 0 1 where
  clauses := rfl
  unweighted := rfl
  percentage := rfl
  variation := rfl
  rollout := ⟨some "", by simp, rfl⟩

/-- Buckets 41999 and 42000 are the last within and the first without, and a
context without a key is within. -/
theorem percentage_cuts_as_rollout_in_gated :
    gated.CutAlike divided 42 0 1 ∧ (42 : UInt32) ≤ 100 ∧
      gated.outcome (.constant 41999) { key := "user" } "flag" = .served 0 false ∧
      divided.outcome (.constant 41999) { key := "user" } "flag" = .served 0 true ∧
      gated.outcome (.constant 42000) { key := "user" } "flag" = .outsidePercentage ∧
      divided.outcome (.constant 42000) { key := "user" } "flag" = .served 1 true ∧
      ∃ inExperiment, divided.outcome (.constant 42000) { key := "" } "flag" =
        .served 0 inExperiment := by
  have hcut := cutAlike_gated_divided
  have hlast := percentage_cuts_as_rollout hcut (by decide) (by decide) (.constant 41999)
    { key := "user" } "flag"
  have hfirst := percentage_cuts_as_rollout hcut (by decide) (by decide) (.constant 42000)
    { key := "user" } "flag"
  have hkeyless := percentage_cuts_as_rollout hcut (by decide) (by decide) (.constant 42000)
    { key := "" } "flag"
  have hwithin : gated.outcome (.constant 41999) { key := "user" } "flag" = .served 0 false := by
    cbv
  have hwithout : gated.outcome (.constant 42000) { key := "user" } "flag" =
      .outsidePercentage := by
    cbv
  refine ⟨hcut, by decide, hwithin, ?_, hwithout, hfirst.2.1 rfl hwithout, ?_⟩
  · rw [hlast.2.2, hwithin]
    rfl
  · exact hkeyless.1.mp ⟨false, by cbv⟩

end Rule

end FeatureFlags
