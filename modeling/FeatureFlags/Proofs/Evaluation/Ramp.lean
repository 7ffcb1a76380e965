import FeatureFlags.Proofs.Rule.Percentage

/-!
A greater percentage only takes contexts in. Nothing but the bucket of the key
tells whom a rule with a percentage leaves out, so a rule whose percentage is
raised serves whom it served before, in the same way. A change can be seen only
by contexts that come to the rule, satisfy its clauses and lie between the two
percentages; all others, and all flags that are not served by their rules, are
evaluated as before.
-/

namespace FeatureFlags

variable {bucketer : Bucketer} {context : Context} {flagKey : String} {flag : Flag} {rule : Rule}
  {index : Nat} {percentage raised : UInt32}

/-! ### One rule -/

namespace Rule

/-- The rule with another percentage. -/
def ramped (rule : Rule) (percentage : UInt32) : Rule :=
  { rule with percentage := some percentage }

theorem eligible_iff_of_percentage (hrollout : rule.rollout = none)
    (hpercentage : rule.percentage = some percentage) :
    rule.Eligible bucketer context flagKey ↔ rule.accepts context = true ∧
      (bucket bucketer context "key" flagKey).toNat < 1000 * percentage.toNat := by
  have hentries : ¬ rule.HasEntries := not_hasEntries hrollout
  rw [Eligible, ← passesPercentage_iff, hpercentage, passesPercentage_some_iff, accepts,
    List.all_eq_true]
  simp only [hentries, hrollout, true_and, false_or]

theorem eligible_ramped_iff (hrollout : rule.rollout = none) :
    (rule.ramped raised).Eligible bucketer context flagKey ↔ rule.accepts context = true ∧
      (bucket bucketer context "key" flagKey).toNat < 1000 * raised.toNat := by
  have hramped : (rule.ramped raised).rollout = none := hrollout
  exact eligible_iff_of_percentage hramped rfl

end Rule

/-! ### The rules of a flag -/

namespace Flag

/-- The evaluation that a rule brings about, if it decides. -/
def ruling (flag : Flag) (bucketer : Bucketer) (context : Context) (rule : Rule) :
    Option Evaluation :=
  (rule.verdict bucketer context flag.key).map fun decided =>
    .ofRule flag decided.1 decided.2.1 decided.2.2

theorem serve_eq (flag : Flag) (bucketer : Bucketer) (context : Context) :
    flag.serve bucketer context =
      (flag.rules.findSome? (flag.ruling bucketer context)).getD (.ofDefault flag .fallthrough) := by
  have hruling : flag.rules.findSome? (flag.ruling bucketer context) =
      (flag.decision bucketer context).map fun decided =>
        .ofRule flag decided.1 decided.2.1 decided.2.2 :=
    List.map_findSome?.symm
  rw [serve, hruling]
  cases flag.decision bucketer context with
  | none => rfl
  | some decided => rfl

theorem ruling_eq_none_iff :
    flag.ruling bucketer context rule = none ↔ ¬ rule.Eligible bucketer context flag.key := by
  rw [ruling, Option.map_eq_none_iff, Rule.verdict_eq_none_iff]

theorem ruling_of_percentage (hrollout : rule.rollout = none)
    (heligible : rule.Eligible bucketer context flag.key) :
    flag.ruling bucketer context rule = some (.ofRule flag rule rule.variation false) := by
  rw [ruling, Rule.verdict_of_eligible heligible, Option.map_some, Rule.servedVariation, hrollout]
  rfl

theorem serve_of_split {before after : List Rule} (hsplit : flag.rules = before ++ rule :: after) :
    flag.serve bucketer context =
      ((before.findSome? (flag.ruling bucketer context)).or
        ((flag.ruling bucketer context rule).or
          (after.findSome? (flag.ruling bucketer context)))).getD (.ofDefault flag .fallthrough) := by
  rw [serve_eq, hsplit, List.findSome?_append, List.findSome?_cons]
  cases flag.ruling bucketer context rule with
  | none => rfl
  | some evaluation => rfl

/-- The flag with another percentage at one of its rules. -/
def ramped (flag : Flag) (index : Nat) (percentage : UInt32) : Flag :=
  { flag with rules := flag.rules.modify index (·.ramped percentage) }

/-- A context that comes to a rule and satisfies its clauses, and that the
percentage leaves out and the raised one does not. -/
structure TakesIn (flag : Flag) (bucketer : Bucketer) (context : Context) (index : Nat)
    (rule : Rule) (percentage raised : UInt32) : Prop where
  earlier : ∀ earlier ∈ flag.rules.take index, ¬ earlier.Eligible bucketer context flag.key
  accepts : rule.accepts context = true
  outside : 1000 * percentage.toNat ≤ (bucket bucketer context "key" flag.key).toNat
  inside : (bucket bucketer context "key" flag.key).toNat < 1000 * raised.toNat

theorem rules_split (hrule : flag.rules[index]? = some rule) :
    flag.rules = flag.rules.take index ++ rule :: flag.rules.drop (index + 1) := by
  obtain ⟨hindex, rfl⟩ := List.getElem?_eq_some_iff.mp hrule
  rw [List.cons_getElem_drop_succ, List.take_append_drop]

theorem rules_ramped_split (hrule : flag.rules[index]? = some rule) :
    (flag.ramped index raised).rules =
      flag.rules.take index ++ rule.ramped raised :: flag.rules.drop (index + 1) := by
  obtain ⟨hindex, rfl⟩ := List.getElem?_eq_some_iff.mp hrule
  rw [ramped, List.modify_eq_take_cons_drop hindex]

/-- The percentage is not part of an evaluation. -/
theorem ruling_ramped (bucketer : Bucketer) (context : Context) :
    (flag.ramped index raised).ruling bucketer context = flag.ruling bucketer context := rfl

section Raised

variable (hrule : flag.rules[index]? = some rule) (hrollout : rule.rollout = none)
  (hpercentage : rule.percentage = some percentage)

include hrule hrollout

/-- A context that is taken in gets what the rule serves. -/
theorem TakesIn.serve_ramped (htaken : flag.TakesIn bucketer context index rule percentage raised) :
    (flag.ramped index raised).serve bucketer context =
      .ofRule flag rule rule.variation false := by
  have heligible : (rule.ramped raised).Eligible bucketer context flag.key :=
    (Rule.eligible_ramped_iff hrollout).mpr ⟨htaken.accepts, htaken.inside⟩
  have hramped : (rule.ramped raised).rollout = none := hrollout
  have hbefore : (flag.rules.take index).findSome? (flag.ruling bucketer context) = none :=
    List.findSome?_eq_none_iff.mpr fun earlier hearlier =>
      ruling_eq_none_iff.mpr (htaken.earlier earlier hearlier)
  rw [serve_of_split (rules_ramped_split hrule), ruling_ramped, hbefore,
    ruling_of_percentage hramped heligible]
  rfl

include hpercentage

/-- Any other context gets from the rules what it got before. -/
theorem serve_ramped_of_not_takesIn (hle : percentage ≤ raised)
    (hnot : ¬ flag.TakesIn bucketer context index rule percentage raised) :
    (flag.ramped index raised).serve bucketer context = flag.serve bucketer context := by
  have hle' : percentage.toNat ≤ raised.toNat := UInt32.le_iff_toNat_le.mp hle
  have hramped : (rule.ramped raised).rollout = none := hrollout
  rw [serve_of_split (rules_ramped_split hrule), serve_of_split (rules_split hrule), ruling_ramped]
  cases hbefore : (flag.rules.take index).findSome? (flag.ruling bucketer context) with
  | some evaluation => rfl
  | none =>
      have hsame : flag.ruling bucketer context (rule.ramped raised) =
          flag.ruling bucketer context rule := by
        by_cases heligible : rule.Eligible bucketer context flag.key
        · obtain ⟨haccepts, hbelow⟩ :=
            (Rule.eligible_iff_of_percentage hrollout hpercentage).mp heligible
          have hraised : (rule.ramped raised).Eligible bucketer context flag.key :=
            (Rule.eligible_ramped_iff hrollout).mpr ⟨haccepts, by omega⟩
          rw [ruling_of_percentage hrollout heligible, ruling_of_percentage hramped hraised]
          rfl
        · have hraised : ¬ (rule.ramped raised).Eligible bucketer context flag.key := by
            -- whom only the raised percentage lets pass would be taken in
            intro hraised
            obtain ⟨haccepts, hbelow⟩ := (Rule.eligible_ramped_iff hrollout).mp hraised
            refine hnot ⟨fun earlier hearlier => ?_, haccepts, ?_, hbelow⟩
            · exact ruling_eq_none_iff.mp (List.findSome?_eq_none_iff.mp hbefore earlier hearlier)
            · by_contra habove
              refine heligible ?_
              rw [Rule.eligible_iff_of_percentage hrollout hpercentage]
              exact ⟨haccepts, Nat.lt_of_not_le habove⟩
          rw [ruling_eq_none_iff.mpr heligible, ruling_eq_none_iff.mpr hraised]
      rw [hsame]
      rfl

end Raised

end Flag

/-! ### Evaluations -/

namespace Evaluator

variable {e : Evaluator}

/-- The way through the prerequisites of a flag finds none that is unmet. -/
def PrerequisitesMet (e : Evaluator) (context : Context) (flag : Flag) : Prop :=
  ∃ height walk, firstUnmet (e.resolveBehind context [flag.key]) flag.prerequisites 1 {} =
    (.ok (none, height), walk)

theorem evaluateFlag_eq (e : Evaluator) (context : Context) (flag : Flag) :
    e.evaluateFlag context flag =
      .ofStep (e.steps context flag (e.resolveBehind context [flag.key]) {}) := by
  rw [evaluateFlag, visit_steps (by simp) (by simp)]
  rfl

theorem evaluateFlag_of_met (henabled : flag.enabled = true)
    (hmet : e.PrerequisitesMet context flag) :
    (e.evaluateFlag context flag).result = .ok (flag.serve e.bucketer context) := by
  obtain ⟨height, walk, hlist⟩ := hmet
  rw [evaluateFlag_eq, steps_concluded henabled hlist]
  rfl

/-- The rules of a flag matter only for what it serves when it is enabled and
its prerequisites are met. -/
theorem evaluateFlag_rules {rules : List Rule}
    (hserve : flag.enabled = true → e.PrerequisitesMet context flag →
      Flag.serve { flag with rules } e.bucketer context = flag.serve e.bucketer context) :
    e.evaluateFlag context { flag with rules } = e.evaluateFlag context flag := by
  rw [evaluateFlag_eq, evaluateFlag_eq]
  rcases Bool.eq_false_or_eq_true flag.enabled with henabled | hdisabled
  · have henabled' : Flag.enabled { flag with rules } = true := henabled
    cases hlist : firstUnmet (e.resolveBehind context [flag.key]) flag.prerequisites 1 {} with
    | mk result walk =>
        cases result with
        | error error => rw [steps_failed henabled' hlist, steps_failed henabled hlist]
        | ok found =>
            obtain ⟨unmet, height⟩ := found
            rw [steps_concluded henabled' hlist, steps_concluded henabled hlist]
            cases unmet with
            | some key => rfl
            | none =>
                have hsame := hserve henabled ⟨height, walk, hlist⟩
                rw [conclusion, conclusion, hsame]
  · have hdisabled' : Flag.enabled { flag with rules } = false := hdisabled
    rw [steps_disabled hdisabled', steps_disabled hdisabled]
    rfl

/-- A context that a raised percentage takes in, of a flag that is served by its
rules. -/
structure TakesIn (e : Evaluator) (context : Context) (flag : Flag) (index : Nat) (rule : Rule)
    (percentage raised : UInt32) : Prop where
  enabled : flag.enabled = true
  met : e.PrerequisitesMet context flag
  reached : flag.TakesIn e.bucketer context index rule percentage raised

/-- Raising the percentage of a rule takes in the contexts that come to the rule
between the two percentages, and these the rule now serves. Nothing else
changes: not for whom the rule served before, whether by its own variation or
not at all, and for nobody once the percentage is 100 or more. -/
theorem raised_percentage_only_adds (e : Evaluator) (context : Context) (flag : Flag)
    {index : Nat} {rule : Rule} {percentage raised : UInt32}
    (hrule : flag.rules[index]? = some rule) (hrollout : rule.rollout = none)
    (hpercentage : rule.percentage = some percentage) (hle : percentage ≤ raised) :
    (¬ e.TakesIn context flag index rule percentage raised →
        e.evaluateFlag context (flag.ramped index raised) = e.evaluateFlag context flag) ∧
      (e.TakesIn context flag index rule percentage raised →
        (e.evaluateFlag context (flag.ramped index raised)).result =
          .ok (.ofRule flag rule rule.variation false)) ∧
      (∀ variation weighted,
        rule.outcome e.bucketer context flag.key = .served variation weighted →
          e.evaluateFlag context (flag.ramped index raised) = e.evaluateFlag context flag) ∧
      (100 ≤ percentage →
        e.evaluateFlag context (flag.ramped index raised) = e.evaluateFlag context flag) := by
  have hunchanged (hnot : ¬ e.TakesIn context flag index rule percentage raised) :
      e.evaluateFlag context (flag.ramped index raised) = e.evaluateFlag context flag := by
    apply evaluateFlag_rules
    intro henabled hmet
    apply flag.serve_ramped_of_not_takesIn hrule hrollout hpercentage hle
    exact fun htaken => hnot ⟨henabled, hmet, htaken⟩
  refine ⟨hunchanged, ?_, ?_, ?_⟩
  · intro htaken
    have henabled : (flag.ramped index raised).enabled = true := htaken.enabled
    have hmet : e.PrerequisitesMet context (flag.ramped index raised) := htaken.met
    rw [evaluateFlag_of_met henabled hmet]
    exact congrArg _ (htaken.reached.serve_ramped hrule hrollout)
  · intro variation weighted hserved
    refine hunchanged fun htaken => ?_
    have hwithin := (Rule.eligible_iff_of_percentage hrollout hpercentage).mp
      (Rule.eligible_of_served hserved)
    exact absurd hwithin.2 (Nat.not_lt.mpr htaken.reached.outside)
  · intro hfull
    refine hunchanged fun htaken => ?_
    have hbucket := toNat_bucket_lt e.bucketer context "key" flag.key
    have houtside := htaken.reached.outside
    have hfull' : 100 ≤ percentage.toNat := UInt32.le_iff_toNat_le.mp hfull
    omega

theorem takesIn_staging : staging.TakesIn { key := "user" } staged 0 partRule 42 43 where
  enabled := rfl
  met := ⟨1, {}, rfl⟩
  reached :=
    { earlier := by simp
      accepts := rfl
      outside := by cbv
      inside := by cbv }

/-- The user is in the first bucket that 43 of 100 take in and 42 do not. The
same percentage at the end of the rules, where the user never comes, may be
raised without effect. -/
theorem raised_percentage_only_adds_in_staging :
    staging.TakesIn { key := "user" } staged 0 partRule 42 43 ∧
      (staging.evaluateFlag { key := "user" } (staged.ramped 0 43)).result =
        .ok (.ofRule staged partRule 0 false) ∧
      ¬ staging.TakesIn { key := "user" } staged 3 partRule 42 43 ∧
      staging.evaluateFlag { key := "user" } (staged.ramped 3 43) =
        staging.evaluateFlag { key := "user" } staged := by
  have hfirst := raised_percentage_only_adds staging { key := "user" } staged
    (show staged.rules[0]? = some partRule from rfl) rfl rfl
    (show (42 : UInt32) ≤ 43 by decide)
  have hlast := raised_percentage_only_adds staging { key := "user" } staged
    (show staged.rules[3]? = some partRule from rfl) rfl rfl
    (show (42 : UInt32) ≤ 43 by decide)
  have hwhole : wholeRule.Eligible staging.bucketer { key := "user" } staged.key :=
    ⟨by simp [wholeRule], .inr ⟨rfl, by simp [wholeRule]⟩⟩
  have hnever : ¬ staging.TakesIn { key := "user" } staged 3 partRule 42 43 :=
    fun htaken => htaken.reached.earlier wholeRule (by simp [staged]) hwhole
  exact ⟨takesIn_staging, hfirst.2.1 takesIn_staging, hnever, hlast.1 hnever⟩

end Evaluator

end FeatureFlags
