import FeatureFlags.Proofs.Evaluation.Consistency
import FeatureFlags.Proofs.Prerequisite.Alike
import Mathlib

/-!
The first eligible rule decides. Which rules are eligible is said here by the
rule and the bucket of the context alone, without a scan. A percentage that
leaves the context out and a rollout without entries pass it on to the next
rule, and a rollout hides both percentage and variation. So rules that are not
eligible may come and go, and behind an eligible rule anything may stand.
-/

namespace FeatureFlags

variable {bucketer : Bucketer} {context : Context} {flagKey : String} {rule : Rule}
  {variation : UInt64} {weighted : Bool}

/-! ### Eligible rules -/

theorem Rollout.isSome_select_iff {rollout : Rollout} :
    (rollout.select bucketer context flagKey).isSome = true ↔ rollout.variations ≠ [] := by
  rw [select, variationForBucket]
  cases rollout.variations with
  | nil => simp
  | cons first rest => simp

namespace Rule

/-- A rule stands for a context, and either it has a rollout with entries, or it
has no rollout and no percentage that leaves the context out. -/
def Eligible (rule : Rule) (bucketer : Bucketer) (context : Context) (flagKey : String) : Prop :=
  (∀ clause ∈ rule.clauses, clause.accepts context = true) ∧
    (rule.HasEntries ∨ rule.rollout = none ∧ ∀ percentage ∈ rule.percentage,
      (bucket bucketer context "key" flagKey).toNat / 1000 < percentage.toNat)

/-- The variation that the rollout selects, or else the rule's own. -/
def servedVariation (rule : Rule) (bucketer : Bucketer) (context : Context) (flagKey : String) :
    UInt64 :=
  (rule.rollout.bind (·.select bucketer context flagKey)).getD rule.variation

theorem passesPercentage_iff {percentage : Option UInt32} {bucket : UInt32} :
    passesPercentage percentage bucket = true ↔
      ∀ bound ∈ percentage, bucket.toNat / 1000 < bound.toNat := by
  cases percentage with
  | none => simp [passesPercentage]
  | some bound => simp [passesPercentage, UInt32.lt_iff_toNat_lt]

theorem outcome_of_eligible (heligible : rule.Eligible bucketer context flagKey) :
    rule.outcome bucketer context flagKey =
      .served (rule.servedVariation bucketer context flagKey) rule.rollout.isSome := by
  obtain ⟨hclauses, hadmits⟩ := heligible
  have haccepts : rule.accepts context = true := List.all_eq_true.mpr hclauses
  rw [outcome, if_pos haccepts, decide, servedVariation]
  rcases hadmits with ⟨rollout, hrollout, hentries⟩ | ⟨hrollout, hpercentage⟩
  · have hsome : (rollout.select bucketer context flagKey).isSome = true :=
      Rollout.isSome_select_iff.mpr hentries
    obtain ⟨variation, hselect⟩ := Option.isSome_iff_exists.mp hsome
    simp only [hrollout, hselect, Option.bind_some, Option.getD_some, Option.isSome_some]
  · have hpasses := passesPercentage_iff.mpr hpercentage
    simp only [hrollout, hpasses, if_true, Option.bind_none, Option.getD_none, Option.isSome_none]

theorem eligible_of_served
    (hserved : rule.outcome bucketer context flagKey = .served variation weighted) :
    rule.Eligible bucketer context flagKey := by
  unfold outcome at hserved
  split at hserved
  case isFalse => cases hserved
  case isTrue haccepts =>
    refine ⟨List.all_eq_true.mp haccepts, ?_⟩
    unfold decide at hserved
    cases hrollout : rule.rollout with
    | some rollout =>
        cases hselect : rollout.select bucketer context flagKey with
        | some selected => exact .inl ⟨rollout, hrollout, Rollout.variations_ne_nil hselect⟩
        | none =>
            simp only [hrollout, hselect] at hserved
            cases hserved
    | none =>
        simp only [hrollout] at hserved
        split at hserved
        · next hpasses => exact .inr ⟨rfl, passesPercentage_iff.mp hpasses⟩
        · cases hserved

/-- What a rule contributes to the decision of its flag. -/
def verdict (bucketer : Bucketer) (context : Context) (flagKey : String) (rule : Rule) :
    Option (Rule × UInt64 × Bool) :=
  match rule.outcome bucketer context flagKey with
  | .served variation weighted => some (rule, variation, weighted)
  | .outsidePercentage | .notMatched => none

theorem verdict_of_eligible (heligible : rule.Eligible bucketer context flagKey) :
    verdict bucketer context flagKey rule =
      some (rule, rule.servedVariation bucketer context flagKey, rule.rollout.isSome) := by
  rw [verdict, outcome_of_eligible heligible]

theorem verdict_of_not_eligible (hineligible : ¬ rule.Eligible bucketer context flagKey) :
    verdict bucketer context flagKey rule = none := by
  cases houtcome : rule.outcome bucketer context flagKey with
  | served variation weighted => exact absurd (eligible_of_served houtcome) hineligible
  | outsidePercentage | notMatched => rw [verdict, houtcome]

theorem verdict_eq_none_iff :
    verdict bucketer context flagKey rule = none ↔ ¬ rule.Eligible bucketer context flagKey := by
  refine ⟨fun hnone heligible => ?_, verdict_of_not_eligible⟩
  rw [verdict_of_eligible heligible] at hnone
  cases hnone

end Rule

/-! ### The rule that decides -/

namespace Flag

variable {flag other : Flag}

theorem decision_eq (flag : Flag) (bucketer : Bucketer) (context : Context) :
    flag.decision bucketer context =
      flag.rules.findSome? (Rule.verdict bucketer context flag.key) := rfl

/-- The evaluation of a flag by its rules: of the default value if no rule is
eligible, and otherwise by the first that is. -/
inductive FirstEligible (flag : Flag) (bucketer : Bucketer) (context : Context) :
    Evaluation → Prop where
  | fallthrough (hnone : ∀ rule ∈ flag.rules, ¬ rule.Eligible bucketer context flag.key) :
      FirstEligible flag bucketer context (.ofDefault flag .fallthrough)
  | ruled (before : List Rule) (rule : Rule) (after : List Rule)
      (hsplit : flag.rules = before ++ rule :: after)
      (hbefore : ∀ earlier ∈ before, ¬ earlier.Eligible bucketer context flag.key)
      (heligible : rule.Eligible bucketer context flag.key) :
      FirstEligible flag bucketer context
        (.ofRule flag rule (rule.servedVariation bucketer context flag.key) rule.rollout.isSome)

theorem serve_firstEligible (flag : Flag) (bucketer : Bucketer) (context : Context) :
    flag.FirstEligible bucketer context (flag.serve bucketer context) := by
  rw [serve, decision_eq]
  cases hdecision : flag.rules.findSome? (Rule.verdict bucketer context flag.key) with
  | none =>
      refine .fallthrough fun rule hrule => ?_
      exact Rule.verdict_eq_none_iff.mp (List.findSome?_eq_none_iff.mp hdecision rule hrule)
  | some decided =>
      obtain ⟨before, rule, after, hsplit, hverdict, hnone⟩ :=
        List.findSome?_eq_some_iff.mp hdecision
      have heligible : rule.Eligible bucketer context flag.key := by
        by_contra hineligible
        rw [Rule.verdict_of_not_eligible hineligible] at hverdict
        cases hverdict
      rw [Rule.verdict_of_eligible heligible] at hverdict
      cases hverdict
      refine .ruled before rule after hsplit (fun earlier hearlier => ?_) heligible
      exact Rule.verdict_eq_none_iff.mp (hnone earlier hearlier)

end Flag

/-! ### Changes to the rules that do not count -/

/-- A change to the rules of a flag that leaves the first eligible one as it is
for a context. -/
inductive Rule.Edit (bucketer : Bucketer) (context : Context) (flagKey : String) :
    List Rule → List Rule → Prop where
  | insert (before : List Rule) (rule : Rule) (after : List Rule)
      (hineligible : ¬ rule.Eligible bucketer context flagKey) :
      Edit bucketer context flagKey (before ++ after) (before ++ rule :: after)
  | delete (before : List Rule) (rule : Rule) (after : List Rule)
      (hineligible : ¬ rule.Eligible bucketer context flagKey) :
      Edit bucketer context flagKey (before ++ rule :: after) (before ++ after)
  | behind (before : List Rule) (rule : Rule) (after later : List Rule)
      (heligible : rule.Eligible bucketer context flagKey) :
      Edit bucketer context flagKey (before ++ rule :: after) (before ++ rule :: later)

/-- Another flag that has the same but for changes to its rules that do not
count. -/
def Flag.Edited (bucketer : Bucketer) (context : Context) (flag other : Flag) : Prop :=
  ∃ rules, Relation.ReflTransGen (Rule.Edit bucketer context flag.key) flag.rules rules ∧
    other = { flag with rules }

theorem Rule.Edit.findSome?_verdict {rules others : List Rule}
    (hedit : Edit bucketer context flagKey rules others) :
    others.findSome? (verdict bucketer context flagKey) =
      rules.findSome? (verdict bucketer context flagKey) := by
  cases hedit with
  | insert before rule after hineligible =>
      rw [List.findSome?_append, List.findSome?_cons, verdict_of_not_eligible hineligible,
        List.findSome?_append]
  | delete before rule after hineligible =>
      rw [List.findSome?_append, List.findSome?_append, List.findSome?_cons,
        verdict_of_not_eligible hineligible]
  | behind before rule after later heligible =>
      have hverdict := verdict_of_eligible heligible
      simp only [List.findSome?_append, List.findSome?_cons, hverdict]

theorem Flag.Edited.alike {flag other : Flag} (hedited : flag.Edited bucketer context other) :
    flag.Alike bucketer context other := by
  obtain ⟨rules, hedits, rfl⟩ := hedited
  have hsame : rules.findSome? (Rule.verdict bucketer context flag.key) =
      flag.rules.findSome? (Rule.verdict bucketer context flag.key) := by
    induction hedits with
    | refl => rfl
    | tail _ hedit ih => exact hedit.findSome?_verdict.trans ih
  refine ⟨rfl, rfl, rfl, rfl, ?_⟩
  rw [serve, serve, decision_eq, decision_eq, hsame]
  rfl

/-! ### Evaluations -/

namespace Evaluator

/-- A store that has the flags of the evaluator's own store but for changes to
their rules that do not count. -/
def EditedStore (e : Evaluator) (context : Context) (store : String → Option Flag) : Prop :=
  ∀ key, Option.Rel (Flag.Edited e.bucketer context) (e.lookup key) (store key)

variable {e : Evaluator} {store : String → Option Flag} {flag : Flag} {evaluation : Evaluation}

theorem EditedStore.alikeStore (hedited : e.EditedStore context store) :
    e.AlikeStore context store := by
  intro key
  have hrel := hedited key
  generalize e.lookup key = held at hrel ⊢
  generalize store key = found at hrel ⊢
  cases hrel with
  | some hflag => exact .some hflag.alike
  | none => exact .none

/-- An enabled flag whose prerequisites are met gets what its rules serve. -/
theorem evaluation_eq_serve (henabled : flag.enabled = true)
    (hresult : (e.evaluateFlag context flag).result = .ok evaluation)
    (hmet : evaluation.reason ≠ .prerequisiteFailed) :
    evaluation = flag.serve e.bucketer context := by
  have hcourse := e.course context [] flag {}
  rw [evaluateFlag] at hresult
  generalize e.visit context [] flag {} = outcome at hcourse hresult
  cases hcourse with
  | cyclic hmem => cases hresult
  | tooDeep hmem hdeep => cases hresult
  | disabled hmem hroom hdisabled =>
      rw [henabled] at hdisabled
      cases hdisabled
  | failed hmem hroom _ error next hlist => cases hresult
  | concluded hmem hroom _ unmet height next hlist =>
      cases hresult
      cases unmet with
      | none => rfl
      | some key => exact absurd rfl hmet

/-- Exactly the first eligible rule decides. An enabled flag whose prerequisites
are met falls through to its default value if no rule is eligible, and otherwise
is served by the first that is; so changes to rules that are not eligible, and
to rules behind one that is, are not noticed by any evaluation, whether they are
made to the flag at hand or anywhere in the store. -/
theorem first_eligible_decides (e : Evaluator) (context : Context) :
    (∀ flag evaluation, flag.enabled = true →
        (e.evaluateFlag context flag).result = .ok evaluation →
        evaluation.reason ≠ .prerequisiteFailed →
          flag.FirstEligible e.bucketer context evaluation) ∧
      (∀ key flag evaluation, e.lookup key = some flag → flag.enabled = true →
        (e.evaluate context key).result = .ok evaluation →
        evaluation.reason ≠ .prerequisiteFailed →
          flag.FirstEligible e.bucketer context evaluation) ∧
      ∀ store, e.EditedStore context store →
        (∀ key, (e.withStore store).evaluate context key = e.evaluate context key) ∧
          ∀ flag other, flag.Edited e.bucketer context other →
            (e.withStore store).evaluateFlag context other = e.evaluateFlag context flag := by
  have hflag (flag : Flag) (evaluation : Evaluation) (henabled : flag.enabled = true)
      (hresult : (e.evaluateFlag context flag).result = .ok evaluation)
      (hmet : evaluation.reason ≠ .prerequisiteFailed) :
      flag.FirstEligible e.bucketer context evaluation := by
    rw [evaluation_eq_serve henabled hresult hmet]
    exact flag.serve_firstEligible e.bucketer context
  refine ⟨hflag, ?_, ?_⟩
  · intro key flag evaluation hheld henabled hresult
    rw [evaluate_result_eq_evaluateFlag hheld] at hresult
    exact hflag flag evaluation henabled hresult
  · intro store hedited
    have hstore := hedited.alikeStore
    exact ⟨evaluate_alike hstore, fun flag other hother => evaluateFlag_alike hstore hother.alike⟩

def partRule : Rule :=
  { id := some "part", percentage := some 42 }

def emptyRule : Rule :=
  { id := some "empty", rollout := some { variations := [] } }

def wholeRule : Rule :=
  { id := some "whole", variation := 1 }

/-- A flag whose first rule is for 42 of 100 contexts, and whose second rule has
no weights. -/
def staged : Flag where
  key := "staged"
  enabled := true
  defaultValue := .bool false
  variants := [⟨"on", .bool true⟩, ⟨"off", .bool false⟩]
  rules := [partRule, emptyRule, wholeRule, partRule]

/-- Every context is in the first bucket that 42 of 100 leave out. -/
def staging : Evaluator where
  lookup := fun key => if key = "staged" then some staged else none
  bucketer := .constant 42000

/-- Neither of the first two rules is eligible, so they can be taken away, and
so can the last one. -/
theorem edited_staged :
    staged.Edited staging.bucketer { key := "user" } { staged with rules := [wholeRule] } := by
  have hpart : ¬ partRule.Eligible staging.bucketer { key := "user" } "staged" :=
    Rule.verdict_eq_none_iff.mp (by cbv)
  have hempty : ¬ emptyRule.Eligible staging.bucketer { key := "user" } "staged" :=
    Rule.verdict_eq_none_iff.mp (by cbv)
  have hwhole : wholeRule.Eligible staging.bucketer { key := "user" } "staged" :=
    ⟨by simp [wholeRule], .inr ⟨rfl, by simp [wholeRule]⟩⟩
  refine ⟨_, ?_, rfl⟩
  apply Relation.ReflTransGen.head (.delete [] partRule _ hpart)
  apply Relation.ReflTransGen.head (.delete [] emptyRule _ hempty)
  exact .single (.behind [] wholeRule _ [] hwhole)

def shortStaged (key : String) : Option Flag :=
  if key = "staged" then some { staged with rules := [wholeRule] } else none

theorem editedStore_shortStaged : staging.EditedStore { key := "user" } shortStaged := by
  intro key
  simp only [staging, shortStaged]
  split
  · exact .some edited_staged
  · exact .none

theorem first_eligible_decides_in_staging :
    ∃ evaluation, (staging.evaluate { key := "user" } "staged").result = .ok evaluation ∧
      evaluation.ruleId = some "whole" ∧ evaluation.variationIndex = some 1 ∧
      staged.FirstEligible staging.bucketer { key := "user" } evaluation ∧
      (staging.evaluateFlag { key := "user" } staged).result = .ok evaluation ∧
      (staging.withStore shortStaged).evaluate { key := "user" } "staged" =
        staging.evaluate { key := "user" } "staged" ∧
      (staging.withStore shortStaged).evaluateFlag { key := "user" }
          { staged with rules := [wholeRule] } =
        staging.evaluateFlag { key := "user" } staged := by
  have hresult : (staging.evaluate { key := "user" } "staged").result =
      .ok (.ofRule staged wholeRule 1 false) := by
    cbv
  have hflag : (staging.evaluateFlag { key := "user" } staged).result =
      .ok (.ofRule staged wholeRule 1 false) := by
    cbv
  obtain ⟨hatHand, _, hstores⟩ := first_eligible_decides staging { key := "user" }
  obtain ⟨hkeys, hflags⟩ := hstores shortStaged editedStore_shortStaged
  exact ⟨_, hresult, rfl, rfl, hatHand staged _ rfl hflag (by decide), hflag, hkeys "staged",
    hflags staged _ edited_staged⟩

end Evaluator

end FeatureFlags
