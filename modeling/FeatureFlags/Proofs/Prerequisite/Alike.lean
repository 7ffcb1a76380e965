import FeatureFlags.Proofs.Prerequisite.Locality
import Mathlib.Data.Option.Basic

/-!
What a walk reads of a flag. The variants and the rules of a flag come in only
through what the flag serves when its prerequisites are met; the walk itself
goes by the key, the prerequisites and whether the flag is enabled. So flags may
be put in the place of others that serve the same for a context, in all of the
store at once, and every walk takes the same course.
-/

namespace FeatureFlags

/-- Another flag, of which a walk for a context reads the same. -/
structure Flag.Alike (bucketer : Bucketer) (context : Context) (flag other : Flag) : Prop where
  key : other.key = flag.key
  enabled : other.enabled = flag.enabled
  prerequisites : other.prerequisites = flag.prerequisites
  defaultValue : other.defaultValue = flag.defaultValue
  serve : other.serve bucketer context = flag.serve bucketer context

namespace Evaluator

/-- A store that has a flag alike wherever the evaluator's own store has one. -/
def AlikeStore (e : Evaluator) (context : Context) (store : String → Option Flag) : Prop :=
  ∀ key, Option.Rel (Flag.Alike e.bucketer context) (e.lookup key) (store key)

variable {e : Evaluator} {context : Context} {store : String → Option Flag} {chain : List String}
  {key : String} {flag other : Flag} {walk : Walk}

theorem AlikeStore.missing (hstore : e.AlikeStore context store) (hmissing : e.lookup key = none) :
    store key = none := by
  have hrel := hstore key
  rw [hmissing] at hrel
  generalize store key = found at hrel ⊢
  cases hrel with
  | none => rfl

theorem AlikeStore.held (hstore : e.AlikeStore context store) (hheld : e.lookup key = some flag) :
    ∃ other, store key = some other ∧ flag.Alike e.bucketer context other := by
  have hrel := hstore key
  rw [hheld] at hrel
  generalize store key = found at hrel ⊢
  cases hrel with
  | some halike => exact ⟨_, rfl, halike⟩

theorem steps_alike {resolve replaced : String → Walk.Step Resolved}
    (halike : flag.Alike e.bucketer context other)
    (hresolve : ∀ key walk, replaced key walk = resolve key walk) :
    (e.withStore store).steps context other replaced walk = e.steps context flag resolve walk := by
  obtain rfl : replaced = resolve := funext fun key => funext fun walk => hresolve key walk
  have hserve : other.serve (e.withStore store).bucketer context = flag.serve e.bucketer context :=
    halike.serve
  have hdefault (reason : Reason) :
      Evaluation.ofDefault other reason = Evaluation.ofDefault flag reason := by
    rw [Evaluation.ofDefault, Evaluation.ofDefault, halike.key, halike.defaultValue]
  unfold steps
  simp only [halike.enabled, halike.prerequisites, hserve, hdefault,
    Evaluation.ofUnmetPrerequisite]

/-- A prerequisite resolves to the same over alike stores if alike flags are
visited alike. -/
theorem resolve_alike {chainLength : Nat} {visit replaced : Flag → Walk.Step (Evaluation × Nat)}
    (hstore : e.AlikeStore context store)
    (hvisit : ∀ flag other walk, flag.Alike e.bucketer context other →
      replaced other walk = visit flag walk) :
    (e.withStore store).resolve chainLength replaced key walk =
      e.resolve chainLength visit key walk := by
  cases hmemo : walk.resolved.get? key with
  | some resolved =>
      rw [resolve_remembered hmemo, resolve_remembered hmemo]
      rfl
  | none =>
      cases hheld : e.lookup key with
      | none =>
          have hmissing : (e.withStore store).lookup key = none := hstore.missing hheld
          rw [resolve_missing hmemo hheld, resolve_missing hmemo hmissing]
      | some flag =>
          obtain ⟨other, hother, halike⟩ := hstore.held hheld
          have hheld' : (e.withStore store).lookup key = some other := hother
          have hsame := hvisit flag other (walk.asking key) halike
          cases hrun : visit flag (walk.asking key) with
          | mk result next =>
              have hrun' := hsame.trans hrun
              cases result with
              | error error =>
                  rw [resolve_failed hmemo hheld hrun, resolve_failed hmemo hheld' hrun']
              | ok answer =>
                  rw [resolve_visited hmemo hheld hrun, resolve_visited hmemo hheld' hrun']

/-- Alike flags are visited alike over alike stores. -/
theorem visit_alike (hstore : e.AlikeStore context store)
    (halike : flag.Alike e.bucketer context other) :
    (e.withStore store).visit context chain other walk = e.visit context chain flag walk := by
  induction chain, flag, walk using visit.induct e generalizing other with
  | case1 chain flag walk hmem =>
      have hmem' : other.key ∈ chain := by rwa [halike.key]
      rw [visit_cyclic hmem, visit_cyclic hmem', halike.key]
  | case2 chain flag walk hmem hdeep =>
      have hmem' : other.key ∉ chain := by rwa [halike.key]
      have hdeep' : (e.withStore store).maxDepth.toNat < chain.length := hdeep
      rw [visit_tooDeep hmem hdeep, visit_tooDeep hmem' hdeep', halike.key]
      rfl
  | case3 chain flag walk hmem hdeep ih =>
      have hmem' : other.key ∉ chain := by rwa [halike.key]
      have hdeep' : ¬ (e.withStore store).maxDepth.toNat < chain.length := hdeep
      rw [visit_steps hmem hdeep, visit_steps hmem' hdeep', halike.key]
      apply steps_alike halike
      intro key walk
      apply resolve_alike hstore
      intro required replacement walk hrequired
      exact ih required walk hrequired

theorem evaluateFlag_alike (hstore : e.AlikeStore context store)
    (halike : flag.Alike e.bucketer context other) :
    (e.withStore store).evaluateFlag context other = e.evaluateFlag context flag :=
  congrArg Outcome.ofStep (visit_alike hstore halike)

theorem evaluate_alike (hstore : e.AlikeStore context store) (key : String) :
    (e.withStore store).evaluate context key = e.evaluate context key := by
  refine congrArg Outcome.ofStep ?_
  cases hheld : e.lookup key with
  | none =>
      have hmissing : (e.withStore store).lookup key = none := hstore.missing hheld
      rw [walkFrom_missing hheld, walkFrom_missing hmissing]
  | some flag =>
      obtain ⟨other, hother, halike⟩ := hstore.held hheld
      have hheld' : (e.withStore store).lookup key = some other := hother
      rw [walkFrom_held hheld, walkFrom_held hheld']
      exact visit_alike hstore halike

end Evaluator

end FeatureFlags
