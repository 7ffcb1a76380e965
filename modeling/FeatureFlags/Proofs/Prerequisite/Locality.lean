import FeatureFlags.Proofs.Prerequisite.Course
import FeatureFlags.Proofs.Prerequisite.Enforcement

/-!
An evaluation depends only on the flags that it looked up. The look-ups of a
walk only grow, so whatever a step asked is among the look-ups at the end. Two
stores that agree on those keep both walks together at every step, also where a
walk is broken off.
-/

namespace FeatureFlags

theorem Walk.mem_lookups_asking (walk : Walk) (key : String) : key ∈ (walk.asking key).lookups := by
  rw [asking]
  exact List.mem_append_right _ (List.mem_singleton_self key)

namespace Evaluator

/-- The evaluator with another store. -/
def withStore (e : Evaluator) (store : String → Option Flag) : Evaluator :=
  { e with lookup := store }

/-- A store answers for some keys as the evaluator's own store does. -/
def AgreesOn (e : Evaluator) (store : String → Option Flag) (keys : List String) : Prop :=
  ∀ key ∈ keys, store key = e.lookup key

variable {e : Evaluator} {context : Context} {store : String → Option Flag} {chain : List String}
  {key : String} {walk : Walk}

theorem AgreesOn.of_subset {fewer keys : List String} (hagrees : e.AgreesOn store keys)
    (hsubset : fewer ⊆ keys) : e.AgreesOn store fewer :=
  fun key hmem => hagrees key (hsubset hmem)

theorem preserved_lookups : Preserved fun first second => first.lookups ⊆ second.lookups where
  refl _ := List.Subset.refl _
  trans hfirst hsecond := List.Subset.trans hfirst hsecond
  asking _ _ := List.subset_append_left _ _
  remembering _ _ _ := List.Subset.refl _

theorem mem_lookups_of_visit (flag : Flag) :
    key ∈ (e.visit context chain flag (walk.asking key)).2.lookups := by
  apply visit_preserves preserved_lookups chain flag (walk.asking key)
  exact walk.mem_lookups_asking key

theorem lookups_subset_of_resolve (key : String) (walk : Walk) :
    walk.lookups ⊆ (e.resolveBehind context chain key walk).2.lookups :=
  resolve_preserves preserved_lookups (visit_preserves preserved_lookups chain) key walk

/-- A prerequisite resolves to the same over a store that agrees on all that was
asked, if visits do. -/
theorem resolveBehind_withStore
    (hvisit : ∀ flag walk, e.AgreesOn store (e.visit context chain flag walk).2.lookups →
      (e.withStore store).visit context chain flag walk = e.visit context chain flag walk)
    (hagrees : e.AgreesOn store (e.resolveBehind context chain key walk).2.lookups) :
    (e.withStore store).resolveBehind context chain key walk =
      e.resolveBehind context chain key walk := by
  have hresolution := e.resolution context chain key walk
  generalize e.resolveBehind context chain key walk = outcome at hresolution hagrees ⊢
  have hasked (flag : Flag) : key ∈ (e.visit context chain flag (walk.asking key)).2.lookups :=
    mem_lookups_of_visit flag
  unfold resolveBehind
  cases hresolution with
  | remembered answer hmemo hroom =>
      have hroom' : (e.withStore store).tooHigh chain.length answer.height = false := hroom
      rw [resolve_remembered hmemo, hroom']
      rfl
  | tooHigh answer hmemo hhigh =>
      have hhigh' : (e.withStore store).tooHigh chain.length answer.height = true := hhigh
      rw [resolve_remembered hmemo, hhigh']
      rfl
  | missing hmemo hmissing =>
      have hstore : store key = e.lookup key := hagrees key (walk.mem_lookups_asking key)
      exact resolve_missing hmemo (hstore.trans hmissing)
  | failed flag error next hmemo hheld hfailed =>
      have hsame := hvisit flag (walk.asking key)
      have hmem := hasked flag
      rw [hfailed] at hsame hmem
      have hstore : store key = e.lookup key := hagrees key hmem
      exact resolve_failed hmemo (hstore.trans hheld) (hsame hagrees)
  | visited flag evaluation height next hmemo hheld hvisited =>
      have hsame := hvisit flag (walk.asking key)
      have hmem := hasked flag
      rw [hvisited] at hsame hmem
      have hstore : store key = e.lookup key := hagrees key hmem
      exact resolve_visited hmemo (hstore.trans hheld) (hsame hagrees)

/-- The way through a list is the same if each of its steps is, as what a step
asks is among what was asked at the end. -/
theorem Passage.withStore {resolve other : String → Walk.Step Resolved}
    {prerequisites : List Prerequisite} {height : Nat}
    {outcome : Except FlagError (Option String × Nat) × Walk}
    (hpassage : Passage resolve prerequisites height walk outcome)
    (hgrows : ∀ key walk, walk.lookups ⊆ (resolve key walk).2.lookups)
    (hsame : ∀ key walk, e.AgreesOn store (resolve key walk).2.lookups →
      other key walk = resolve key walk)
    (hagrees : e.AgreesOn store outcome.2.lookups) :
    firstUnmet other prerequisites height walk = outcome := by
  induction hpassage with
  | nil => rfl
  | @met prerequisite rest height walk next answer outcome hresolve hmet hrest ih =>
      have hlater : next.lookups ⊆ outcome.2.lookups := by
        rw [← hrest.firstUnmet_eq]
        exact firstUnmet_preserves preserved_lookups hgrows rest _ next
      have hstep := hsame prerequisite.key walk (by
        rw [hresolve]
        exact hagrees.of_subset hlater)
      rw [firstUnmet_met (hstep.trans hresolve) hmet]
      exact ih hagrees
  | unmet hresolve hunmet =>
      have hstep := hsame _ _ (by rw [hresolve]; exact hagrees)
      exact firstUnmet_unmet (hstep.trans hresolve) hunmet
  | fatal hresolve hfatal =>
      have hstep := hsame _ _ (by rw [hresolve]; exact hagrees)
      exact firstUnmet_fatal (hstep.trans hresolve) hfatal
  | absorbed hresolve habsorbed =>
      have hstep := hsame _ _ (by rw [hresolve]; exact hagrees)
      exact firstUnmet_absorbed (hstep.trans hresolve) habsorbed

theorem visit_withStore {flag : Flag}
    (hagrees : e.AgreesOn store (e.visit context chain flag walk).2.lookups) :
    (e.withStore store).visit context chain flag walk = e.visit context chain flag walk := by
  induction chain, flag, walk using visit.induct e with
  | case1 chain flag walk hmem => rw [visit_cyclic hmem, visit_cyclic hmem]
  | case2 chain flag walk hmem hdeep =>
      have hdeep' : (e.withStore store).maxDepth.toNat < chain.length := hdeep
      rw [visit_tooDeep hmem hdeep, visit_tooDeep hmem hdeep']
      rfl
  | case3 chain flag walk hmem hdeep ih =>
      have hsteps : ∀ key walk,
          e.AgreesOn store (e.resolveBehind context (chain ++ [flag.key]) key walk).2.lookups →
            (e.withStore store).resolveBehind context (chain ++ [flag.key]) key walk =
              e.resolveBehind context (chain ++ [flag.key]) key walk := by
        intro key walk hagrees
        apply resolveBehind_withStore _ hagrees
        intro prerequisite walk hagrees
        exact ih prerequisite walk hagrees
      have hcourse := e.course context chain flag walk
      generalize e.visit context chain flag walk = outcome at hcourse hagrees ⊢
      cases hcourse with
      | cyclic hin => exact absurd hin hmem
      | tooDeep _ hlong => exact absurd hlong hdeep
      | disabled _ hroom hdisabled => exact visit_disabled hmem hroom hdisabled
      | failed _ hroom henabled error next hlist =>
          exact visit_failed hmem hroom henabled
            (hlist.withStore lookups_subset_of_resolve hsteps hagrees)
      | concluded _ hroom henabled unmet height next hlist =>
          exact visit_concluded hmem hroom henabled
            (hlist.withStore lookups_subset_of_resolve hsteps hagrees)

theorem walkFrom_withStore
    (hagrees : e.AgreesOn store (e.walkFrom context key walk).2.lookups) :
    (e.withStore store).walkFrom context key walk = e.walkFrom context key walk := by
  cases hheld : e.lookup key with
  | none =>
      rw [walkFrom_missing hheld] at hagrees ⊢
      have hstore : store key = e.lookup key := hagrees key (walk.mem_lookups_asking key)
      exact walkFrom_missing (hstore.trans hheld)
  | some flag =>
      rw [walkFrom_held hheld] at hagrees ⊢
      have hstore : store key = e.lookup key := hagrees key (mem_lookups_of_visit flag)
      have hheld' : (e.withStore store).lookup key = some flag := hstore.trans hheld
      rw [walkFrom_held hheld']
      exact visit_withStore hagrees

/-- An evaluation depends on the flags that it looked up and on no other: over a
store that has the same under those keys it gives the same result after the same
look-ups. So no change at a key that was not asked for can be noticed. -/
theorem evaluate_depends_on_lookups (e : Evaluator) (context : Context) (key : String) :
    (∀ store, e.AgreesOn store (e.evaluate context key).lookups →
        (e.withStore store).evaluate context key = e.evaluate context key) ∧
      ∀ other, other ∉ (e.evaluate context key).lookups → ∀ replacement,
        (e.replacing other replacement).evaluate context key = e.evaluate context key := by
  have hstores (store : String → Option Flag)
      (hagrees : e.AgreesOn store (e.evaluate context key).lookups) :
      (e.withStore store).evaluate context key = e.evaluate context key :=
    congrArg Outcome.ofStep (walkFrom_withStore hagrees)
  refine ⟨hstores, ?_⟩
  intro other hother replacement
  apply hstores (Function.update e.lookup other replacement)
  intro asked hasked
  apply Function.update_of_ne
  intro heq
  exact hother (heq ▸ hasked)

/-- A flag whose first prerequisite is disabled, so that neither the second nor
what the disabled flag lists is looked up. -/
def shortened : Evaluator where
  lookup := (Store.ofFlags [.steady "top" [⟨"off", 0⟩, ⟨"later", 0⟩], .steady "later" [],
    { Flag.steady "off" [⟨"hidden", 0⟩] with enabled := false }, .steady "hidden" []]).get?

theorem evaluate_depends_on_lookups_in_shortened :
    (shortened.evaluate { key := "user" } "top").lookups = ["top", "off"] ∧
      (∀ replacement, (shortened.replacing "later" replacement).evaluate { key := "user" } "top" =
        shortened.evaluate { key := "user" } "top") ∧
      ∀ replacement, (shortened.replacing "hidden" replacement).evaluate { key := "user" } "top" =
        shortened.evaluate { key := "user" } "top" := by
  have hlookups : (shortened.evaluate { key := "user" } "top").lookups = ["top", "off"] := by cbv
  have hwhole := (evaluate_depends_on_lookups shortened { key := "user" } "top").2
  rw [hlookups] at hwhole
  exact ⟨hlookups, hwhole "later" (by decide), hwhole "hidden" (by decide)⟩

end Evaluator

end FeatureFlags
