import FeatureFlags.Proofs.Prerequisite.Cycle

/-!
Where a reported cycle begins. The chain of the error is the whole way of the
walk: the flags from the one that was asked for up to the first that is met
again, and then the flags from there round to it. The way in is part of the
chain, so the chain starts and ends with the same key only if the flag that was
asked for is itself on the cycle; a flag that leads into a cycle is reported
in front of it. Nothing is asked of the store here: a chain has the keys that
flags have themselves, whatever keys the store holds them under.
-/

namespace FeatureFlags

namespace Evaluator

/-- A flag of the store with a key of its own is enabled and lists a prerequisite
for which the store has a flag whose own key is `next`. -/
def Leads (e : Evaluator) (own next : String) : Prop :=
  ∃ key flag, e.lookup key = some flag ∧ flag.key = own ∧ flag.enabled = true ∧
    ∃ prerequisite ∈ flag.prerequisites, ∃ required,
      e.lookup prerequisite.key = some required ∧ required.key = next

/-- A path that goes in along `lead` and then round from `again`, back to it,
without a flag twice before that. -/
structure Lasso (e : Evaluator) (path lead : List String) (again : String)
    (round : List String) : Prop where
  path_eq : path = lead ++ again :: (round ++ [again])
  distinct : (lead ++ again :: round).Nodup
  linked : path.IsChain e.Leads

variable {e : Evaluator} {context : Context} {key again : String}
  {chain path lead round : List String} {flag : Flag}

theorem Lasso.getLast?_path (hlasso : e.Lasso path lead again round) :
    path.getLast? = some again := by
  rw [hlasso.path_eq, ← List.cons_append, ← List.append_assoc]
  exact List.getLast?_concat

/-- A lasso starts where it ends just if its first key is on the round. -/
theorem Lasso.closed_iff (hlasso : e.Lasso path lead again round) {first : String}
    (hfirst : path.head? = some first) :
    path.head? = path.getLast? ↔ first ∈ again :: round := by
  rw [hlasso.getLast?_path, hfirst, Option.some_inj]
  constructor
  · rintro rfl
    exact List.mem_cons_self
  · intro hmem
    rw [hlasso.path_eq] at hfirst
    cases lead with
    | nil => exact (Option.some.inj hfirst).symm
    | cons start rest =>
        -- the first key would be on the way in and on the round
        cases hfirst
        have hnew := (List.nodup_cons.mp hlasso.distinct).1
        exact absurd (List.mem_append_right rest hmem) hnew

/-- A chain that a visit reports is a lasso, and goes on from the flags that
wait. -/
theorem lasso_of_visit {walk after : Walk} (hheld : e.lookup key = some flag)
    (hdistinct : chain.Nodup) (hlinked : (chain ++ [flag.key]).IsChain e.Leads)
    (hvisit : e.visit context chain flag walk = (.error (.cyclicPrerequisite path), after)) :
    chain ++ [flag.key] <+: path ∧ ∃ lead again round, e.Lasso path lead again round := by
  induction chain, flag, walk using visit.induct e generalizing key after with
  | case1 chain flag walk hmem =>
      rw [visit_cyclic hmem] at hvisit
      cases hvisit
      obtain ⟨lead, round, rfl⟩ := List.append_of_mem hmem
      refine ⟨List.prefix_rfl, lead, flag.key, round, ?_, hdistinct, hlinked⟩
      rw [List.append_assoc, List.cons_append]
  | case2 chain flag walk hmem hdeep =>
      rw [visit_tooDeep hmem hdeep] at hvisit
      cases hvisit
  | case3 chain flag walk hmem hdeep ih =>
      have hcourse := e.course context chain flag walk
      rw [hvisit] at hcourse
      cases hcourse with
      | cyclic hin => exact absurd hin hmem
      | failed _ hroom henabled error _ hlist =>
          obtain ⟨_, prerequisite, hprerequisite, earlier, hresolve⟩ := hlist.origin rfl
          obtain ⟨required, hrequired, hbelow⟩ := cyclic_of_resolution hresolve
          have hleads : e.Leads flag.key required.key :=
            ⟨key, flag, hheld, rfl, henabled, prerequisite, hprerequisite, required, hrequired, rfl⟩
          have hlonger : (chain ++ [flag.key]).Nodup := by
            rw [← List.concat_eq_append]
            exact hdistinct.concat hmem
          have hfurther : (chain ++ [flag.key] ++ [required.key]).IsChain e.Leads := by
            rw [List.append_assoc]
            exact List.isChain_append_cons_cons.mpr ⟨hlinked, hleads, .singleton _⟩
          obtain ⟨hwaiting, hlasso⟩ := ih required _ hrequired hlonger hfurther hbelow
          exact ⟨(List.prefix_append _ _).trans hwaiting, hlasso⟩

/-- The chain of a reported cycle goes in from the flag that was asked for and
then round. It starts and ends with the same key just if that flag is on the
round itself. -/
theorem reported_chain_closed_iff
    (hresult : (e.evaluate context key).result = .error (.cyclicPrerequisite path)) :
    ∃ flag lead again round, e.lookup key = some flag ∧ path.head? = some flag.key ∧
      e.Lasso path lead again round ∧
      (path.head? = path.getLast? ↔ flag.key ∈ again :: round) := by
  unfold evaluate at hresult
  cases hheld : e.lookup key with
  | none =>
      rw [walkFrom_missing hheld] at hresult
      cases hresult
  | some flag =>
      rw [walkFrom_held hheld] at hresult
      cases hvisit : e.visit context [] flag (({} : Walk).asking key) with
      | mk result after =>
          rw [hvisit] at hresult
          cases result with
          | ok answer => cases hresult
          | error error =>
              cases hresult
              obtain ⟨⟨rest, hrest⟩, lead, again, round, hlasso⟩ :=
                lasso_of_visit hheld List.nodup_nil (.singleton flag.key) hvisit
              have hfirst : path.head? = some flag.key := by
                rw [← hrest]
                rfl
              exact ⟨flag, lead, again, round, rfl, hfirst, hlasso, hlasso.closed_iff hfirst⟩

theorem reported_chain_closed_iff_in_lasso :
    (lasso.evaluate { key := "user" } "entry").result =
        .error (.cyclicPrerequisite ["entry", "left", "right", "left"]) ∧
      ∃ flag lead again round, lasso.lookup "entry" = some flag ∧
        ["entry", "left", "right", "left"].head? = some flag.key ∧
        lasso.Lasso ["entry", "left", "right", "left"] lead again round ∧
        (["entry", "left", "right", "left"].head? = ["entry", "left", "right", "left"].getLast? ↔
          flag.key ∈ again :: round) :=
  ⟨evaluate_lasso, reported_chain_closed_iff evaluate_lasso⟩

/-- It is not so that every reported chain starts and ends with the same key. -/
theorem lasso_not_closed :
    ¬ ∀ (e : Evaluator) (context : Context) (key : String) (chain : List String),
      (e.evaluate context key).result = .error (.cyclicPrerequisite chain) →
        chain.head? = chain.getLast? := by
  intro hclosed
  have hsame := hclosed lasso { key := "user" } "entry" _ evaluate_lasso
  simp at hsame

end Evaluator

end FeatureFlags
