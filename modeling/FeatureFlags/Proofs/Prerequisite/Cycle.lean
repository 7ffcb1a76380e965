import FeatureFlags.Proofs.Prerequisite.Course
import FeatureFlags.Proofs.Prerequisite.Memo
import Mathlib

/-!
The cycles that an evaluation reports. The flags that wait are a path of
prerequisites from the flag that was asked for, without a flag twice and no
longer than the depth allows. A step down makes the path longer by one flag, and
a cycle is reported where the next flag is on the path already, so a reported
chain is a path that returns to itself. It may return to a flag after the first:
the flag that was asked for need not be on the cycle.
-/

namespace FeatureFlags

namespace Evaluator

/-- The flag of a key is enabled and lists another key among its
prerequisites. -/
def Awaits (e : Evaluator) (key awaited : String) : Prop :=
  ∃ flag, e.lookup key = some flag ∧ flag.enabled = true ∧
    ∃ prerequisite ∈ flag.prerequisites, prerequisite.key = awaited

/-- A path of prerequisites from a key that comes back to one of its keys. -/
structure ReturningPath (e : Evaluator) (key : String) (path : List String) : Prop where
  starts : path.head? = some key
  returns : ∃ again ∈ path.dropLast, path.getLast? = some again
  distinct : path.dropLast.Nodup
  linked : path.IsChain e.Awaits
  long : 2 ≤ path.length
  short : path.length ≤ e.maxDepth.toNat + 2

/-- The keys that wait for a key to be evaluated, where the evaluation of the
first of them was asked for. -/
structure Waiting (e : Evaluator) (first : String) (chain : List String) (key : String) : Prop where
  starts : (chain ++ [key]).head? = some first
  distinct : chain.Nodup
  linked : (chain ++ [key]).IsChain e.Awaits
  short : chain.length ≤ e.maxDepth.toNat + 1

variable {e : Evaluator} {context : Context} {first key next : String} {chain cycle : List String}

theorem waiting_nil (e : Evaluator) (key : String) : e.Waiting key [] key where
  starts := rfl
  distinct := List.nodup_nil
  linked := .singleton key
  short := Nat.zero_le _

/-- A flag that is neither on the path nor too deep may wait in turn. -/
theorem Waiting.push (hwaiting : e.Waiting first chain key) (hmem : key ∉ chain)
    (hroom : chain.length ≤ e.maxDepth.toNat) (hawaits : e.Awaits key next) :
    e.Waiting first (chain ++ [key]) next where
  starts := by
    rw [List.head?_append, hwaiting.starts]
    rfl
  distinct := by
    rw [← List.concat_eq_append]
    exact hwaiting.distinct.concat hmem
  linked := by
    rw [List.append_assoc]
    exact List.isChain_append_cons_cons.mpr ⟨hwaiting.linked, hawaits, .singleton next⟩
  short := by
    rw [List.length_append, List.length_singleton]
    omega

/-- A key that waits already closes the path. -/
theorem Waiting.close (hwaiting : e.Waiting first chain key) (hmem : key ∈ chain) :
    e.ReturningPath first (chain ++ [key]) where
  starts := hwaiting.starts
  returns := ⟨key, by rwa [List.dropLast_concat], List.getLast?_concat⟩
  distinct := by
    rw [List.dropLast_concat]
    exact hwaiting.distinct
  linked := hwaiting.linked
  long := by
    have hpos := List.length_pos_of_mem hmem
    rw [List.length_append, List.length_singleton]
    omega
  short := by
    have hshort := hwaiting.short
    rw [List.length_append, List.length_singleton]
    omega

/-- A cycle that is reported while a prerequisite is resolved is reported by the
visit of its flag. -/
theorem cyclic_of_resolution {walk after : Walk}
    (hresolve : e.resolveBehind context chain key walk =
      (.error (.cyclicPrerequisite cycle), after)) :
    ∃ flag, e.lookup key = some flag ∧
      e.visit context chain flag (walk.asking key) =
        (.error (.cyclicPrerequisite cycle), after) := by
  have hresolution := e.resolution context chain key walk
  rw [hresolve] at hresolution
  cases hresolution with
  | failed flag error next hmemo hheld hvisit => exact ⟨flag, hheld, hvisit⟩

/-- What a visit reports as a cycle is a path from the flag that was asked for,
through the flags that wait, that returns. -/
theorem returningPath_of_visit (hkeyed : e.WellKeyed) {flag : Flag} {walk after : Walk}
    (hheld : e.lookup flag.key = some flag) (hwaiting : e.Waiting first chain flag.key)
    (hvisit : e.visit context chain flag walk = (.error (.cyclicPrerequisite cycle), after)) :
    e.ReturningPath first cycle := by
  induction chain, flag, walk using visit.induct e generalizing after with
  | case1 chain flag walk hmem =>
      rw [visit_cyclic hmem] at hvisit
      cases hvisit
      exact hwaiting.close hmem
  | case2 chain flag walk hmem hdeep =>
      rw [visit_tooDeep hmem hdeep] at hvisit
      cases hvisit
  | case3 chain flag walk hmem hdeep ih =>
      have hcourse := e.course context chain flag walk
      rw [hvisit] at hcourse
      cases hcourse with
      | cyclic hin => exact absurd hin hmem
      | failed _ hroom henabled error _ hlist =>
          obtain ⟨_, prerequisite, hprerequisite, earlier, hresolve⟩ := hlist.origin rfl
          obtain ⟨required, hrequired, hbelow⟩ := cyclic_of_resolution hresolve
          have hkey : required.key = prerequisite.key := hkeyed _ _ hrequired
          have hawaits : e.Awaits flag.key required.key :=
            ⟨flag, hheld, henabled, prerequisite, hprerequisite, hkey.symm⟩
          exact ih required _ (hkey ▸ hrequired) (hwaiting.push hmem hroom hawaits) hbelow

/-- A reported cycle is real: the chain is a path from the key that was asked
for, over enabled flags and prerequisites that they list, and it returns to one
of its keys. -/
theorem reported_cycle_returns (hkeyed : e.WellKeyed)
    (hresult : (e.evaluate context key).result = .error (.cyclicPrerequisite cycle)) :
    e.ReturningPath key cycle := by
  unfold evaluate at hresult
  cases hheld : e.lookup key with
  | none =>
      rw [walkFrom_missing hheld] at hresult
      cases hresult
  | some flag =>
      obtain rfl : flag.key = key := hkeyed key flag hheld
      rw [walkFrom_held hheld] at hresult
      cases hvisit : e.visit context [] flag (({} : Walk).asking flag.key) with
      | mk result after =>
          rw [hvisit] at hresult
          cases result with
          | ok answer => cases hresult
          | error error =>
              cases hresult
              exact returningPath_of_visit hkeyed hheld (waiting_nil e flag.key) hvisit

def lassoFlags : List Flag :=
  [.steady "entry" [⟨"left", 0⟩], .steady "left" [⟨"right", 0⟩], .steady "right" [⟨"left", 0⟩]]

/-- A flag leads into a cycle and is not on it. -/
def lasso : Evaluator where
  lookup := (Store.ofFlags lassoFlags).get?

theorem evaluate_lasso :
    (lasso.evaluate { key := "user" } "entry").result =
      .error (.cyclicPrerequisite ["entry", "left", "right", "left"]) := by
  cbv

theorem reported_cycle_returns_in_lasso :
    lasso.WellKeyed ∧
      (lasso.evaluate { key := "user" } "entry").result =
        .error (.cyclicPrerequisite ["entry", "left", "right", "left"]) ∧
      lasso.ReturningPath "entry" ["entry", "left", "right", "left"] := by
  have hkeyed : lasso.WellKeyed := Store.wellKeyed_ofFlags _
  exact ⟨hkeyed, evaluate_lasso, reported_cycle_returns hkeyed evaluate_lasso⟩

end Evaluator

end FeatureFlags
