import FeatureFlags.Proofs.Prerequisite.Course
import FeatureFlags.Proofs.Table

/-!
The memory of a walk. A walk remembers one answer for each prerequisite that was
resolved, and never changes it. It remembers only keys that the store holds, and
nothing of a flag that still waits for its prerequisites.
-/

namespace FeatureFlags

namespace Evaluator

variable {e : Evaluator} {context : Context} {chain : List String} {key : String} {flag : Flag}
  {walk next : Walk} {memory later : Table Resolved}

/-- What the first memory has, the later one has unchanged. -/
def Keeps (memory later : Table Resolved) : Prop :=
  ∀ key answer, memory.get? key = some answer → later.get? key = some answer

theorem Keeps.refl (memory : Table Resolved) : Keeps memory memory := fun _ _ hmemo => hmemo

theorem Keeps.trans {middle : Table Resolved} (hfirst : Keeps memory middle)
    (hsecond : Keeps middle later) : Keeps memory later :=
  fun key answer hmemo => hsecond key answer (hfirst key answer hmemo)

theorem keeps_insert (hnew : memory.get? key = none) (answer : Resolved) :
    Keeps memory (memory.insert key answer) :=
  fun _ _ hmemo => Table.get?_insert_of_none hnew hmemo answer

/-- Only keys that the store holds are remembered. -/
def RemembersHeld (e : Evaluator) (memory : Table Resolved) : Prop :=
  ∀ key answer, memory.get? key = some answer → (e.lookup key).isSome = true

theorem remembersHeld_empty : e.RemembersHeld Table.empty := fun _ _ hmemo => nomatch hmemo

theorem RemembersHeld.get?_eq_none (hmemory : e.RemembersHeld memory)
    (hmissing : e.lookup key = none) : memory.get? key = none := by
  cases hmemo : memory.get? key with
  | none => rfl
  | some answer =>
      have hsome := hmemory key answer hmemo
      rw [hmissing] at hsome
      cases hsome

theorem RemembersHeld.insert (hmemory : e.RemembersHeld memory)
    (hheld : (e.lookup key).isSome = true) (answer : Resolved) :
    e.RemembersHeld (memory.insert key answer) := by
  intro other found hfound
  rw [Table.get?_insert] at hfound
  by_cases hown : other = key
  · rw [hown]
    exact hheld
  · rw [if_neg hown] at hfound
    exact hmemory other found hfound

/-! ### One walk after the other -/

/-- From one walk to a later one, what is remembered stays as it is, and nothing
comes to be remembered of a flag that waits. -/
structure Extends (e : Evaluator) (chain : List String) (walk next : Walk) : Prop where
  keeps : Keeps walk.resolved next.resolved
  waiting : ∀ key flag, e.lookup key = some flag → flag.key ∈ chain →
    walk.resolved.get? key = none → next.resolved.get? key = none

theorem Extends.refl (chain : List String) (walk : Walk) : e.Extends chain walk walk where
  keeps := .refl _
  waiting _ _ _ _ hmemo := hmemo

theorem Extends.trans {middle : Walk} (hfirst : e.Extends chain walk middle)
    (hsecond : e.Extends chain middle next) : e.Extends chain walk next where
  keeps := hfirst.keeps.trans hsecond.keeps
  waiting key flag hheld hmem hmemo :=
    hsecond.waiting key flag hheld hmem (hfirst.waiting key flag hheld hmem hmemo)

theorem extends_asking (chain : List String) (walk : Walk) (key : String) :
    e.Extends chain walk (walk.asking key) where
  keeps := .refl _
  waiting _ _ _ _ hmemo := hmemo

theorem Extends.shorten (hextends : e.Extends (chain ++ [key]) walk next) :
    e.Extends chain walk next where
  keeps := hextends.keeps
  waiting other found hfound hwaits :=
    hextends.waiting other found hfound (List.mem_append_left _ hwaits)

/-- The answer of a flag that waited is new when it is remembered. -/
theorem Extends.new (hextends : e.Extends (chain ++ [flag.key]) walk next)
    (hheld : e.lookup key = some flag) (hmemo : walk.resolved.get? key = none) :
    next.resolved.get? key = none :=
  hextends.waiting key flag hheld (List.mem_append_right _ (List.mem_singleton_self _)) hmemo

theorem Extends.remembering (hextends : e.Extends (chain ++ [flag.key]) walk next)
    (hheld : e.lookup key = some flag) (hmem : flag.key ∉ chain)
    (hmemo : walk.resolved.get? key = none) (resolved : Resolved) :
    e.Extends chain walk (next.remembering key resolved) where
  keeps := hextends.keeps.trans (keeps_insert (hextends.new hheld hmemo) resolved)
  waiting other found hfound hwaits hother := by
    have hne : other ≠ key := by
      intro heq
      rw [heq, hheld] at hfound
      cases hfound
      exact hmem hwaits
    rw [Walk.remembering_resolved, Table.get?_insert, if_neg hne]
    exact hextends.waiting other found hfound (List.mem_append_left _ hwaits) hother

theorem resolveBehind_extends
    (hvisit : ∀ flag walk, e.Extends (chain ++ [flag.key]) walk (e.visit context chain flag walk).2)
    (key : String) (walk : Walk) :
    e.Extends chain walk (e.resolveBehind context chain key walk).2 := by
  have hresolution := e.resolution context chain key walk
  generalize e.resolveBehind context chain key walk = outcome at hresolution ⊢
  cases hresolution with
  | remembered answer hmemo hroom => exact .refl chain walk
  | tooHigh answer hmemo hhigh => exact .refl chain walk
  | missing hmemo hmissing => exact extends_asking chain walk key
  | failed flag error next hmemo hheld hfailed =>
      have hbelow := hvisit flag (walk.asking key)
      rw [hfailed] at hbelow
      exact (extends_asking chain walk key).trans hbelow.shorten
  | visited flag evaluation height next hmemo hheld hvisited =>
      have hmem := not_mem_of_visit hvisited
      have hbelow := hvisit flag (walk.asking key)
      rw [hvisited] at hbelow
      exact (extends_asking chain walk key).trans (hbelow.remembering hheld hmem hmemo _)

theorem Passage.extends {resolve : String → Walk.Step Resolved} {prerequisites : List Prerequisite}
    {height : Nat} {outcome : Except FlagError (Option String × Nat) × Walk}
    (hpassage : Passage resolve prerequisites height walk outcome)
    (hresolve : ∀ key walk, e.Extends chain walk (resolve key walk).2) :
    e.Extends chain walk outcome.2 := by
  have hstep {key : String} {walk next : Walk} {result : Except FlagError Resolved}
      (hrun : resolve key walk = (result, next)) : e.Extends chain walk next := by
    have hextends := hresolve key walk
    rw [hrun] at hextends
    exact hextends
  induction hpassage with
  | nil => exact .refl chain _
  | met hrun hmet hrest ih => exact (hstep hrun).trans ih
  | unmet hrun hunmet => exact hstep hrun
  | fatal hrun hfatal => exact hstep hrun
  | absorbed hrun habsorbed => exact hstep hrun

/-- A visit changes nothing that is remembered, and remembers nothing of the
flags that wait, the visited flag among them. -/
theorem visit_extends (context : Context) (chain : List String) (flag : Flag) (walk : Walk) :
    e.Extends (chain ++ [flag.key]) walk (e.visit context chain flag walk).2 := by
  induction chain, flag, walk using visit.induct e with
  | case1 chain flag walk hmem =>
      rw [visit_cyclic hmem]
      exact .refl _ walk
  | case2 chain flag walk hmem hdeep =>
      rw [visit_tooDeep hmem hdeep]
      exact .refl _ walk
  | case3 chain flag walk hmem hdeep ih =>
      have hsteps := resolveBehind_extends ih
      have hcourse := e.course context chain flag walk
      generalize e.visit context chain flag walk = outcome at hcourse ⊢
      cases hcourse with
      | cyclic hin => exact .refl _ walk
      | tooDeep _ hlong => exact .refl _ walk
      | disabled _ hroom hdisabled => exact .refl _ walk
      | failed _ hroom henabled error next hlist => exact hlist.extends hsteps
      | concluded _ hroom henabled unmet height next hlist => exact hlist.extends hsteps

end Evaluator

end FeatureFlags
