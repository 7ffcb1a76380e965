import FeatureFlags.Proofs.Prerequisite.Course

/-!
The calls that an evaluation is made of. A call visits one flag behind a chain
of flags that wait for it. It asks for the flag's prerequisites in order, up to
the first that is unmet, and makes a call of its own for each one that is not
remembered and that the store holds. What holds of the walk where a call starts
and is kept by each resolution that the call asks for holds where it ends.
-/

namespace FeatureFlags

namespace Evaluator

/-- The visit of a flag behind a chain, with the walk as it is then. -/
structure Call where
  chain : List String
  flag : Flag
  walk : Walk

/-- How a call ends. -/
def Call.ends (e : Evaluator) (context : Context) (call : Call) :
    Except FlagError (Evaluation × Nat) × Walk :=
  e.visit context call.chain call.flag call.walk

/-- The chain that a call's prerequisites are resolved behind. -/
def Call.waiting (call : Call) : List String :=
  call.chain ++ [call.flag.key]

/-- The way through a list gets as far as this prerequisite, those before it
being met, with the walk as it is then. -/
def GetsTo (resolve : String → Walk.Step Resolved) (prerequisites : List Prerequisite)
    (walk : Walk) (prerequisite : Prerequisite) (next : Walk) : Prop :=
  ∃ before after height, prerequisites = before ++ prerequisite :: after ∧
    firstUnmet resolve before 1 walk = (.ok (none, height), next)

/-- The call asks for this prerequisite, with the walk as it is then: its flag is
enabled, and neither waits already nor is too deep. -/
structure Asks (e : Evaluator) (context : Context) (call : Call) (prerequisite : Prerequisite)
    (next : Walk) : Prop where
  new : call.flag.key ∉ call.chain
  room : call.chain.length ≤ e.maxDepth.toNat
  enabled : call.flag.enabled = true
  reached : GetsTo (e.resolveBehind context call.waiting) call.flag.prerequisites call.walk
    prerequisite next

/-- The first call makes the second, for a prerequisite that it asks for. -/
inductive Makes (e : Evaluator) (context : Context) : Call → Call → Prop where
  | prerequisite {call : Call} {prerequisite : Prerequisite} {next : Walk} {required : Flag}
      (hasks : e.Asks context call prerequisite next)
      (hmemo : next.resolved.get? prerequisite.key = none)
      (hheld : e.lookup prerequisite.key = some required) :
      Makes e context call ⟨call.waiting, required, next.asking prerequisite.key⟩

/-- An evaluation begins with the call for the flag that was asked for. -/
inductive Begins (e : Evaluator) (context : Context) : Outcome → Call → Prop where
  | requested {key : String} {flag : Flag} (hheld : e.lookup key = some flag) :
      Begins e context (e.evaluate context key) ⟨[], flag, ({} : Walk).asking key⟩
  | supplied (flag : Flag) : Begins e context (e.evaluateFlag context flag) ⟨[], flag, {}⟩

variable {e : Evaluator} {context : Context} {call : Call} {walk next : Walk}

/-- An evaluation ends as its first call does. -/
theorem Begins.outcome_eq {outcome : Outcome} (hbegins : e.Begins context outcome call) :
    outcome = .ofStep (call.ends e context) := by
  cases hbegins with
  | requested hheld => rw [evaluate, walkFrom_held hheld, Call.ends]
  | supplied flag => rw [evaluateFlag, Call.ends]

/-! ### The way through a list -/

section Prefix

variable {resolve : String → Walk.Step Resolved} {prerequisite : Prerequisite}
  {before after : List Prerequisite} {height reached : Nat}

/-- Where the front of a list is met, the list goes on with the rest. -/
theorem firstUnmet_append
    (hbefore : firstUnmet resolve before height walk = (.ok (none, reached), next)) :
    firstUnmet resolve (before ++ after) height walk = firstUnmet resolve after reached next := by
  induction before generalizing height walk with
  | nil =>
      cases hbefore
      rfl
  | cons first rest ih =>
      cases hresolve : resolve first.key walk with
      | mk result later =>
          rw [List.cons_append]
          cases verdict first result with
          | met answer hmet =>
              rw [firstUnmet_met hresolve hmet] at hbefore ⊢
              exact ih hbefore
          | unmet answer hunmet =>
              rw [firstUnmet_unmet hresolve hunmet] at hbefore
              cases hbefore
          | fatal error hfatal =>
              rw [firstUnmet_fatal hresolve hfatal] at hbefore
              cases hbefore
          | absorbed error habsorbed =>
              rw [firstUnmet_absorbed hresolve habsorbed] at hbefore
              cases hbefore

theorem firstUnmet_concat_met {answer : Resolved} {later : Walk}
    (hbefore : firstUnmet resolve before height walk = (.ok (none, reached), next))
    (hresolve : resolve prerequisite.key next = (.ok answer, later))
    (hmet : answer.variationIndex = some prerequisite.variation) :
    firstUnmet resolve (before ++ [prerequisite]) height walk =
      (.ok (none, max reached (answer.height + 1)), later) := by
  rw [firstUnmet_append hbefore, firstUnmet_met hresolve hmet, firstUnmet_nil]

end Prefix

/-! ### Invariants of walks -/

section Invariant

variable {P : Walk → Prop}

theorem Passage.keeps {resolve : String → Walk.Step Resolved}
    {prerequisites before rest : List Prerequisite} {height : Nat}
    {outcome : Except FlagError (Option String × Nat) × Walk}
    (hpassage : Passage resolve rest height next outcome)
    (hlist : prerequisites = before ++ rest)
    (hbefore : firstUnmet resolve before 1 walk = (.ok (none, height), next)) (hnext : P next)
    (hkeeps : ∀ prerequisite later, GetsTo resolve prerequisites walk prerequisite later →
      P later → P (resolve prerequisite.key later).2) : P outcome.2 := by
  induction hpassage generalizing before with
  | nil => exact hnext
  | @met prerequisite rest height next later answer outcome hresolve hmet hrest ih =>
      have hkept := hkeeps prerequisite next ⟨before, rest, height, hlist, hbefore⟩ hnext
      rw [hresolve] at hkept
      rw [List.append_cons] at hlist
      exact ih hlist (firstUnmet_concat_met hbefore hresolve hmet) hkept
  | @unmet prerequisite rest height next later answer hresolve hunmet =>
      have hkept := hkeeps prerequisite next ⟨before, rest, height, hlist, hbefore⟩ hnext
      rw [hresolve] at hkept
      exact hkept
  | @fatal prerequisite rest height next later error hresolve hfatal =>
      have hkept := hkeeps prerequisite next ⟨before, rest, height, hlist, hbefore⟩ hnext
      rw [hresolve] at hkept
      exact hkept
  | @absorbed prerequisite rest height next later error hresolve habsorbed =>
      have hkept := hkeeps prerequisite next ⟨before, rest, height, hlist, hbefore⟩ hnext
      rw [hresolve] at hkept
      exact hkept

/-- The property is kept by each resolution that a call asks for. -/
def Kept (e : Evaluator) (context : Context) (call : Call) (P : Walk → Prop) : Prop :=
  ∀ prerequisite next, e.Asks context call prerequisite next → P next →
    P (e.resolveBehind context call.waiting prerequisite.key next).2

/-- Whether a resolution keeps a property is known from its look-up or from the
call that is made, and from what is remembered then. -/
theorem kept_of_calls
    (hmissing : ∀ prerequisite next, e.Asks context call prerequisite next → P next →
      e.lookup prerequisite.key = none → P (next.asking prerequisite.key))
    (hcalls : ∀ prerequisite next required, e.Asks context call prerequisite next → P next →
      next.resolved.get? prerequisite.key = none → e.lookup prerequisite.key = some required →
      P (Call.ends e context ⟨call.waiting, required, next.asking prerequisite.key⟩).2)
    (hremembering : ∀ walk key answer, (e.lookup key).isSome = true → P walk →
      P (walk.remembering key answer)) : e.Kept context call P := by
  intro prerequisite next hasks hnext
  have hresolution := e.resolution context call.waiting prerequisite.key next
  generalize e.resolveBehind context call.waiting prerequisite.key next = outcome at hresolution ⊢
  cases hresolution with
  | remembered answer hmemo hroom => exact hnext
  | tooHigh answer hmemo hhigh => exact hnext
  | missing hmemo hlookup => exact hmissing prerequisite next hasks hnext hlookup
  | failed required error later hmemo hheld hvisit =>
      have hend := hcalls prerequisite next required hasks hnext hmemo hheld
      rw [Call.ends, hvisit] at hend
      exact hend
  | visited required evaluation height later hmemo hheld hvisit =>
      have hend := hcalls prerequisite next required hasks hnext hmemo hheld
      rw [Call.ends, hvisit] at hend
      exact hremembering later prerequisite.key _ (Option.isSome_of_eq_some hheld) hend

/-- What holds where a call starts and is kept by what it asks for holds where
the call ends. -/
theorem Kept.ends (hkept : e.Kept context call P) (hstart : P call.walk) :
    P (call.ends e context).2 := by
  have hcourse := e.course context call.chain call.flag call.walk
  unfold Call.ends
  generalize e.visit context call.chain call.flag call.walk = outcome at hcourse ⊢
  cases hcourse with
  | cyclic hmem => exact hstart
  | tooDeep hmem hdeep => exact hstart
  | disabled hmem hroom hdisabled => exact hstart
  | failed hmem hroom henabled error next hlist =>
      apply hlist.keeps (List.nil_append _).symm firstUnmet_nil hstart
      intro prerequisite later hreached hlater
      exact hkept prerequisite later ⟨hmem, hroom, henabled, hreached⟩ hlater
  | concluded hmem hroom henabled unmet height next hlist =>
      apply hlist.keeps (List.nil_append _).symm firstUnmet_nil hstart
      intro prerequisite later hreached hlater
      exact hkept prerequisite later ⟨hmem, hroom, henabled, hreached⟩ hlater

/-- It also holds wherever the call asks for a prerequisite. -/
theorem Kept.asks {prerequisite : Prerequisite} (hkept : e.Kept context call P)
    (hasks : e.Asks context call prerequisite next) (hstart : P call.walk) : P next := by
  obtain ⟨hnew, hroom, henabled, before, after, height, hlist, hbefore⟩ := hasks
  have hpassage := passage (e.resolveBehind context call.waiting) before 1 call.walk
  rw [hbefore] at hpassage
  apply hpassage.keeps (List.nil_append _).symm firstUnmet_nil hstart
  rintro earlier later ⟨front, back, reached, rfl, hfront⟩ hlater
  rw [List.append_assoc, List.cons_append] at hlist
  exact hkept earlier later ⟨hnew, hroom, henabled, front, _, reached, hlist, hfront⟩ hlater

end Invariant

/-! ### Calls within calls -/

/-- How many flags the chain of a call may still get. -/
def Call.remaining (e : Evaluator) (call : Call) : Nat :=
  e.maxDepth.toNat + 1 - call.chain.length

theorem Makes.remaining_lt {inner : Call} (hmakes : e.Makes context call inner) :
    inner.remaining e < call.remaining e := by
  cases hmakes with
  | prerequisite hasks hmemo hheld =>
      have hroom := hasks.room
      simp only [Call.remaining, Call.waiting, List.length_append, List.length_singleton]
      omega

/-- Calls within calls come to an end. -/
theorem wellFounded_makes (e : Evaluator) (context : Context) :
    WellFounded fun inner call => e.Makes context call inner :=
  Subrelation.wf (fun hmakes => hmakes.remaining_lt) (measure (Call.remaining e)).wf

end Evaluator

end FeatureFlags
