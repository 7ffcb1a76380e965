import FeatureFlags.Proofs.Prerequisite.Calls
import FeatureFlags.Proofs.Prerequisite.Memo
import FeatureFlags.Proofs.Prerequisite.Memory
import Mathlib

/-!
Missing flags. Only the flag that was asked for can be missing in the result of
an evaluation. A prerequisite that the store does not hold, at whatever depth,
makes the flag that asks for it resolve to its default with the prerequisite as
the reason, and the walk goes on from there. So the errors of an evaluation are
a missing flag of its own, cycles, and chains beyond the bound.
-/

namespace FeatureFlags

/-- The error is of those that end a whole evaluation: a cycle, or a chain
beyond this bound. -/
inductive FlagError.Aborts (maxDepth : UInt64) : FlagError → Prop where
  | cyclic (chain : List String) : Aborts maxDepth (.cyclicPrerequisite chain)
  | tooDeep (key : String) : Aborts maxDepth (.depthExceeded key maxDepth)

namespace Evaluator

open Relation (ReflTransGen)

variable {e : Evaluator} {context : Context} {call start : Call} {key missing : String}
  {chain : List String} {flag : Flag} {walk next : Walk} {error : FlagError}

/-! ### Errors -/

/-- A visit that fails has found a cycle or a chain beyond the bound. -/
theorem aborts_of_visit (hvisit : e.visit context chain flag walk = (.error error, next)) :
    error.Aborts e.maxDepth := by
  induction chain, flag, walk using visit.induct e generalizing next with
  | case1 chain flag walk hmem =>
      rw [visit_cyclic hmem] at hvisit
      cases hvisit
      exact .cyclic _
  | case2 chain flag walk hmem hdeep =>
      rw [visit_tooDeep hmem hdeep] at hvisit
      cases hvisit
      exact .tooDeep _
  | case3 chain flag walk hmem hdeep ih =>
      have hcourse := e.course context chain flag walk
      rw [hvisit] at hcourse
      cases hcourse with
      | cyclic hin => exact .cyclic _
      | tooDeep _ hlong => exact .tooDeep _
      | failed _ hroom henabled error next hlist =>
          obtain ⟨hfatal, prerequisite, _, earlier, hresolve⟩ := hlist.origin rfl
          have hresolution := e.resolution context (chain ++ [flag.key]) prerequisite.key earlier
          rw [hresolve] at hresolution
          cases hresolution with
          | tooHigh answer hmemo hhigh => exact .tooDeep _
          | missing hmemo hmissing => cases hfatal
          | failed required error next hmemo hheld hbelow => exact ih required _ hbelow

/-- Only a visit can fail after the first look-up. -/
theorem aborts_of_begins {outcome : Outcome} (hbegins : e.Begins context outcome call)
    (herror : outcome.result = .error error) : error.Aborts e.maxDepth := by
  rw [hbegins.outcome_eq] at herror
  cases hends : call.ends e context with
  | mk result next =>
      rw [hends] at herror
      cases result with
      | ok answer => cases herror
      | error other =>
          cases herror
          exact aborts_of_visit hends

/-! ### What is remembered -/

/-- No call remembers a key that is missing. -/
theorem kept_remembersHeld (call : Call) : 
    e.Kept context call fun walk => e.RemembersHeld walk.resolved := by
  induction call using (wellFounded_makes e context).induction with
  | _ call ih =>
      apply kept_of_calls
      · intro prerequisite next hasks hnext hmissing
        exact hnext
      · intro prerequisite next required hasks hnext hmemo hheld
        exact (ih _ (.prerequisite hasks hmemo hheld)).ends hnext
      · intro walk key answer hheld hwalk
        exact hwalk.insert hheld answer

theorem remembersHeld_of_begins {outcome : Outcome} (hbegins : e.Begins context outcome start)
    (hwithin : ReflTransGen (e.Makes context) start call) : e.RemembersHeld call.walk.resolved := by
  induction hwithin with
  | refl =>
      cases hbegins with
      | requested hheld => exact remembersHeld_empty
      | supplied flag => exact remembersHeld_empty
  | tail hwithin hmakes ih =>
      cases hmakes with
      | @prerequisite _ next _ hasks hmemo hheld =>
          have hnext : e.RemembersHeld next.resolved := (kept_remembersHeld _).asks hasks ih
          exact hnext

/-! ### Direct dependents -/

/-- The call asks for a prerequisite of this key, and the store has no flag for
it. -/
def Misses (e : Evaluator) (context : Context) (call : Call) (missing : String) : Prop :=
  e.lookup missing = none ∧
    ∃ prerequisite next, prerequisite.key = missing ∧ e.Asks context call prerequisite next

/-- The call ends well, with the prerequisite as the reason for the default. -/
def Absorbs (e : Evaluator) (context : Context) (call : Call) (missing : String) : Prop :=
  ∃ evaluation height, (call.ends e context).1 = .ok (evaluation, height) ∧
    evaluation.key = call.flag.key ∧ evaluation.reason = .prerequisiteFailed ∧
    evaluation.prerequisiteFailed = true ∧ evaluation.prerequisiteKey = some missing ∧
    evaluation.variationIndex = none

theorem Misses.absorbs (hwalk : e.RemembersHeld call.walk.resolved)
    (hmisses : e.Misses context call missing) : e.Absorbs context call missing := by
  obtain ⟨hmissing, prerequisite, next, rfl, hasks⟩ := hmisses
  have hmemo := ((kept_remembersHeld call).asks hasks hwalk).get?_eq_none hmissing
  obtain ⟨hnew, hroom, henabled, before, after, height, hlist, hbefore⟩ := hasks
  have hresolve : e.resolveBehind context call.waiting prerequisite.key next =
      (.error (.flagNotFound prerequisite.key), next.asking prerequisite.key) :=
    resolve_missing hmemo hmissing
  have hwhole : firstUnmet (e.resolveBehind context call.waiting) call.flag.prerequisites 1
      call.walk = (.ok (some prerequisite.key, height), next.asking prerequisite.key) := by
    rw [hlist, firstUnmet_append hbefore, firstUnmet_absorbed hresolve rfl]
  have hends := visit_concluded hnew hroom henabled hwhole
  refine ⟨.ofUnmetPrerequisite call.flag prerequisite.key, height, ?_, rfl, rfl, rfl, rfl, rfl⟩
  rw [Call.ends, hends, conclusion]

/-! ### Look-ups that find nothing -/

/-- Each missing key that a walk has asked of the store since the call started
was asked by a call within that call. -/
def Accounts (e : Evaluator) (context : Context) (call : Call) (walk : Walk) : Prop :=
  ∀ missing ∈ walk.lookups, e.lookup missing = none → missing ∈ call.walk.lookups ∨
    ∃ inner, ReflTransGen (e.Makes context) call inner ∧ e.Misses context inner missing

theorem ends_accounts (call : Call) : e.Accounts context call (call.ends e context).2 := by
  induction call using (wellFounded_makes e context).induction with
  | _ call ih =>
      refine Kept.ends (P := e.Accounts context call) (kept_of_calls ?_ ?_ ?_)
        fun missing hmem _ => .inl hmem
      · intro prerequisite next hasks hnext hmissing key hmem hnone
        rcases List.mem_append.mp hmem with hearlier | hown
        · exact hnext key hearlier hnone
        · rw [List.mem_singleton.mp hown]
          exact .inr ⟨call, .refl, hmissing, prerequisite, next, rfl, hasks⟩
      · intro prerequisite next required hasks hnext hmemo hheld key hmem hnone
        have hmakes : e.Makes context call _ := .prerequisite hasks hmemo hheld
        rcases ih _ hmakes key hmem hnone with hbefore | ⟨inner, hwithin, hmisses⟩
        · rcases List.mem_append.mp hbefore with hearlier | hown
          · exact hnext key hearlier hnone
          · rw [List.mem_singleton.mp hown, hheld] at hnone
            cases hnone
        · exact .inr ⟨inner, .head hmakes hwithin, hmisses⟩
      · intro walk key answer _ hwalk
        exact hwalk

theorem misses_of_lookup {outcome : Outcome} (hbegins : e.Begins context outcome start)
    (hmem : missing ∈ outcome.lookups) (hmissing : e.lookup missing = none) :
    ∃ call, ReflTransGen (e.Makes context) start call ∧ e.Misses context call missing := by
  rw [hbegins.outcome_eq] at hmem
  rcases ends_accounts start missing hmem hmissing with hbefore | hfound
  · cases hbegins with
    | requested hheld =>
        rw [List.mem_singleton.mp hbefore, hheld] at hmissing
        cases hmissing
    | supplied flag => cases hbefore
  · exact hfound

/-- What missing flags come to, for the flag that was asked for and for those
that it needs. -/
structure MissingFlags (e : Evaluator) (context : Context) : Prop where
  requested : ∀ key named, (e.evaluate context key).result = .error (.flagNotFound named) ↔
    e.lookup key = none ∧ named = key
  supplied : ∀ flag named,
    (e.evaluateFlag context flag).result ≠ .error (.flagNotFound named)
  errors : ∀ key error, (e.evaluate context key).result = .error error →
    error = .flagNotFound key ∨ error.Aborts e.maxDepth
  suppliedErrors : ∀ flag error, (e.evaluateFlag context flag).result = .error error →
    error.Aborts e.maxDepth
  outermost : ∀ outcome start, e.Begins context outcome start →
    outcome = .ofStep (start.ends e context)
  /-- A call that asks for a missing prerequisite ends well, at any depth. -/
  absorbed : ∀ outcome start call missing, e.Begins context outcome start →
    ReflTransGen (e.Makes context) start call → e.Misses context call missing →
    e.Absorbs context call missing
  /-- There is such a call for every look-up of an evaluation that finds nothing. -/
  accounted : ∀ outcome start missing, e.Begins context outcome start →
    missing ∈ outcome.lookups → e.lookup missing = none →
    ∃ call, ReflTransGen (e.Makes context) start call ∧ e.Misses context call missing

/-- Only the flag that was asked for is ever reported as missing. A prerequisite
that is missing fails its direct dependent only, and every other error is a
cycle or a chain beyond the bound. -/
theorem only_requested_reported_missing (e : Evaluator) (context : Context) :
    e.MissingFlags context where
  requested key named := by
    cases hlookup : e.lookup key with
    | none =>
        rw [evaluate_missing hlookup]
        constructor
        · rintro ⟨⟩
          exact ⟨rfl, rfl⟩
        · rintro ⟨_, rfl⟩
          rfl
    | some flag =>
        constructor
        · intro hresult
          cases aborts_of_begins (.requested hlookup) hresult
        · rintro ⟨hnone, _⟩
          cases hnone
  supplied flag named hresult := by
    cases aborts_of_begins (.supplied flag) hresult
  errors key error hresult := by
    cases hlookup : e.lookup key with
    | none =>
        rw [evaluate_missing hlookup] at hresult
        cases hresult
        exact .inl rfl
    | some flag => exact .inr (aborts_of_begins (.requested hlookup) hresult)
  suppliedErrors flag error hresult := aborts_of_begins (.supplied flag) hresult
  outermost _ _ hbegins := hbegins.outcome_eq
  absorbed _ _ _ _ hbegins hwithin hmisses :=
    hmisses.absorbs (remembersHeld_of_begins hbegins hwithin)
  accounted _ _ _ hbegins hmem hmissing := misses_of_lookup hbegins hmem hmissing

/-- The flag that misses a prerequisite is itself a prerequisite. -/
def severed : Evaluator where
  lookup := (Store.ofFlags
    [.steady "top" [⟨"middle", 0⟩], .steady "middle" [⟨"gone", 0⟩, ⟨"top", 0⟩]]).get?

theorem only_requested_reported_missing_in_severed :
    severed.lookup "gone" = none ∧
      (severed.evaluate { key := "user" } "top").lookups = ["top", "middle", "gone"] ∧
      (severed.evaluate { key := "user" } "top").result =
        .ok (.ofUnmetPrerequisite (.steady "top" [⟨"middle", 0⟩]) "middle") ∧
      ∃ call, severed.Misses { key := "user" } call "gone" ∧
        severed.Absorbs { key := "user" } call "gone" := by
  have hgone : severed.lookup "gone" = none := by cbv
  have htop : severed.lookup "top" = some (.steady "top" [⟨"middle", 0⟩]) := by cbv
  have hlookups : (severed.evaluate { key := "user" } "top").lookups =
      ["top", "middle", "gone"] := by cbv
  have hmissing := only_requested_reported_missing severed { key := "user" }
  have hmem : "gone" ∈ (severed.evaluate { key := "user" } "top").lookups := by
    rw [hlookups]
    decide
  obtain ⟨call, hwithin, hmisses⟩ := hmissing.accounted _ _ "gone" (.requested htop) hmem hgone
  exact ⟨hgone, hlookups, by cbv, call, hmisses,
    hmissing.absorbed _ _ call "gone" (.requested htop) hwithin hmisses⟩

end Evaluator

end FeatureFlags
