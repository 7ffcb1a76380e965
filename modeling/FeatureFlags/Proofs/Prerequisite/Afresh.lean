import FeatureFlags.Proofs.Prerequisite.Step

/-!
Evaluation without a memory: the same recursion, except that a prerequisite is
visited again each time a flag names it. It has no state, so the answer about a
prerequisite is a function of the chain it is asked behind. What holds of the
walk with a memory is shown here first, and carried over afterwards.
-/

namespace FeatureFlags

/-- A step whose answer is there already. It leaves the walk as it is. -/
def Walk.Step.known {α : Type} (answer : Except FlagError α) : Walk.Step α :=
  fun walk => (answer, walk)

theorem Walk.Step.known_of_eq {α : Type} {answer result : Except FlagError α}
    (hanswer : answer = result) (walk : Walk) : known answer walk = (result, walk) := by
  rw [known, hanswer]

namespace Evaluator

/-- Resolves a prerequisite by a visit and remembers nothing. -/
def resolveAfresh (e : Evaluator) (visit : Flag → Except FlagError (Evaluation × Nat))
    (key : String) : Except FlagError Resolved :=
  match e.lookup key with
  | none => .error (.flagNotFound key)
  | some flag => (visit flag).map fun answer => ⟨answer.1.variationIndex, answer.2⟩

/-- Evaluates a flag behind a chain, with a visit for every prerequisite. -/
def visitAfresh (e : Evaluator) (context : Context) (chain : List String) (flag : Flag) :
    Except FlagError (Evaluation × Nat) :=
  if flag.key ∈ chain then .error (.cyclicPrerequisite (chain ++ [flag.key]))
  else if e.maxDepth.toNat < chain.length then .error (.depthExceeded flag.key e.maxDepth)
  else
    (e.steps context flag
      (fun key => .known (e.resolveAfresh
        (fun prerequisite => e.visitAfresh context (chain ++ [flag.key]) prerequisite) key)) {}).1
termination_by e.maxDepth.toNat + 1 - chain.length
decreasing_by
  simp only [List.length_append, List.length_singleton]
  omega

/-- Evaluates a flag that is at hand, without a memory. -/
def evaluateFlagAfresh (e : Evaluator) (context : Context) (flag : Flag) :
    Except FlagError Evaluation :=
  (e.visitAfresh context [] flag).map (·.1)

/-- Evaluates the flag of a key, without a memory. -/
def evaluateAfresh (e : Evaluator) (context : Context) (key : String) :
    Except FlagError Evaluation :=
  match e.lookup key with
  | none => .error (.flagNotFound key)
  | some flag => e.evaluateFlagAfresh context flag

/-- What a prerequisite resolves to behind a chain. -/
def answerAfresh (e : Evaluator) (context : Context) (chain : List String) (key : String) :
    Except FlagError Resolved :=
  e.resolveAfresh (e.visitAfresh context chain) key

/-- The first unmet prerequisite, given what prerequisites resolve to. -/
def unmetAmong (answer : String → Except FlagError Resolved) (prerequisites : List Prerequisite)
    (height : Nat) : Except FlagError (Option String × Nat) :=
  (firstUnmet (fun key => .known (answer key)) prerequisites height {}).1

variable {e : Evaluator} {context : Context} {chain : List String} {key : String} {flag : Flag}

section UnmetAmong

variable {answer : String → Except FlagError Resolved} {prerequisite : Prerequisite}
  {rest : List Prerequisite} {height : Nat} {resolved : Resolved} {error : FlagError}

theorem firstUnmet_known (answer : String → Except FlagError Resolved)
    (prerequisites : List Prerequisite) (height : Nat) (walk : Walk) :
    firstUnmet (fun key => .known (answer key)) prerequisites height walk =
      (unmetAmong answer prerequisites height, walk) := by
  have hsteady : ∀ (height : Nat) (first second : Walk),
      firstUnmet (fun key => .known (answer key)) prerequisites height first =
        ((firstUnmet (fun key => .known (answer key)) prerequisites height second).1, first) := by
    induction prerequisites with
    | nil => exact fun _ _ _ => rfl
    | cons prerequisite rest ih =>
        intro height first second
        generalize hanswer : answer prerequisite.key = result
        have hfirst := Walk.Step.known_of_eq hanswer first
        have hsecond := Walk.Step.known_of_eq hanswer second
        cases verdict prerequisite result with
        | met resolved hmet =>
            rw [firstUnmet_met hfirst hmet, firstUnmet_met hsecond hmet]
            exact ih _ first second
        | unmet resolved hunmet =>
            rw [firstUnmet_unmet hfirst hunmet, firstUnmet_unmet hsecond hunmet]
        | fatal error hfatal =>
            rw [firstUnmet_fatal hfirst hfatal, firstUnmet_fatal hsecond hfatal]
        | absorbed error habsorbed =>
            rw [firstUnmet_absorbed hfirst habsorbed, firstUnmet_absorbed hsecond habsorbed]
  exact hsteady height walk {}

theorem unmetAmong_nil : unmetAmong answer [] height = .ok (none, height) := rfl

theorem unmetAmong_met (hanswer : answer prerequisite.key = .ok resolved)
    (hmet : resolved.variationIndex = some prerequisite.variation) :
    unmetAmong answer (prerequisite :: rest) height =
      unmetAmong answer rest (max height (resolved.height + 1)) := by
  have hresolve := Walk.Step.known_of_eq hanswer {}
  rw [unmetAmong, firstUnmet_met hresolve hmet, unmetAmong]

theorem unmetAmong_unmet (hanswer : answer prerequisite.key = .ok resolved)
    (hunmet : resolved.variationIndex ≠ some prerequisite.variation) :
    unmetAmong answer (prerequisite :: rest) height =
      .ok (some prerequisite.key, max height (resolved.height + 1)) := by
  have hresolve := Walk.Step.known_of_eq hanswer {}
  rw [unmetAmong, firstUnmet_unmet hresolve hunmet]

theorem unmetAmong_fatal (hanswer : answer prerequisite.key = .error error)
    (hfatal : error.isFatal = true) :
    unmetAmong answer (prerequisite :: rest) height = .error error := by
  have hresolve := Walk.Step.known_of_eq hanswer {}
  rw [unmetAmong, firstUnmet_fatal hresolve hfatal]

theorem unmetAmong_absorbed (hanswer : answer prerequisite.key = .error error)
    (habsorbed : error.isFatal = false) :
    unmetAmong answer (prerequisite :: rest) height = .ok (some prerequisite.key, height) := by
  have hresolve := Walk.Step.known_of_eq hanswer {}
  rw [unmetAmong, firstUnmet_absorbed hresolve habsorbed]

/-- Only a fatal error stops the way through prerequisites without an answer. -/
theorem isFatal_of_unmetAmong {prerequisites : List Prerequisite}
    (herror : unmetAmong answer prerequisites height = .error error) : error.isFatal = true := by
  induction prerequisites generalizing height with
  | nil =>
      rw [unmetAmong_nil] at herror
      cases herror
  | cons prerequisite rest ih =>
      generalize hanswer : answer prerequisite.key = result
      cases verdict prerequisite result with
      | met resolved hmet =>
          rw [unmetAmong_met hanswer hmet] at herror
          exact ih herror
      | unmet resolved hunmet =>
          rw [unmetAmong_unmet hanswer hunmet] at herror
          cases herror
      | fatal other hfatal =>
          rw [unmetAmong_fatal hanswer hfatal] at herror
          cases herror
          exact hfatal
      | absorbed other habsorbed =>
          rw [unmetAmong_absorbed hanswer habsorbed] at herror
          cases herror

/-- Without fatal errors there always is an answer. -/
theorem unmetAmong_ok {prerequisites : List Prerequisite}
    (hanswers : ∀ prerequisite ∈ prerequisites, ∀ error,
      answer prerequisite.key = .error error → error.isFatal = false) :
    ∃ unmet reached, unmetAmong answer prerequisites height = .ok (unmet, reached) := by
  induction prerequisites generalizing height with
  | nil => exact ⟨none, height, unmetAmong_nil⟩
  | cons prerequisite rest ih =>
      obtain ⟨hhead, hrest⟩ := List.forall_mem_cons.mp hanswers
      generalize hanswer : answer prerequisite.key = result
      cases verdict prerequisite result with
      | met resolved hmet =>
          rw [unmetAmong_met hanswer hmet]
          exact ih hrest
      | unmet resolved hunmet => exact ⟨_, _, unmetAmong_unmet hanswer hunmet⟩
      | fatal error hfatal =>
          rw [hhead error hanswer] at hfatal
          cases hfatal
      | absorbed error habsorbed => exact ⟨_, _, unmetAmong_absorbed hanswer habsorbed⟩

/-- Answers may be replaced as long as those that do not fail fatally stay. -/
theorem unmetAmong_mono {other : String → Except FlagError Resolved}
    {prerequisites : List Prerequisite} {found : Option String × Nat}
    (hok : ∀ key resolved, answer key = .ok resolved → other key = .ok resolved)
    (habsorbed : ∀ key error, answer key = .error error → error.isFatal = false →
      other key = .error error)
    (hfound : unmetAmong answer prerequisites height = .ok found) :
    unmetAmong other prerequisites height = .ok found := by
  induction prerequisites generalizing height with
  | nil =>
      rw [unmetAmong_nil] at hfound ⊢
      exact hfound
  | cons prerequisite rest ih =>
      generalize hanswer : answer prerequisite.key = result
      cases verdict prerequisite result with
      | met resolved hmet =>
          rw [unmetAmong_met hanswer hmet] at hfound
          rw [unmetAmong_met (hok _ _ hanswer) hmet]
          exact ih hfound
      | unmet resolved hunmet =>
          rw [unmetAmong_unmet hanswer hunmet] at hfound
          rw [unmetAmong_unmet (hok _ _ hanswer) hunmet]
          exact hfound
      | fatal error hfatal =>
          rw [unmetAmong_fatal hanswer hfatal] at hfound
          cases hfound
      | absorbed error hharmless =>
          rw [unmetAmong_absorbed hanswer hharmless] at hfound
          rw [unmetAmong_absorbed (habsorbed _ _ hanswer hharmless) hharmless]
          exact hfound

/-- A prerequisite resolves to the variation it has to, and within a height. -/
def MetWithin (answer : String → Except FlagError Resolved) (height : Nat)
    (prerequisite : Prerequisite) : Prop :=
  ∃ resolved, answer prerequisite.key = .ok resolved ∧
    resolved.variationIndex = some prerequisite.variation ∧ resolved.height < height

/-- If no prerequisite is reported as unmet, all are met, and the height is
above that of each of them. -/
theorem metWithin_of_unmetAmong {prerequisites : List Prerequisite} {reached : Nat}
    (hnone : unmetAmong answer prerequisites height = .ok (none, reached)) :
    height ≤ reached ∧ ∀ prerequisite ∈ prerequisites, MetWithin answer reached prerequisite := by
  induction prerequisites generalizing height with
  | nil =>
      cases hnone
      exact ⟨Nat.le_refl _, by simp⟩
  | cons prerequisite rest ih =>
      generalize hanswer : answer prerequisite.key = result
      cases verdict prerequisite result with
      | met resolved hmet =>
          rw [unmetAmong_met hanswer hmet] at hnone
          obtain ⟨hle, hrest⟩ := ih hnone
          have hhead : MetWithin answer reached prerequisite :=
            ⟨resolved, hanswer, hmet, by omega⟩
          exact ⟨by omega, List.forall_mem_cons.mpr ⟨hhead, hrest⟩⟩
      | unmet resolved hunmet =>
          rw [unmetAmong_unmet hanswer hunmet] at hnone
          cases hnone
      | fatal error hfatal =>
          rw [unmetAmong_fatal hanswer hfatal] at hnone
          cases hnone
      | absorbed error habsorbed =>
          rw [unmetAmong_absorbed hanswer habsorbed] at hnone
          cases hnone

end UnmetAmong

theorem answerAfresh_missing (hmissing : e.lookup key = none) :
    e.answerAfresh context chain key = .error (.flagNotFound key) := by
  simp [answerAfresh, resolveAfresh, hmissing]

theorem answerAfresh_held (hheld : e.lookup key = some flag) :
    e.answerAfresh context chain key =
      (e.visitAfresh context chain flag).map fun answer =>
        ⟨answer.1.variationIndex, answer.2⟩ := by
  simp [answerAfresh, resolveAfresh, hheld]

theorem visitAfresh_cyclic (hmem : flag.key ∈ chain) :
    e.visitAfresh context chain flag = .error (.cyclicPrerequisite (chain ++ [flag.key])) := by
  rw [visitAfresh, if_pos hmem]

theorem visitAfresh_tooDeep (hmem : flag.key ∉ chain) (hdeep : e.maxDepth.toNat < chain.length) :
    e.visitAfresh context chain flag = .error (.depthExceeded flag.key e.maxDepth) := by
  rw [visitAfresh, if_neg hmem, if_pos hdeep]

theorem visitAfresh_disabled (hmem : flag.key ∉ chain) (hdeep : ¬ e.maxDepth.toNat < chain.length)
    (hdisabled : flag.enabled = false) :
    e.visitAfresh context chain flag = .ok (.ofDefault flag .off, 1) := by
  rw [visitAfresh, if_neg hmem, if_neg hdeep, steps_disabled hdisabled]

theorem visitAfresh_enabled (hmem : flag.key ∉ chain) (hdeep : ¬ e.maxDepth.toNat < chain.length)
    (henabled : flag.enabled = true) :
    e.visitAfresh context chain flag =
      (unmetAmong (e.answerAfresh context (chain ++ [flag.key])) flag.prerequisites 1).map
        fun found => (e.conclusion context flag found.1, found.2) := by
  have hlist := firstUnmet_known (e.answerAfresh context (chain ++ [flag.key])) flag.prerequisites 1 {}
  rw [visitAfresh, if_neg hmem, if_neg hdeep]
  change (e.steps context flag
    (fun key => .known (e.answerAfresh context (chain ++ [flag.key]) key)) {}).1 = _
  cases hfound : unmetAmong (e.answerAfresh context (chain ++ [flag.key])) flag.prerequisites 1 with
  | error error =>
      rw [hfound] at hlist
      rw [steps_failed henabled hlist]
      rfl
  | ok found =>
      rw [hfound] at hlist
      rw [steps_concluded henabled hlist]
      rfl

/-- The ways in which a visit comes to an end. -/
inductive Ending (e : Evaluator) (context : Context) (chain : List String) (flag : Flag) :
    Except FlagError (Evaluation × Nat) → Prop where
  | cyclic (hmem : flag.key ∈ chain) :
      Ending e context chain flag (.error (.cyclicPrerequisite (chain ++ [flag.key])))
  | tooDeep (hmem : flag.key ∉ chain) (hdeep : e.maxDepth.toNat < chain.length) :
      Ending e context chain flag (.error (.depthExceeded flag.key e.maxDepth))
  | disabled (hmem : flag.key ∉ chain) (hdeep : ¬ e.maxDepth.toNat < chain.length)
      (hdisabled : flag.enabled = false) : Ending e context chain flag (.ok (.ofDefault flag .off, 1))
  | failed (hmem : flag.key ∉ chain) (hdeep : ¬ e.maxDepth.toNat < chain.length)
      (henabled : flag.enabled = true) (error : FlagError)
      (hlist : unmetAmong (e.answerAfresh context (chain ++ [flag.key])) flag.prerequisites 1 =
        .error error) : Ending e context chain flag (.error error)
  | concluded (hmem : flag.key ∉ chain) (hdeep : ¬ e.maxDepth.toNat < chain.length)
      (henabled : flag.enabled = true) (unmet : Option String) (height : Nat)
      (hlist : unmetAmong (e.answerAfresh context (chain ++ [flag.key])) flag.prerequisites 1 =
        .ok (unmet, height)) :
      Ending e context chain flag (.ok (e.conclusion context flag unmet, height))

theorem ending (e : Evaluator) (context : Context) (chain : List String) (flag : Flag) :
    e.Ending context chain flag (e.visitAfresh context chain flag) := by
  by_cases hmem : flag.key ∈ chain
  · rw [visitAfresh_cyclic hmem]
    exact .cyclic hmem
  by_cases hdeep : e.maxDepth.toNat < chain.length
  · rw [visitAfresh_tooDeep hmem hdeep]
    exact .tooDeep hmem hdeep
  cases henabled : flag.enabled with
  | false =>
      rw [visitAfresh_disabled hmem hdeep henabled]
      exact .disabled hmem hdeep henabled
  | true =>
      rw [visitAfresh_enabled hmem hdeep henabled]
      cases hlist : unmetAmong (e.answerAfresh context (chain ++ [flag.key]))
          flag.prerequisites 1 with
      | error error => exact .failed hmem hdeep henabled error hlist
      | ok found => exact .concluded hmem hdeep henabled found.1 found.2 hlist

/-- A visit that gives an evaluation refuses neither the flag nor the chain, and
comes to an end in one of two ways. -/
theorem visitAfresh_ok_cases {evaluation : Evaluation} {height : Nat}
    (hvisit : e.visitAfresh context chain flag = .ok (evaluation, height)) :
    flag.key ∉ chain ∧ ¬ e.maxDepth.toNat < chain.length ∧
      ((flag.enabled = false ∧ evaluation = .ofDefault flag .off) ∨
        (flag.enabled = true ∧ ∃ unmet, evaluation = e.conclusion context flag unmet ∧
          unmetAmong (e.answerAfresh context (chain ++ [flag.key])) flag.prerequisites 1 =
            .ok (unmet, height))) := by
  have hending := e.ending context chain flag
  rw [hvisit] at hending
  cases hending with
  | disabled hmem hdeep hdisabled => exact ⟨hmem, hdeep, .inl ⟨hdisabled, rfl⟩⟩
  | concluded hmem hdeep henabled unmet height hlist =>
      exact ⟨hmem, hdeep, .inr ⟨henabled, unmet, rfl, hlist⟩⟩

/-- A visit that fails ends the whole evaluation. -/
theorem isFatal_of_visitAfresh {error : FlagError}
    (herror : e.visitAfresh context chain flag = .error error) : error.isFatal = true := by
  have hending := e.ending context chain flag
  rw [herror] at hending
  cases hending with
  | cyclic hmem => rfl
  | tooDeep hmem hdeep => rfl
  | failed hmem hdeep henabled error hlist => exact isFatal_of_unmetAmong hlist

/-- An answer about a prerequisite that is held comes from a visit. -/
theorem visitAfresh_of_answerAfresh {resolved : Resolved}
    (hanswer : e.answerAfresh context chain key = .ok resolved) :
    ∃ flag evaluation, e.lookup key = some flag ∧
      e.visitAfresh context chain flag = .ok (evaluation, resolved.height) ∧
      evaluation.variationIndex = resolved.variationIndex := by
  cases hheld : e.lookup key with
  | none =>
      rw [answerAfresh_missing hheld] at hanswer
      cases hanswer
  | some flag =>
      rw [answerAfresh_held hheld] at hanswer
      cases hvisit : e.visitAfresh context chain flag with
      | error error =>
          rw [hvisit] at hanswer
          cases hanswer
      | ok answer =>
          rw [hvisit] at hanswer
          cases hanswer
          exact ⟨flag, answer.1, rfl, hvisit, rfl⟩

/-- An answer that is only absorbed is that of a missing flag. -/
theorem lookup_of_answerAfresh {error : FlagError}
    (herror : e.answerAfresh context chain key = .error error) (habsorbed : error.isFatal = false) :
    e.lookup key = none := by
  cases hheld : e.lookup key with
  | none => rfl
  | some flag =>
      rw [answerAfresh_held hheld] at herror
      cases hvisit : e.visitAfresh context chain flag with
      | ok answer =>
          rw [hvisit] at herror
          cases herror
      | error other =>
          rw [hvisit] at herror
          cases herror
          rw [isFatal_of_visitAfresh hvisit] at habsorbed
          cases habsorbed

/-- A flag that has an evaluation behind a chain has the same behind a part of
the chain. -/
theorem visitAfresh_shorter {other : List String} {answer : Evaluation × Nat}
    (hpart : other ⊆ chain) (hlength : other.length ≤ chain.length)
    (hvisit : e.visitAfresh context chain flag = .ok answer) :
    e.visitAfresh context other flag = .ok answer := by
  induction hroom : e.maxDepth.toNat + 1 - chain.length generalizing chain other flag answer with
  | zero =>
      obtain ⟨_, hdeep, _⟩ := visitAfresh_ok_cases hvisit
      omega
  | succ room ih =>
      have hending := e.ending context chain flag
      rw [hvisit] at hending
      cases hending with
      | disabled hmem hdeep hdisabled =>
          exact visitAfresh_disabled (fun hother => hmem (hpart hother)) (by omega) hdisabled
      | concluded hmem hdeep henabled unmet height hlist =>
          have hpart' : other ++ [flag.key] ⊆ chain ++ [flag.key] :=
            List.append_subset.mpr ⟨List.subset_append_of_subset_left _ hpart,
              List.subset_append_right _ _⟩
          have hok : ∀ key resolved,
              e.answerAfresh context (chain ++ [flag.key]) key = .ok resolved →
                e.answerAfresh context (other ++ [flag.key]) key = .ok resolved := by
            intro key resolved hanswer
            obtain ⟨required, evaluation, hheld, hrequired, hindex⟩ :=
              visitAfresh_of_answerAfresh hanswer
            have hshorter := ih hpart' (by simpa using hlength) hrequired (by simp; omega)
            rw [answerAfresh_held hheld, hshorter]
            simp [Except.map, hindex]
          have habsorbed : ∀ key error,
              e.answerAfresh context (chain ++ [flag.key]) key = .error error →
                error.isFatal = false →
                e.answerAfresh context (other ++ [flag.key]) key = .error error := by
            intro key error herror habsorbed
            have hmissing := lookup_of_answerAfresh herror habsorbed
            rw [answerAfresh_missing hmissing] at herror ⊢
            exact herror
          rw [visitAfresh_enabled (fun hother => hmem (hpart hother)) (by omega) henabled,
            unmetAmong_mono hok habsorbed hlist]
          rfl

end Evaluator

end FeatureFlags
