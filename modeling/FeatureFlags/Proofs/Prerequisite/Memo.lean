import FeatureFlags.Proofs.Prerequisite.Afresh
import FeatureFlags.Proofs.Store

/-!
The memory of a walk is invisible. An answer is remembered from one place and
used in another, so the invariant speaks of all places at once: what is
remembered is what a visit afresh gives behind any chain without a remembered
key, as far as the bound on the depth allows. No flag that waits is remembered,
which is why the chain at hand always is such a chain.
-/

namespace FeatureFlags

/-- Errors that differ at most in the flag at which the depth was exceeded. -/
inductive FlagError.Alike : FlagError → FlagError → Prop where
  | refl (error : FlagError) : Alike error error
  | depth (key other : String) (maxDepth : UInt64) :
      Alike (.depthExceeded key maxDepth) (.depthExceeded other maxDepth)

theorem FlagError.Alike.isFatal_eq {error other : FlagError} (halike : error.Alike other) :
    error.isFatal = other.isFatal := by
  cases halike <;> rfl

namespace Evaluator

/-- Two outcomes with the same answer, or with alike errors. -/
inductive SameOutcome {α : Type} : Except FlagError α → Except FlagError α → Prop where
  | ok (answer : α) : SameOutcome (.ok answer) (.ok answer)
  | error {first second : FlagError} (halike : first.Alike second) :
      SameOutcome (.error first) (.error second)

theorem SameOutcome.map {α β : Type} {first second : Except FlagError α} (f : α → β)
    (hsame : SameOutcome first second) : SameOutcome (first.map f) (second.map f) := by
  cases hsame with
  | ok answer => exact .ok (f answer)
  | error halike => exact .error halike

theorem SameOutcome.eq_ok_iff {α : Type} {first second : Except FlagError α} {answer : α}
    (hsame : SameOutcome first second) : first = .ok answer ↔ second = .ok answer := by
  cases hsame <;> simp

/-- None of the keys is remembered. -/
def Clear (keys : List String) (resolved : Table Resolved) : Prop :=
  ∀ key ∈ keys, resolved.get? key = none

theorem clear_append {first second : List String} {resolved : Table Resolved} :
    Clear (first ++ second) resolved ↔ Clear first resolved ∧ Clear second resolved := by
  simp only [Clear, List.mem_append, or_imp, forall_and]

theorem clear_singleton {key : String} {resolved : Table Resolved} :
    Clear [key] resolved ↔ resolved.get? key = none := by
  simp [Clear]

/-- What was remembered stays remembered, possibly with another answer. -/
def Grows (first second : Walk) : Prop :=
  ∀ key, second.resolved.get? key = none → first.resolved.get? key = none

theorem preserved_grows : Preserved Grows where
  refl _ _ hclear := hclear
  trans hfirst hsecond key hclear := hfirst key (hsecond key hclear)
  asking _ _ _ hclear := hclear
  remembering walk key resolved other hclear := by
    simp only [Walk.remembering_resolved, Table.get?_insert] at hclear
    split at hclear
    · cases hclear
    · exact hclear

theorem Clear.of_grows {keys : List String} {first second : Walk} (hgrows : Grows first second)
    (hclear : Clear keys second.resolved) : Clear keys first.resolved :=
  fun key hmem => hgrows key (hclear key hmem)

/-- An outcome that depends on the bound alone: the answer if so many flags in
a row are allowed, and otherwise the error that there are too many. -/
structure Threshold {α : Type} (e : Evaluator) (flags : Nat) (answer : α)
    (outcome : Except FlagError α) : Prop where
  fits : flags ≤ e.maxDepth.toNat + 1 → outcome = .ok answer
  exceeds : e.maxDepth.toNat + 1 < flags →
    ∃ key, outcome = .error (.depthExceeded key e.maxDepth)

theorem Threshold.map {α β : Type} {e : Evaluator} {flags : Nat} {answer : α}
    {outcome : Except FlagError α} (f : α → β) (h : e.Threshold flags answer outcome) :
    e.Threshold flags (f answer) (outcome.map f) where
  fits hle := by rw [h.fits hle]; rfl
  exceeds hlt := by
    obtain ⟨key, hkey⟩ := h.exceeds hlt
    exact ⟨key, by rw [hkey]; rfl⟩

theorem Threshold.of_le {α : Type} {e : Evaluator} {flags : Nat} {answer : α}
    {outcome : Except FlagError α} (hle : flags ≤ e.maxDepth.toNat + 1)
    (houtcome : outcome = .ok answer) : e.Threshold flags answer outcome where
  fits _ := houtcome
  exceeds hlt := absurd hle (by omega)

theorem Threshold.of_lt {α : Type} {e : Evaluator} {flags : Nat} {answer : α}
    {outcome : Except FlagError α} {key : String} (hlt : e.maxDepth.toNat + 1 < flags)
    (houtcome : outcome = .error (.depthExceeded key e.maxDepth)) :
    e.Threshold flags answer outcome where
  fits hle := absurd hle (by omega)
  exceeds _ := ⟨key, houtcome⟩

section UnmetAmong

variable {e : Evaluator} {flags height : Nat} {answer : String → Except FlagError Resolved}
  {prerequisite : Prerequisite} {rest : List Prerequisite} {resolved : Resolved}

theorem Threshold.unmetAmong_unmet
    (hanswer : e.Threshold (flags + (resolved.height + 1)) resolved (answer prerequisite.key))
    (hstart : flags + height ≤ e.maxDepth.toNat + 1)
    (hunmet : resolved.variationIndex ≠ some prerequisite.variation) :
    e.Threshold (flags + max height (resolved.height + 1))
      (some prerequisite.key, max height (resolved.height + 1))
      (unmetAmong answer (prerequisite :: rest) height) := by
  by_cases hroom : flags + (resolved.height + 1) ≤ e.maxDepth.toNat + 1
  · exact .of_le (by omega) (Evaluator.unmetAmong_unmet (hanswer.fits hroom) hunmet)
  · obtain ⟨deep, hdeep⟩ := hanswer.exceeds (by omega)
    exact .of_lt (by omega) (unmetAmong_fatal hdeep rfl)

theorem Threshold.unmetAmong_met {found : Option String × Nat}
    (hanswer : e.Threshold (flags + (resolved.height + 1)) resolved (answer prerequisite.key))
    (hstart : flags + height ≤ e.maxDepth.toNat + 1)
    (hmet : resolved.variationIndex = some prerequisite.variation)
    (hreached : max height (resolved.height + 1) ≤ found.2)
    (hrest : flags + max height (resolved.height + 1) ≤ e.maxDepth.toNat + 1 →
      e.Threshold (flags + found.2) found
        (unmetAmong answer rest (max height (resolved.height + 1)))) :
    e.Threshold (flags + found.2) found (unmetAmong answer (prerequisite :: rest) height) := by
  by_cases hroom : flags + (resolved.height + 1) ≤ e.maxDepth.toNat + 1
  · rw [Evaluator.unmetAmong_met (hanswer.fits hroom) hmet]
    exact hrest (by omega)
  · obtain ⟨deep, hdeep⟩ := hanswer.exceeds (by omega)
    exact .of_lt (by omega) (unmetAmong_fatal hdeep rfl)

end UnmetAmong

/-- Every remembered answer is the answer afresh, behind every chain without a
remembered key. -/
def Faithful (e : Evaluator) (context : Context) (resolved : Table Resolved) : Prop :=
  ∀ key answer, resolved.get? key = some answer → ∀ chain, Clear chain resolved →
    e.Threshold (chain.length + answer.height) answer (e.answerAfresh context chain key)

variable {e : Evaluator} {context : Context}

theorem faithful_empty : e.Faithful context Table.empty := by
  intro key answer hmemo
  rw [Table.get?_empty] at hmemo
  cases hmemo

/-- One more answer may be remembered if it holds behind every chain without it
and without a remembered key. -/
theorem Faithful.insert {resolved : Table Resolved} {key : String} {answer : Resolved}
    (hfaithful : e.Faithful context resolved) (hnew : resolved.get? key = none)
    (hanswer : ∀ chain, key ∉ chain → Clear chain resolved →
      e.Threshold (chain.length + answer.height) answer (e.answerAfresh context chain key)) :
    e.Faithful context (resolved.insert key answer) := by
  intro other found hmemo chain hclear
  have hboth : ∀ waiting ∈ chain, waiting ≠ key ∧ resolved.get? waiting = none := by
    intro waiting hmem
    have hnone := hclear waiting hmem
    rw [Table.get?_insert] at hnone
    by_cases heq : waiting = key
    · simp [heq] at hnone
    · exact ⟨heq, by simpa [heq] using hnone⟩
  have hold : Clear chain resolved := fun waiting hmem => (hboth waiting hmem).2
  rw [Table.get?_insert] at hmemo
  by_cases heq : other = key
  · subst heq
    rw [if_pos rfl] at hmemo
    cases hmemo
    exact hanswer chain (fun hmem => (hboth other hmem).1 rfl) hold
  · rw [if_neg heq] at hmemo
    exact hfaithful other found hmemo chain hold

/-- What is remembered about a prerequisite, behind a chain and the flag that
names it. -/
theorem Faithful.below {resolved : Table Resolved} {key asked : String} {answer : Resolved}
    (hfaithful : e.Faithful context resolved) (hmemo : resolved.get? asked = some answer)
    (chain : List String) (hclear : Clear (chain ++ [key]) resolved) :
    e.Threshold (chain.length + (answer.height + 1)) answer
      (e.answerAfresh context (chain ++ [key]) asked) := by
  have hthreshold := hfaithful asked answer hmemo (chain ++ [key]) hclear
  have hlength : (chain ++ [key]).length + answer.height = chain.length + (answer.height + 1) := by
    rw [List.length_append, List.length_singleton]
    omega
  rw [hlength] at hthreshold
  exact hthreshold

/-! ### What a visit, a resolution and a list of prerequisites come to -/

/-- An answer of a visit, together with what is remembered afterwards. -/
structure Visited (e : Evaluator) (context : Context) (chain : List String) (flag : Flag)
    (answer : Evaluation × Nat) (resolved : Table Resolved) : Prop where
  faithful : e.Faithful context resolved
  clear : Clear (chain ++ [flag.key]) resolved
  fresh : flag.key ∉ chain
  fits : chain.length + answer.2 ≤ e.maxDepth.toNat + 1
  again : ∀ other, flag.key ∉ other → Clear other resolved →
    e.Threshold (other.length + answer.2) answer (e.visitAfresh context other flag)

/-- What a visit may come to. -/
def VisitOutcome (e : Evaluator) (context : Context) (chain : List String) (flag : Flag) :
    Except FlagError (Evaluation × Nat) × Walk → Prop
  | (.error error, _) =>
      ∃ other, e.visitAfresh context chain flag = .error other ∧ error.Alike other
  | (.ok answer, next) => e.Visited context chain flag answer next.resolved

/-- What the resolution of a prerequisite of the last flag in a chain may come
to. A missing flag leaves everything as it was. -/
def ResolveOutcome (e : Evaluator) (context : Context) (chain : List String) (key : String) :
    Except FlagError Resolved × Walk → Prop
  | (.error error, next) =>
      (∃ other, e.answerAfresh context chain key = .error other ∧ error.Alike other) ∧
        (error.isFatal = false →
          e.lookup key = none ∧ e.Faithful context next.resolved ∧ Clear chain next.resolved)
  | (.ok answer, next) =>
      e.Faithful context next.resolved ∧ Clear chain next.resolved ∧
        chain.length + answer.height ≤ e.maxDepth.toNat + 1 ∧
        next.resolved.get? key = some answer

/-- An answer about the prerequisites of a flag, from a height on, together
with what is remembered afterwards. -/
structure Listed (e : Evaluator) (context : Context) (chain : List String) (key : String)
    (prerequisites : List Prerequisite) (height : Nat) (found : Option String × Nat)
    (resolved : Table Resolved) : Prop where
  faithful : e.Faithful context resolved
  clear : Clear (chain ++ [key]) resolved
  grown : height ≤ found.2
  fits : chain.length + found.2 ≤ e.maxDepth.toNat + 1
  again : ∀ other, Clear (other ++ [key]) resolved →
    other.length + height ≤ e.maxDepth.toNat + 1 →
    e.Threshold (other.length + found.2) found
      (unmetAmong (e.answerAfresh context (other ++ [key])) prerequisites height)

/-- What going through prerequisites may come to. -/
def ListOutcome (e : Evaluator) (context : Context) (chain : List String) (key : String)
    (prerequisites : List Prerequisite) (height : Nat) :
    Except FlagError (Option String × Nat) × Walk → Prop
  | (.error error, _) =>
      ∃ other, unmetAmong (e.answerAfresh context (chain ++ [key])) prerequisites height =
        .error other ∧ error.Alike other
  | (.ok found, next) => e.Listed context chain key prerequisites height found next.resolved

/-! ### One step of the induction for each kind of step -/

section Resolve

variable {chain : List String}

/-- The resolution of a prerequisite, given what visits behind the chain come
to. -/
theorem resolve_outcome (hkeyed : e.WellKeyed) (hfits : e.DepthFits)
    (hvisit : ∀ flag walk, e.Faithful context walk.resolved →
      Clear (chain ++ [flag.key]) walk.resolved →
      e.VisitOutcome context chain flag (e.visit context chain flag walk))
    (key : String) {walk : Walk} (hfaithful : e.Faithful context walk.resolved)
    (hclear : Clear chain walk.resolved) :
    e.ResolveOutcome context chain key
      (e.resolve chain.length (e.visit context chain) key walk) := by
  cases hmemo : walk.resolved.get? key with
  | some answer =>
      have hthreshold := hfaithful key answer hmemo chain hclear
      rw [resolve_remembered hmemo]
      by_cases hhigh : e.tooHigh chain.length answer.height = true
      · obtain ⟨other, hother⟩ := hthreshold.exceeds ((tooHigh_iff hfits _ _).mp hhigh)
        rw [if_pos hhigh]
        refine ⟨⟨_, hother, .depth key other e.maxDepth⟩, fun habsorbed => ?_⟩
        cases habsorbed
      · have hle : chain.length + answer.height ≤ e.maxDepth.toNat + 1 := by
          rw [tooHigh_iff hfits] at hhigh
          omega
        rw [if_neg hhigh]
        exact ⟨hfaithful, hclear, hle, hmemo⟩
  | none =>
      cases hheld : e.lookup key with
      | none =>
          rw [resolve_missing hmemo hheld]
          exact ⟨⟨_, answerAfresh_missing hheld, .refl _⟩, fun _ => ⟨hheld, hfaithful, hclear⟩⟩
      | some flag =>
          have hkey : flag.key = key := hkeyed key flag hheld
          have hwaiting : Clear (chain ++ [flag.key]) (walk.asking key).resolved :=
            clear_append.mpr ⟨hclear, clear_singleton.mpr (by rw [hkey]; exact hmemo)⟩
          have houtcome := hvisit flag (walk.asking key) hfaithful hwaiting
          cases hrun : e.visit context chain flag (walk.asking key) with
          | mk result next =>
              rw [hrun] at houtcome
              cases result with
              | error error =>
                  obtain ⟨other, hother, halike⟩ := houtcome
                  have hfatal : error.isFatal = true :=
                    halike.isFatal_eq.trans (isFatal_of_visitAfresh hother)
                  rw [resolve_failed hmemo hheld hrun]
                  refine ⟨⟨other, by rw [answerAfresh_held hheld, hother]; rfl, halike⟩, ?_⟩
                  intro habsorbed
                  rw [hfatal] at habsorbed
                  cases habsorbed
              | ok answer =>
                  obtain ⟨hchain, hown⟩ := clear_append.mp houtcome.clear
                  have hnew : next.resolved.get? key = none := by
                    rw [← hkey]
                    exact clear_singleton.mp hown
                  have hsame (other : List String) (hmem : key ∉ other)
                      (hother : Clear other next.resolved) :
                      e.Threshold (other.length + answer.2)
                        ⟨answer.1.variationIndex, answer.2⟩ (e.answerAfresh context other key) := by
                    rw [answerAfresh_held hheld]
                    exact (houtcome.again other (hkey ▸ hmem) hother).map
                      fun answer => (⟨answer.1.variationIndex, answer.2⟩ : Resolved)
                  rw [resolve_visited hmemo hheld hrun]
                  refine ⟨houtcome.faithful.insert hnew hsame, ?_, houtcome.fits, ?_⟩
                  · intro waiting hmem
                    have hne : waiting ≠ key := by
                      intro heq
                      exact houtcome.fresh (hkey ▸ heq ▸ hmem)
                    rw [Walk.remembering_resolved, Table.get?_insert, if_neg hne]
                    exact hchain waiting hmem
                  · exact next.get?_remembering_self key _

end Resolve

section List

variable {chain : List String} {key : String}

/-- The way through prerequisites, given what resolving one of them comes to. -/
theorem firstUnmet_outcome {resolve : String → Walk.Step Resolved}
    (hgrows : ∀ key walk, Grows walk (resolve key walk).2)
    (hresolve : ∀ asked walk, e.Faithful context walk.resolved →
      Clear (chain ++ [key]) walk.resolved →
      e.ResolveOutcome context (chain ++ [key]) asked (resolve asked walk))
    (prerequisites : List Prerequisite) {height : Nat} {walk : Walk}
    (hfaithful : e.Faithful context walk.resolved) (hclear : Clear (chain ++ [key]) walk.resolved)
    (hheight : chain.length + height ≤ e.maxDepth.toNat + 1) :
    e.ListOutcome context chain key prerequisites height
      (firstUnmet resolve prerequisites height walk) := by
  induction prerequisites generalizing height walk with
  | nil =>
      exact ⟨hfaithful, hclear, Nat.le_refl _, hheight, fun _ _ hstart => .of_le hstart rfl⟩
  | cons prerequisite rest ih =>
      have houtcome := hresolve prerequisite.key walk hfaithful hclear
      cases hrun : resolve prerequisite.key walk with
      | mk result next =>
          rw [hrun] at houtcome
          cases verdict prerequisite result with
          | met answer hmet =>
              obtain ⟨hfaithful', hclear', hle, hmemo⟩ := houtcome
              have hnext : chain.length + max height (answer.height + 1) ≤ e.maxDepth.toNat + 1 := by
                rw [List.length_append, List.length_singleton] at hle
                omega
              have hrest := ih hfaithful' hclear' hnext
              have hgrown := firstUnmet_preserves preserved_grows hgrows rest
                (max height (answer.height + 1)) next
              have hhere := (hfaithful'.below hmemo chain hclear').fits (by omega)
              rw [firstUnmet_met hrun hmet]
              cases hlist : firstUnmet resolve rest (max height (answer.height + 1)) next with
              | mk result final =>
                  rw [hlist] at hrest hgrown
                  cases result with
                  | error error =>
                      obtain ⟨other, hother, halike⟩ := hrest
                      exact ⟨other, (unmetAmong_met hhere hmet).trans hother, halike⟩
                  | ok found =>
                      have hreached := hrest.grown
                      exact ⟨hrest.faithful, hrest.clear, by omega, hrest.fits,
                        fun other hother hstart =>
                          (hfaithful'.below hmemo other (hother.of_grows hgrown)).unmetAmong_met
                            hstart hmet hreached (hrest.again other hother)⟩
          | unmet answer hunmet =>
              obtain ⟨hfaithful', hclear', hle, hmemo⟩ := houtcome
              have hnext : chain.length + max height (answer.height + 1) ≤ e.maxDepth.toNat + 1 := by
                rw [List.length_append, List.length_singleton] at hle
                omega
              rw [firstUnmet_unmet hrun hunmet]
              exact ⟨hfaithful', hclear', by omega, hnext, fun other hother hstart =>
                (hfaithful'.below hmemo other hother).unmetAmong_unmet hstart hunmet⟩
          | fatal error hfatal =>
              obtain ⟨⟨other, hother, halike⟩, _⟩ := houtcome
              rw [firstUnmet_fatal hrun hfatal]
              exact ⟨other, unmetAmong_fatal hother (halike.isFatal_eq ▸ hfatal), halike⟩
          | absorbed error habsorbed =>
              obtain ⟨hmissing, hfaithful', hclear'⟩ := houtcome.2 habsorbed
              rw [firstUnmet_absorbed hrun habsorbed]
              exact ⟨hfaithful', hclear', Nat.le_refl _, hheight, fun _ _ hstart =>
                .of_le hstart (unmetAmong_absorbed (answerAfresh_missing hmissing) rfl)⟩

end List

section Visit

/-- The steps of an enabled or disabled flag that is not refused, given what
resolving a prerequisite comes to. -/
theorem steps_outcome {chain : List String} {flag : Flag} {resolve : String → Walk.Step Resolved}
    (hmem : flag.key ∉ chain) (hdeep : ¬ e.maxDepth.toNat < chain.length)
    (hgrows : ∀ key walk, Grows walk (resolve key walk).2)
    (hresolve : ∀ asked walk, e.Faithful context walk.resolved →
      Clear (chain ++ [flag.key]) walk.resolved →
      e.ResolveOutcome context (chain ++ [flag.key]) asked (resolve asked walk))
    {walk : Walk} (hfaithful : e.Faithful context walk.resolved)
    (hclear : Clear (chain ++ [flag.key]) walk.resolved) :
    e.VisitOutcome context chain flag (e.steps context flag resolve walk) := by
  cases henabled : flag.enabled with
  | false =>
      rw [steps_disabled henabled]
      refine ⟨hfaithful, hclear, hmem, by simpa using hdeep, fun other hother _ => ?_⟩
      by_cases hroom : e.maxDepth.toNat < other.length
      · exact .of_lt (by simpa using hroom) (visitAfresh_tooDeep hother hroom)
      · exact .of_le (by simpa using hroom) (visitAfresh_disabled hother hroom henabled)
  | true =>
      have hstart : chain.length + 1 ≤ e.maxDepth.toNat + 1 := by omega
      have houtcome := firstUnmet_outcome hgrows hresolve flag.prerequisites hfaithful hclear hstart
      cases hlist : firstUnmet resolve flag.prerequisites 1 walk with
      | mk result next =>
          rw [hlist] at houtcome
          cases result with
          | error error =>
              obtain ⟨other, hother, halike⟩ := houtcome
              rw [steps_failed henabled hlist]
              exact ⟨other, by rw [visitAfresh_enabled hmem hdeep henabled, hother]; rfl, halike⟩
          | ok found =>
              rw [steps_concluded henabled hlist]
              have hreached := houtcome.grown
              refine ⟨houtcome.faithful, houtcome.clear, hmem, houtcome.fits, ?_⟩
              intro other hother hclear'
              by_cases hroom : e.maxDepth.toNat < other.length
              · exact .of_lt (by simp only; omega) (visitAfresh_tooDeep hother hroom)
              · have hown := (clear_append.mp houtcome.clear).2
                have hanswer := houtcome.again other (clear_append.mpr ⟨hclear', hown⟩) (by omega)
                rw [visitAfresh_enabled hother hroom henabled]
                exact hanswer.map fun found => (e.conclusion context flag found.1, found.2)

/-- A visit with a faithful memory does what a visit afresh does, and leaves
the memory faithful. -/
theorem visit_outcome (hkeyed : e.WellKeyed) (hfits : e.DepthFits) (chain : List String)
    (flag : Flag) (walk : Walk) (hfaithful : e.Faithful context walk.resolved)
    (hclear : Clear (chain ++ [flag.key]) walk.resolved) :
    e.VisitOutcome context chain flag (e.visit context chain flag walk) := by
  induction chain, flag, walk using visit.induct e with
  | case1 chain flag walk hmem =>
      rw [visit_cyclic hmem]
      exact ⟨_, visitAfresh_cyclic hmem, .refl _⟩
  | case2 chain flag walk hmem hdeep =>
      rw [visit_tooDeep hmem hdeep]
      exact ⟨_, visitAfresh_tooDeep hmem hdeep, .refl _⟩
  | case3 chain flag walk hmem hdeep ih =>
      have hlength : chain.length + 1 = (chain ++ [flag.key]).length := by simp
      have hgrows (prerequisite : Flag) (walk : Walk) :
          Grows walk (e.visit context (chain ++ [flag.key]) prerequisite walk).2 :=
        visit_preserves preserved_grows _ prerequisite walk
      rw [visit_steps hmem hdeep, hlength]
      exact steps_outcome hmem hdeep (resolve_preserves preserved_grows hgrows)
        (fun asked _ => resolve_outcome hkeyed hfits ih asked) hfaithful hclear

/-- With nothing remembered yet, a visit and a visit afresh give the same. -/
theorem visit_sameOutcome (hkeyed : e.WellKeyed) (hfits : e.DepthFits) (flag : Flag)
    {walk : Walk} (hempty : walk.resolved = Table.empty) :
    SameOutcome (e.visit context [] flag walk).1 (e.visitAfresh context [] flag) := by
  have hfaithful : e.Faithful context walk.resolved := hempty ▸ faithful_empty
  have hclear : Clear [flag.key] walk.resolved := by
    rw [hempty]
    exact clear_singleton.mpr rfl
  have houtcome := visit_outcome hkeyed hfits [] flag walk hfaithful hclear
  cases hrun : e.visit context [] flag walk with
  | mk result next =>
      rw [hrun] at houtcome
      cases result with
      | error error =>
          obtain ⟨other, hother, halike⟩ := houtcome
          rw [hother]
          exact .error halike
      | ok answer =>
          have hclear' := (clear_append.mp houtcome.clear).1
          have hagain := (houtcome.again [] houtcome.fresh hclear').fits houtcome.fits
          rw [hagain]
          exact .ok answer

end Visit

/-- An evaluation gives the same with a memory and without: the same evaluation
or the same error, which may name another flag where the depth is exceeded. -/
theorem evaluate_sameOutcome (hkeyed : e.WellKeyed) (hfits : e.DepthFits) (context : Context)
    (key : String) :
    SameOutcome (e.evaluate context key).result (e.evaluateAfresh context key) := by
  cases hheld : e.lookup key with
  | none =>
      simp only [evaluate, walkFrom_missing hheld, evaluateAfresh, hheld, Outcome.ofStep]
      exact .error (.refl _)
  | some flag =>
      simp only [evaluate, walkFrom_held hheld, evaluateAfresh, hheld, Outcome.ofStep,
        evaluateFlagAfresh]
      exact (visit_sameOutcome hkeyed hfits flag rfl).map _

theorem evaluateFlag_sameOutcome (hkeyed : e.WellKeyed) (hfits : e.DepthFits) (context : Context)
    (flag : Flag) :
    SameOutcome (e.evaluateFlag context flag).result (e.evaluateFlagAfresh context flag) := by
  simp only [evaluateFlag, Outcome.ofStep, evaluateFlagAfresh]
  exact (visit_sameOutcome hkeyed hfits flag rfl).map _

/-- An evaluation succeeds just if the visit afresh does. -/
theorem evaluate_eq_ok_iff (hkeyed : e.WellKeyed) (hfits : e.DepthFits) {key : String}
    {evaluation : Evaluation} :
    (e.evaluate context key).result = .ok evaluation ↔
      ∃ flag height, e.lookup key = some flag ∧
        e.visitAfresh context [] flag = .ok (evaluation, height) := by
  have hafresh : e.evaluateAfresh context key = .ok evaluation ↔
      ∃ flag height, e.lookup key = some flag ∧
        e.visitAfresh context [] flag = .ok (evaluation, height) := by
    cases hheld : e.lookup key with
    | none => simp [evaluateAfresh, hheld]
    | some flag =>
        cases hvisit : e.visitAfresh context [] flag with
        | error error => simp [evaluateAfresh, hheld, evaluateFlagAfresh, hvisit, Except.map]
        | ok answer =>
            obtain ⟨found, height⟩ := answer
            simp [evaluateAfresh, hheld, evaluateFlagAfresh, hvisit, Except.map]
  rw [← hafresh]
  exact (evaluate_sameOutcome hkeyed hfits context key).eq_ok_iff

/-- The memory is invisible: for every flag of a well keyed store, and for every
flag that is at hand, the evaluation is the one of the recursion that remembers
nothing. -/
theorem memory_invisible (hkeyed : e.WellKeyed) (hfits : e.DepthFits) (context : Context) :
    (∀ key, SameOutcome (e.evaluate context key).result (e.evaluateAfresh context key)) ∧
      ∀ flag, SameOutcome (e.evaluateFlag context flag).result (e.evaluateFlagAfresh context flag) :=
  ⟨evaluate_sameOutcome hkeyed hfits context, evaluateFlag_sameOutcome hkeyed hfits context⟩

end Evaluator

/-- A flag with one variant, which it serves whenever its prerequisites are met. -/
def Flag.steady (key : String) (prerequisites : List Prerequisite) : Flag where
  key
  enabled := true
  defaultValue := .bool false
  variants := [⟨"on", .bool true⟩]
  rules := [{ variation := 0 }]
  prerequisites

namespace Evaluator

def diamondFlags : List Flag :=
  [.steady "top" [⟨"left", 0⟩, ⟨"right", 0⟩], .steady "left" [⟨"base", 0⟩],
    .steady "right" [⟨"base", 0⟩], .steady "base" []]

/-- Two flags share a prerequisite, and the chains to it are as long as the
bound allows. -/
def diamond : Evaluator where
  lookup := (Store.ofFlags diamondFlags).get?
  maxDepth := 2

theorem wellKeyed_diamond : diamond.WellKeyed :=
  Store.wellKeyed_ofFlags _

theorem depthFits_diamond : diamond.DepthFits := by
  decide

theorem memory_invisible_in_diamond :
    diamond.WellKeyed ∧ diamond.DepthFits ∧
      SameOutcome (diamond.evaluate { key := "user" } "top").result
        (diamond.evaluateAfresh { key := "user" } "top") :=
  ⟨wellKeyed_diamond, depthFits_diamond,
    (memory_invisible wellKeyed_diamond depthFits_diamond { key := "user" }).1 "top"⟩

end Evaluator

end FeatureFlags
