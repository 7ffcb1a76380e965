import FeatureFlags.Proofs.Prerequisite.Memory
import Mathlib.Data.List.Nodup
import Mathlib.Data.List.Perm.Subperm

/-!
The walk with its chain held on one stack. Every call reads and changes the same
stack: the visit of a flag puts the flag on top and takes the top off again when
the flag's steps are over, however they ended. A run is finite, and its trace has
every call that was made with the stack that the call found. The stack is balanced,
so a run behind a stack comes to what the walk behind a chain comes to. From there
on a call may be given its chain.
-/

namespace FeatureFlags

namespace Evaluator

/-- A walk with the stack of flags that wait. -/
@[ext]
structure Trail where
  stack : List String := []
  walk : Walk := {}

namespace Trail

def pushing (trail : Trail) (key : String) : Trail :=
  { trail with stack := trail.stack ++ [key] }

def popping (trail : Trail) : Trail :=
  { trail with stack := trail.stack.dropLast }

def asking (trail : Trail) (key : String) : Trail :=
  { trail with walk := trail.walk.asking key }

def remembering (trail : Trail) (key : String) (resolved : Resolved) : Trail :=
  { trail with walk := trail.walk.remembering key resolved }

end Trail

/-- What there is to do in a walk. -/
inductive Task where
  /-- Fetch the flag of a key and visit it. -/
  | key (key : String)
  /-- Visit a flag. -/
  | flag (flag : Flag)
  /-- Go through the steps of a flag that waits on top of the stack. -/
  | steps (flag : Flag)
  /-- Go through the rest of its prerequisites, from a height on. -/
  | prerequisites (rest : List Prerequisite) (height : Nat)
  /-- Resolve one of them. -/
  | prerequisite (key : String)

/-- What a task answers when it succeeds. -/
abbrev Task.Answer : Task → Type
  | .key _ | .flag _ | .steps _ => Evaluation × Nat
  | .prerequisites _ _ => Option String × Nat
  | .prerequisite _ => Resolved

/-- A call, with the stack that it found. -/
structure Arrival where
  task : Task
  stack : List String

/-- A task runs to its end: from a trail, through the calls of a trace, to its result
and the trail that it leaves. The way through a list is no call of its own. -/
inductive Runs (e : Evaluator) (context : Context) :
    (task : Task) → Trail → List Arrival → Except FlagError task.Answer → Trail → Prop where
  | missing {key : String} {trail : Trail} (hmissing : e.lookup key = none) :
      Runs e context (.key key) trail [⟨.key key, trail.stack⟩] (.error (.flagNotFound key))
        (trail.asking key)
  | held {key : String} {flag : Flag} {trail next : Trail} {trace : List Arrival}
      {result : Except FlagError (Evaluation × Nat)} (hheld : e.lookup key = some flag)
      (hvisit : Runs e context (.flag flag) (trail.asking key) trace result next) :
      Runs e context (.key key) trail (⟨.key key, trail.stack⟩ :: trace) result next
  | cyclic {flag : Flag} {trail : Trail} (hmem : flag.key ∈ trail.stack) :
      Runs e context (.flag flag) trail [⟨.flag flag, trail.stack⟩]
        (.error (.cyclicPrerequisite (trail.stack ++ [flag.key]))) trail
  | tooDeep {flag : Flag} {trail : Trail} (hmem : flag.key ∉ trail.stack)
      (hdeep : e.maxDepth.toNat < trail.stack.length) :
      Runs e context (.flag flag) trail [⟨.flag flag, trail.stack⟩]
        (.error (.depthExceeded flag.key e.maxDepth)) trail
  | visited {flag : Flag} {trail next : Trail} {trace : List Arrival}
      {result : Except FlagError (Evaluation × Nat)} (hmem : flag.key ∉ trail.stack)
      (hroom : ¬ e.maxDepth.toNat < trail.stack.length)
      (hsteps : Runs e context (.steps flag) (trail.pushing flag.key) trace result next) :
      Runs e context (.flag flag) trail (⟨.flag flag, trail.stack⟩ :: trace) result next.popping
  | disabled {flag : Flag} {trail : Trail} (hdisabled : flag.enabled = false) :
      Runs e context (.steps flag) trail [⟨.steps flag, trail.stack⟩]
        (.ok (.ofDefault flag .off, 1)) trail
  | concluded {flag : Flag} {trail next : Trail} {trace : List Arrival} {unmet : Option String}
      {height : Nat} (henabled : flag.enabled = true)
      (hlist : Runs e context (.prerequisites flag.prerequisites 1) trail trace
        (.ok (unmet, height)) next) :
      Runs e context (.steps flag) trail (⟨.steps flag, trail.stack⟩ :: trace)
        (.ok (e.conclusion context flag unmet, height)) next
  | failed {flag : Flag} {trail next : Trail} {trace : List Arrival} {error : FlagError}
      (henabled : flag.enabled = true)
      (hlist : Runs e context (.prerequisites flag.prerequisites 1) trail trace
        (.error error) next) :
      Runs e context (.steps flag) trail (⟨.steps flag, trail.stack⟩ :: trace)
        (.error error) next
  | nil {height : Nat} {trail : Trail} :
      Runs e context (.prerequisites [] height) trail [] (.ok (none, height)) trail
  | met {prerequisite : Prerequisite} {rest : List Prerequisite} {height : Nat}
      {trail middle next : Trail} {trace more : List Arrival} {answer : Resolved}
      {result : Except FlagError (Option String × Nat)}
      (hhead : Runs e context (.prerequisite prerequisite.key) trail trace (.ok answer) middle)
      (hmet : answer.variationIndex = some prerequisite.variation)
      (hrest : Runs e context (.prerequisites rest (max height (answer.height + 1))) middle more
        result next) :
      Runs e context (.prerequisites (prerequisite :: rest) height) trail (trace ++ more) result
        next
  | unmet {prerequisite : Prerequisite} {rest : List Prerequisite} {height : Nat}
      {trail next : Trail} {trace : List Arrival} {answer : Resolved}
      (hhead : Runs e context (.prerequisite prerequisite.key) trail trace (.ok answer) next)
      (hunmet : answer.variationIndex ≠ some prerequisite.variation) :
      Runs e context (.prerequisites (prerequisite :: rest) height) trail trace
        (.ok (some prerequisite.key, max height (answer.height + 1))) next
  | fatal {prerequisite : Prerequisite} {rest : List Prerequisite} {height : Nat}
      {trail next : Trail} {trace : List Arrival} {error : FlagError}
      (hhead : Runs e context (.prerequisite prerequisite.key) trail trace (.error error) next)
      (hfatal : error.isFatal = true) :
      Runs e context (.prerequisites (prerequisite :: rest) height) trail trace (.error error) next
  | absorbed {prerequisite : Prerequisite} {rest : List Prerequisite} {height : Nat}
      {trail next : Trail} {trace : List Arrival} {error : FlagError}
      (hhead : Runs e context (.prerequisite prerequisite.key) trail trace (.error error) next)
      (habsorbed : error.isFatal = false) :
      Runs e context (.prerequisites (prerequisite :: rest) height) trail trace
        (.ok (some prerequisite.key, height)) next
  | remembered {key : String} {trail : Trail} {answer : Resolved}
      (hmemo : trail.walk.resolved.get? key = some answer)
      (hroom : e.tooHigh trail.stack.length answer.height = false) :
      Runs e context (.prerequisite key) trail [⟨.prerequisite key, trail.stack⟩] (.ok answer)
        trail
  | tooHigh {key : String} {trail : Trail} {answer : Resolved}
      (hmemo : trail.walk.resolved.get? key = some answer)
      (hhigh : e.tooHigh trail.stack.length answer.height = true) :
      Runs e context (.prerequisite key) trail [⟨.prerequisite key, trail.stack⟩]
        (.error (.depthExceeded key e.maxDepth)) trail
  | resolved {key : String} {trail next : Trail} {trace : List Arrival} {evaluation : Evaluation}
      {height : Nat} (hmemo : trail.walk.resolved.get? key = none)
      (hkey : Runs e context (.key key) trail trace (.ok (evaluation, height)) next) :
      Runs e context (.prerequisite key) trail (⟨.prerequisite key, trail.stack⟩ :: trace)
        (.ok ⟨evaluation.variationIndex, height⟩)
        (next.remembering key ⟨evaluation.variationIndex, height⟩)
  | unresolved {key : String} {trail next : Trail} {trace : List Arrival} {error : FlagError}
      (hmemo : trail.walk.resolved.get? key = none)
      (hkey : Runs e context (.key key) trail trace (.error error) next) :
      Runs e context (.prerequisite key) trail (⟨.prerequisite key, trail.stack⟩ :: trace)
        (.error error) next

section Behind

variable {e : Evaluator} {context : Context} {chain : List String} {key : String} {flag : Flag}
  {walk next : Walk}

theorem visit_behind (hmem : flag.key ∉ chain) (hroom : ¬ e.maxDepth.toNat < chain.length) :
    e.visit context chain flag walk =
      e.steps context flag (e.resolveBehind context (chain ++ [flag.key])) walk := by
  rw [visit_steps hmem hroom, resolveBehind, List.length_append, List.length_singleton]

end Behind

/-- What a task comes to where the chain is given. -/
def perform (e : Evaluator) (context : Context) (chain : List String) :
    (task : Task) → Walk.Step task.Answer
  | .key key => e.visitKey (e.visit context chain) key
  | .flag flag => e.visit context chain flag
  | .steps flag => e.steps context flag (e.resolveBehind context chain)
  | .prerequisites rest height => firstUnmet (e.resolveBehind context chain) rest height
  | .prerequisite key => e.resolveBehind context chain key

variable {e : Evaluator} {context : Context} {task : Task} {trail next : Trail}
  {trace : List Arrival} {result : Except FlagError task.Answer}

/-! ### A run is balanced and comes to what the walk comes to -/

/-- The stack is left as it was found. -/
theorem Runs.balanced (hruns : e.Runs context task trail trace result next) :
    next.stack = trail.stack := by
  induction hruns with
  | missing hmissing => rfl
  | held hheld hvisit ih => exact ih
  | cyclic hmem => rfl
  | tooDeep hmem hdeep => rfl
  | visited hmem hroom hsteps ih =>
      rw [Trail.popping, ih]
      exact List.dropLast_concat
  | disabled hdisabled => rfl
  | concluded henabled hlist ih => exact ih
  | failed henabled hlist ih => exact ih
  | nil => rfl
  | met hhead hmet hrest ihhead ihrest => exact ihrest.trans ihhead
  | unmet hhead hunmet ih => exact ih
  | fatal hhead hfatal ih => exact ih
  | absorbed hhead habsorbed ih => exact ih
  | remembered hmemo hroom => rfl
  | tooHigh hmemo hhigh => rfl
  | resolved hmemo hkey ih => exact ih
  | unresolved hmemo hkey ih => exact ih

/-- A run behind a stack comes to what the walk comes to behind a chain. -/
theorem Runs.perform_eq (hruns : e.Runs context task trail trace result next) :
    e.perform context trail.stack task trail.walk = (result, next.walk) := by
  induction hruns with
  | missing hmissing => exact visitKey_missing hmissing
  | held hheld hvisit ih => exact (visitKey_held hheld).trans ih
  | cyclic hmem => exact visit_cyclic hmem
  | tooDeep hmem hdeep => exact visit_tooDeep hmem hdeep
  | visited hmem hroom hsteps ih => exact (visit_behind hmem hroom).trans ih
  | disabled hdisabled => exact steps_disabled hdisabled
  | concluded henabled hlist ih => exact steps_concluded henabled ih
  | failed henabled hlist ih => exact steps_failed henabled ih
  | nil => rfl
  | met hhead hmet hrest ihhead ihrest =>
      rw [hhead.balanced] at ihrest
      exact (firstUnmet_met ihhead hmet).trans ihrest
  | unmet hhead hunmet ih => exact firstUnmet_unmet ih hunmet
  | fatal hhead hfatal ih => exact firstUnmet_fatal ih hfatal
  | absorbed hhead habsorbed ih => exact firstUnmet_absorbed ih habsorbed
  | remembered hmemo hroom =>
      refine (resolve_remembered hmemo).trans ?_
      rw [hroom]
      rfl
  | tooHigh hmemo hhigh =>
      refine (resolve_remembered hmemo).trans ?_
      rw [hhigh]
      rfl
  | resolved hmemo hkey ih => exact resolve_resolved hmemo ih
  | unresolved hmemo hkey ih => exact resolve_unresolved hmemo ih

section Unique

variable {other : Trail} {trace' : List Arrival} {result' : Except FlagError task.Answer}

/-- Two runs of a task from a trail end alike. -/
theorem Runs.agree (hruns : e.Runs context task trail trace result next)
    (hother : e.Runs context task trail trace' result' other) :
    result = result' ∧ next = other := by
  have houtcome := hruns.perform_eq.symm.trans hother.perform_eq
  have hstack : next.stack = other.stack := hruns.balanced.trans hother.balanced.symm
  obtain ⟨hresult, hwalk⟩ := Prod.mk.inj houtcome
  exact ⟨hresult, Trail.ext hstack hwalk⟩

/-- They also make the same calls: where they took different ways, something that
they have in common would differ. -/
theorem Runs.trace_eq (hruns : e.Runs context task trail trace result next)
    (hother : e.Runs context task trail trace' result' other) : trace = trace' := by
  induction hruns generalizing other trace' with
  | missing hmissing => cases hother <;> simp_all
  | held hheld hvisit ih =>
      cases hother with
      | missing hmissing => simp_all
      | held hheld' hvisit' =>
          obtain rfl := Option.some.inj (hheld.symm.trans hheld')
          rw [ih hvisit']
  | cyclic hmem => cases hother <;> simp_all
  | tooDeep hmem hdeep => cases hother <;> simp_all
  | visited hmem hroom hsteps ih =>
      cases hother with
      | cyclic hmem' => exact absurd hmem' hmem
      | tooDeep _ hdeep => exact absurd hdeep hroom
      | visited _ _ hsteps' => rw [ih hsteps']
  | disabled hdisabled => cases hother <;> simp_all
  | concluded henabled hlist ih =>
      cases hother with
      | disabled hdisabled => simp_all
      | concluded _ hlist' => rw [ih hlist']
      | failed _ hlist' => rw [ih hlist']
  | failed henabled hlist ih =>
      cases hother with
      | disabled hdisabled => simp_all
      | concluded _ hlist' => rw [ih hlist']
      | failed _ hlist' => rw [ih hlist']
  | nil => cases hother; rfl
  | met hhead hmet hrest ihhead ihrest =>
      cases hother with
      | met hhead' hmet' hrest' =>
          obtain ⟨hanswer, rfl⟩ := hhead.agree hhead'
          cases hanswer
          rw [ihhead hhead', ihrest hrest']
      | unmet hhead' hunmet =>
          obtain ⟨hanswer, rfl⟩ := hhead.agree hhead'
          cases hanswer
          contradiction
      | fatal hhead' => cases (hhead.agree hhead').1
      | absorbed hhead' => cases (hhead.agree hhead').1
  | unmet hhead hunmet ih =>
      cases hother with
      | met hhead' hmet' hrest' =>
          cases (hhead.agree hhead').1
          contradiction
      | unmet hhead' _ => exact ih hhead'
      | fatal hhead' => exact ih hhead'
      | absorbed hhead' => exact ih hhead'
  | fatal hhead hfatal ih =>
      cases hother with
      | met hhead' => cases (hhead.agree hhead').1
      | unmet hhead' _ => exact ih hhead'
      | fatal hhead' => exact ih hhead'
      | absorbed hhead' => exact ih hhead'
  | absorbed hhead habsorbed ih =>
      cases hother with
      | met hhead' => cases (hhead.agree hhead').1
      | unmet hhead' _ => exact ih hhead'
      | fatal hhead' => exact ih hhead'
      | absorbed hhead' => exact ih hhead'
  | remembered hmemo hroom => cases hother <;> simp_all
  | tooHigh hmemo hhigh => cases hother <;> simp_all
  | resolved hmemo hkey ih =>
      cases hother with
      | remembered hmemo' => simp_all
      | tooHigh hmemo' => simp_all
      | resolved _ hkey' => rw [ih hkey']
      | unresolved _ hkey' => rw [ih hkey']
  | unresolved hmemo hkey ih =>
      cases hother with
      | remembered hmemo' => simp_all
      | tooHigh hmemo' => simp_all
      | resolved _ hkey' => rw [ih hkey']
      | unresolved _ hkey' => rw [ih hkey']

end Unique

/-! ### Every task ends -/

/-- The task has a run from the trail. -/
def Ends (e : Evaluator) (context : Context) (task : Task) (trail : Trail) : Prop :=
  ∃ trace result next, e.Runs context task trail trace result next

section Ends

variable {key : String} {flag : Flag} {stack : List String}

theorem ends_key (hvisit : ∀ flag walk, e.Ends context (.flag flag) ⟨stack, walk⟩)
    (key : String) (walk : Walk) : e.Ends context (.key key) ⟨stack, walk⟩ := by
  cases hheld : e.lookup key with
  | none => exact ⟨_, _, _, .missing hheld⟩
  | some flag =>
      obtain ⟨trace, result, next, hruns⟩ := hvisit flag (walk.asking key)
      exact ⟨_, _, _, .held hheld hruns⟩

theorem ends_prerequisite (hkey : ∀ key walk, e.Ends context (.key key) ⟨stack, walk⟩)
    (key : String) (walk : Walk) : e.Ends context (.prerequisite key) ⟨stack, walk⟩ := by
  cases hmemo : walk.resolved.get? key with
  | some answer =>
      cases hhigh : e.tooHigh stack.length answer.height with
      | true => exact ⟨_, _, _, .tooHigh hmemo hhigh⟩
      | false => exact ⟨_, _, _, .remembered hmemo hhigh⟩
  | none =>
      obtain ⟨trace, error | answer, next, hruns⟩ := hkey key walk
      · exact ⟨_, _, _, .unresolved hmemo hruns⟩
      · exact ⟨_, _, _, .resolved hmemo hruns⟩

/-- The stack that a prerequisite leaves is the one that the next one finds. -/
theorem ends_prerequisites
    (hprerequisite : ∀ key walk, e.Ends context (.prerequisite key) ⟨stack, walk⟩)
    (rest : List Prerequisite) (height : Nat) (walk : Walk) :
    e.Ends context (.prerequisites rest height) ⟨stack, walk⟩ := by
  induction rest generalizing height walk with
  | nil => exact ⟨_, _, _, .nil⟩
  | cons prerequisite rest ih =>
      obtain ⟨trace, result, ⟨left, later⟩, hhead⟩ := hprerequisite prerequisite.key walk
      obtain rfl : left = stack := hhead.balanced
      cases verdict prerequisite result with
      | met answer hmet =>
          obtain ⟨more, outcome, next, hrest⟩ := ih (max height (answer.height + 1)) later
          exact ⟨_, _, _, .met hhead hmet hrest⟩
      | unmet answer hunmet => exact ⟨_, _, _, .unmet hhead hunmet⟩
      | fatal error hfatal => exact ⟨_, _, _, .fatal hhead hfatal⟩
      | absorbed error habsorbed => exact ⟨_, _, _, .absorbed hhead habsorbed⟩

theorem ends_steps
    (hlist : ∀ rest height walk, e.Ends context (.prerequisites rest height) ⟨stack, walk⟩)
    (flag : Flag) (walk : Walk) : e.Ends context (.steps flag) ⟨stack, walk⟩ := by
  cases henabled : flag.enabled with
  | false => exact ⟨_, _, _, .disabled henabled⟩
  | true =>
      obtain ⟨trace, error | answer, next, hruns⟩ := hlist flag.prerequisites 1 walk
      · exact ⟨_, _, _, .failed henabled hruns⟩
      · exact ⟨_, _, _, .concluded henabled hruns⟩

theorem ends_flag (context : Context) (stack : List String) (flag : Flag) (walk : Walk) :
    e.Ends context (.flag flag) ⟨stack, walk⟩ := by
  induction stack, flag, walk using visit.induct e with
  | case1 stack flag walk hmem => exact ⟨_, _, _, .cyclic hmem⟩
  | case2 stack flag walk hmem hdeep => exact ⟨_, _, _, .tooDeep hmem hdeep⟩
  | case3 stack flag walk hmem hroom ih =>
      have hlist := ends_prerequisites (ends_prerequisite (ends_key ih))
      obtain ⟨trace, result, next, hruns⟩ := ends_steps hlist flag walk
      exact ⟨_, _, _, .visited hmem hroom hruns⟩

end Ends

theorem ends (e : Evaluator) (context : Context) (task : Task) (trail : Trail) :
    e.Ends context task trail := by
  have hkey := ends_key (ends_flag (e := e) context trail.stack)
  have hprerequisite := ends_prerequisite hkey
  have hlist := ends_prerequisites hprerequisite
  cases task with
  | key key => exact hkey key trail.walk
  | flag flag => exact ends_flag context trail.stack flag trail.walk
  | steps flag => exact ends_steps hlist flag trail.walk
  | prerequisites rest height => exact hlist rest height trail.walk
  | prerequisite key => exact hprerequisite key trail.walk

/-! ### What is remembered stays -/

theorem perform_extends (context : Context) (chain : List String) (task : Task) (walk : Walk) :
    e.Extends chain walk (e.perform context chain task walk).2 := by
  have hresolve := resolveBehind_extends (e.visit_extends context chain)
  have hlist (rest : List Prerequisite) (height : Nat) (walk : Walk) :
      e.Extends chain walk (firstUnmet (e.resolveBehind context chain) rest height walk).2 :=
    (passage _ rest height walk).extends hresolve
  cases task with
  | key key =>
      cases hheld : e.lookup key with
      | none =>
          rw [perform, visitKey_missing hheld]
          exact extends_asking chain walk key
      | some flag =>
          rw [perform, visitKey_held hheld]
          exact (extends_asking chain walk key).trans (e.visit_extends context chain flag _).shorten
  | flag flag => exact (e.visit_extends context chain flag walk).shorten
  | steps flag =>
      rw [perform]
      cases henabled : flag.enabled with
      | false =>
          rw [steps_disabled henabled]
          exact .refl chain walk
      | true =>
          rw [snd_steps henabled]
          exact hlist flag.prerequisites 1 walk
  | prerequisites rest height => exact hlist rest height walk
  | prerequisite key => exact hresolve key walk

/-- A run keeps what is remembered. -/
theorem Runs.keeps (hruns : e.Runs context task trail trace result next) :
    Keeps trail.walk.resolved next.walk.resolved := by
  have hextends := e.perform_extends context trail.stack task trail.walk
  rw [hruns.perform_eq] at hextends
  exact hextends.keeps

/-! ### The stacks that calls find -/

/-- The own keys of a starting flag and of the flags of the store. -/
inductive OwnKey (e : Evaluator) (start : Task) : String → Prop where
  | start {flag : Flag} (hstart : start = .flag flag) : OwnKey e start flag.key
  | stored {asked : String} {flag : Flag} (hheld : e.lookup asked = some flag) :
      OwnKey e start flag.key

/-- A stack on which every flag is once, with no more flags than the depth allows. -/
structure Fits (e : Evaluator) (start : Task) (stack : List String) : Prop where
  distinct : stack.Nodup
  bounded : stack.length ≤ e.maxDepth.toNat + 1
  own : ∀ key ∈ stack, e.OwnKey start key

section Fits

variable {start : Task} {stack : List String} {flag : Flag}

theorem fits_nil (e : Evaluator) (start : Task) : e.Fits start [] where
  distinct := List.nodup_nil
  bounded := Nat.zero_le _
  own _ hkey := nomatch hkey

theorem Fits.push (hfits : e.Fits start stack) (hmem : flag.key ∉ stack)
    (hroom : ¬ e.maxDepth.toNat < stack.length) (hown : e.OwnKey start flag.key) :
    e.Fits start (stack ++ [flag.key]) where
  distinct := List.nodup_append_comm.mp (List.nodup_cons.mpr ⟨hmem, hfits.distinct⟩)
  bounded := by
    rw [List.length_append, List.length_singleton]
    omega
  own key hkey := by
    rcases List.mem_append.mp hkey with hbelow | htop
    · exact hfits.own key hbelow
    · rw [List.mem_singleton.mp htop]
      exact hown

/-- A store with finitely many own keys bounds the stack whatever the depth is. -/
theorem Fits.length_le (hfits : e.Fits start stack) {keys : List String}
    (hkeys : ∀ key, e.OwnKey start key → key ∈ keys) : stack.length ≤ keys.length :=
  (List.subperm_of_subset hfits.distinct fun key hkey => hkeys key (hfits.own key hkey)).length_le

/-- The flag that a task visits has an own key that may come onto the stack. -/
def Visits (e : Evaluator) (start : Task) : Task → Prop
  | .flag flag => e.OwnKey start flag.key
  | .key _ | .steps _ | .prerequisites _ _ | .prerequisite _ => True

theorem visits_self (e : Evaluator) (start : Task) : e.Visits start start := by
  cases start with
  | flag flag => exact .start rfl
  | key _ | steps _ | prerequisites _ _ | prerequisite _ => trivial

theorem Runs.calls_fit (hruns : e.Runs context task trail trace result next)
    (hvisits : e.Visits start task) (hfits : e.Fits start trail.stack) :
    ∀ arrival ∈ trace, e.Fits start arrival.stack := by
  induction hruns with
  | missing hmissing => exact List.forall_mem_singleton.mpr hfits
  | held hheld hvisit ih => exact List.forall_mem_cons.mpr ⟨hfits, ih (.stored hheld) hfits⟩
  | cyclic hmem => exact List.forall_mem_singleton.mpr hfits
  | tooDeep hmem hdeep => exact List.forall_mem_singleton.mpr hfits
  | visited hmem hroom hsteps ih =>
      exact List.forall_mem_cons.mpr ⟨hfits, ih trivial (hfits.push hmem hroom hvisits)⟩
  | disabled hdisabled => exact List.forall_mem_singleton.mpr hfits
  | concluded henabled hlist ih => exact List.forall_mem_cons.mpr ⟨hfits, ih trivial hfits⟩
  | failed henabled hlist ih => exact List.forall_mem_cons.mpr ⟨hfits, ih trivial hfits⟩
  | nil => exact List.forall_mem_nil _
  | met hhead hmet hrest ihhead ihrest =>
      have hmiddle := hfits
      rw [← hhead.balanced] at hmiddle
      exact List.forall_mem_append.mpr ⟨ihhead trivial hfits, ihrest trivial hmiddle⟩
  | unmet hhead hunmet ih => exact ih trivial hfits
  | fatal hhead hfatal ih => exact ih trivial hfits
  | absorbed hhead habsorbed ih => exact ih trivial hfits
  | remembered hmemo hroom => exact List.forall_mem_singleton.mpr hfits
  | tooHigh hmemo hhigh => exact List.forall_mem_singleton.mpr hfits
  | resolved hmemo hkey ih => exact List.forall_mem_cons.mpr ⟨hfits, ih trivial hfits⟩
  | unresolved hmemo hkey ih => exact List.forall_mem_cons.mpr ⟨hfits, ih trivial hfits⟩

end Fits

/-! ### The whole walk -/

/-- The walk ends and its stack is balanced. -/
structure Balanced (e : Evaluator) (context : Context) : Prop where
  /-- Whatever is to be done and from wherever, there is one run, and so an end. -/
  ends : ∀ task trail, ∃! run : List Arrival × Except FlagError task.Answer × Trail,
    e.Runs context task trail run.1 run.2.1 run.2.2
  /-- Behind its stack a run comes to what the walk comes to behind a chain. -/
  walked : ∀ task trail trace result next, e.Runs context task trail trace result next →
    e.perform context trail.stack task trail.walk = (result, next.walk)
  /-- Also where it fails, it leaves the stack as it was and keeps what is remembered. -/
  returns : ∀ task trail trace result next, e.Runs context task trail trace result next →
    next.stack = trail.stack ∧ Keeps trail.walk.resolved next.walk.resolved
  /-- Every call finds a stack of distinct own keys, within the depth. -/
  calls : ∀ start walk trace result next, e.Runs context start ⟨[], walk⟩ trace result next →
    ∀ arrival ∈ trace, e.Fits start arrival.stack
  /-- No such stack is longer than a list of all own keys. -/
  finite : ∀ start (keys : List String), (∀ key, e.OwnKey start key → key ∈ keys) →
    ∀ stack, e.Fits start stack → stack.length ≤ keys.length
  requested : ∀ key trace result next, e.Runs context (.key key) {} trace result next →
    e.evaluate context key = .ofStep (result, next.walk)
  supplied : ∀ flag trace result next, e.Runs context (.flag flag) {} trace result next →
    e.evaluateFlag context flag = .ofStep (result, next.walk)

/-- The walk ends and its stack is balanced in every store, also in one with cycles,
with flags under keys other than their own or with several flags of one own key. -/
theorem walk_balanced (e : Evaluator) (context : Context) : e.Balanced context where
  ends task trail := by
    obtain ⟨trace, result, next, hruns⟩ := e.ends context task trail
    refine ⟨(trace, result, next), hruns, ?_⟩
    rintro ⟨trace', result', other⟩ hother
    obtain ⟨rfl, rfl⟩ := hruns.agree hother
    rw [hruns.trace_eq hother]
  walked _ _ _ _ _ hruns := hruns.perform_eq
  returns _ _ _ _ _ hruns := ⟨hruns.balanced, hruns.keeps⟩
  calls start _ _ _ _ hruns := hruns.calls_fit (e.visits_self start) (e.fits_nil start)
  finite _ _ hkeys _ hfits := hfits.length_le hkeys
  requested key _ _ _ hruns := by
    rw [evaluate, walkFrom]
    exact congrArg Outcome.ofStep hruns.perform_eq
  supplied _ _ _ _ hruns := congrArg Outcome.ofStep hruns.perform_eq

end Evaluator

end FeatureFlags
