import FeatureFlags.Error
import FeatureFlags.Evaluation
import FeatureFlags.Rule

/-!
Evaluating a flag. Prerequisites are evaluated first, in order and up to the
first that is unmet, and each of them in the same way. A chain of flags that
wait for their prerequisites never has a flag twice and is limited in length;
both are errors of the whole evaluation.

A prerequisite is resolved once. What came out is remembered with the height of
the flags below it, so that the limit on the length of chains also holds where
the remembered answer is used again.
-/

namespace FeatureFlags

/-- The decision of the first rule that decides: the rule, its variation and
whether weights selected it. -/
def Flag.decision (flag : Flag) (bucketer : Bucketer) (context : Context) :
    Option (Rule × UInt64 × Bool) :=
  flag.rules.findSome? fun rule =>
    match rule.outcome bucketer context flag.key with
    | .served variation inExperiment => some (rule, variation, inExperiment)
    | .outsidePercentage | .notMatched => none

/-- The evaluation of an enabled flag whose prerequisites are met. -/
def Flag.serve (flag : Flag) (bucketer : Bucketer) (context : Context) : Evaluation :=
  match flag.decision bucketer context with
  | some (rule, variation, inExperiment) => .ofRule flag rule variation inExperiment
  | none => .ofDefault flag .fallthrough

/-- What is remembered of a prerequisite: the variation it resolved to, and the
number of flags on the longest chain that was followed below and including
it. -/
structure Resolved where
  variationIndex : Option UInt64
  height : Nat
deriving DecidableEq

/-- What one evaluation has done so far. -/
structure Walk where
  resolved : Table Resolved := Table.empty
  /-- The keys asked of the store, in order. -/
  lookups : List String := []

/-- A part of an evaluation. It may fail, and what it did until then stays. -/
abbrev Walk.Step (α : Type) := Walk → Except FlagError α × Walk

/-- A source of flags and the settings of an evaluation. -/
structure Evaluator where
  lookup : String → Option Flag
  bucketer : Bucketer := .fnv1a
  /-- The number of prerequisites that a chain may have. -/
  maxDepth : UInt64 := 32

namespace Evaluator

/-- Fetches a flag from the store. -/
def fetch (e : Evaluator) (key : String) : Walk.Step Flag := fun walk =>
  let walk := { walk with lookups := walk.lookups ++ [key] }
  match e.lookup key with
  | some flag => (.ok flag, walk)
  | none => (.error (.flagNotFound key), walk)

/-- Fetches the flag of a key and visits it, `visit` being the evaluation of a
flag behind a chain. -/
def visitKey (e : Evaluator) (visit : Flag → Walk.Step (Evaluation × Nat)) (key : String) :
    Walk.Step (Evaluation × Nat) := fun walk =>
  match e.fetch key walk with
  | (.error error, walk) => (.error error, walk)
  | (.ok flag, walk) => visit flag walk

/-- Whether a tree of a height does not fit below a chain. The bound is taken
in 64 bits, as the setting is. -/
def tooHigh (e : Evaluator) (chainLength height : Nat) : Bool :=
  (e.maxDepth + 1).toNat < chainLength + height

/-- Resolves a prerequisite of the last flag in a chain, `visit` being the
evaluation of a flag behind that chain. -/
def resolve (e : Evaluator) (chainLength : Nat)
    (visit : Flag → Walk.Step (Evaluation × Nat)) (key : String) : Walk.Step Resolved := fun walk =>
  match walk.resolved.get? key with
  | some resolved =>
      if e.tooHigh chainLength resolved.height then
        (.error (.depthExceeded key e.maxDepth), walk)
      else (.ok resolved, walk)
  | none =>
      match e.visitKey visit key walk with
      | (.error error, walk) => (.error error, walk)
      | (.ok (evaluation, height), walk) =>
          let resolved := ⟨evaluation.variationIndex, height⟩
          (.ok resolved, { walk with resolved := walk.resolved.insert key resolved })

/-- Goes through prerequisites up to the first that is unmet, and gives its key
and the height reached. -/
def firstUnmet (resolve : String → Walk.Step Resolved) :
    List Prerequisite → Nat → Walk.Step (Option String × Nat)
  | [], height, walk => (.ok (none, height), walk)
  | prerequisite :: rest, height, walk =>
      match resolve prerequisite.key walk with
      | (.ok resolved, walk) =>
          let height := max height (resolved.height + 1)
          if resolved.variationIndex = some prerequisite.variation then
            firstUnmet resolve rest height walk
          else (.ok (some prerequisite.key, height), walk)
      | (.error error, walk) =>
          if error.isFatal then (.error error, walk)
          else (.ok (some prerequisite.key, height), walk)

/-- Evaluates a flag, given how to resolve its prerequisites. -/
def steps (e : Evaluator) (context : Context) (flag : Flag)
    (resolve : String → Walk.Step Resolved) : Walk.Step (Evaluation × Nat) := fun walk =>
  if flag.enabled then
    match firstUnmet resolve flag.prerequisites 1 walk with
    | (.error error, walk) => (.error error, walk)
    | (.ok (some key, height), walk) => (.ok (.ofUnmetPrerequisite flag key, height), walk)
    | (.ok (none, height), walk) => (.ok (flag.serve e.bucketer context, height), walk)
  else (.ok (.ofDefault flag .off, 1), walk)

/-- Evaluates a flag behind a chain of flags that wait for it. The answer comes
with the height of what was walked. Each step down lengthens the chain, and the
chain has at most one flag more than the depth allowed. -/
def visit (e : Evaluator) (context : Context) (chain : List String) (flag : Flag) :
    Walk.Step (Evaluation × Nat) := fun walk =>
  if flag.key ∈ chain then (.error (.cyclicPrerequisite (chain ++ [flag.key])), walk)
  else if e.maxDepth.toNat < chain.length then
    (.error (.depthExceeded flag.key e.maxDepth), walk)
  else
    e.steps context flag
      (e.resolve (chain.length + 1) fun prerequisite =>
        e.visit context (chain ++ [flag.key]) prerequisite) walk
termination_by e.maxDepth.toNat + 1 - chain.length
decreasing_by
  simp only [List.length_append, List.length_singleton]
  omega

/-- The outcome of an evaluation, and the keys that it asked of the store. -/
structure Outcome where
  result : Except FlagError Evaluation
  lookups : List String

/-- What is left when a walk is over. -/
def Outcome.ofStep (step : Except FlagError (Evaluation × Nat) × Walk) : Outcome where
  result := step.1.map (·.1)
  lookups := step.2.lookups

/-- Evaluates a flag that is at hand. Its prerequisites come from the store. -/
def evaluateFlag (e : Evaluator) (context : Context) (flag : Flag) : Outcome :=
  .ofStep (e.visit context [] flag {})

/-- The walk of an evaluation that begins with a key. -/
def walkFrom (e : Evaluator) (context : Context) (key : String) :
    Walk.Step (Evaluation × Nat) :=
  e.visitKey (e.visit context []) key

/-- Evaluates the flag of a key. -/
def evaluate (e : Evaluator) (context : Context) (key : String) : Outcome :=
  .ofStep (e.walkFrom context key {})

end Evaluator

end FeatureFlags
