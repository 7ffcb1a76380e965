import FeatureFlags.Evaluator
import FeatureFlags.Event
import FeatureFlags.Store

/-!
Clients serve flags from a store, if they have one, under overrides that win
over everything else. What a client answers comes with the keys it asked of the
store and the events that it sends out: one for each evaluation that it took
from the store, and none for an override or a failure.
-/

namespace FeatureFlags

/-- An answer, and what it took to give it. -/
structure Consultation (α : Type) where
  result : α
  lookups : List String := []
  events : List Event := []

namespace Consultation

variable {α β : Type}

/-- Changes the answer only. -/
def map (f : α → β) (consultation : Consultation α) : Consultation β :=
  { consultation with result := f consultation.result }

end Consultation

structure Client where
  store : Option Store := none
  overrides : Table FlagValue := Table.empty
  bucketer : Bucketer := .fnv1a
  maxDepth : UInt64 := 32

namespace Client

/-- Serves a value for a key without a look at the store. -/
def withOverride (client : Client) (key : String) (value : FlagValue) : Client :=
  { client with overrides := client.overrides.insert key value }

/-- Adds overrides; the last value given for a key wins. -/
def withOverrides (client : Client) (overrides : List (String × FlagValue)) : Client :=
  { client with overrides := client.overrides.insertMany overrides }

/-- The evaluation of the flags of a store with the client's settings. -/
def evaluator (client : Client) (store : Store) : Evaluator where
  lookup := store.get?
  bucketer := client.bucketer
  maxDepth := client.maxDepth

/-- The evaluation of a flag for a context. -/
def variation (client : Client) (context : Context) (key : String) :
    Consultation (Except FlagError Evaluation) :=
  match client.overrides.get? key with
  | some value => { result := .ok (.ofOverride key value) }
  | none =>
      match client.store with
      | none => { result := .error .noStore }
      | some store =>
          let outcome := (client.evaluator store).evaluate context key
          { result := outcome.result
            lookups := outcome.lookups
            events := outcome.result.toOption.toList.map fun evaluation =>
              .ofEvaluation evaluation context }

/-- The evaluation of a flag, or an evaluation of the default if that fails. -/
def variationOr (client : Client) (context : Context) (key : String) (default : FlagValue) :
    Consultation Evaluation :=
  (client.variation context key).map fun
    | .ok evaluation => evaluation
    | .error _ => .ofError key default

/-- A flag's value in the type that a conversion makes of it, or the default if
the evaluation or the conversion fails. -/
def convertedVariation {α : Type} (convert : FlagValue → Option α) (client : Client)
    (context : Context) (key : String) (default : α) : Consultation α :=
  (client.variation context key).map fun
    | .ok evaluation => (convert evaluation.value).getD default
    | .error _ => default

def boolVariation (client : Client) (context : Context) (key : String) (default : Bool) :
    Consultation Bool :=
  convertedVariation FlagValue.asBool client context key default

def stringVariation (client : Client) (context : Context) (key : String) (default : String) :
    Consultation String :=
  convertedVariation FlagValue.asString client context key default

def intVariation (client : Client) (context : Context) (key : String) (default : Int64) :
    Consultation Int64 :=
  convertedVariation FlagValue.asInt client context key default

def floatVariation (client : Client) (context : Context) (key : String) (default : Binary64) :
    Consultation Binary64 :=
  convertedVariation FlagValue.asFloat client context key default

def jsonVariation (client : Client) (context : Context) (key : String) (default : Json) :
    Consultation Json :=
  convertedVariation FlagValue.asJson client context key default

/-- The evaluation of a stored flag under its key in the store. A failure is
served by the flag's default value. -/
def storedVariation (client : Client) (store : Store) (context : Context) (key : String)
    (flag : Flag) : Consultation (String × Evaluation) :=
  let outcome := (client.evaluator store).evaluateFlag context flag
  match outcome.result with
  | .ok evaluation =>
      { result := (key, evaluation)
        lookups := outcome.lookups
        events := [.ofEvaluation evaluation context] }
  | .error _ =>
      { result := (key, .ofError key flag.defaultValue), lookups := outcome.lookups }

/-- The evaluations of all flags of the store that have no override, and of all
overrides. -/
def allFlags (client : Client) (context : Context) :
    Consultation (Except FlagError (Table Evaluation)) :=
  match client.store with
  | none => { result := .error .noStore }
  | some store =>
      let stored := (store.flags.entries.filter fun entry =>
          !client.overrides.contains entry.1).map fun entry =>
        client.storedVariation store context entry.1 entry.2
      let evaluations := (Table.ofList (stored.map (·.result))).insertMany
        (client.overrides.map Evaluation.ofOverride).entries
      { result := .ok evaluations
        lookups := stored.flatMap (·.lookups)
        events := stored.flatMap (·.events) }

end Client

end FeatureFlags
