import FeatureFlags.Client

/-!
Sessions: a client that is called while flags are put into its store and taken
out of it. A request has an answer and events, and neither needs a sink. Beside
a sink the events of a request are given to the sink before the answer is
returned, so that a failure of the sink would cost the answer if it were not
contained.
-/

namespace FeatureFlags

/-- The values of a type that callers ask for. -/
def FlagType.Value : FlagType → Type
  | .bool => Bool
  | .string => String
  | .int => Int64
  | .float => Binary64
  | .json => Json

/-- A flag's value in the type that the caller asks for. -/
def Client.typedVariation (client : Client) (context : Context) (key : String) :
    (type : FlagType) → (default : type.Value) → Consultation type.Value
  | .bool, default => client.boolVariation context key default
  | .string, default => client.stringVariation context key default
  | .int, default => client.intVariation context key default
  | .float, default => client.floatVariation context key default
  | .json, default => client.jsonVariation context key default

namespace Session

inductive Request where
  | variation (context : Context) (key : String)
  | variationOr (context : Context) (key : String) (default : FlagValue)
  | typed (context : Context) (key : String) (type : FlagType) (default : type.Value)
  | allFlags (context : Context)
  | get (key : String)
  | getAll
  | upsert (flag : Flag)
  | remove (key : String)
  | replace (set : FlagSet)

inductive Answer where
  | result (result : Except FlagError Evaluation)
  | evaluation (evaluation : Evaluation)
  | typed (type : FlagType) (value : type.Value)
  | evaluations (result : Except FlagError (Table Evaluation))
  | flag (flag : Option Flag)
  | flags (flags : Table Flag)
  | done

end Session

/-- A client, and the store that is changed between its calls. -/
structure Session where
  client : Client
  store : Store
  /-- A client that has a store reads the one that is changed. -/
  shared : client.store = none ∨ client.store = some store

namespace Session

/-- A client that has no store is beside an empty one that it does not read. -/
def ofClient (client : Client) : Session where
  client
  store := client.store.getD .empty
  shared := by cases client.store <;> simp

/-- The session with other flags in its store. -/
def withStore (session : Session) (store : Store) : Session where
  client := { session.client with store := session.client.store.map fun _ => store }
  store
  shared := by cases session.client.store <;> simp

/-- The answer to a request with its events, and the session after it. -/
def respond (session : Session) : Request → Consultation Answer × Session
  | .variation context key => ((session.client.variation context key).map .result, session)
  | .variationOr context key default =>
      ((session.client.variationOr context key default).map .evaluation, session)
  | .typed context key type default =>
      ((session.client.typedVariation context key type default).map (.typed type), session)
  | .allFlags context => ((session.client.allFlags context).map .evaluations, session)
  | .get key => ({ result := .flag (session.store.get? key) }, session)
  | .getAll => ({ result := .flags session.store.flags }, session)
  | .upsert flag => ({ result := .done }, session.withStore (session.store.upsert flag))
  | .remove key =>
      let (removed, store) := session.store.remove key
      ({ result := .flag removed }, session.withStore store)
  | .replace set =>
      let (previous, store) := session.store.replace set
      ({ result := .flags previous }, session.withStore store)

/-- One request beside a sink. -/
def step {σ : Type} (sink : Option (Sink σ)) (session : Session) (request : Request) :
    Sink.Step σ (Answer × Session) := fun state =>
  let (consultation, session) := session.respond request
  match Sink.dispatchAll sink consultation.events state with
  | (.ok (), state) => (.ok (consultation.result, session), state)
  | (.error error, state) => (.error error, state)

/-- Requests one after the other beside a sink. -/
def run {σ : Type} (sink : Option (Sink σ)) (session : Session) :
    List Request → Sink.Step σ (List Answer)
  | [], state => (.ok [], state)
  | request :: rest, state =>
      match session.step sink request state with
      | (.ok (answer, session), state) =>
          match session.run sink rest state with
          | (.ok answers, state) => (.ok (answer :: answers), state)
          | (.error error, state) => (.error error, state)
      | (.error error, state) => (.error error, state)

end Session

end FeatureFlags
