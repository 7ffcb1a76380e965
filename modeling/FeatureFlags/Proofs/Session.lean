import FeatureFlags.Proofs.Client.AllFlags
import FeatureFlags.Proofs.Evaluation.Consistency
import FeatureFlags.Session

/-!
What sessions send out. Beside any sink a session has the answers that it has
without one, because no failure of a sink comes through. A call for a key sends
out one event where the store gives an evaluation for that key, which tells of
this evaluation, and no event otherwise; the prerequisites that were evaluated
on the way are not told of.
-/

namespace FeatureFlags

/-! ### Sinks -/

namespace Sink

variable {σ : Type}

theorem deliver_append (sink : Option (Sink σ)) (first second : List Event) (state : σ) :
    deliver sink (first ++ second) state = deliver sink second (deliver sink first state) := by
  cases sink with
  | none => rfl
  | some sink => exact List.foldl_append

theorem deliver_recording (events kept : List Event) :
    deliver (some recording) events kept = kept ++ events := by
  induction events generalizing kept with
  | nil => exact (List.append_nil kept).symm
  | cons event rest ih =>
      have hrest := ih (kept ++ [event])
      rw [List.append_assoc] at hrest
      exact hrest

theorem deliver_failing (events kept : List Event) :
    deliver (some failing) events kept = kept ++ events :=
  deliver_recording events kept

/-- A sink's failure is contained, and what it did to its state stays. -/
theorem dispatch_eq (sink : Option (Sink σ)) (event : Event) (state : σ) :
    dispatch sink event state = (.ok (), deliver sink [event] state) := by
  cases sink with
  | none => rfl
  | some sink =>
      simp only [dispatch, notify, deliver, List.foldl_cons, List.foldl_nil]
      cases hreceive : sink.receive event state with
      | mk next failed => cases failed <;> rfl

theorem dispatchAll_eq (sink : Option (Sink σ)) (events : List Event) (state : σ) :
    dispatchAll sink events state = (.ok (), deliver sink events state) := by
  induction events generalizing state with
  | nil => cases sink <;> rfl
  | cons event rest ih =>
      rw [dispatchAll, dispatch_eq]
      simp only [ih]
      rw [← deliver_append, List.singleton_append]

end Sink

/-! ### Runs -/

namespace Session

/-- The answers to requests, each with its events. -/
def transcript : Session → List Request → List (Answer × List Event)
  | _, [] => []
  | session, request :: rest =>
      ((session.respond request).1.result, (session.respond request).1.events) ::
        (session.respond request).2.transcript rest

theorem step_eq {σ : Type} (sink : Option (Sink σ)) (session : Session) (request : Request)
    (state : σ) :
    session.step sink request state =
      (.ok ((session.respond request).1.result, (session.respond request).2),
        Sink.deliver sink (session.respond request).1.events state) := by
  simp only [step, Sink.dispatchAll_eq]

/-- No sink changes an answer, and every sink is given every event. -/
theorem run_eq {σ : Type} (sink : Option (Sink σ)) (session : Session) (requests : List Request)
    (state : σ) :
    session.run sink requests state =
      (.ok ((session.transcript requests).map (·.1)),
        Sink.deliver sink ((session.transcript requests).flatMap (·.2)) state) := by
  induction requests generalizing session state with
  | nil => cases sink <;> rfl
  | cons request rest ih =>
      simp only [run, step_eq, ih, transcript, List.map_cons, List.flatMap_cons,
        Sink.deliver_append]

end Session

/-! ### Events of a call -/

/-- The event has the members of the evaluation, and the context. -/
structure Event.TellsOf (event : Event) (evaluation : Evaluation) (context : Context) : Prop where
  flagKey : event.flagKey = evaluation.key
  value : event.value = evaluation.value
  variationIndex : event.variationIndex = evaluation.variationIndex
  reason : event.reason = evaluation.reason
  ruleId : event.ruleId = evaluation.ruleId
  inExperiment : event.inExperiment = evaluation.inExperiment
  context : event.context = context

theorem Event.tellsOf_ofEvaluation (evaluation : Evaluation) (context : Context) :
    (ofEvaluation evaluation context).TellsOf evaluation context := by
  constructor <;> rfl

namespace Client

variable {client : Client} {context : Context} {key : String} {evaluation : Evaluation}

/-- The key has no override, and evaluating it from the store succeeds. -/
def Evaluates (client : Client) (context : Context) (key : String) (evaluation : Evaluation) :
    Prop :=
  client.overrides.get? key = none ∧ ∃ store, client.store = some store ∧
    ((client.evaluator store).evaluate context key).result = .ok evaluation

/-- The key that the flag held under a key has of its own. -/
def OwnKey (client : Client) (key own : String) : Prop :=
  ∃ store flag, client.store = some store ∧ store.get? key = some flag ∧ flag.key = own

/-- The events of a call for a key: one if the store gives an evaluation, which
tells of it and so of the flag that was asked for, and otherwise none. -/
inductive Emits (client : Client) (context : Context) (key : String) : List Event → Prop where
  | one {evaluation : Evaluation} {event : Event}
      (hevaluates : client.Evaluates context key evaluation)
      (htells : event.TellsOf evaluation context) (hown : client.OwnKey key event.flagKey) :
      Emits client context key [event]
  | none (hfails : ∀ evaluation, ¬ client.Evaluates context key evaluation) :
      Emits client context key []

/-- What a key evaluates to has the key of the flag, not that of a
prerequisite. -/
theorem Evaluates.ownKey (h : client.Evaluates context key evaluation) :
    client.OwnKey key evaluation.key := by
  obtain ⟨_, store, hstore, hresult⟩ := h
  cases hheld : store.get? key with
  | none =>
      rw [Evaluator.evaluate_missing (e := client.evaluator store) hheld] at hresult
      cases hresult
  | some flag =>
      rw [Evaluator.evaluate_result_eq_evaluateFlag hheld] at hresult
      cases hvisit : (client.evaluator store).visit context [] flag {} with
      | mk result next =>
          rw [Evaluator.evaluateFlag, hvisit] at hresult
          cases result with
          | error error => cases hresult
          | ok answer =>
              cases hresult
              exact ⟨store, flag, hstore, hheld, (Evaluator.consistent_of_visit hvisit).key.symm⟩

theorem emits_variation (client : Client) (context : Context) (key : String) :
    client.Emits context key (client.variation context key).events := by
  cases hfree : client.overrides.get? key with
  | some value =>
      rw [variation_overridden hfree]
      exact .none fun evaluation hevaluates => by
        rw [Evaluates, hfree] at hevaluates
        cases hevaluates.1
  | none =>
      cases hstore : client.store with
      | none =>
          simp only [variation, hfree, hstore]
          exact .none fun evaluation hevaluates => by
            obtain ⟨_, store, hsome, _⟩ := hevaluates
            rw [hstore] at hsome
            cases hsome
      | some store =>
          rw [(variation_stored context hstore hfree).2]
          cases hresult : ((client.evaluator store).evaluate context key).result with
          | ok evaluation =>
              have hevaluates : client.Evaluates context key evaluation :=
                ⟨hfree, store, hstore, hresult⟩
              exact .one hevaluates (Event.tellsOf_ofEvaluation evaluation context)
                hevaluates.ownKey
          | error error =>
              exact .none fun evaluation hevaluates => by
                obtain ⟨_, other, hother, hok⟩ := hevaluates
                rw [hstore] at hother
                cases hother
                rw [hresult] at hok
                cases hok

/-- The events of a listing are those of a call for each key of the store, up to
their order. -/
theorem allFlags_events_perm_keys (context : Context) {store : Store}
    (hstore : client.store = some store) :
    (client.allFlags context).events.Perm
      (store.flags.keys.flatMap fun key => (client.variation context key).events) := by
  rw [allFlags_events context hstore, unhidden_keys]
  refine List.Perm.of_eq ?_
  induction store.flags.keys with
  | nil => rfl
  | cons key rest ih =>
      cases hover : client.overrides.contains key with
      | false => simp [hover, ih]
      | true =>
          have hsilent : (client.variation context key).events = [] :=
            events_overridden context (Table.mem_keys_iff.mpr hover)
          simp [hover, ih, hsilent]

end Client

/-- The conversion to the type that a caller asks for. -/
def FlagType.convert : (type : FlagType) → FlagValue → Option type.Value
  | .bool => FlagValue.asBool
  | .string => FlagValue.asString
  | .int => FlagValue.asInt
  | .float => FlagValue.asFloat
  | .json => FlagValue.asJson

theorem Client.typedVariation_eq (client : Client) (context : Context) (key : String)
    (type : FlagType) (default : type.Value) :
    client.typedVariation context key type default =
      client.convertedVariation type.convert context key default := by
  cases type <;> rfl

/-! ### Sessions -/

namespace Session

/-- What a client answers to a request, and what it sends out. -/
def Mirrors (client : Client) : Request → Answer → List Event → Prop
  | .variation context key, answer, events =>
      client.Emits context key events ∧ answer = .result (client.variation context key).result
  | .variationOr context key default, answer, events =>
      client.Emits context key events ∧
        ((∃ evaluation, (client.variation context key).result = .ok evaluation ∧
            answer = .evaluation evaluation) ∨
          (∃ error, (client.variation context key).result = .error error) ∧
            answer = .evaluation (.ofError key default))
  | .typed context key type default, answer, events =>
      client.Emits context key events ∧ events = (client.variation context key).events ∧
        ((∃ evaluation value, (client.variation context key).result = .ok evaluation ∧
            type.convert evaluation.value = some value ∧ answer = .typed type value) ∨
          (∀ evaluation, (client.variation context key).result = .ok evaluation →
            type.convert evaluation.value = none) ∧ answer = .typed type default)
  | .allFlags context, answer, events =>
      answer = .evaluations (client.allFlags context).result ∧
        ((client.store = none ∧ events = []) ∨
          ∃ store emitted, client.store = some store ∧
            (∀ key, client.Emits context key (emitted key)) ∧
            events.Perm (store.flags.keys.flatMap emitted))
  | .get _, _, events | .getAll, _, events | .upsert _, _, events | .remove _, _, events
  | .replace _, _, events => events = []

theorem mirrors_typed (client : Client) (context : Context) (key : String) (type : FlagType)
    (default : type.Value) :
    Mirrors client (.typed context key type default)
      (.typed type (client.typedVariation context key type default).result)
      (client.typedVariation context key type default).events := by
  rw [Client.typedVariation_eq]
  refine ⟨client.emits_variation context key, rfl, ?_⟩
  simp only [Client.convertedVariation, Consultation.map]
  cases hresult : (client.variation context key).result with
  | error error => exact .inr ⟨fun _ hok => (by cases hok), rfl⟩
  | ok evaluation =>
      cases hvalue : type.convert evaluation.value with
      | some value => exact .inl ⟨evaluation, value, rfl, hvalue, by simp only [hvalue]; rfl⟩
      | none =>
          refine .inr ⟨fun other hother => ?_, by simp only [hvalue]; rfl⟩
          cases hother
          exact hvalue

theorem mirrors_variationOr (client : Client) (context : Context) (key : String)
    (default : FlagValue) :
    Mirrors client (.variationOr context key default)
      (.evaluation (client.variationOr context key default).result)
      (client.variationOr context key default).events := by
  refine ⟨client.emits_variation context key, ?_⟩
  cases hresult : (client.variation context key).result with
  | ok evaluation =>
      exact .inl ⟨evaluation, rfl, congrArg Answer.evaluation (Client.variationOr_of_ok hresult)⟩
  | error error =>
      exact .inr ⟨⟨error, rfl⟩, congrArg Answer.evaluation (Client.variationOr_of_error hresult)⟩

theorem mirrors_allFlags (client : Client) (context : Context) :
    Mirrors client (.allFlags context) (.evaluations (client.allFlags context).result)
      (client.allFlags context).events := by
  refine ⟨rfl, ?_⟩
  cases hstore : client.store with
  | none => exact .inl ⟨rfl, by simp only [Client.allFlags, hstore]⟩
  | some store =>
      exact .inr ⟨store, fun key => (client.variation context key).events, rfl,
        client.emits_variation context, client.allFlags_events_perm_keys context hstore⟩

/-- One request is answered as its client answers, and sends out what its client
sends out. -/
theorem mirrors_respond (session : Session) (request : Request) :
    Mirrors session.client request (session.respond request).1.result
      (session.respond request).1.events := by
  cases request with
  | variation context key => exact ⟨session.client.emits_variation context key, rfl⟩
  | variationOr context key default => exact mirrors_variationOr session.client context key default
  | typed context key type default => exact mirrors_typed session.client context key type default
  | allFlags context => exact mirrors_allFlags session.client context
  | get _ | getAll | upsert _ | remove _ | replace _ => rfl

/-- Each request is answered by the client of the session that the requests
before it leave, and sends out the events of that client. -/
inductive Mirrored : Session → List Request → List (Answer × List Event) → Prop where
  | nil {session : Session} : Mirrored session [] []
  | cons {session : Session} {request : Request} {answer : Answer} {events : List Event}
      {rest : List Request} {transcript : List (Answer × List Event)}
      (hmirrors : Mirrors session.client request answer events)
      (hrest : Mirrored (session.respond request).2 rest transcript) :
      Mirrored session (request :: rest) ((answer, events) :: transcript)

theorem mirrored_transcript (session : Session) (requests : List Request) :
    session.Mirrored requests (session.transcript requests) := by
  induction requests generalizing session with
  | nil => exact .nil
  | cons request rest ih => exact .cons (session.mirrors_respond request) (ih _)

/-- However calls and changes of the store follow one another, each request is
answered by the client as the requests before it leave its store, and sends out
exactly what mirrors the successful evaluations. Without a sink, beside any
sink, and beside one that fails on every event, the answers are the same, and
the events that were sent out are given to the sink, each once and in order. -/
theorem sessions_mirror_evaluations (session : Session) (requests : List Request) :
    ∃ transcript : List (Answer × List Event),
      session.Mirrored requests transcript ∧
      (∀ (σ : Type) (sink : Option (Sink σ)) (state : σ),
        session.run sink requests state =
          (.ok (transcript.map (·.1)), Sink.deliver sink (transcript.flatMap (·.2)) state)) ∧
      (session.run (some .recording) requests []).2 = transcript.flatMap (·.2) ∧
      (session.run (some .failing) requests []).2 = transcript.flatMap (·.2) := by
  refine ⟨session.transcript requests, session.mirrored_transcript requests,
    fun σ sink state => session.run_eq sink requests state, ?recording, ?failing⟩
  case recording => rw [run_eq, Sink.deliver_recording, List.nil_append]
  case failing => rw [run_eq, Sink.deliver_failing, List.nil_append]

end Session

end FeatureFlags
