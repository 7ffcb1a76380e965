import FeatureFlags.Evaluation.Document

/-!
Events tell of the evaluations that a client took from its store. They go to a
sink, which keeps a state of its own and may fail; a failure stays with the
sink.
-/

namespace FeatureFlags

structure Event where
  flagKey : String
  value : FlagValue
  variationIndex : Option UInt64
  reason : Reason
  ruleId : Option String
  inExperiment : Bool
  context : Context

namespace Event

def ofEvaluation (evaluation : Evaluation) (context : Context) : Event where
  flagKey := evaluation.key
  value := evaluation.value
  variationIndex := evaluation.variationIndex
  reason := evaluation.reason
  ruleId := evaluation.ruleId
  inExperiment := evaluation.inExperiment
  context

def toJson (event : Event) : Json :=
  .ofMembers <|
    [("flagKey", .string event.flagKey),
      ("value", event.value.toJson),
      ("variationIndex", .ofOption (event.variationIndex.map .ofUInt64)),
      ("reason", .string event.reason.name),
      ("inExperiment", .boolean event.inExperiment),
      ("context", event.context.toJson)] ++
      Context.textMember "ruleId" event.ruleId

end Event

inductive SinkError where
  | failed

/-- What a sink makes of an event: its new state, and whether it failed. -/
structure Sink (σ : Type) where
  receive : Event → σ → σ × Bool

namespace Sink

/-- Keeps every event. -/
def recording : Sink (List Event) := ⟨fun event kept => (kept ++ [event], false)⟩

/-- Keeps every event and then fails. -/
def failing : Sink (List Event) := ⟨fun event kept => (kept ++ [event], true)⟩

/-- Something done beside a sink. It may change the sink's state, and it is
broken off where a failure of the sink comes through. -/
abbrev Step (σ α : Type) := σ → Except SinkError α × σ

/-- Gives the sink an event, and fails if the sink does. -/
def notify {σ : Type} (sink : Sink σ) (event : Event) : Step σ Unit := fun state =>
  match sink.receive event state with
  | (state, false) => (.ok (), state)
  | (state, true) => (.error .failed, state)

/-- Gives an event to the sink, if there is one, and contains its failure. -/
def dispatch {σ : Type} (sink : Option (Sink σ)) (event : Event) : Step σ Unit := fun state =>
  match sink with
  | none => (.ok (), state)
  | some sink =>
      match sink.notify event state with
      | (.ok (), state) => (.ok (), state)
      | (.error .failed, state) => (.ok (), state)

/-- Gives events to the sink one after the other. A failure that came through
would keep back the rest. -/
def dispatchAll {σ : Type} (sink : Option (Sink σ)) : List Event → Step σ Unit
  | [], state => (.ok (), state)
  | event :: rest, state =>
      match dispatch sink event state with
      | (.ok (), state) => dispatchAll sink rest state
      | (.error error, state) => (.error error, state)

/-- Hands events over in order. That the sink fails on one is no reason to keep
back the next. -/
def deliver {σ : Type} (sink : Option (Sink σ)) (events : List Event) (state : σ) : σ :=
  match sink with
  | none => state
  | some sink => events.foldl (fun state event => (sink.receive event state).1) state

end Sink

end FeatureFlags
