import FeatureFlags.Evaluation.Document
import FeatureFlags.Proofs.Flag.Document

/-!
Flags, contexts and evaluations survive being written. What is written for a
value reads back as the same value, of the same kind throughout. What is read
from a document, in whichever of its forms, is such a value, so to write it and
read it again changes nothing. Documents have the numbers of the value; what the
text of a float is read as is another matter, and is found in `Finite.reread`.
-/

namespace FeatureFlags

open Json (Decoder Document ReadsBack Yields Fields maxNesting)

theorem Reason.readsBack (reason : Reason) : ReadsBack decoder (.string reason.name) reason :=
  .choice (by cases reason <;> rfl)

namespace Evaluation

/-- The value has a written form of its own. -/
def Plain (evaluation : Evaluation) : Prop :=
  evaluation.value.Plain

theorem readsBack {evaluation : Evaluation} (h : evaluation.Plain) :
    ReadsBack decoder evaluation.toJson evaluation := by
  refine ReadsBack.record members (by decide) ?keys fun fields hfields => ?read
  case keys =>
    have hkeys := ((List.Sublist.refl ["key", "value", "variationIndex", "reason", "inExperiment",
      "prerequisiteFailed"]).append (Context.keys_textMember "ruleId" evaluation.ruleId)).append
        (Context.keys_textMember "prerequisiteKey" evaluation.prerequisiteKey)
    simp only [List.map_append]
    exact hkeys.subperm.trans (List.Perm.subperm (by decide))
  case read =>
    have hkey := hfields.required "key" rfl (.string evaluation.key)
    have hvalue := hfields.required "value" rfl (FlagValue.readsBack h)
    have hvariationIndex :
        fields.optionalByName "variationIndex" .word64 = some evaluation.variationIndex := by
      rw [hfields.optionalByName]
      exact hfields.withDefault "variationIndex" rfl
        (.optional (fun n _ => .word64 n) fun _ => nofun) none
    have hreason := hfields.required "reason" rfl evaluation.reason.readsBack
    have hruleId : fields.optional "ruleId" .string = some evaluation.ruleId :=
      hfields.optionalText "ruleId" (by simp [List.lookup_append, List.lookup_cons])
    have hinExperiment :=
      hfields.withDefault "inExperiment" rfl (.boolean evaluation.inExperiment) false
    have hprerequisiteFailed :=
      hfields.withDefault "prerequisiteFailed" rfl (.boolean evaluation.prerequisiteFailed) false
    have hprerequisiteKey :
        fields.optional "prerequisiteKey" .string = some evaluation.prerequisiteKey :=
      hfields.optionalText "prerequisiteKey" (by simp [List.lookup_append, List.lookup_cons])
    simp only [hkey, hvalue, hvariationIndex, hreason, hruleId, hinExperiment,
      hprerequisiteFailed, hprerequisiteKey]
    rfl

theorem yields (limit : Nat) :
    Yields decoder (limit + 1) fun evaluation =>
      evaluation.Plain ∧ evaluation.toJson.depth ≤ limit + 1 := by
  refine Yields.record fun fields hlimit evaluation hread => ?_
  simp only [bind, Option.bind_eq_some_iff, pure, Option.some.injEq] at hread
  obtain ⟨_, -, value, hvalue, _, -, _, -, _, -, _, -, _, -, _, -, rfl⟩ := hread
  obtain ⟨hplain, hdepth⟩ := (FlagValue.yields limit).required hlimit hvalue
  refine ⟨hplain, Json.depth_ofMembers_le ?_⟩
  simp only [List.forall_mem_append, List.forall_mem_cons]
  exact ⟨⟨⟨Nat.zero_le _, hdepth, Json.depth_ofOption_le fun _ => Nat.zero_le limit,
    Nat.zero_le _, Nat.zero_le _, Nat.zero_le _, List.forall_mem_nil _⟩,
    Context.depth_textMember _ _ limit⟩, Context.depth_textMember _ _ limit⟩

end Evaluation

/-- A type's written form and its reader belong together. -/
structure RoundTrip {α : Type} (decoder : Decoder α) (toJson : α → Json) (Plain : α → Prop) :
    Prop where
  /-- What is written for a plain value is read as that value, by every reader
  that may enter as many containers as are written inside one another. -/
  reads : ∀ value, Plain value → ∀ nesting, (toJson value).depth ≤ nesting →
    decoder nesting (toJson value).toDocument = some value
  /-- Only plain values are read, whatever the document. -/
  plain : ∀ nesting document value, decoder nesting document = some value → Plain value
  /-- To write what was read and to read it again changes nothing. -/
  again : ∀ document, ((decoder maxNesting document).bind fun value =>
    decoder maxNesting (toJson value).toDocument) = decoder maxNesting document

theorem roundTrip_of_readsBack {α : Type} {decoder : Decoder α} {toJson : α → Json}
    {Plain : α → Prop} (hback : ∀ value, Plain value → ReadsBack decoder (toJson value) value)
    (hplain : ∀ limit, Yields decoder limit Plain)
    (hdepth : Yields decoder maxNesting fun value => (toJson value).depth ≤ maxNesting) :
    RoundTrip decoder toJson Plain where
  reads := hback
  plain nesting document value hread := hplain nesting nesting (Nat.le_refl _) document value hread
  again document := by
    cases hread : decoder maxNesting document with
    | none => rfl
    | some value =>
        exact hback value (hplain maxNesting maxNesting (Nat.le_refl _) document value hread)
          maxNesting (hdepth maxNesting (Nat.le_refl _) document value hread)

/-- Flags, contexts and evaluations survive being written. -/
theorem written_form_roundTrip :
    RoundTrip Flag.decoder Flag.toJson Flag.Plain ∧
      RoundTrip Context.decoder Context.toJson Context.Plain ∧
      RoundTrip Evaluation.decoder Evaluation.toJson Evaluation.Plain := by
  refine ⟨?flag, ?context, ?evaluation⟩
  case flag =>
    exact roundTrip_of_readsBack (fun _ => Flag.readsBack)
      (fun limit => (Flag.yields limit).mono (Nat.le_add_right _ _) fun _ h => h.1)
      ((Flag.yields 120).mono (Nat.le_refl _) fun _ h => h.2)
  case context =>
    exact roundTrip_of_readsBack (fun _ => Context.readsBack)
      (fun limit => (Context.yields limit).mono (Nat.le_add_right _ _) fun _ h => h)
      (fun _ _ _ context _ => Nat.le_trans context.depth_toJson_le (by decide))
  case evaluation =>
    exact roundTrip_of_readsBack (fun _ => Evaluation.readsBack)
      (fun limit => (Evaluation.yields limit).mono (Nat.le_add_right _ _) fun _ h => h.1)
      ((Evaluation.yields 126).mono (Nat.le_refl _) fun _ h => h.2)

/-- A flag written as an array, without its last members. The default is an
integer beyond 63 bits, the variants are `null`, a negative zero and an empty
list, and the rule's operator is written as an object. -/
def terseFlag : Document :=
  .array [
    .string "theme",
    .boolean true,
    .integer (.ofUInt64 0x8000000000000000),
    .array [
      .array [.string "none", .null],
      .array [.string "cold", .float (some (Binary64.zero true))],
      .object [("value", .array []), ("name", .string "empty")]],
    .array [
      .object [
        ("rollout", .array [
          .null,
          .array [.array [.integer (.ofInt64 1), .integer (.ofInt64 7)]]]),
        ("comment", .string none),
        ("id", .null),
        ("clauses", .array [
          .array [
            .string "score",
            .object [("gte", .null)],
            .array [.ofNumeral ⟨false, [1], [5], none⟩, .array [.string "a"], .array []]]])]]]

/-- A context with members that are `null`, empty, or left out. -/
def terseContext : Document :=
  .object [
    ("custom", .object [("score", .string "low"), ("score", .ofNumeral ⟨false, [1], [], some 3⟩)]),
    ("groups", .array []),
    ("name", .null),
    ("email", .string ""),
    ("key", .string "u")]

/-- An evaluation without an index, and with its reason written as an object. -/
def terseEvaluation : Document :=
  .object [
    ("reason", .object [("OFF", .null)]),
    ("value", .object [("b", .null), ("a", .array [.integer (.ofInt64 (-2))])]),
    ("key", .string "theme")]

/-- A context with a negative zero, which keeps its sign. -/
def coldContext : Context where
  key := "u"
  custom := Table.ofList [("score", .number (.finite (Binary64.zero true)))]

theorem written_form_roundTrip_in_terse :
    (Flag.decoder maxNesting terseFlag).isSome = true ∧
      ((Flag.decoder maxNesting terseFlag).bind fun flag =>
        Flag.decoder maxNesting flag.toJson.toDocument) = Flag.decoder maxNesting terseFlag ∧
      (Context.decoder maxNesting terseContext).isSome = true ∧
      ((Context.decoder maxNesting terseContext).bind fun context =>
        Context.decoder maxNesting context.toJson.toDocument) =
          Context.decoder maxNesting terseContext ∧
      (Evaluation.decoder maxNesting terseEvaluation).isSome = true ∧
      ((Evaluation.decoder maxNesting terseEvaluation).bind fun evaluation =>
        Evaluation.decoder maxNesting evaluation.toJson.toDocument) =
          Evaluation.decoder maxNesting terseEvaluation ∧
      Context.decoder maxNesting coldContext.toJson.toDocument = some coldContext := by
  obtain ⟨hflag, hcontext, hevaluation⟩ := written_form_roundTrip
  refine ⟨by decide +kernel, hflag.again terseFlag, by decide +kernel,
    hcontext.again terseContext, by decide +kernel, hevaluation.again terseEvaluation, ?_⟩
  have hplain : coldContext.Plain := List.forall_mem_singleton.mpr (.number _)
  exact hcontext.reads coldContext hplain maxNesting
    (Nat.le_trans coldContext.depth_toJson_le (by decide))

end FeatureFlags
