import FeatureFlags.Client
import FeatureFlags.Flag.Document
import FeatureFlags.Proofs.Numeric.Whole

/-!
Conversions of flag values. A JSON value can be kept as such or decoded to one
of the simple kinds, and no conversion to a boolean, a text or a number tells
the two apart. A number is converted to an integer if it has no fraction and
fits in a signed word, in whatever form it was written. Back to JSON the two
differ only for integers that do not fit in a signed word: decoding rounds them
to binary64 numbers.
-/

namespace FeatureFlags

variable {n : Json.Integer} {value : Json}

namespace Json

theorem Integer.toInt64?_of_wide (hwide : n.Wide) : n.toInt64? = none :=
  if_neg (Int.not_lt.mpr hwide)

/-- An integer that is not wide is the integer of a signed word. -/
theorem Integer.exists_toInt64? (hnarrow : ¬ n.Wide) :
    ∃ i : Int64, n.toInt64? = some i ∧ .ofInt64 i = n := by
  have hupper : n.value < 0x8000000000000000 := Int.not_le.mp hnarrow
  have hvalue : (Int64.ofInt n.value).toInt = n.value :=
    Int64.toInt_ofInt_of_le n.lower hupper
  refine ⟨.ofInt n.value, if_pos hupper, ?_⟩
  simp only [ofInt64, hvalue]

/-- A wide integer is too large for a signed word also after it is rounded. -/
theorem Integer.Wide.wholeNumber?_toBinary64 (hwide : n.Wide) :
    FlagValue.wholeNumber? n.toBinary64 = none := by
  obtain ⟨x, hx, hwhole⟩ := hwide.exists_whole
  have hlow := hwide.le_nearest
  have hrange : ¬ (-0x8000000000000000 ≤ (n.nearest : Int) ∧
      (n.nearest : Int) < 0x8000000000000000) := by
    omega
  rw [hx, FlagValue.wholeNumber?, hwhole, Option.bind_some, if_neg hrange]

/-- The integer that a value is, if it is a number without a fraction. -/
def whole? : Json → Option Int
  | .integer n => some n.value
  | .float x => x.toInt?
  | _ => none

end Json

namespace FlagValue

theorem ofJson_of_wide (hwide : n.Wide) : ofJson (.integer n) = .float n.toBinary64 := by
  rw [ofJson, Json.Integer.toInt64?_of_wide hwide]

theorem exists_ofJson_int (hnarrow : ¬ n.Wide) :
    ∃ i, ofJson (.integer n) = .int i ∧ .ofInt64 i = n := by
  obtain ⟨i, hword, hvalue⟩ := Json.Integer.exists_toInt64? hnarrow
  refine ⟨i, ?_, hvalue⟩
  rw [ofJson, hword]

/-! ### Numbers -/

theorem wholeNumber?_eq_some_iff {x : Binary64.Finite} {i : Int64} :
    wholeNumber? (.finite x) = some i ↔ x.toInt? = some i.toInt := by
  rw [wholeNumber?, Option.bind_eq_some_iff]
  constructor
  · rintro ⟨whole, hwhole, hin⟩
    split at hin
    · next hrange =>
        cases hin
        rw [hwhole, Int64.toInt_ofInt_of_le hrange.1 hrange.2]
    · cases hin
  · intro hwhole
    refine ⟨i.toInt, hwhole, ?_⟩
    rw [if_pos ⟨i.le_toInt, i.toInt_lt⟩, Int64.ofInt_toInt]

theorem asInt_json_eq_some_iff {i : Int64} :
    (json value).asInt = some i ↔ value.whole? = some i.toInt := by
  cases value with
  | null | boolean _ | string _ | array _ | object _ => simp [asInt, Json.whole?]
  | float x => exact wholeNumber?_eq_some_iff
  | integer n =>
      by_cases hwide : n.Wide
      · rw [asInt, Json.Integer.toInt64?_of_wide hwide, hwide.wholeNumber?_toBinary64]
        simp only [Json.whole?, Option.or_none, Option.some.injEq, reduceCtorEq, false_iff]
        have hlt := i.toInt_lt
        unfold Json.Integer.Wide at hwide
        omega
      · obtain ⟨own, hword, rfl⟩ := Json.Integer.exists_toInt64? hwide
        rw [asInt, hword]
        simp [Json.whole?, Json.Integer.ofInt64, Int64.toInt_inj]

theorem asInt_ofJson (value : Json) : (ofJson value).asInt = (json value).asInt := by
  cases value with
  | null | boolean _ | string _ | array _ | object _ => rfl
  | float x => rw [ofJson, asInt, asInt]
  | integer n =>
      -- by rewriting only: to compute the rounded number takes far too long
      rw [asInt, ofJson]
      cases n.toInt64? with
      | none => rw [asInt, Option.none_or]
      | some i => rfl

theorem asFloat_ofJson (value : Json) : (ofJson value).asFloat = (json value).asFloat := by
  cases value with
  | null | boolean _ | string _ | array _ | object _ | float _ => rfl
  | integer n =>
      by_cases hwide : n.Wide
      · rw [ofJson_of_wide hwide, asFloat, asFloat]
      · obtain ⟨i, hint, rfl⟩ := exists_ofJson_int hwide
        rw [hint, asFloat, asFloat, Json.Integer.toBinary64, Json.Integer.ofInt64]

/-! ### Other kinds -/

theorem asBool_ofJson (value : Json) : (ofJson value).asBool = (json value).asBool := by
  cases value with
  | null | boolean _ | string _ | array _ | object _ | float _ => rfl
  | integer n => cases hword : n.toInt64? <;> simp [ofJson, asBool, hword]

theorem asString_ofJson (value : Json) : (ofJson value).asString = (json value).asString := by
  cases value with
  | null | boolean _ | string _ | array _ | object _ | float _ => rfl
  | integer n => cases hword : n.toInt64? <;> simp [ofJson, asString, hword]

/-- Only values of none of the simple kinds are kept as they are. -/
theorem ofJson_eq_json_iff {inner : Json} :
    ofJson value = json inner ↔ value = inner ∧
      (value = .null ∨ (∃ items, value = .array items) ∨ ∃ members, value = .object members) := by
  cases value with
  | null | array _ | object _ => simp [ofJson]
  | boolean _ | string _ | float _ => simp [ofJson]
  | integer n => cases hword : n.toInt64? <;> simp [ofJson, hword]

/-! ### Back to JSON -/

theorem asJson_ofJson_of_ne (hother : ∀ n, value = .integer n → ¬ n.Wide) :
    (ofJson value).asJson = some value := by
  cases value with
  | null | boolean _ | string _ | array _ | object _ | float _ => rfl
  | integer n =>
      obtain ⟨i, hint, rfl⟩ := exists_ofJson_int (hother n rfl)
      rw [hint, asJson]

/-- A wide integer comes back as the whole number that is nearest to it. -/
theorem asJson_ofJson_of_wide (hwide : n.Wide) :
    ∃ x, (ofJson (.integer n)).asJson = some (.float x) ∧ x.toInt? = some (n.nearest : Int) := by
  obtain ⟨x, hx, hwhole⟩ := hwide.exists_whole
  refine ⟨x, ?_, hwhole⟩
  rw [ofJson_of_wide hwide, hx, asJson]

theorem asJson_ofJson_iff :
    (ofJson value).asJson = some value ↔ ∀ n, value = .integer n → ¬ n.Wide := by
  constructor
  · rintro hsame n rfl hwide
    obtain ⟨x, hfloat, _⟩ := asJson_ofJson_of_wide hwide
    rw [hfloat] at hsame
    cases hsame
  · exact asJson_ofJson_of_ne

end FlagValue

/-! ### Clients -/

namespace Client

/-- The client answers for a key with this value. -/
def Resolves (client : Client) (context : Context) (key : String) (value : FlagValue) : Prop :=
  ∃ evaluation, (client.variation context key).result = .ok evaluation ∧ evaluation.value = value

theorem Resolves.result_eq {client : Client} {context : Context} {key : String}
    {value : FlagValue} (hresolves : client.Resolves context key value) {α : Type}
    (convert : FlagValue → Option α) (default : α) :
    (convertedVariation convert client context key default).result =
      (convert value).getD default := by
  obtain ⟨evaluation, hresult, rfl⟩ := hresolves
  simp only [convertedVariation, Consultation.map, hresult]

/-- An override is what a client answers with. -/
theorem resolves_withOverride (client : Client) (context : Context) (key : String)
    (value : FlagValue) : (client.withOverride key value).Resolves context key value := by
  have hover : (client.withOverride key value).overrides.get? key = some value :=
    (Table.get?_insert client.overrides key value key).trans (if_pos rfl)
  refine ⟨.ofOverride key value, ?_, rfl⟩
  simp only [variation, hover]

/-- The clients serve the same in each of these types, whatever the default. -/
structure ServesAlike (first second : Client) (context : Context) (key : String) : Prop where
  bool : ∀ default, (first.boolVariation context key default).result =
    (second.boolVariation context key default).result
  string : ∀ default, (first.stringVariation context key default).result =
    (second.stringVariation context key default).result
  int : ∀ default, (first.intVariation context key default).result =
    (second.intVariation context key default).result
  float : ∀ default, (first.floatVariation context key default).result =
    (second.floatVariation context key default).result

theorem servesAlike_of_resolves {first second : Client} {context : Context} {key : String}
    (hfirst : first.Resolves context key (.json value))
    (hsecond : second.Resolves context key (.ofJson value)) :
    first.ServesAlike second context key where
  bool default := by
    rw [boolVariation, boolVariation, hfirst.result_eq, hsecond.result_eq, FlagValue.asBool_ofJson]
  string default := by
    rw [stringVariation, stringVariation, hfirst.result_eq, hsecond.result_eq,
      FlagValue.asString_ofJson]
  int default := by
    rw [intVariation, intVariation, hfirst.result_eq, hsecond.result_eq, FlagValue.asInt_ofJson]
  float default := by
    rw [floatVariation, floatVariation, hfirst.result_eq, hsecond.result_eq,
      FlagValue.asFloat_ofJson]

end Client

/-- How a JSON value is converted, kept as such and decoded. -/
structure ConvertsAlike (value : Json) : Prop where
  decoded : ∀ nesting document, document.toJson? nesting = some value →
    FlagValue.decoder nesting document = some (.ofJson value)
  bool : (FlagValue.json value).asBool = (FlagValue.ofJson value).asBool
  string : (FlagValue.json value).asString = (FlagValue.ofJson value).asString
  int : (FlagValue.json value).asInt = (FlagValue.ofJson value).asInt
  float : (FlagValue.json value).asFloat = (FlagValue.ofJson value).asFloat
  /-- Any number without a fraction is an integer, if it fits in a signed word. -/
  whole : ∀ i : Int64, (FlagValue.json value).asInt = some i ↔ value.whole? = some i.toInt
  wrapped : ∀ inner, FlagValue.ofJson value = .json inner ↔ value = inner ∧
    (value = .null ∨ (∃ items, value = .array items) ∨ ∃ members, value = .object members)
  written : (FlagValue.ofJson value).asJson = some value ↔ ∀ n, value = .integer n → ¬ n.Wide
  served : ∀ (first second : Client) context key, first.Resolves context key (.json value) →
    second.Resolves context key (.ofJson value) → first.ServesAlike second context key
  overridden : ∀ (client : Client) context key,
    (client.withOverride key (.json value)).ServesAlike
      (client.withOverride key (.ofJson value)) context key

/-- No conversion tells whether a JSON value was decoded or is kept as such, and
clients serve the same for both. -/
theorem conversions_ignore_wrapping (value : Json) : ConvertsAlike value where
  decoded nesting document hread := by
    rw [FlagValue.decoder, hread, Option.map_some]
  bool := (FlagValue.asBool_ofJson value).symm
  string := (FlagValue.asString_ofJson value).symm
  int := (FlagValue.asInt_ofJson value).symm
  float := (FlagValue.asFloat_ofJson value).symm
  whole _ := FlagValue.asInt_json_eq_some_iff
  wrapped _ := FlagValue.ofJson_eq_json_iff
  written := FlagValue.asJson_ofJson_iff
  served _ _ _ _ hfirst hsecond := Client.servesAlike_of_resolves hfirst hsecond
  overridden client context key :=
    Client.servesAlike_of_resolves (client.resolves_withOverride context key _)
      (client.resolves_withOverride context key _)

end FeatureFlags
