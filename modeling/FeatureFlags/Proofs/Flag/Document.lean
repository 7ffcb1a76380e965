import FeatureFlags.Flag.Document
import FeatureFlags.Proofs.Context.Document

/-!
Written flags read back. Flag values are told apart by their form alone, so a
JSON value that is of a simple kind is the one value that does not come back as
it was.
-/

namespace FeatureFlags

open Json (Decoder ReadsBack Yields Fields)

namespace FlagValue

/-- A number is finite, and a JSON value is of no simple kind. The members of
its objects stand in order, as in every object that is built. -/
inductive Plain : FlagValue → Prop where
  | bool (b : Bool) : Plain (.bool b)
  | int (n : Int64) : Plain (.int n)
  | float (x : Binary64.Finite) : Plain (.float (.finite x))
  | string (s : String) : Plain (.string s)
  | null : Plain (.json .null)
  | array {items : List Json} (h : (Json.array items).Canonical) : Plain (.json (.array items))
  | object {members : List (String × Json)} (h : (Json.object members).Canonical) :
      Plain (.json (.object members))

theorem Plain.canonical {value : FlagValue} (h : value.Plain) : value.toJson.Canonical := by
  cases h with
  | bool b => exact .boolean b
  | int n => exact .integer _
  | float x => exact .float x
  | string s => exact .string s
  | null => exact .null
  | array h => exact h
  | object h => exact h

/-- The written form of a plain value stands for the value, of the same kind. -/
theorem Plain.ofJson_toJson {value : FlagValue} (h : value.Plain) :
    ofJson value.toJson = value := by
  cases h with
  | int n =>
      simp only [toJson, asJson, Json.ofOption, Option.getD_some, ofJson,
        Json.Integer.toInt64?_ofInt64]
  | _ => rfl

theorem readsBack {value : FlagValue} (h : value.Plain) :
    ReadsBack decoder value.toJson value := by
  intro nesting hdepth
  rw [decoder, Json.toJson?_toDocument _ nesting h.canonical hdepth, Option.map_some,
    h.ofJson_toJson]

/-- What a JSON value stands for is plain, and is written with no more
containers than the JSON value has. -/
theorem plain_ofJson {value : Json} (h : value.Canonical) :
    (ofJson value).Plain ∧ (ofJson value).toJson.depth ≤ value.depth := by
  cases value with
  | null => exact ⟨.null, Nat.le_refl _⟩
  | boolean b => exact ⟨.bool b, Nat.le_refl _⟩
  | integer n =>
      rw [ofJson]
      cases n.toInt64? with
      | some i => exact ⟨.int i, Nat.le_refl _⟩
      | none =>
          obtain ⟨x, hfinite⟩ := n.exists_finite
          rw [hfinite]
          exact ⟨.float x, Nat.le_refl _⟩
  | float x => exact ⟨.float x, Nat.le_refl _⟩
  | string s => exact ⟨.string s, Nat.le_refl _⟩
  | array items => exact ⟨.array h, Nat.le_refl _⟩
  | object members => exact ⟨.object h, Nat.le_refl _⟩

theorem yields (limit : Nat) :
    Yields decoder limit fun value => value.Plain ∧ value.toJson.depth ≤ limit := by
  intro nesting hlimit document value hread
  obtain ⟨json, hjson, rfl⟩ := Option.map_eq_some_iff.mp hread
  obtain ⟨hcanonical, hdepth⟩ := Json.canonical_of_toJson? document nesting hjson
  obtain ⟨hplain, hwritten⟩ := plain_ofJson hcanonical
  exact ⟨hplain, Nat.le_trans hwritten (Nat.le_trans hdepth hlimit)⟩

end FlagValue

theorem Operator.readsBack (operator : Operator) :
    ReadsBack decoder (.string operator.name) operator :=
  .choice (by cases operator <;> rfl)

theorem FlagType.readsBack (flagType : FlagType) :
    ReadsBack decoder (.string flagType.name) flagType :=
  .choice (by cases flagType <;> rfl)

namespace Clause

/-- All values that are numbers are finite. -/
def Plain (clause : Clause) : Prop :=
  ∀ value ∈ clause.values, value.Plain

theorem readsBack {clause : Clause} (h : clause.Plain) :
    ReadsBack decoder clause.toJson clause := by
  refine ReadsBack.record members (by decide) (List.Subperm.refl _)
    fun fields hfields => ?_
  have hattribute := hfields.required "attribute" rfl (.string clause.attributeName)
  have hoperator := hfields.required "operator" rfl clause.operator.readsBack
  have hvalues := hfields.required "values" rfl
    (.list fun value hmem => Attribute.readsBack (h value hmem))
  have hnegate := hfields.withDefault "negate" rfl (.boolean clause.negate) false
  simp only [hattribute, hoperator, hvalues, hnegate]
  rfl

theorem yields (limit : Nat) : Yields decoder (limit + 2) Plain := by
  refine Yields.record fun fields hlimit clause hread => ?_
  simp only [bind, Option.bind_eq_some_iff, pure, Option.some.injEq] at hread
  obtain ⟨_, -, _, -, values, hvalues, _, -, rfl⟩ := hread
  exact (Attribute.yields limit).list.required hlimit hvalues

theorem depth_toJson_le (clause : Clause) : clause.toJson.depth ≤ 3 := by
  have hvalues : (Json.array (clause.values.map (·.toJson))).depth ≤ 2 :=
    Json.depth_array_map_le fun value _ => value.depth_toJson_le
  refine Json.depth_ofMembers_le ?_
  simp only [List.forall_mem_cons]
  exact ⟨Nat.zero_le 2, Nat.zero_le 2, hvalues, Nat.zero_le 2, List.forall_mem_nil _⟩

theorem canonical_toJson {clause : Clause} (h : clause.Plain) : clause.toJson.Canonical := by
  refine Json.canonical_ofMembers ?_
  simp only [List.forall_mem_cons]
  exact ⟨.string _, .string _, .array (List.forall_mem_map.mpr fun value hmem =>
    (h value hmem).canonical), .boolean _, List.forall_mem_nil _⟩

end Clause

namespace WeightedVariation

theorem readsBack (entry : WeightedVariation) : ReadsBack decoder entry.toJson entry := by
  refine ReadsBack.record members (by decide) (List.Subperm.refl _) fun fields hfields => ?_
  have hvariation := hfields.required "variation" rfl (.word64 entry.variation)
  have hweight := hfields.required "weight" rfl (.word32 entry.weight)
  simp only [hvariation, hweight]
  rfl

theorem depth_toJson_le (entry : WeightedVariation) : entry.toJson.depth ≤ 1 := by
  refine Json.depth_ofMembers_le ?_
  simp only [List.forall_mem_cons]
  exact ⟨Nat.zero_le 0, Nat.zero_le 0, List.forall_mem_nil _⟩

theorem canonical_toJson (entry : WeightedVariation) : entry.toJson.Canonical := by
  refine Json.canonical_ofMembers ?_
  simp only [List.forall_mem_cons]
  exact ⟨.integer _, .integer _, List.forall_mem_nil _⟩

end WeightedVariation

namespace Rollout

theorem readsBack (rollout : Rollout) : ReadsBack decoder rollout.toJson rollout := by
  refine ReadsBack.record members (by decide) (List.Subperm.refl _) fun fields hfields => ?_
  have hbucketBy : fields.optional "bucketBy" .string = some rollout.bucketBy :=
    hfields.withDefault "bucketBy" rfl (.optionalText rollout.bucketBy) none
  have hvariations := hfields.required "variations" rfl
    (.list fun (entry : WeightedVariation) _ => entry.readsBack)
  simp only [hbucketBy, hvariations]
  rfl

theorem depth_toJson_le (rollout : Rollout) : rollout.toJson.depth ≤ 3 := by
  have hvariations : (Json.array (rollout.variations.map (·.toJson))).depth ≤ 2 :=
    Json.depth_array_map_le fun entry _ => entry.depth_toJson_le
  refine Json.depth_ofMembers_le ?_
  simp only [List.forall_mem_cons]
  exact ⟨Json.depth_ofOption_le fun _ => Nat.zero_le 2, hvariations, List.forall_mem_nil _⟩

theorem canonical_toJson (rollout : Rollout) : rollout.toJson.Canonical := by
  refine Json.canonical_ofMembers ?_
  simp only [List.forall_mem_cons]
  exact ⟨Json.canonical_ofOption .string, .array (List.forall_mem_map.mpr fun entry _ =>
    entry.canonical_toJson), List.forall_mem_nil _⟩

end Rollout

namespace Rule

/-- All values in the clauses that are numbers are finite. -/
def Plain (rule : Rule) : Prop :=
  ∀ clause ∈ rule.clauses, clause.Plain

theorem readsBack {rule : Rule} (h : rule.Plain) : ReadsBack decoder rule.toJson rule := by
  refine ReadsBack.record members (by decide) (List.Subperm.refl _) fun fields hfields => ?_
  have hid : fields.optional "id" .string = some rule.id :=
    hfields.withDefault "id" rfl (.optionalText rule.id) none
  have hclauses := hfields.withDefault "clauses" rfl
    (.list fun clause hmem => Clause.readsBack (h clause hmem)) []
  have hvariation := hfields.withDefault "variation" rfl (.word64 rule.variation) 0
  have hpercentage : fields.optional "percentage" .word32 = some rule.percentage :=
    hfields.withDefault "percentage" rfl
      (.optional (fun n _ => .word32 n) fun _ => nofun) none
  have hrollout : fields.optional "rollout" Rollout.decoder = some rule.rollout :=
    hfields.withDefault "rollout" rfl
      (.optional (fun rollout _ => rollout.readsBack) fun _ => nofun) none
  simp only [hid, hclauses, hvariation, hpercentage, hrollout]
  rfl

theorem yields (limit : Nat) : Yields decoder (limit + 4) Plain := by
  refine Yields.record fun fields hlimit rule hread => ?_
  simp only [bind, Option.bind_eq_some_iff, pure, Option.some.injEq] at hread
  obtain ⟨_, -, clauses, hclauses, _, -, _, -, _, -, rfl⟩ := hread
  exact (Clause.yields limit).list.withDefault hlimit (List.forall_mem_nil _) hclauses

theorem depth_toJson_le (rule : Rule) : rule.toJson.depth ≤ 5 := by
  have hclauses : (Json.array (rule.clauses.map (·.toJson))).depth ≤ 4 :=
    Json.depth_array_map_le fun clause _ => clause.depth_toJson_le
  have hrollout : (Json.ofOption (rule.rollout.map (·.toJson))).depth ≤ 4 :=
    Json.depth_ofOption_le fun rollout => Nat.le_succ_of_le rollout.depth_toJson_le
  refine Json.depth_ofMembers_le ?_
  simp only [List.forall_mem_cons]
  exact ⟨Json.depth_ofOption_le fun _ => Nat.zero_le 4, hclauses, Nat.zero_le 4,
    Json.depth_ofOption_le fun _ => Nat.zero_le 4, hrollout, List.forall_mem_nil _⟩

theorem canonical_toJson {rule : Rule} (h : rule.Plain) : rule.toJson.Canonical := by
  refine Json.canonical_ofMembers ?_
  simp only [List.forall_mem_cons]
  exact ⟨Json.canonical_ofOption .string, .array (List.forall_mem_map.mpr fun clause hmem =>
    Clause.canonical_toJson (h clause hmem)), .integer _,
    Json.canonical_ofOption fun _ => .integer _, Json.canonical_ofOption Rollout.canonical_toJson,
    List.forall_mem_nil _⟩

end Rule

namespace Prerequisite

theorem readsBack (prerequisite : Prerequisite) :
    ReadsBack decoder prerequisite.toJson prerequisite := by
  refine ReadsBack.record members (by decide) (List.Subperm.refl _) fun fields hfields => ?_
  have hkey := hfields.required "key" rfl (.string prerequisite.key)
  have hvariation := hfields.required "variation" rfl (.word64 prerequisite.variation)
  simp only [hkey, hvariation]
  rfl

theorem depth_toJson_le (prerequisite : Prerequisite) : prerequisite.toJson.depth ≤ 1 := by
  refine Json.depth_ofMembers_le ?_
  simp only [List.forall_mem_cons]
  exact ⟨Nat.zero_le 0, Nat.zero_le 0, List.forall_mem_nil _⟩

theorem canonical_toJson (prerequisite : Prerequisite) : prerequisite.toJson.Canonical := by
  refine Json.canonical_ofMembers ?_
  simp only [List.forall_mem_cons]
  exact ⟨.string _, .integer _, List.forall_mem_nil _⟩

end Prerequisite

namespace Variant

theorem readsBack {variant : Variant} (h : variant.value.Plain) :
    ReadsBack decoder variant.toJson variant := by
  refine ReadsBack.record members (by decide) (List.Subperm.refl _) fun fields hfields => ?_
  have hname := hfields.required "name" rfl (.string variant.name)
  have hvalue := hfields.required "value" rfl (FlagValue.readsBack h)
  simp only [hname, hvalue]
  rfl

theorem yields (limit : Nat) :
    Yields decoder (limit + 1) fun variant =>
      variant.value.Plain ∧ variant.toJson.depth ≤ limit + 1 := by
  refine Yields.record fun fields hlimit variant hread => ?_
  simp only [bind, Option.bind_eq_some_iff, pure, Option.some.injEq] at hread
  obtain ⟨_, -, value, hvalue, rfl⟩ := hread
  obtain ⟨hplain, hdepth⟩ := (FlagValue.yields limit).required hlimit hvalue
  refine ⟨hplain, Json.depth_ofMembers_le ?_⟩
  simp only [List.forall_mem_cons]
  exact ⟨Nat.zero_le limit, hdepth, List.forall_mem_nil _⟩

theorem canonical_toJson {variant : Variant} (h : variant.value.Plain) :
    variant.toJson.Canonical := by
  refine Json.canonical_ofMembers ?_
  simp only [List.forall_mem_cons]
  exact ⟨.string _, h.canonical, List.forall_mem_nil _⟩

end Variant

namespace Flag

/-- The numbers in a flag are finite, and its values have a written form of
their own. -/
structure Plain (flag : Flag) : Prop where
  defaultValue : flag.defaultValue.Plain
  variants : ∀ variant ∈ flag.variants, variant.value.Plain
  rules : ∀ rule ∈ flag.rules, rule.Plain

theorem readsBack {flag : Flag} (h : flag.Plain) : ReadsBack decoder flag.toJson flag := by
  refine ReadsBack.record members (by decide) (List.Subperm.refl _) fun fields hfields => ?_
  have hkey := hfields.required "key" rfl (.string flag.key)
  have henabled := hfields.required "enabled" rfl (.boolean flag.enabled)
  have hdefaultValue := hfields.required "defaultValue" rfl (FlagValue.readsBack h.defaultValue)
  have hvariants := hfields.withDefault "variants" rfl
    (.list fun variant hmem => Variant.readsBack (h.variants variant hmem)) []
  have hrules := hfields.withDefault "rules" rfl
    (.list fun rule hmem => Rule.readsBack (h.rules rule hmem)) []
  have hprerequisites := hfields.withDefault "prerequisites" rfl
    (.list fun (prerequisite : Prerequisite) _ => prerequisite.readsBack) []
  have hflagType := hfields.withDefault "type" rfl flag.flagType.readsBack .bool
  simp only [hkey, henabled, hdefaultValue, hvariants, hrules, hprerequisites, hflagType]
  rfl

/-- A flag that is read is plain. It is written within the same limit, which has
to leave room for the lists that are written though they were left out. -/
theorem yields (limit : Nat) :
    Yields decoder (limit + 7) fun flag => flag.Plain ∧ flag.toJson.depth ≤ limit + 7 := by
  refine Yields.record fun fields hlimit flag hread => ?_
  simp only [bind, Option.bind_eq_some_iff, pure, Option.some.injEq] at hread
  obtain ⟨_, -, _, -, defaultValue, hdefaultValue, variants, hvariants, rules, hrules,
    prerequisites, hprerequisites, _, -, rfl⟩ := hread
  obtain ⟨hvalue, hvalueDepth⟩ := (FlagValue.yields (limit + 6)).required hlimit hdefaultValue
  -- What is in a variant may nest as deep as the limit allows, and everything in
  -- rules and prerequisites stays within a few containers anyway.
  have hvariants := (Variant.yields (limit + 4)).list.withDefault hlimit (List.forall_mem_nil _)
    hvariants
  have hrules := (Rule.yields (limit + 1)).list.withDefault hlimit (List.forall_mem_nil _) hrules
  have hvariantsDepth : (Json.array (variants.map (·.toJson))).depth ≤ limit + 6 :=
    Json.depth_array_map_le fun variant hmem => (hvariants variant hmem).2
  have hrulesDepth : (Json.array (rules.map (·.toJson))).depth ≤ limit + 6 :=
    Json.depth_array_map_le fun rule _ =>
      Nat.le_trans rule.depth_toJson_le (Nat.le_add_left 5 limit)
  have hprerequisitesDepth : (Json.array (prerequisites.map (·.toJson))).depth ≤ limit + 6 :=
    Json.depth_array_map_le fun prerequisite _ =>
      Nat.le_trans prerequisite.depth_toJson_le (by omega)
  refine ⟨⟨hvalue, fun variant hmem => (hvariants variant hmem).1, hrules⟩,
    Json.depth_ofMembers_le ?_⟩
  simp only [List.forall_mem_cons]
  exact ⟨Nat.zero_le _, Nat.zero_le _, hvalueDepth, hvariantsDepth, hrulesDepth,
    hprerequisitesDepth, Nat.zero_le _, List.forall_mem_nil _⟩

theorem canonical_toJson {flag : Flag} (h : flag.Plain) : flag.toJson.Canonical := by
  refine Json.canonical_ofMembers ?_
  simp only [List.forall_mem_cons]
  exact ⟨.string _, .boolean _, h.defaultValue.canonical,
    .array (List.forall_mem_map.mpr fun variant hmem =>
      Variant.canonical_toJson (h.variants variant hmem)),
    .array (List.forall_mem_map.mpr fun rule hmem => Rule.canonical_toJson (h.rules rule hmem)),
    .array (List.forall_mem_map.mpr fun prerequisite _ => prerequisite.canonical_toJson),
    .string _, List.forall_mem_nil _⟩

end Flag

end FeatureFlags
