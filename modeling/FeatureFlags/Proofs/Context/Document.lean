import FeatureFlags.Context.Document
import FeatureFlags.Proofs.Json.Decoders

/-!
Written attributes and contexts read back. What is left out of a written
context is what the reader takes for granted.
-/

namespace FeatureFlags

open Json (Decoder ReadsBack Yields Fields)

namespace Attribute

/-- The attribute is no number, or a finite one. -/
inductive Plain : Attribute → Prop where
  | string (s : String) : Plain (.string s)
  | int (n : Int64) : Plain (.int n)
  | number (x : Binary64.Finite) : Plain (.number (.finite x))
  | bool (b : Bool) : Plain (.bool b)
  | list (items : List String) : Plain (.list items)

theorem Plain.canonical {subject : Attribute} (h : subject.Plain) :
    subject.toJson.Canonical := by
  cases h with
  | string s => exact .string s
  | int n => exact .integer _
  | number x => exact .float x
  | bool b => exact .boolean b
  | list items => exact .array (List.forall_mem_map.mpr fun item _ => .string item)

theorem Plain.ofJson?_toJson {subject : Attribute} (h : subject.Plain) :
    ofJson? subject.toJson = some subject := by
  cases h with
  | string s => rfl
  | int n => simp only [toJson, ofJson?, Json.Integer.toInt64?_ofInt64]
  | number x => rfl
  | bool b => rfl
  | list items =>
      have hread : (items.map Json.string).mapM Json.string? = some items :=
        Json.mapM_map_eq_some fun _ _ => rfl
      simp only [toJson, ofJson?, hread, Option.map_some]

theorem readsBack {subject : Attribute} (h : subject.Plain) :
    ReadsBack decoder subject.toJson subject := by
  intro nesting hdepth
  rw [decoder, Json.toJson?_toDocument _ nesting h.canonical hdepth, Option.bind_some,
    h.ofJson?_toJson]

theorem depth_toJson_le (subject : Attribute) : subject.toJson.depth ≤ 1 := by
  cases subject with
  | list items =>
      exact Json.depth_array_map_le fun item _ => Nat.le_refl 0
  | number x => cases x <;> exact Nat.zero_le 1
  | _ => exact Nat.zero_le 1

/-- No attribute is read from a number that is not finite. -/
theorem plain_of_ofJson? {value : Json} {subject : Attribute}
    (hread : ofJson? value = some subject) : subject.Plain := by
  cases value with
  | null => cases hread
  | boolean b =>
      cases hread
      exact .bool b
  | integer n =>
      simp only [ofJson?] at hread
      split at hread
      · next i _ =>
          cases hread
          exact .int i
      · obtain ⟨x, hfinite⟩ := n.exists_finite
        cases hread
        rw [hfinite]
        exact .number x
  | float x =>
      cases hread
      exact .number x
  | string s =>
      cases hread
      exact .string s
  | array items =>
      obtain ⟨texts, _, rfl⟩ := Option.map_eq_some_iff.mp hread
      exact .list texts
  | object members => cases hread

theorem yields (limit : Nat) : Yields decoder limit Plain := by
  intro nesting _ document subject hread
  obtain ⟨value, _, hread⟩ := Option.bind_eq_some_iff.mp hread
  exact plain_of_ofJson? hread

end Attribute

namespace Context

/-- All custom attributes that are numbers are finite. -/
def Plain (context : Context) : Prop :=
  ∀ entry ∈ context.custom.entries, entry.2.Plain

@[simp] theorem lookup_textMember (own name : String) (text : Option String) :
    (textMember own text).lookup name = if name = own then text.map .string else none := by
  cases text <;> simp [textMember, Table.lookup_cons_eq]

@[simp] theorem lookup_unless (p : Prop) [Decidable p] (own name : String) (written : Json) :
    (if p then [] else [(own, written)]).lookup name =
      if name = own then if p then none else some written else none := by
  by_cases hp : p <;> simp [Table.lookup_cons_eq, hp]

theorem keys_textMember (own : String) (text : Option String) :
    ((textMember own text).map (·.1)).Sublist [own] := by
  cases text <;> simp [textMember]

theorem keys_unless (p : Prop) [Decidable p] (own : String) (written : Json) :
    ((if p then [] else [(own, written)]).map (·.1)).Sublist [own] := by
  by_cases hp : p <;> simp [hp]

theorem readsBack {context : Context} (h : context.Plain) :
    ReadsBack decoder context.toJson context := by
  refine ReadsBack.record members (by decide) ?keys fun fields hfields => ?read
  case keys =>
    refine List.Sublist.subperm ?_
    simp only [List.map_append]
    exact (((((((List.Sublist.refl ["key"]).append (keys_textMember "name" _)).append
      (keys_textMember "email" _)).append (keys_textMember "ip" _)).append
      (keys_textMember "country" _)).append (List.Sublist.refl ["anonymous"])).append
      (keys_unless _ "groups" _)).append (keys_unless _ "custom" _)
  case read =>
    have hkey := hfields.required "key" rfl (.string context.key)
    have hname : fields.optional "name" .string = some context.name :=
      hfields.optionalText "name" (by simp [List.lookup_append, List.lookup_cons])
    have hemail : fields.optional "email" .string = some context.email :=
      hfields.optionalText "email" (by simp [List.lookup_append, List.lookup_cons])
    have hip : fields.optional "ip" .string = some context.ip :=
      hfields.optionalText "ip" (by simp [List.lookup_append, List.lookup_cons])
    have hcountry : fields.optional "country" .string = some context.country :=
      hfields.optionalText "country" (by simp [List.lookup_append, List.lookup_cons])
    have hanonymous : fields.withDefault "anonymous" .boolean false = some context.anonymous :=
      hfields.withDefault "anonymous"
        (by simp [List.lookup_append, List.lookup_cons]) (.boolean context.anonymous) false
    have hgroups : fields.withDefault "groups" (.list .string) [] = some context.groups :=
      hfields.withDefaultUnless (p := context.groups.isEmpty = true) "groups"
        (by simp [List.lookup_append, List.lookup_cons]) List.isEmpty_iff.mp
        (.list fun s _ => .string s)
    have hcustom : fields.withDefault "custom" (.table Attribute.decoder) Table.empty =
        some context.custom :=
      hfields.withDefaultUnless (p := context.custom.isEmpty = true) "custom"
        (by simp [List.lookup_append, List.lookup_cons])
        (fun hempty => Table.ext (List.isEmpty_iff.mp hempty))
        (.table fun entry hmem => Attribute.readsBack (h entry hmem))
    simp only [hkey, hname, hemail, hip, hcountry, hanonymous, hgroups, hcustom]
    rfl

/-- A context that is read has no number in it that is not finite. -/
theorem yields (limit : Nat) : Yields decoder (limit + 2) Plain := by
  refine Yields.record fun fields hlimit context hread => ?_
  simp only [bind, Option.bind_eq_some_iff, pure, Option.some.injEq] at hread
  obtain ⟨_, -, _, -, _, -, _, -, _, -, _, -, _, -, custom, hcustom, rfl⟩ := hread
  exact (Attribute.yields limit).table.withDefault hlimit (List.forall_mem_nil _) hcustom

theorem depth_textMember (own : String) (text : Option String) (bound : Nat) :
    ∀ member ∈ textMember own text, member.2.depth ≤ bound := by
  intro member hmem
  obtain ⟨s, _, rfl⟩ := List.mem_map.mp hmem
  exact Nat.zero_le bound

theorem depth_unless (p : Prop) [Decidable p] (own : String) {written : Json} {bound : Nat}
    (hdepth : written.depth ≤ bound) :
    ∀ member ∈ if p then [] else [(own, written)], member.2.depth ≤ bound := by
  by_cases hp : p
  · simp [hp]
  · simpa [hp] using hdepth

/-- A written context nests three containers at most. -/
theorem depth_toJson_le (context : Context) : context.toJson.depth ≤ 3 := by
  have hgroups : (Json.array (context.groups.map .string)).depth ≤ 2 :=
    Json.depth_array_map_le fun _ _ => Nat.zero_le 1
  have hcustom : (Json.object (context.custom.map fun _ value => value.toJson).entries).depth ≤ 2 :=
    Json.depth_object_le_iff.mpr (List.forall_mem_map.mpr fun entry _ => entry.2.depth_toJson_le)
  refine Json.depth_ofMembers_le ?_
  simp only [List.forall_mem_append, List.forall_mem_singleton]
  exact ⟨⟨⟨⟨⟨⟨⟨Nat.zero_le 2, depth_textMember _ _ 2⟩, depth_textMember _ _ 2⟩,
    depth_textMember _ _ 2⟩, depth_textMember _ _ 2⟩, Nat.zero_le 2⟩,
    depth_unless _ _ hgroups⟩, depth_unless _ _ hcustom⟩

end Context

end FeatureFlags
