import FeatureFlags.Proofs.Json.Rearranged

/-!
Values and documents with other floats. When every float is replaced by another
one, a value keeps its form: its containers, its names and the order of its
members. A decoder that only passes floats on accepts such a document just if it
accepts the document that it comes from.
-/

namespace FeatureFlags.Json

open Binary64 (Finite)

variable {α β : Type}

theorem sizeOf_snd_lt_of_mem [SizeOf α] [SizeOf β] {members : List (α × β)} {member : α × β}
    (hmem : member ∈ members) : sizeOf member.2 < sizeOf members := by
  have hlt := List.sizeOf_lt_of_mem hmem
  obtain ⟨name, value⟩ := member
  rw [Prod.mk.sizeOf_spec] at hlt
  show sizeOf value < _
  omega

/-! ### Values -/

/-- Induction on a value, with its parts one by one and not in lists. -/
@[elab_as_elim]
theorem induction {motive : Json → Prop} (null : motive .null)
    (boolean : ∀ b, motive (.boolean b)) (integer : ∀ n, motive (.integer n))
    (float : ∀ x, motive (.float x)) (string : ∀ s, motive (.string s))
    (array : ∀ items, (∀ item ∈ items, motive item) → motive (.array items))
    (object : ∀ members, (∀ member ∈ members, motive member.2) → motive (.object members)) :
    ∀ value, motive value
  | .null => null
  | .boolean b => boolean b
  | .integer n => integer n
  | .float x => float x
  | .string s => string s
  | .array items => array items fun item _ =>
      induction null boolean integer float string array object item
  | .object members => object members fun member hmem =>
      have := sizeOf_snd_lt_of_mem hmem
      induction null boolean integer float string array object member.2

/-- The value with every float replaced. -/
def mapFloats (f : Finite → Finite) : Json → Json
  | .null => .null
  | .boolean b => .boolean b
  | .integer n => .integer n
  | .float x => .float (f x)
  | .string s => .string s
  | .array items => .array (items.map (mapFloats f))
  | .object members => .object (members.map fun member => (member.1, mapFloats f member.2))
decreasing_by
  · decreasing_tactic
  · next hmem => exact Nat.lt_trans (sizeOf_snd_lt_of_mem hmem) (by simp)

/-- The floats in a value. -/
def floats : Json → List Finite
  | .float x => [x]
  | .array items => items.flatMap floats
  | .object members => members.flatMap fun member => floats member.2
  | _ => []
decreasing_by
  · decreasing_tactic
  · next hmem => exact Nat.lt_trans (sizeOf_snd_lt_of_mem hmem) (by simp)

variable {f : Finite → Finite}

theorem mapFloats_array (items : List Json) :
    (Json.array items).mapFloats f = .array (items.map (mapFloats f)) := by
  rw [mapFloats]

theorem mapFloats_object (members : List (String × Json)) : (Json.object members).mapFloats f =
    .object (members.map fun member => (member.1, member.2.mapFloats f)) := by
  rw [mapFloats]

theorem mapFloats_eq_self {value : Json} (h : ∀ x ∈ value.floats, f x = x) :
    value.mapFloats f = value := by
  induction value using induction with
  | array items ih =>
      rw [floats] at h
      rw [mapFloats]
      refine congrArg Json.array ((List.map_congr_left fun item hmem => ?_).trans (List.map_id _))
      exact ih item hmem fun x hx => h x (List.mem_flatMap_of_mem hmem hx)
  | object members ih =>
      rw [floats] at h
      rw [mapFloats]
      refine congrArg Json.object ((List.map_congr_left fun member hmem => ?_).trans
        (List.map_id _))
      have hvalue := ih member hmem fun x hx => h x (List.mem_flatMap_of_mem hmem hx)
      exact congrArg (member.1, ·) hvalue
  | float x =>
      rw [floats] at h
      rw [mapFloats, h x List.mem_cons_self]
  | _ => rw [mapFloats]

theorem depth_mapFloats_le {value : Json} {bound : Nat} (h : value.depth ≤ bound) :
    (value.mapFloats f).depth ≤ bound := by
  induction value using induction generalizing bound with
  | array items ih =>
      obtain ⟨inner, rfl, hinner⟩ := enters_array h
      rw [mapFloats]
      exact depth_array_map_le fun item hmem => ih item hmem (hinner item hmem)
  | object members ih =>
      obtain ⟨inner, rfl, hinner⟩ := enters_object h
      rw [mapFloats]
      exact depth_object_le_iff.mpr <| List.forall_mem_map.mpr fun member hmem =>
        ih member hmem (hinner member hmem)
  | _ =>
      rw [mapFloats]
      exact Nat.zero_le _

theorem Canonical.mapFloats {value : Json} (h : value.Canonical) :
    (value.mapFloats f).Canonical := by
  induction h with
  | array _ ih =>
      rw [Json.mapFloats]
      exact .array (List.forall_mem_map.mpr ih)
  | object hascending _ ih =>
      rw [Json.mapFloats]
      exact .object (Table.map (fun _ => Json.mapFloats f) ⟨_, hascending⟩).ascending
        (List.forall_mem_map.mpr ih)
  | null =>
      rw [Json.mapFloats]
      exact .null
  | boolean b =>
      rw [Json.mapFloats]
      exact .boolean b
  | integer n =>
      rw [Json.mapFloats]
      exact .integer n
  | float x =>
      rw [Json.mapFloats]
      exact .float (f x)
  | string s =>
      rw [Json.mapFloats]
      exact .string s

theorem mapFloats_ofMembers (members : List (String × Json)) :
    (ofMembers members).mapFloats f =
      ofMembers (members.map fun member => (member.1, member.2.mapFloats f)) := by
  rw [ofMembers, ofMembers, mapFloats, ← Table.map_ofList (mapFloats f)]
  rfl

theorem mapFloats_array_map {γ : Type} (toJson : γ → Json) (values : List γ) :
    (Json.array (values.map toJson)).mapFloats f =
      .array (values.map fun value => (toJson value).mapFloats f) := by
  rw [mapFloats, List.map_map]
  rfl

theorem mapFloats_ofOption (value : Option Json) :
    (ofOption value).mapFloats f = ofOption (value.map (mapFloats f)) := by
  cases value with
  | none =>
      show Json.null.mapFloats f = .null
      rw [mapFloats]
  | some value => rfl

/-! ### Documents -/

/-- The document with every float replaced that is in range. -/
def Document.mapFloats (f : Finite → Finite) : Document → Document
  | .null => .null
  | .boolean b => .boolean b
  | .integer n => .integer n
  | .float x => .float (x.map f)
  | .string text => .string text
  | .array items => .array (items.map (mapFloats f))
  | .object members => .object (members.map fun member => (member.1, mapFloats f member.2))
decreasing_by
  · decreasing_tactic
  · next hmem => exact Nat.lt_trans (sizeOf_snd_lt_of_mem hmem) (by simp)

theorem toDocument_mapFloats (value : Json) :
    (value.mapFloats f).toDocument = value.toDocument.mapFloats f := by
  induction value using induction with
  | array items ih =>
      rw [mapFloats, toDocument, toDocument, Document.mapFloats, itemsToDocument_eq_map,
        itemsToDocument_eq_map, List.map_map, List.map_map]
      exact congrArg Document.array (List.map_congr_left ih)
  | object members ih =>
      rw [mapFloats, toDocument, toDocument, Document.mapFloats, membersToDocument_eq_map,
        membersToDocument_eq_map, List.map_map, List.map_map]
      exact congrArg Document.object (List.map_congr_left fun member hmem =>
        congrArg (some member.1, ·) (ih member hmem))
  | _ => simp only [mapFloats, toDocument, Document.mapFloats, Option.map_some]

/-- Reading each item of a list the same way up to a change changes the whole
list. -/
theorem mapM_map_eq_map {γ δ : Type} {change : γ → γ} {result : δ → δ} {read : γ → Option δ}
    {items : List γ} (h : ∀ item ∈ items, read (change item) = (read item).map result) :
    (items.map change).mapM read = (items.mapM read).map (List.map result) := by
  induction items with
  | nil => rfl
  | cons item rest ih =>
      obtain ⟨hitem, hrest⟩ := List.forall_mem_cons.mp h
      rw [List.map_cons, List.mapM_cons, List.mapM_cons, hitem, ih hrest]
      cases read item <;> cases rest.mapM read <;> rfl

/-- A member with other floats has the value with other floats. -/
theorem entry_mapFloats {nesting : Nat} {member : Option String × Document}
    (hvalue : (member.2.mapFloats f).toJson? nesting =
      (member.2.toJson? nesting).map (mapFloats f)) :
    Decoder.json.entry nesting (member.1, member.2.mapFloats f) =
      (Decoder.json.entry nesting member).map fun entry => (entry.1, entry.2.mapFloats f) := by
  obtain ⟨_ | name, document⟩ := member
  · rfl
  · simp only [Decoder.entry, Decoder.json, bind, Option.bind_some, hvalue]
    cases document.toJson? nesting <;> rfl

/-- A document with other floats has the value with other floats. -/
theorem toJson?_mapFloats : ∀ (nesting : Nat) (document : Document),
    (document.mapFloats f).toJson? nesting = (document.toJson? nesting).map (mapFloats f)
  | _, .null | _, .boolean _ | _, .integer _ | _, .float none | _, .float (some _)
  | _, .string none | _, .string (some _) | 0, .array _ | 0, .object _ => by
      simp only [Document.mapFloats, Document.toJson?, Option.map_some, Option.map_none, mapFloats]
  | nesting + 1, .array items => by
      rw [Document.mapFloats, Document.toJson?, Document.toJson?, itemsToJson?_eq_mapM,
        itemsToJson?_eq_mapM, mapM_map_eq_map fun item _ => toJson?_mapFloats nesting item,
        Option.map_map, Option.map_map]
      exact congrArg (Option.map · _) (funext fun values => (mapFloats_array values).symm)
  | nesting + 1, .object members => by
      rw [Document.mapFloats, Document.toJson?, Document.toJson?, membersToJson?_eq_mapM,
        membersToJson?_eq_mapM,
        mapM_map_eq_map fun member _ => entry_mapFloats (toJson?_mapFloats nesting member.2),
        Option.map_map, Option.map_map]
      exact congrArg (Option.map · _) (funext fun values => (mapFloats_ofMembers values).symm)

/-! ### Decoders -/

/-- Whether the decoder accepts a document does not depend on the floats in it. -/
def AcceptsAnyFloats (decoder : Decoder α) : Prop :=
  ∀ f nesting document,
    (decoder nesting (document.mapFloats f)).isSome = (decoder nesting document).isSome

namespace AcceptsAnyFloats

theorem string : AcceptsAnyFloats .string := by
  intro f nesting document
  cases document <;> simp only [Document.mapFloats, Decoder.string]

theorem boolean : AcceptsAnyFloats .boolean := by
  intro f nesting document
  cases document <;> simp only [Document.mapFloats, Decoder.boolean]

theorem word64_mapFloats (nesting : Nat) (document : Document) :
    Decoder.word64 nesting (document.mapFloats f) = Decoder.word64 nesting document := by
  cases document <;> simp only [Document.mapFloats, Decoder.word64]

theorem word64 : AcceptsAnyFloats .word64 := fun _ nesting document =>
  congrArg Option.isSome (word64_mapFloats nesting document)

theorem word32 : AcceptsAnyFloats .word32 := by
  intro f nesting document
  rw [Decoder.word32, Decoder.word32, word64_mapFloats]

theorem optional {decoder : Decoder α} (h : AcceptsAnyFloats decoder) :
    AcceptsAnyFloats (.optional decoder) := by
  intro f nesting document
  have hread := h f nesting document
  cases document <;> simp only [Document.mapFloats, Decoder.optional, Option.isSome_map] at hread ⊢ <;>
    exact hread

theorem list {decoder : Decoder α} (h : AcceptsAnyFloats decoder) :
    AcceptsAnyFloats (.list decoder) := by
  intro f nesting document
  cases nesting with
  | zero => rfl
  | succ nesting =>
      cases document with
      | array items =>
          rw [Document.mapFloats, Bool.eq_iff_iff, Decoder.list, Decoder.list, isSome_mapM_iff,
            isSome_mapM_iff, List.forall_mem_map]
          simp only [h f nesting]
      | _ => simp only [Document.mapFloats, Decoder.list]

/-- A name is never given by an object without a member, or with several. -/
theorem choice_object_eq_none (meaning? : String → Option α) (nesting : Nat)
    {members : List (Option String × Document)} (hlength : members.length ≠ 1) :
    Decoder.choice meaning? nesting (.object members) = none := by
  cases members with
  | nil => rfl
  | cons member rest =>
      cases rest with
      | nil => exact absurd rfl hlength
      | cons second rest =>
          obtain ⟨name, value⟩ := member
          cases value <;> rfl

theorem choice (meaning? : String → Option α) : AcceptsAnyFloats (.choice meaning?) := by
  intro f nesting document
  cases document with
  | object members =>
      rw [Document.mapFloats]
      by_cases hlength : members.length = 1
      · obtain ⟨⟨name, value⟩, rfl⟩ := List.length_eq_one_iff.mp hlength
        cases value <;> simp only [List.map_cons, List.map_nil, Document.mapFloats] <;> rfl
      · rw [choice_object_eq_none meaning? nesting hlength,
          choice_object_eq_none meaning? nesting (by rwa [List.length_map])]
  | float x =>
      rw [Document.mapFloats]
      rfl
  | array items =>
      rw [Document.mapFloats]
      rfl
  | _ => rw [Document.mapFloats]

end AcceptsAnyFloats

namespace Fields

/-- The fields with every float replaced. -/
def mapFloats (f : Finite → Finite) (fields : Fields) : Fields where
  positional := fields.positional
  nesting := fields.nesting
  members := fields.members.map fun member => (member.1, member.2.mapFloats f)

theorem find?_mapFloats (fields : Fields) (name : String) :
    (fields.mapFloats f).find? name = (fields.find? name).map (Document.mapFloats f) :=
  lookup_map_snd _ _ _

theorem ofMembers_mapFloats (names : List String) (members : List (Option String × Document)) :
    ofMembers names (members.map fun member => (member.1, member.2.mapFloats f)) =
      (ofMembers names members).map
        (List.map fun member => (member.1, member.2.mapFloats f)) := by
  induction members with
  | nil => rfl
  | cons member rest ih =>
      obtain ⟨_ | own, document⟩ := member
      · rfl
      · rw [List.map_cons, ofMembers_cons, ofMembers_cons, ih]
        cases ofMembers names rest with
        | none => rfl
        | some kept =>
            simp only [Option.map_some, Option.bind_some, List.map_map, Function.comp_def]
            split
            · split <;> rfl
            · rfl

theorem ofDocument?_mapFloats (names : List String) (nesting : Nat) (document : Document) :
    ofDocument? names nesting (document.mapFloats f) =
      (ofDocument? names nesting document).map (mapFloats f) := by
  cases nesting with
  | zero => rfl
  | succ nesting =>
      cases document with
      | array items =>
          rw [Document.mapFloats, ofDocument?, ofDocument?, List.length_map]
          split
          · exact congrArg (fun members => some (Fields.mk true nesting members))
              List.zip_map_right
          · rfl
      | object members =>
          rw [Document.mapFloats, ofDocument?, ofDocument?, ofMembers_mapFloats, Option.map_map,
            Option.map_map]
          rfl
      | _ => simp only [Document.mapFloats, ofDocument?, Option.map_none]

end Fields

/-- A record is accepted if its members are, one after the other. -/
theorem isSome_bind_congr {found found' : Option α} {rest rest' : α → Option β}
    (hfound : found'.isSome = found.isSome)
    (hrest : ∀ value value', (rest' value').isSome = (rest value).isSome) :
    (found' >>= rest').isSome = (found >>= rest).isSome := by
  cases found with
  | none =>
      obtain rfl : found' = none := Option.not_isSome_iff_eq_none.mp (Bool.eq_false_iff.mp hfound)
      rfl
  | some value =>
      obtain ⟨value', rfl⟩ := Option.isSome_iff_exists.mp hfound
      exact hrest value value'

namespace AcceptsAnyFloats

variable {decoder : Decoder α}

theorem required (h : AcceptsAnyFloats decoder) (fields : Fields) (name : String) :
    ((fields.mapFloats f).required name decoder).isSome =
      (fields.required name decoder).isSome := by
  rw [Fields.required, Fields.required, Fields.find?_mapFloats]
  cases fields.find? name with
  | none => rfl
  | some document => exact h f fields.nesting document

theorem withDefault (h : AcceptsAnyFloats decoder) (fields : Fields) (name : String)
    (default : α) : ((fields.mapFloats f).withDefault name decoder default).isSome =
      (fields.withDefault name decoder default).isSome := by
  rw [Fields.withDefault, Fields.withDefault, Fields.find?_mapFloats]
  cases fields.find? name with
  | none => rfl
  | some document => exact h f fields.nesting document

theorem record {names : List String} {read : Fields → Option α}
    (h : ∀ f fields, (read (Fields.mapFloats f fields)).isSome = (read fields).isSome) :
    AcceptsAnyFloats fun nesting document => Fields.ofDocument? names nesting document >>= read := by
  intro f nesting document
  show (Fields.ofDocument? names nesting (document.mapFloats f) >>= read).isSome =
    (Fields.ofDocument? names nesting document >>= read).isSome
  rw [Fields.ofDocument?_mapFloats]
  cases Fields.ofDocument? names nesting document with
  | none => rfl
  | some fields => exact h f fields

end AcceptsAnyFloats

end FeatureFlags.Json
