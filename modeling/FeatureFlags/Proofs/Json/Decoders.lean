import FeatureFlags.Json.Decode
import FeatureFlags.Proofs.Json.Canonical
import FeatureFlags.Proofs.Numeric.ReadBack
import Mathlib.Data.List.Perm.Subperm

/-!
Decoders, what they read of what is written, and what they accept. A decoder
reads a value back if it gets the value from its written form, however many
more containers it may enter. A decoder yields only values of a certain kind if
every value that it accepts is of this kind, whatever the document. Both are
known of a whole from its parts, for lists, tables, optional values, and
records, whose members are found by their names whatever the order in which
they are written.
-/

namespace FeatureFlags.Json

variable {α : Type} {β : Type}

/-- The decoder gets the value from its written form whenever it may enter as
many containers as are written inside one another. -/
def ReadsBack (decoder : Decoder α) (written : Json) (value : α) : Prop :=
  ∀ nesting, written.depth ≤ nesting → decoder nesting written.toDocument = some value

/-- Reading each item of a list back reads the list back. -/
theorem mapM_map_eq_some {write : α → β} {read : β → Option α} {values : List α}
    (h : ∀ value ∈ values, read (write value) = some value) :
    (values.map write).mapM read = some values := by
  induction values with
  | nil => rfl
  | cons value rest ih =>
      obtain ⟨hvalue, hrest⟩ := List.forall_mem_cons.mp h
      simp [List.mapM_cons, hvalue, ih hrest]

theorem itemsToDocument_eq_map (items : List Json) :
    itemsToDocument items = items.map toDocument := by
  induction items with
  | nil => rfl
  | cons item rest ih => rw [itemsToDocument, ih, List.map_cons]

theorem membersToDocument_eq_map (members : List (String × Json)) :
    membersToDocument members = members.map fun member => (some member.1, member.2.toDocument) := by
  induction members with
  | nil => rfl
  | cons member rest ih => rw [membersToDocument, ih, List.map_cons]

/-- Absent values are written as `null`, and no other value is. -/
theorem toDocument_eq_null {written : Json} (h : written.toDocument = .null) : written = .null := by
  cases written <;> simp_all [toDocument]

namespace ReadsBack

theorem string (s : String) : ReadsBack .string (.string s) s := fun _ _ => rfl

theorem boolean (b : Bool) : ReadsBack .boolean (.boolean b) b := fun _ _ => rfl

theorem word64 (n : UInt64) : ReadsBack .word64 (.ofUInt64 n) n := by
  intro nesting _
  exact Integer.toUInt64?_ofUInt64 n

theorem word32 (n : UInt32) : ReadsBack .word32 (.ofUInt32 n) n := by
  intro nesting hdepth
  have hread := word64 n.toUInt64 nesting hdepth
  have hsmall : n.toUInt64.toNat < UInt32.size := by
    rw [UInt32.toNat_toUInt64]
    exact n.toNat_lt
  rw [Decoder.word32, ofUInt32, hread, Option.bind_some, if_pos hsmall, UInt32.toUInt32_toUInt64]

theorem choice {meaning? : String → Option α} {text : String} {value : α}
    (h : meaning? text = some value) : ReadsBack (.choice meaning?) (.string text) value :=
  fun _ _ => h

theorem optional {decoder : Decoder α} {toJson : α → Json} {value : Option α}
    (h : ∀ a ∈ value, ReadsBack decoder (toJson a) a) (hnull : ∀ a, toJson a ≠ .null) :
    ReadsBack (.optional decoder) (.ofOption (value.map toJson)) value := by
  intro nesting hdepth
  cases value with
  | none => rfl
  | some a =>
      have hread : decoder nesting (toJson a).toDocument = some a := h a rfl nesting hdepth
      show Decoder.optional decoder nesting (toJson a).toDocument = some (some a)
      -- A value written as `null` would be read as an absent one.
      cases hdocument : (toJson a).toDocument with
      | null => exact absurd (toDocument_eq_null hdocument) (hnull a)
      | _ =>
          rw [hdocument] at hread
          simp only [Decoder.optional, hread, Option.map_some]

theorem optionalText (text : Option String) :
    ReadsBack (.optional .string) (.ofOption (text.map .string)) text :=
  optional (fun s _ => string s) fun _ => nofun

theorem list {item : Decoder α} {toJson : α → Json} {values : List α}
    (h : ∀ value ∈ values, ReadsBack item (toJson value) value) :
    ReadsBack (.list item) (.array (values.map toJson)) values := by
  intro nesting hdepth
  obtain ⟨nesting, rfl, hinner⟩ := enters_array hdepth
  rw [List.forall_mem_map] at hinner
  simp only [toDocument, Decoder.list, itemsToDocument_eq_map, List.map_map]
  exact mapM_map_eq_some fun value hmem => h value hmem nesting (hinner value hmem)

theorem table {decoder : Decoder α} {toJson : α → Json} {values : Table α}
    (h : ∀ entry ∈ values.entries, ReadsBack decoder (toJson entry.2) entry.2) :
    ReadsBack (.table decoder) (.object (values.map fun _ value => toJson value).entries)
      values := by
  intro nesting hdepth
  obtain ⟨nesting, rfl, hinner⟩ := enters_object hdepth
  simp only [Table.map] at hinner ⊢
  rw [List.forall_mem_map] at hinner
  simp only [toDocument, Decoder.table, membersToDocument_eq_map, List.map_map]
  rw [mapM_map_eq_some fun entry hmem => ?_]
  · exact congrArg some values.ofList_entries
  · simp [h entry hmem nesting (hinner entry hmem)]

end ReadsBack

/-! ### Records -/

/-- The fields are what these members write, and may be entered as deep as the
members nest. -/
structure Fields.Holds (fields : Fields) (members : List (String × Json)) : Prop where
  byName : fields.positional = false
  find?_eq : ∀ name, fields.find? name = (members.lookup name).map toDocument
  depth_le : ∀ name written, members.lookup name = some written → written.depth ≤ fields.nesting

namespace Fields

/-- The fields of a record may be entered one container less deep. -/
theorem nesting_of_ofDocument? {names : List String} {nesting : Nat} {document : Document}
    {fields : Fields} (hfields : ofDocument? names (nesting + 1) document = some fields) :
    fields.nesting = nesting := by
  cases document with
  | array items =>
      rw [ofDocument?] at hfields
      split at hfields <;> cases hfields
      rfl
  | object members =>
      obtain ⟨_, _, rfl⟩ := Option.map_eq_some_iff.mp hfields
      rfl
  | _ => cases hfields

/-- Members that are declared and not there twice are all kept. -/
theorem ofMembers_membersToDocument {names : List String} {members : List (String × Json)}
    (hnodup : (members.map (·.1)).Nodup) (hdeclared : ∀ member ∈ members, member.1 ∈ names) :
    ofMembers names (membersToDocument members) =
      some (members.map fun member => (member.1, member.2.toDocument)) := by
  induction members with
  | nil => rfl
  | cons member rest ih =>
      obtain ⟨hhead, hrest⟩ := List.forall_mem_cons.mp hdeclared
      rw [List.map_cons, List.nodup_cons] at hnodup
      have hnew : (rest.map fun member => (member.1, member.2.toDocument)).any
          (·.1 == member.1) = false := by
        rw [List.any_map, List.any_eq_false]
        intro other hmem
        simp only [Function.comp_apply, beq_iff_eq]
        exact fun heq => hnodup.1 (heq ▸ List.mem_map_of_mem hmem)
      simp [membersToDocument, ofMembers, ih hnodup.2 hrest, hhead, hnew]

/-- An object of declared members, each there once, is read as the fields that
hold them. -/
theorem exists_holds {names : List String} {members : List (String × Json)} {nesting : Nat}
    (hnames : names.Nodup) (hdeclared : (members.map (·.1)).Subperm names)
    (hdepth : (Json.ofMembers members).depth ≤ nesting) :
    ∃ fields, ofDocument? names nesting (Json.ofMembers members).toDocument = some fields ∧
      fields.Holds members := by
  obtain ⟨nesting, rfl, hinner⟩ := enters_object hdepth
  have hnodup : (members.map (·.1)).Nodup := by
    obtain ⟨kept, hperm, hsublist⟩ := hdeclared
    exact (hnames.sublist hsublist).perm hperm
  -- The written object has the members in another order, but with the same look-ups.
  have hlookup (name : String) : (Table.ofList members).entries.lookup name = members.lookup name :=
    Option.ext fun written =>
      (Table.get?_ofList_eq_some_iff hnodup).trans (lookup_eq_some_iff_mem hnodup).symm
  have hkept := ofMembers_membersToDocument (Table.ofList members).keys_nodup
    fun member hmem => hdeclared.subset (List.mem_map_of_mem (Table.mem_of_mem_ofList hmem))
  refine ⟨⟨false, nesting, _⟩, congrArg (Option.map _) hkept, rfl, fun name => ?_, ?_⟩
  · rw [find?, lookup_map_snd, hlookup]
  · intro name written hfound
    rw [← hlookup, lookup_eq_some_iff_mem (Table.ofList members).keys_nodup] at hfound
    exact hinner _ hfound

section Holds

variable {fields : Fields} {members : List (String × Json)} {written : Json}
  {decoder : Decoder α} {value : α}

theorem Holds.required (h : fields.Holds members) (name : String)
    (hwritten : members.lookup name = some written) (hread : ReadsBack decoder written value) :
    fields.required name decoder = some value := by
  rw [Fields.required, h.find?_eq, hwritten]
  exact hread fields.nesting (h.depth_le name written hwritten)

theorem Holds.withDefault (h : fields.Holds members) (name : String)
    (hwritten : members.lookup name = some written) (hread : ReadsBack decoder written value)
    (default : α) : fields.withDefault name decoder default = some value := by
  rw [Fields.withDefault, h.find?_eq, hwritten]
  exact hread fields.nesting (h.depth_le name written hwritten)

/-- A member that is not written is read as its default. -/
theorem Holds.default (h : fields.Holds members) (name : String)
    (hunwritten : members.lookup name = none) (default : α) :
    fields.withDefault name decoder default = some default := by
  rw [Fields.withDefault, h.find?_eq, hunwritten]
  rfl

/-- A member that is written unless it has its default. -/
theorem Holds.withDefaultUnless {p : Prop} [Decidable p] {default : α} (h : fields.Holds members)
    (name : String) (hwritten : members.lookup name = if p then none else some written)
    (hdefault : p → value = default) (hread : ReadsBack decoder written value) :
    fields.withDefault name decoder default = some value := by
  by_cases hp : p
  · rw [if_pos hp] at hwritten
    rw [hdefault hp]
    exact h.default name hwritten default
  · rw [if_neg hp] at hwritten
    exact h.withDefault name hwritten hread default

/-- A text that is written only when there is one. -/
theorem Holds.optionalText {text : Option String} (h : fields.Holds members) (name : String)
    (hwritten : members.lookup name = text.map .string) :
    fields.optional name .string = some text := by
  cases text with
  | none => exact h.default name hwritten none
  | some s => exact h.withDefault name hwritten (.optionalText (some s)) none

theorem Holds.optionalByName (h : fields.Holds members) (name : String) :
    fields.optionalByName name decoder = fields.optional name decoder := by
  rw [Fields.optionalByName, h.byName]
  rfl

end Holds

end Fields

theorem ReadsBack.record (names : List String) {members : List (String × Json)}
    {read : Fields → Option α} {value : α} (hnames : names.Nodup)
    (hdeclared : (members.map (·.1)).Subperm names)
    (hread : ∀ fields : Fields, fields.Holds members → read fields = some value) :
    ReadsBack (fun nesting document => Fields.ofDocument? names nesting document >>= read)
      (.ofMembers members) value := by
  intro nesting hdepth
  obtain ⟨fields, hfields, hholds⟩ := Fields.exists_holds hnames hdeclared hdepth
  exact Option.bind_eq_some_iff.mpr ⟨fields, hfields, hread fields hholds⟩

/-! ### Accepted values -/

/-- Whatever the decoder accepts is of this kind, if it may enter no more than
so many containers. -/
def Yields (decoder : Decoder α) (limit : Nat) (P : α → Prop) : Prop :=
  ∀ nesting ≤ limit, ∀ document value, decoder nesting document = some value → P value

theorem forall_of_mapM_eq_some {read : β → Option α} {P : α → Prop} {items : List β}
    {values : List α} (hread : items.mapM read = some values)
    (h : ∀ item value, read item = some value → P value) : ∀ value ∈ values, P value := by
  induction items generalizing values with
  | nil =>
      cases hread
      exact List.forall_mem_nil P
  | cons item rest ih =>
      rw [List.mapM_cons] at hread
      obtain ⟨value, hvalue, hread⟩ := Option.bind_eq_some_iff.mp hread
      obtain ⟨values, hvalues, hread⟩ := Option.bind_eq_some_iff.mp hread
      cases hread
      exact List.forall_mem_cons.mpr ⟨h item value hvalue, ih hvalues⟩

namespace Yields

variable {decoder : Decoder α} {limit : Nat} {P : α → Prop}

theorem mono {smaller : Nat} {Q : α → Prop} (h : Yields decoder limit P) (hle : smaller ≤ limit)
    (himp : ∀ value, P value → Q value) : Yields decoder smaller Q :=
  fun nesting hnesting document value hread =>
    himp value (h nesting (Nat.le_trans hnesting hle) document value hread)

theorem list (h : Yields decoder limit P) :
    Yields (.list decoder) (limit + 1) fun values => ∀ value ∈ values, P value := by
  intro nesting hnesting document values hread
  cases nesting with
  | zero => cases hread
  | succ nesting =>
      cases document with
      | array items =>
          exact forall_of_mapM_eq_some hread (h nesting (Nat.le_of_succ_le_succ hnesting))
      | _ => cases hread

theorem table (h : Yields decoder limit P) :
    Yields (.table decoder) (limit + 1) fun table => ∀ entry ∈ table.entries, P entry.2 := by
  intro nesting hnesting document table hread
  cases nesting with
  | zero => cases hread
  | succ nesting =>
      cases document with
      | object members =>
          obtain ⟨entries, hentries, hread⟩ := Option.bind_eq_some_iff.mp hread
          cases hread
          have hentry := forall_of_mapM_eq_some (P := fun entry => P entry.2) hentries
            fun member entry hmember => by
              obtain ⟨name, _, hmember⟩ := Option.bind_eq_some_iff.mp hmember
              obtain ⟨value, hvalue, hmember⟩ := Option.bind_eq_some_iff.mp hmember
              cases hmember
              exact h nesting (Nat.le_of_succ_le_succ hnesting) member.2 value hvalue
          exact fun entry hmem => hentry entry (Table.mem_of_mem_ofList hmem)
      | _ => cases hread

theorem record {names : List String} {read : Fields → Option α}
    (h : ∀ fields : Fields, fields.nesting ≤ limit → ∀ value, read fields = some value → P value) :
    Yields (fun nesting document => Fields.ofDocument? names nesting document >>= read)
      (limit + 1) P := by
  intro nesting hnesting document value haccepted
  obtain ⟨fields, hfields, hread⟩ := Option.bind_eq_some_iff.mp haccepted
  cases nesting with
  | zero => cases hfields
  | succ nesting =>
      rw [← Fields.nesting_of_ofDocument? hfields] at hnesting
      exact h fields (Nat.le_of_succ_le_succ hnesting) value hread

variable {fields : Fields} {name : String} {value : α}

theorem required (h : Yields decoder limit P) (hlimit : fields.nesting ≤ limit)
    (hread : fields.required name decoder = some value) : P value := by
  obtain ⟨document, _, hread⟩ := Option.bind_eq_some_iff.mp hread
  exact h fields.nesting hlimit document value hread

theorem withDefault {default : α} (h : Yields decoder limit P) (hlimit : fields.nesting ≤ limit)
    (hdefault : P default) (hread : fields.withDefault name decoder default = some value) :
    P value := by
  rw [Fields.withDefault] at hread
  split at hread
  · next document _ => exact h fields.nesting hlimit document value hread
  · cases hread
    exact hdefault

end Yields

end FeatureFlags.Json
