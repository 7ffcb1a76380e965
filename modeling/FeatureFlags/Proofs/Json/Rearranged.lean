import FeatureFlags.Proofs.Json.ValueReaders

/-!
Documents rearranged. The members of an object that stands for a record may be put
in another order, and members under names that the record does not declare may come
to them, within any of the records that a document is made of. A decoder that goes
by names does not notice. The values that are no records are left as they are, as
order and further members count there.
-/

namespace FeatureFlags.Json

variable {α : Type}

/-- A way to change documents, each where so many containers may be entered. -/
abbrev Change := Nat → Document → Document → Prop

/-- Which documents may come to an object, where so many containers may be entered. -/
abbrev Admission := Nat → Document → Prop

/-- The documents that have a value. -/
def readable : Admission := fun nesting document => (document.toJson? nesting).isSome = true

namespace Change

def same : Change := fun _ document document' => document = document'

/-- The change is made, or none is. -/
def orSame (change : Change) : Change := fun nesting document document' =>
  document = document' ∨ change nesting document document'

/-- The items of a list are changed, each in its place. -/
inductive list (item : Change) : Change where
  | items {nesting : Nat} {items items' : List Document}
      (hitems : List.Forall₂ (item.orSame nesting) items items') :
      list item (nesting + 1) (.array items) (.array items')

/-- How what stands under a name may be changed, given the changes of some names. -/
def part (parts : List (String × Change)) (name : String) : Change :=
  (parts.lookup name).elim same orSame

/-- The same for a name that may not be spelled. -/
def partOf (parts : List (String × Change)) (name : Option String) : Change :=
  name.elim same (part parts)

/-- The second member has the name of the first, and its value is changed as what
stands under that name. -/
structure Member (change : Option String → Change) (nesting : Nat)
    (member member' : Option String × Document) : Prop where
  name_eq : member'.1 = member.1
  value : change member.1 nesting member.2 member'.2

/-- The items of an array are changed as members with the declared names are. -/
inductive Positions (parts : List (String × Change)) (nesting : Nat) :
    List String → List Document → List Document → Prop where
  | nil {names : List String} : Positions parts nesting names [] []
  | cons {name : String} {names : List String} {item item' : Document}
      {items items' : List Document} (hitem : part parts name nesting item item')
      (hitems : Positions parts nesting names items items') :
      Positions parts nesting (name :: names) (item :: items) (item' :: items')
  | beyond {items : List Document} : Positions parts nesting [] items items

/-- A member under a name that is not declared. -/
structure Unknown (names : List String) (admitted : Document → Prop)
    (member : Option String × Document) : Prop where
  name : ∃ name, member.1 = some name ∧ name ∉ names
  value : admitted member.2

/-- The members of a record are changed. If it is an object, unknown members come to
them and all are put in some order. -/
inductive record (names : List String) (parts : List (String × Change)) (admitted : Admission) :
    Change where
  | array {nesting : Nat} {items items' : List Document}
      (hitems : Positions parts nesting names items items') :
      record names parts admitted (nesting + 1) (.array items) (.array items')
  | object {nesting : Nat} {members changed inserted members' : List (Option String × Document)}
      (hchanged : List.Forall₂ (Member (partOf parts) nesting) members changed)
      (hinserted : ∀ member ∈ inserted, Unknown names (admitted nesting) member)
      (horder : members'.Perm (changed ++ inserted)) :
      record names parts admitted (nesting + 1) (.object members) (.object members')

end Change

/-! ### The fields of a rearranged record -/

/-- Fields under the same names, of which those on the right are changed. -/
structure ChangedFields (parts : List (String × Change)) (fields fields' : Fields) : Prop where
  nesting : fields'.nesting = fields.nesting
  find? : ∀ name, Option.Rel (Change.part parts name fields.nesting) (fields.find? name)
    (fields'.find? name)

open Change

section Member

variable {change : Option String → Change} {nesting : Nat}
  {members changed : List (Option String × Document)}

theorem names_of_changed (h : List.Forall₂ (Member change nesting) members changed) :
    changed.map (·.1) = members.map (·.1) := by
  induction h with
  | nil => rfl
  | cons hhead _ ih => rw [List.map_cons, List.map_cons, hhead.name_eq, ih]

theorem lookup_changed (h : List.Forall₂ (Member change nesting) members changed)
    (name : Option String) :
    Option.Rel (change name nesting) (members.lookup name) (changed.lookup name) := by
  induction h with
  | nil => exact .none
  | @cons member member' _ _ hhead _ ih =>
      obtain ⟨own, document⟩ := member
      obtain ⟨own', document'⟩ := member'
      obtain rfl : own' = own := hhead.name_eq
      rw [List.lookup_cons, List.lookup_cons]
      split
      · next heq =>
          obtain rfl := eq_of_beq heq
          exact .some hhead.value
      · exact ih

end Member

section Fields

variable {names : List String} {parts : List (String × Change)} {nesting : Nat}
  {members members' changed inserted : List (Option String × Document)}

theorem ofMembers_unknown {admitted : Document → Prop}
    (hinserted : ∀ member ∈ inserted, Unknown names admitted member) :
    Fields.ofMembers names inserted = some [] := by
  induction inserted with
  | nil => rfl
  | cons member rest ih =>
      obtain ⟨hhead, hrest⟩ := List.forall_mem_cons.mp hinserted
      obtain ⟨own, document⟩ := member
      obtain ⟨name, rfl, hnew⟩ := hhead.name
      rw [Fields.ofMembers_cons, ih hrest, Option.bind_some,
        if_neg (mt List.contains_iff_mem.mp hnew)]

theorem ofMembers_append_unknown {admitted : Document → Prop}
    (hinserted : ∀ member ∈ inserted, Unknown names admitted member) :
    Fields.ofMembers names (members ++ inserted) = Fields.ofMembers names members := by
  induction members with
  | nil => exact ofMembers_unknown hinserted
  | cons member rest ih =>
      obtain ⟨_ | own, document⟩ := member
      · rfl
      · rw [List.cons_append, Fields.ofMembers_cons, Fields.ofMembers_cons, ih]

/-- The member with its name, if it is declared. -/
def declared? (names : List String) (member : Option String × Document) :
    Option (String × Document) :=
  (member.1.filter names.contains).map fun name => (name, member.2)

theorem ofMembers_eq_filterMap {kept : List (String × Document)}
    (hkept : Fields.ofMembers names members = some kept) :
    kept = members.filterMap (declared? names) := by
  induction members generalizing kept with
  | nil =>
      cases hkept
      rfl
  | cons member rest ih =>
      obtain ⟨_ | own, document⟩ := member
      · cases hkept
      · rw [Fields.ofMembers_cons, Option.bind_eq_some_iff] at hkept
        obtain ⟨more, hmore, hkept⟩ := hkept
        have hrest := ih hmore
        split at hkept
        · next hown =>
            split at hkept <;> cases hkept
            simp [declared?, Option.filter, List.contains_iff_mem.mp hown, hrest]
        · next hown =>
            cases hkept
            simp [declared?, Option.filter, mt List.contains_iff_mem.mpr hown, hrest]

/-- In whatever order the members are, the same is found under each name. -/
theorem lookup_ofMembers_of_perm (names : List String) (horder : members'.Perm members) :
    Option.Rel (fun kept kept' => ∀ name, kept'.lookup name = kept.lookup name)
      (Fields.ofMembers names members) (Fields.ofMembers names members') := by
  have hsome := Fields.isSome_ofMembers_of_perm names (horder.map (·.1))
  cases hkept : Fields.ofMembers names members with
  | none =>
      rw [hkept] at hsome
      rw [Option.not_isSome_iff_eq_none.mp (Bool.eq_false_iff.mp hsome)]
      exact .none
  | some kept =>
      rw [hkept] at hsome
      obtain ⟨kept', hkept'⟩ := Option.isSome_iff_exists.mp hsome
      rw [hkept']
      have hperm : kept'.Perm kept := by
        rw [ofMembers_eq_filterMap hkept, ofMembers_eq_filterMap hkept']
        exact horder.filterMap _
      have hnodup : (kept.map (·.1)).Nodup := by
        rw [Fields.keys_ofMembers hkept]
        exact (Fields.isSome_ofMembers_iff.mp (Option.isSome_of_eq_some hkept)).2
      exact .some fun name => lookup_eq_of_perm hperm hnodup name

theorem rel_ofMembers_changed (names : List String)
    (h : List.Forall₂ (Member (partOf parts) nesting) members changed) :
    Option.Rel (fun kept kept' => ∀ name,
        Option.Rel (part parts name nesting) (kept.lookup name) (kept'.lookup name))
      (Fields.ofMembers names members) (Fields.ofMembers names changed) := by
  have hsome := Fields.isSome_ofMembers_of_perm names (.of_eq (names_of_changed h))
  cases hkept : Fields.ofMembers names members with
  | none =>
      rw [hkept] at hsome
      rw [Option.not_isSome_iff_eq_none.mp (Bool.eq_false_iff.mp hsome)]
      exact .none
  | some kept =>
      rw [hkept] at hsome
      obtain ⟨kept', hkept'⟩ := Option.isSome_iff_exists.mp hsome
      rw [hkept']
      refine .some fun name => ?_
      rw [Fields.lookup_ofMembers hkept, Fields.lookup_ofMembers hkept']
      split
      · exact lookup_changed h (some name)
      · exact .none

theorem length_positions {items items' : List Document}
    (h : Positions parts nesting names items items') : items'.length = items.length := by
  induction h with
  | nil => rfl
  | cons _ _ ih => rw [List.length_cons, List.length_cons, ih]
  | beyond => rfl

theorem lookup_positions {items items' : List Document}
    (h : Positions parts nesting names items items') (name : String) :
    Option.Rel (part parts name nesting) ((names.zip items).lookup name)
      ((names.zip items').lookup name) := by
  induction h with
  | nil =>
      rw [List.zip_nil_right]
      exact .none
  | cons hitem _ ih =>
      rw [List.zip_cons_cons, List.zip_cons_cons, List.lookup_cons, List.lookup_cons]
      split
      · next heq =>
          obtain rfl := eq_of_beq heq
          exact .some hitem
      · exact ih
  | beyond => exact .none

/-- A record that is rearranged has the same fields, each with its own change. -/
theorem Change.record.fields {admitted : Admission} {document document' : Document}
    (h : record names parts admitted nesting document document') :
    Option.Rel (ChangedFields parts) (Fields.ofDocument? names nesting document)
      (Fields.ofDocument? names nesting document') := by
  cases h with
  | array hitems =>
      rw [Fields.ofDocument?, Fields.ofDocument?, length_positions hitems]
      split
      · exact .some ⟨rfl, lookup_positions hitems⟩
      · exact .none
  | @object _ members changed _ members' hchanged hinserted horder =>
      have hkept := rel_ofMembers_changed names hchanged
      have hordered := lookup_ofMembers_of_perm names horder
      rw [ofMembers_append_unknown hinserted] at hordered
      rw [Fields.ofDocument?, Fields.ofDocument?]
      generalize Fields.ofMembers names members = kept, Fields.ofMembers names changed = middle,
        Fields.ofMembers names members' = kept' at hkept hordered
      cases hkept with
      | none =>
          cases hordered
          exact .none
      | some hvalues =>
          cases hordered with
          | some hsame =>
              refine .some ⟨rfl, fun name => ?_⟩
              simp only [Fields.find?, hsame name]
              exact hvalues name

end Fields

/-! ### Decoders that go by names -/

/-- The decoder gets the same from a document and from what it is changed to. -/
def Ignores (decoder : Decoder α) (change : Change) : Prop :=
  ∀ ⦃nesting : Nat⦄ ⦃document document' : Document⦄, change nesting document document' →
    decoder nesting document' = decoder nesting document

namespace Ignores

variable {decoder : Decoder α} {change : Change}

theorem same (decoder : Decoder α) : Ignores decoder .same := by
  rintro nesting document _ rfl
  rfl

theorem orSame (h : Ignores decoder change) : Ignores decoder change.orSame := by
  rintro nesting document document' (rfl | hchange)
  · rfl
  · exact h hchange

theorem list (h : Ignores decoder change) : Ignores (.list decoder) (.list change) := by
  rintro _ _ _ ⟨hitems⟩
  exact (mapM_eq_of_forall₂ hitems fun _ _ hitem => (h.orSame hitem).symm).symm

/-- A record is not `null`, and does not become so. -/
theorem optional {names : List String} {parts : List (String × Change)} {admitted : Admission}
    (h : Ignores decoder (.record names parts admitted)) :
    Ignores (.optional decoder) (.record names parts admitted) := by
  intro nesting document document' hchange
  have hread := congrArg (Option.map some) (h hchange)
  cases hchange with
  | array hitems => exact hread
  | object hchanged hinserted horder => exact hread

theorem record {names : List String} {parts : List (String × Change)} {admitted : Admission}
    {read : Fields → Option α}
    (h : ∀ fields fields', ChangedFields parts fields fields' → read fields' = read fields) :
    Ignores (fun nesting document => Fields.ofDocument? names nesting document >>= read)
      (.record names parts admitted) := by
  intro nesting document document' hchange
  show Fields.ofDocument? names nesting document' >>= read =
    Fields.ofDocument? names nesting document >>= read
  have hfields := hchange.fields
  generalize Fields.ofDocument? names nesting document = fields,
    Fields.ofDocument? names nesting document' = fields' at hfields
  cases hfields with
  | none => rfl
  | some hchanged => exact h _ _ hchanged

end Ignores

namespace ChangedFields

variable {parts : List (String × Change)} {fields fields' : Fields} {decoder : Decoder α}

theorem required (h : ChangedFields parts fields fields') (name : String)
    (hdecoder : Ignores decoder (Change.part parts name)) :
    fields'.required name decoder = fields.required name decoder := by
  rw [Fields.required, Fields.required, h.nesting]
  have hfound := h.find? name
  generalize fields.find? name = found, fields'.find? name = found' at hfound
  cases hfound with
  | none => rfl
  | some hvalue => exact hdecoder hvalue

theorem withDefault (h : ChangedFields parts fields fields') (name : String)
    (hdecoder : Ignores decoder (Change.part parts name)) (default : α) :
    fields'.withDefault name decoder default = fields.withDefault name decoder default := by
  rw [Fields.withDefault, Fields.withDefault, h.nesting]
  have hfound := h.find? name
  generalize fields.find? name = found, fields'.find? name = found' at hfound
  cases hfound with
  | none => rfl
  | some hvalue => exact hdecoder hvalue

theorem optional (h : ChangedFields parts fields fields') (name : String)
    (hdecoder : Ignores (.optional decoder) (Change.part parts name)) :
    fields'.optional name decoder = fields.optional name decoder :=
  h.withDefault name hdecoder none

end ChangedFields

/-! ### Values of rearranged documents -/

/-- A document that has a value is changed to one that has a value. -/
def KeepsReadable (change : Change) : Prop :=
  ∀ ⦃nesting : Nat⦄ ⦃document document' : Document⦄, change nesting document document' →
    readable nesting document → readable nesting document'

theorem readable_array_iff {nesting : Nat} {items : List Document} :
    readable (nesting + 1) (.array items) ↔ ∀ item ∈ items, readable nesting item := by
  rw [readable, Document.toJson?, Option.isSome_map, itemsToJson?_eq_mapM]
  exact isSome_mapM_iff

theorem readable_object_iff {nesting : Nat} {members : List (Option String × Document)} :
    readable (nesting + 1) (.object members) ↔
      ∀ member ∈ members, member.1.isSome = true ∧ readable nesting member.2 := by
  rw [readable, Document.toJson?, Option.isSome_map, membersToJson?_eq_mapM, isSome_mapM_iff]
  refine forall₂_congr fun member _ => ?_
  obtain ⟨_ | name, document⟩ := member
  · exact iff_of_false nofun fun h => nomatch h.1
  · have hentry : Decoder.json.entry nesting (some name, document) =
        (document.toJson? nesting).map (name, ·) := by
      cases hvalue : document.toJson? nesting <;> simp [Decoder.entry, Decoder.json, hvalue]
    rw [hentry, Option.isSome_map]
    exact (and_iff_right rfl).symm

namespace KeepsReadable

variable {change : Change}

theorem same : KeepsReadable .same := by
  rintro nesting document _ rfl hreadable
  exact hreadable

theorem orSame (h : KeepsReadable change) : KeepsReadable change.orSame := by
  rintro nesting document document' (rfl | hchange) hreadable
  · exact hreadable
  · exact h hchange hreadable

theorem list (h : KeepsReadable change) : KeepsReadable (.list change) := by
  rintro _ _ _ ⟨hitems⟩ hreadable
  rw [readable_array_iff] at hreadable ⊢
  exact forall_mem_of_forall₂ hitems (fun _ _ hitem => h.orSame hitem) hreadable

section Record

variable {names : List String} {parts : List (String × Change)}

theorem part (h : ∀ part ∈ parts, KeepsReadable part.2) (name : String) :
    KeepsReadable (Change.part parts name) := by
  rw [Change.part]
  cases hfound : parts.lookup name with
  | none => exact same
  | some change =>
      obtain ⟨before, after, rfl, _⟩ := List.lookup_eq_some_iff.mp hfound
      exact (h (name, change) (by simp)).orSame

theorem positions {nesting : Nat} {items items' : List Document}
    (h : ∀ part ∈ parts, KeepsReadable part.2) (hitems : Positions parts nesting names items items')
    (hall : ∀ item ∈ items, readable nesting item) : ∀ item ∈ items', readable nesting item := by
  induction hitems with
  | nil => exact hall
  | cons hitem _ ih =>
      obtain ⟨hhead, hrest⟩ := List.forall_mem_cons.mp hall
      exact List.forall_mem_cons.mpr ⟨part h _ hitem hhead, ih hrest⟩
  | beyond => exact hall

theorem member {nesting : Nat} {member member' : Option String × Document}
    (h : ∀ part ∈ parts, KeepsReadable part.2)
    (hmember : Member (partOf parts) nesting member member')
    (hread : member.1.isSome = true ∧ readable nesting member.2) :
    member'.1.isSome = true ∧ readable nesting member'.2 := by
  obtain ⟨_ | name, document⟩ := member
  · cases hread.1
  · exact ⟨hmember.name_eq ▸ hread.1, part h name hmember.value hread.2⟩

theorem record (h : ∀ part ∈ parts, KeepsReadable part.2) :
    KeepsReadable (.record names parts readable) := by
  intro nesting document document' hchange hreadable
  cases hchange with
  | array hitems =>
      rw [readable_array_iff] at hreadable ⊢
      exact positions h hitems hreadable
  | object hchanged hinserted horder =>
      rw [readable_object_iff] at hreadable ⊢
      simp only [horder.mem_iff]
      refine List.forall_mem_append.mpr ⟨?_, fun member hmem => ?_⟩
      · exact forall_mem_of_forall₂ hchanged (fun _ _ hmember => member h hmember) hreadable
      · obtain ⟨⟨name, hname, _⟩, hvalue⟩ := hinserted member hmem
        exact ⟨hname ▸ rfl, hvalue⟩

end Record

end KeepsReadable

end FeatureFlags.Json
