import FeatureFlags.Proofs.Json.Restated

/-!
Decoders that read values. Such a decoder gets the same from a document and
from whatever restates it. This is known of a whole from its parts: lists item
by item, tables and records by the names of their members, whose order does not
count where no name is there twice.
-/

namespace FeatureFlags.Json

variable {α : Type} {β : Type}

/-- The decoder gets the same from a document and from what restates it. -/
def ReadsValue (decoder : Decoder α) : Prop :=
  ∀ ⦃nesting nesting' : Nat⦄ ⦃document document' : Document⦄,
    Restated nesting nesting' document document' →
      decoder nesting document = decoder nesting' document'

theorem isSome_mapM_iff {read : β → Option α} {items : List β} :
    (items.mapM read).isSome = true ↔ ∀ item ∈ items, (read item).isSome = true := by
  induction items with
  | nil => exact iff_of_true rfl (List.forall_mem_nil _)
  | cons item rest ih =>
      rw [List.mapM_cons, List.forall_mem_cons, ← ih]
      cases read item <;> cases rest.mapM read <;> simp

theorem mapM_eq_of_forall₂ {γ : Type} {R : β → γ → Prop} {read : β → Option α}
    {read' : γ → Option α} {items : List β} {items' : List γ} (h : List.Forall₂ R items items')
    (hread : ∀ item item', R item item' → read item = read' item') :
    items.mapM read = items'.mapM read' := by
  induction h with
  | nil => rfl
  | cons hhead _ ih => rw [List.mapM_cons, List.mapM_cons, hread _ _ hhead, ih]

namespace ReadsValue

theorem json : ReadsValue .json := by
  intro nesting nesting' document document' h
  obtain ⟨value, hread, hread'⟩ := h.exists_value
  exact hread.trans hread'.symm

theorem map {decoder : Decoder β} (h : ReadsValue decoder) (f : Option β → Option α) :
    ReadsValue fun nesting document => f (decoder nesting document) :=
  fun _ _ _ _ hdocument => congrArg f (h hdocument)

theorem string : ReadsValue .string := by
  intro nesting nesting' document document' h
  cases h.form <;> rfl

theorem boolean : ReadsValue .boolean := by
  intro nesting nesting' document document' h
  cases h.form <;> rfl

theorem word64 : ReadsValue .word64 := by
  intro nesting nesting' document document' h
  cases h.form <;> rfl

theorem word32 : ReadsValue .word32 :=
  word64.map (·.bind fun n => if n.toNat < UInt32.size then some n.toUInt32 else none)

theorem optional {decoder : Decoder α} (hdecoder : ReadsValue decoder) :
    ReadsValue (.optional decoder) := by
  intro nesting nesting' document document' h
  have hread := hdecoder h
  cases h.form with
  | null => rfl
  | _ => exact congrArg (Option.map some) hread

theorem list {item : Decoder α} (hitem : ReadsValue item) : ReadsValue (.list item) := by
  intro nesting nesting' document document' h
  cases h.form with
  | array hitems => exact mapM_eq_of_forall₂ hitems fun _ _ => @hitem _ _ _ _
  | _ => simp only [Decoder.list]

/-- A name alone is restated as a name alone. -/
theorem choice_single (meaning? : String → Option α) {nesting nesting' : Nat}
    {member member' : Option String × Document}
    (h : RestatedMember nesting nesting' member member') :
    Decoder.choice meaning? (nesting + 1) (.object [member]) =
      Decoder.choice meaning? (nesting' + 1) (.object [member']) := by
  obtain ⟨name, document⟩ := member
  obtain ⟨name', document'⟩ := member'
  obtain ⟨⟨_, rfl, rfl⟩, hvalue⟩ := h
  cases hvalue.form with
  | null => rfl
  | _ => simp only [Decoder.choice]

theorem choice (meaning? : String → Option α) : ReadsValue (.choice meaning?) := by
  intro nesting nesting' document document' h
  cases h.form with
  | string s => rfl
  | @object nesting nesting' members members' hmembers =>
      obtain ⟨ordered, hordered, hperm⟩ := hmembers.exists_perm
      match ordered, hordered with
      | [], .nil =>
          obtain rfl := hperm.nil_eq
          simp only [Decoder.choice]
      | [_], .cons hmember .nil =>
          obtain rfl := List.singleton_perm.mp hperm
          exact choice_single meaning? hmember
      | _ :: _ :: _, .cons _ (.cons _ _) =>
          match members, hperm.length_eq with
          | _ :: _ :: _, _ => simp only [Decoder.choice]
  | _ => simp only [Decoder.choice]

theorem bind_eq {decoder : Decoder α} (hdecoder : ReadsValue decoder) {nesting nesting' : Nat}
    {found found' : Option Document} (h : Option.Rel (Restated nesting nesting') found found') :
    found.bind (decoder nesting) = found'.bind (decoder nesting') := by
  cases h with
  | none => rfl
  | some hvalue => exact hdecoder hvalue

end ReadsValue

/-! ### Tables -/

section Entries

variable {value : Decoder α} {nesting : Nat} {members : List (Option String × Document)}

theorem lookup_entries {entries : List (String × α)}
    (h : List.Forall₂ (fun member entry => value.entry nesting member = some entry) members entries)
    (key : String) : entries.lookup key = (members.lookup (some key)).bind (value nesting) := by
  induction h with
  | nil => rfl
  | @cons member entry _ _ hhead _ ih =>
      obtain ⟨name, document⟩ := member
      obtain ⟨hname, hvalue⟩ := entry_eq_some_iff.mp hhead
      obtain rfl : name = some entry.1 := hname
      rw [List.lookup_cons, List.lookup_cons, ih]
      cases heq : key == entry.1 <;> simp [heq, hvalue]

theorem table_eq_bind : Decoder.table value (nesting + 1) (.object members) =
    (members.mapM (value.entry nesting)).bind fun entries => some (Table.ofList entries) := rfl

/-- A table is read if all its members are. -/
theorem isSome_table_iff :
    (Decoder.table value (nesting + 1) (.object members)).isSome = true ↔
      ∀ member ∈ members, (value.entry nesting member).isSome = true := by
  rw [table_eq_bind, ← isSome_mapM_iff]
  cases members.mapM (value.entry nesting) <;> rfl

/-- A table has under a name what the last member of that name is read as. -/
theorem get?_table {table : Table α}
    (hread : Decoder.table value (nesting + 1) (.object members) = some table) (key : String) :
    table.get? key = (members.reverse.lookup (some key)).bind (value nesting) := by
  obtain ⟨entries, hentries, heq⟩ := Option.bind_eq_some_iff.mp (table_eq_bind.symm.trans hread)
  obtain rfl := Option.some.inj heq
  rw [Table.get?_ofList]
  exact lookup_entries (List.forall₂_reverse_iff.mpr (mapM_eq_some_iff_forall₂.mp hentries)) key

theorem table_eq_some_iff {table : Table α} :
    Decoder.table value (nesting + 1) (.object members) = some table ↔
      (∀ member ∈ members, (value.entry nesting member).isSome = true) ∧
        ∀ key, table.get? key = (members.reverse.lookup (some key)).bind (value nesting) := by
  constructor
  · intro hread
    exact ⟨isSome_table_iff.mp (Option.isSome_of_eq_some hread), get?_table hread⟩
  · rintro ⟨hall, hget⟩
    obtain ⟨found, hread⟩ := Option.isSome_iff_exists.mp (isSome_table_iff.mpr hall)
    have hfound : found = table := Table.ext_get? fun key => by rw [get?_table hread, hget]
    rw [hread, hfound]

end Entries

namespace ReadsValue

theorem table {value : Decoder α} (hvalue : ReadsValue value) : ReadsValue (.table value) := by
  intro nesting nesting' document document' h
  cases h.form with
  | @object nesting nesting' members members' hmembers =>
      refine Option.ext fun table => ?_
      rw [table_eq_some_iff, table_eq_some_iff]
      refine and_congr (hmembers.forall_iff fun member member' hmember => ?_)
        (forall_congr' fun key => ?_)
      · obtain ⟨name, hname, hname'⟩ := hmember.name
        simp only [Decoder.entry, hname, hname', hvalue hmember.value]
      · rw [hvalue.bind_eq (hmembers.reverse.lookup (some key))]
  | _ => simp only [Decoder.table]

end ReadsValue

/-! ### Records -/

/-- Fields under the same names, of which those on the right restate those on
the left. -/
structure RestatedFields (fields fields' : Fields) : Prop where
  positional : fields.positional = fields'.positional
  find? : ∀ name, Option.Rel (Restated fields.nesting fields'.nesting) (fields.find? name)
    (fields'.find? name)

namespace Fields

/-- The declared names in an object, as often as they are there. -/
def declaredNames (names : List String) (members : List (Option String × Document)) :
    List String :=
  (members.filterMap (·.1)).filter names.contains

theorem ofMembers_cons (names : List String) (own : String) (document : Document)
    (rest : List (Option String × Document)) :
    ofMembers names ((some own, document) :: rest) = (ofMembers names rest).bind fun kept =>
      if names.contains own then
        if own ∈ kept.map (·.1) then none else some ((own, document) :: kept)
      else some kept := by
  have hany (kept : List (String × Document)) :
      own ∈ kept.map (·.1) ↔ kept.any (·.1 == own) = true := by
    simp [List.mem_map]
  simp only [hany]
  rfl

section Kept

variable {names : List String} {members : List (Option String × Document)}

/-- The members that are declared are kept. -/
theorem keys_ofMembers {kept : List (String × Document)}
    (hkept : ofMembers names members = some kept) :
    kept.map (·.1) = declaredNames names members := by
  induction members generalizing kept with
  | nil =>
      cases hkept
      rfl
  | cons member rest ih =>
      obtain ⟨_ | own, document⟩ := member
      · cases hkept
      · rw [ofMembers_cons, Option.bind_eq_some_iff] at hkept
        obtain ⟨more, hmore, hkept⟩ := hkept
        have hrest := ih hmore
        rw [declaredNames] at hrest ⊢
        split at hkept
        · next hown =>
            split at hkept <;> cases hkept
            simp [List.contains_iff_mem.mp hown, hrest]
        · next hown =>
            cases hkept
            simp [mt List.contains_iff_mem.mpr hown, hrest]

/-- A declared name has the value that the object gives it, and no other name
has one. -/
theorem lookup_ofMembers {kept : List (String × Document)}
    (hkept : ofMembers names members = some kept) (name : String) :
    kept.lookup name = if names.contains name then members.lookup (some name) else none := by
  induction members generalizing kept with
  | nil =>
      cases hkept
      exact (ite_self none).symm
  | cons member rest ih =>
      obtain ⟨_ | own, document⟩ := member
      · cases hkept
      · rw [ofMembers_cons, Option.bind_eq_some_iff] at hkept
        obtain ⟨more, hmore, hkept⟩ := hkept
        have hcons : ((some own, document) :: rest).lookup (some name) =
            if name = own then some document else rest.lookup (some name) := by
          by_cases heq : name = own <;> simp [List.lookup_cons, heq, beq_eq_false_iff_ne.mpr]
        rw [hcons]
        split at hkept
        · next hown =>
            split at hkept <;> cases hkept
            rw [Table.lookup_cons_eq, ih hmore]
            by_cases heq : name = own
            · rw [if_pos heq, if_pos heq, heq, if_pos hown]
            · rw [if_neg heq, if_neg heq]
        · next hown =>
            cases hkept
            rw [ih hmore]
            by_cases heq : name = own
            · rw [heq, if_neg hown, if_neg hown]
            · rw [if_neg heq]

/-- The members of an object can be taken apart if every name is spelled and no
declared name is there twice. -/
theorem isSome_ofMembers_iff : (ofMembers names members).isSome = true ↔
    (∀ name ∈ members.map (·.1), name.isSome = true) ∧ (declaredNames names members).Nodup := by
  induction members with
  | nil => exact iff_of_true rfl ⟨List.forall_mem_nil _, List.nodup_nil⟩
  | cons member rest ih =>
      obtain ⟨_ | own, document⟩ := member
      · refine iff_of_false nofun fun h => ?_
        cases h.1 _ List.mem_cons_self
      · have hdeclared : declaredNames names ((some own, document) :: rest) =
            if names.contains own then own :: declaredNames names rest
            else declaredNames names rest := by
          simp [declaredNames, List.filter_cons]
        rw [ofMembers_cons, List.map_cons, List.forall_mem_cons, hdeclared]
        cases hmore : ofMembers names rest with
        | none =>
            rw [hmore] at ih
            refine iff_of_false nofun fun ⟨⟨_, hall⟩, hnodup⟩ => ?_
            have hrest : (declaredNames names rest).Nodup := by
              split at hnodup
              · exact hnodup.of_cons
              · exact hnodup
            cases ih.mpr ⟨hall, hrest⟩
        | some more =>
            rw [hmore] at ih
            obtain ⟨hall, hrest⟩ := ih.mp rfl
            rw [Option.bind_some, keys_ofMembers hmore, and_iff_right ⟨rfl, hall⟩]
            split
            · by_cases hmem : own ∈ declaredNames names rest <;> simp [hmem, hrest]
            · exact iff_of_true rfl hrest

/-- Whether they can depends on the names alone. -/
theorem isSome_ofMembers_of_perm (names : List String)
    {members members' : List (Option String × Document)}
    (h : (members.map (·.1)).Perm (members'.map (·.1))) :
    (ofMembers names members).isSome = (ofMembers names members').isSome := by
  have hnames : (declaredNames names members).Perm (declaredNames names members') := by
    have hperm := (h.filterMap id).filter names.contains
    rwa [List.filterMap_map, List.filterMap_map] at hperm
  rw [Bool.eq_iff_iff, isSome_ofMembers_iff, isSome_ofMembers_iff, hnames.nodup_iff]
  simp only [h.mem_iff]

end Kept

end Fields

section Record

variable {nesting nesting' : Nat}

theorem rel_zip (names : List String) {items items' : List Document}
    (h : List.Forall₂ (Restated nesting nesting') items items') (name : String) :
    Option.Rel (Restated nesting nesting') ((names.zip items).lookup name)
      ((names.zip items').lookup name) := by
  induction h generalizing names with
  | nil =>
      rw [List.zip_nil_right]
      exact .none
  | cons hhead _ ih =>
      cases names with
      | nil => exact .none
      | cons own names =>
          rw [List.zip_cons_cons, List.zip_cons_cons, List.lookup_cons, List.lookup_cons]
          split
          · exact .some hhead
          · exact ih names

theorem rel_ofMembers (names : List String) {members members' : List (Option String × Document)}
    (h : RestatedMembers nesting nesting' members members') :
    Option.Rel (fun kept kept' => ∀ name, Option.Rel (Restated nesting nesting')
      (kept.lookup name) (kept'.lookup name))
      (Fields.ofMembers names members) (Fields.ofMembers names members') := by
  have hsome := Fields.isSome_ofMembers_of_perm names h.names_perm
  cases hkept : Fields.ofMembers names members with
  | none =>
      rw [hkept] at hsome
      rw [Option.not_isSome_iff_eq_none.mp (Bool.eq_false_iff.mp hsome.symm)]
      exact .none
  | some kept =>
      rw [hkept] at hsome
      obtain ⟨kept', hkept'⟩ := Option.isSome_iff_exists.mp hsome.symm
      rw [hkept']
      refine .some fun name => ?_
      rw [Fields.lookup_ofMembers hkept, Fields.lookup_ofMembers hkept']
      split
      · exact h.lookup (some name)
      · exact .none

theorem Restated.fields (names : List String) {document document' : Document}
    (h : Restated nesting nesting' document document') :
    Option.Rel RestatedFields (Fields.ofDocument? names nesting document)
      (Fields.ofDocument? names nesting' document') := by
  cases h.form with
  | array hitems =>
      rw [Fields.ofDocument?, Fields.ofDocument?, hitems.length_eq]
      split
      · exact .some ⟨rfl, rel_zip names hitems⟩
      · exact .none
  | @object _ _ members members' hmembers =>
      rw [Fields.ofDocument?, Fields.ofDocument?]
      have hkept := rel_ofMembers names hmembers
      generalize Fields.ofMembers names members = kept, Fields.ofMembers names members' = kept'
        at hkept
      cases hkept with
      | none => exact .none
      | some hlookup => exact .some ⟨rfl, hlookup⟩
  | _ =>
      simp only [Fields.ofDocument?]
      exact .none

end Record

/-- A record reads values if it gets the same from fields that are restated. -/
theorem ReadsValue.record {names : List String} {read : Fields → Option α}
    (h : ∀ fields fields', RestatedFields fields fields' → read fields = read fields') :
    ReadsValue fun nesting document => Fields.ofDocument? names nesting document >>= read := by
  intro nesting nesting' document document' hdocument
  show Fields.ofDocument? names nesting document >>= read =
    Fields.ofDocument? names nesting' document' >>= read
  have hfields := hdocument.fields names
  generalize Fields.ofDocument? names nesting document = fields,
    Fields.ofDocument? names nesting' document' = fields' at hfields
  cases hfields with
  | none => rfl
  | some hrestated => exact h _ _ hrestated

namespace RestatedFields

variable {fields fields' : Fields} {decoder : Decoder α}

theorem required (h : RestatedFields fields fields') (hdecoder : ReadsValue decoder)
    (name : String) : fields.required name decoder = fields'.required name decoder :=
  hdecoder.bind_eq (h.find? name)

theorem withDefault (h : RestatedFields fields fields') (hdecoder : ReadsValue decoder)
    (name : String) (default : α) :
    fields.withDefault name decoder default = fields'.withDefault name decoder default := by
  rw [Fields.withDefault, Fields.withDefault]
  have hfound := h.find? name
  generalize fields.find? name = found, fields'.find? name = found' at hfound
  cases hfound with
  | none => rfl
  | some hvalue => exact hdecoder hvalue

theorem optional (h : RestatedFields fields fields') (hdecoder : ReadsValue decoder)
    (name : String) : fields.optional name decoder = fields'.optional name decoder :=
  h.withDefault hdecoder.optional name none

end RestatedFields

end FeatureFlags.Json
