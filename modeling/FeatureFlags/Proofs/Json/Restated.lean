import FeatureFlags.Proofs.Json.Decoders
import Mathlib.Data.List.Forall2
import Mathlib.Data.List.Perm.Basic

/-!
Documents restated. A document goes with itself where the second reader may go
deeper, however often it repeats a name. If it repeats none, it goes with what
its value is written as, which has the members in order. The parts of a document
and the parts of what restates it go together in the same way, so a decoder that
is made of decoders that read values reads values too.

A document that repeats a name is told apart from what its value is written as,
because a record allows no member twice and a value shows none twice.
-/

namespace FeatureFlags.Json

open Document (itemsToJson? membersToJson?)

/-! ### Reading deeper -/

mutual

/-- A reader that may go deeper reads the same value. -/
theorem toJson?_mono : ∀ (document : Document) {nesting deeper : Nat} {value : Json},
    nesting ≤ deeper → document.toJson? nesting = some value →
      document.toJson? deeper = some value
  | .null, _, _, _, _, hread => hread
  | .boolean _, _, _, _, _, hread => hread
  | .integer _, _, _, _, _, hread => hread
  | .float _, _, _, _, _, hread => hread
  | .string _, _, _, _, _, hread => hread
  | .array items, nesting + 1, deeper + 1, _, hle, hread => by
      obtain ⟨values, hvalues, rfl⟩ := Option.map_eq_some_iff.mp hread
      have hdeeper := itemsToJson?_mono items (Nat.le_of_succ_le_succ hle) hvalues
      simp only [Document.toJson?, hdeeper, Option.map_some]
  | .object members, nesting + 1, deeper + 1, _, hle, hread => by
      obtain ⟨values, hvalues, rfl⟩ := Option.map_eq_some_iff.mp hread
      have hdeeper := membersToJson?_mono members (Nat.le_of_succ_le_succ hle) hvalues
      simp only [Document.toJson?, hdeeper, Option.map_some]

theorem itemsToJson?_mono : ∀ (items : List Document) {nesting deeper : Nat} {values : List Json},
    nesting ≤ deeper → itemsToJson? nesting items = some values →
      itemsToJson? deeper items = some values
  | [], _, _, _, _, hread => hread
  | item :: rest, _, _, _, hle, hread => by
      obtain ⟨value, hvalue, hread⟩ := Option.bind_eq_some_iff.mp hread
      obtain ⟨values, hvalues, hread⟩ := Option.bind_eq_some_iff.mp hread
      cases hread
      have hitem := toJson?_mono item hle hvalue
      have hrest := itemsToJson?_mono rest hle hvalues
      simp only [itemsToJson?, hitem, hrest]
      rfl

theorem membersToJson?_mono : ∀ (members : List (Option String × Document))
    {nesting deeper : Nat} {values : List (String × Json)}, nesting ≤ deeper →
      membersToJson? nesting members = some values → membersToJson? deeper members = some values
  | [], _, _, _, _, hread => hread
  | (name, document) :: rest, _, _, _, hle, hread => by
      obtain ⟨spelled, rfl, hread⟩ := Option.bind_eq_some_iff.mp hread
      obtain ⟨value, hvalue, hread⟩ := Option.bind_eq_some_iff.mp hread
      obtain ⟨values, hvalues, hread⟩ := Option.bind_eq_some_iff.mp hread
      cases hread
      have hmember := toJson?_mono document hle hvalue
      have hrest := membersToJson?_mono rest hle hvalues
      simp only [membersToJson?, hmember, hrest]
      rfl

end

/-! ### Documents without repetition -/

/-- No object in the document has a name twice. -/
inductive Document.Distinct : Document → Prop where
  | null : Distinct .null
  | boolean (b : Bool) : Distinct (.boolean b)
  | integer (n : Integer) : Distinct (.integer n)
  | float (x : Option Binary64.Finite) : Distinct (.float x)
  | string (text : Option String) : Distinct (.string text)
  | array {items : List Document} (hitems : ∀ item ∈ items, Distinct item) :
      Distinct (.array items)
  | object {members : List (Option String × Document)} (hnodup : (members.map (·.1)).Nodup)
      (hmembers : ∀ member ∈ members, Distinct member.2) : Distinct (.object members)

/-- Of two documents, the second is the first one, for a reader that may go
deeper, or what the value of the first one is written as, if that repeats no
name. -/
inductive Restated (nesting nesting' : Nat) : Document → Document → Prop where
  | deeper {document : Document} (hle : nesting ≤ nesting')
      (hvalue : (document.toJson? nesting).isSome = true) :
      Restated nesting nesting' document document
  | written {document : Document} {value : Json} (hdistinct : document.Distinct)
      (hread : document.toJson? nesting = some value) (hdepth : value.depth ≤ nesting') :
      Restated nesting nesting' document value.toDocument

/-- A document and what restates it have one value. -/
theorem Restated.exists_value {nesting nesting' : Nat} {document document' : Document}
    (h : Restated nesting nesting' document document') :
    ∃ value, document.toJson? nesting = some value ∧ document'.toJson? nesting' = some value := by
  cases h with
  | deeper hle hvalue =>
      obtain ⟨value, hread⟩ := Option.isSome_iff_exists.mp hvalue
      exact ⟨value, hread, toJson?_mono document hle hread⟩
  | @written value _ hread hdepth =>
      have hcanonical := (canonical_of_toJson? document nesting hread).1
      exact ⟨value, hread, toJson?_toDocument value nesting' hcanonical hdepth⟩

/-! ### Parts -/

/-- Two members with one name, of which the second restates the first. -/
structure RestatedMember (nesting nesting' : Nat) (member member' : Option String × Document) :
    Prop where
  name : ∃ name, member.1 = some name ∧ member'.1 = some name
  value : Restated nesting nesting' member.2 member'.2

/-- Members restated in their order, or in another order if no name is there
twice. -/
def RestatedMembers (nesting nesting' : Nat) (members members' : List (Option String × Document)) :
    Prop :=
  ∃ ordered, List.Forall₂ (RestatedMember nesting nesting') ordered members' ∧
    (ordered = members ∨ ordered.Perm members ∧ (members.map (·.1)).Nodup)

/-- What a document is restated as, part by part. -/
inductive RestatedForm : Nat → Nat → Document → Document → Prop where
  | null {nesting nesting' : Nat} : RestatedForm nesting nesting' .null .null
  | boolean {nesting nesting' : Nat} (b : Bool) :
      RestatedForm nesting nesting' (.boolean b) (.boolean b)
  | integer {nesting nesting' : Nat} (n : Integer) :
      RestatedForm nesting nesting' (.integer n) (.integer n)
  | float {nesting nesting' : Nat} (x : Binary64.Finite) :
      RestatedForm nesting nesting' (.float (some x)) (.float (some x))
  | string {nesting nesting' : Nat} (s : String) :
      RestatedForm nesting nesting' (.string (some s)) (.string (some s))
  | array {nesting nesting' : Nat} {items items' : List Document}
      (hitems : List.Forall₂ (Restated nesting nesting') items items') :
      RestatedForm (nesting + 1) (nesting' + 1) (.array items) (.array items')
  | object {nesting nesting' : Nat} {members members' : List (Option String × Document)}
      (hmembers : RestatedMembers nesting nesting' members members') :
      RestatedForm (nesting + 1) (nesting' + 1) (.object members) (.object members')

/-- A list is read if each item is, and item by item. -/
theorem mapM_eq_some_iff_forall₂ {α β : Type} {read : β → Option α} {items : List β}
    {values : List α} :
    items.mapM read = some values ↔
      List.Forall₂ (fun item value => read item = some value) items values := by
  induction items generalizing values with
  | nil =>
      rw [List.mapM_nil, List.forall₂_nil_left_iff]
      exact ⟨fun h => (Option.some.inj h).symm, fun h => congrArg some h.symm⟩
  | cons item rest ih =>
      rw [List.mapM_cons, List.forall₂_cons_left_iff]
      simp only [bind, Option.bind_eq_some_iff, pure, Option.some.injEq, ih]
      constructor
      · rintro ⟨value, hvalue, values, hvalues, rfl⟩
        exact ⟨value, values, hvalue, hvalues, rfl⟩
      · rintro ⟨value, values, hvalue, hvalues, rfl⟩
        exact ⟨value, hvalue, values, hvalues, rfl⟩

/-- The name and the value of a member, as a decoder of values reads it. -/
def Decoder.entry {α : Type} (value : Decoder α) (nesting : Nat)
    (member : Option String × Document) : Option (String × α) := do
  let name ← member.1
  let value ← value nesting member.2
  return (name, value)

theorem entry_eq_some_iff {α : Type} {value : Decoder α} {nesting : Nat}
    {member : Option String × Document} {entry : String × α} :
    value.entry nesting member = some entry ↔
      member.1 = some entry.1 ∧ value nesting member.2 = some entry.2 := by
  simp only [Decoder.entry, bind, Option.bind_eq_some_iff, pure, Option.some.injEq]
  constructor
  · rintro ⟨_, hname, _, hvalue, rfl⟩
    exact ⟨hname, hvalue⟩
  · rintro ⟨hname, hvalue⟩
    exact ⟨_, hname, _, hvalue, rfl⟩

theorem itemsToJson?_eq_mapM (nesting : Nat) (items : List Document) :
    itemsToJson? nesting items = items.mapM (·.toJson? nesting) := by
  induction items with
  | nil => rfl
  | cons item rest ih => rw [itemsToJson?, ih, List.mapM_cons]

theorem itemsToJson?_eq_some_iff {items : List Document} {nesting : Nat} {values : List Json} :
    itemsToJson? nesting items = some values ↔
      List.Forall₂ (fun item value => item.toJson? nesting = some value) items values := by
  rw [itemsToJson?_eq_mapM, mapM_eq_some_iff_forall₂]

theorem membersToJson?_eq_mapM (nesting : Nat) (members : List (Option String × Document)) :
    membersToJson? nesting members = members.mapM (Decoder.json.entry nesting) := by
  induction members with
  | nil => rfl
  | cons member rest ih =>
      obtain ⟨name, document⟩ := member
      rw [membersToJson?, ih, List.mapM_cons, Decoder.entry]
      simp only [bind_assoc, pure_bind]
      rfl

theorem membersToJson?_eq_some_iff {members : List (Option String × Document)} {nesting : Nat}
    {values : List (String × Json)} :
    membersToJson? nesting members = some values ↔
      List.Forall₂ (fun member value => member.1 = some value.1 ∧
        member.2.toJson? nesting = some value.2) members values := by
  simp only [membersToJson?_eq_mapM, mapM_eq_some_iff_forall₂, entry_eq_some_iff]
  rfl

/-- A list goes with itself if each item that has a partner does. -/
theorem forall₂_self {α β : Type} {R : α → β → Prop} {S : α → α → Prop} {items : List α}
    {partners : List β} (h : List.Forall₂ R items partners)
    (hself : ∀ item partner, R item partner → S item item) : List.Forall₂ S items items := by
  induction h with
  | nil => exact .nil
  | cons hhead _ ih => exact .cons (hself _ _ hhead) ih

/-- Only names that are spelled are read, and the values have the same ones. -/
theorem names_eq_of_membersToJson? {members : List (Option String × Document)} {nesting : Nat}
    {values : List (String × Json)} (hread : membersToJson? nesting members = some values) :
    members.map (·.1) = (values.map (·.1)).map some := by
  have hmembers := membersToJson?_eq_some_iff.mp hread
  clear hread
  induction hmembers with
  | nil => rfl
  | cons hhead _ ih => rw [List.map_cons, hhead.1, ih, List.map_cons, List.map_cons]

/-- A relation between lists, carried over item by item. -/
theorem forall₂_imp_of_mem {α β : Type} {R S : α → β → Prop} {items : List α} {partners : List β}
    (h : List.Forall₂ R items partners)
    (himp : ∀ item ∈ items, ∀ partner ∈ partners, R item partner → S item partner) :
    List.Forall₂ S items partners := by
  induction h with
  | nil => exact .nil
  | cons hhead _ ih =>
      refine .cons (himp _ List.mem_cons_self _ List.mem_cons_self hhead) (ih ?_)
      exact fun item hitem partner hpartner =>
        himp item (List.mem_cons_of_mem _ hitem) partner (List.mem_cons_of_mem _ hpartner)

/-- What passes from each item to its partner passes from all items to all partners. -/
theorem forall_mem_of_forall₂ {α β : Type} {R : α → β → Prop} {P : α → Prop} {Q : β → Prop}
    {items : List α} {partners : List β} (h : List.Forall₂ R items partners)
    (himp : ∀ item partner, R item partner → P item → Q partner)
    (hall : ∀ item ∈ items, P item) : ∀ partner ∈ partners, Q partner := by
  induction h with
  | nil => exact List.forall_mem_nil Q
  | cons hhead _ ih =>
      obtain ⟨hitem, hrest⟩ := List.forall_mem_cons.mp hall
      exact List.forall_mem_cons.mpr ⟨himp _ _ hhead hitem, ih hrest⟩

section Parts

variable {nesting nesting' : Nat}

theorem restatedItems_self {items : List Document} {values : List Json} (hle : nesting ≤ nesting')
    (hread : itemsToJson? nesting items = some values) :
    List.Forall₂ (Restated nesting nesting') items items :=
  forall₂_self (itemsToJson?_eq_some_iff.mp hread) fun _ _ hitem =>
    .deeper hle (Option.isSome_of_eq_some hitem)

theorem restatedMembers_self {members : List (Option String × Document)}
    {values : List (String × Json)} (hle : nesting ≤ nesting')
    (hread : membersToJson? nesting members = some values) :
    RestatedMembers nesting nesting' members members :=
  ⟨members, forall₂_self (membersToJson?_eq_some_iff.mp hread) fun _ value hmember =>
    ⟨⟨value.1, hmember.1, hmember.1⟩, .deeper hle (Option.isSome_of_eq_some hmember.2)⟩, .inl rfl⟩

theorem restatedItems_written {items : List Document} {values : List Json}
    (hdistinct : ∀ item ∈ items, item.Distinct)
    (hread : itemsToJson? nesting items = some values)
    (hdepth : ∀ value ∈ values, value.depth ≤ nesting') :
    List.Forall₂ (Restated nesting nesting') items (itemsToDocument values) := by
  rw [itemsToDocument_eq_map, List.forall₂_map_right_iff]
  exact forall₂_imp_of_mem (itemsToJson?_eq_some_iff.mp hread) fun item hitem value hvalue hread =>
    .written (hdistinct item hitem) hread (hdepth value hvalue)

theorem restatedMembers_written {members : List (Option String × Document)}
    {values : List (String × Json)} (hnodup : (members.map (·.1)).Nodup)
    (hdistinct : ∀ member ∈ members, member.2.Distinct)
    (hread : membersToJson? nesting members = some values)
    (hdepth : ∀ value ∈ (Table.ofList values).entries, value.2.depth ≤ nesting') :
    RestatedMembers nesting nesting' members
      (membersToDocument (Table.ofList values).entries) := by
  have hnames : (values.map (·.1)).Nodup := by
    rw [names_eq_of_membersToJson? hread] at hnodup
    exact hnodup.of_map
  -- Each value stands for its member wherever it is put.
  obtain ⟨ordered, hordered, hperm⟩ := List.perm_comp_forall₂ (Table.perm_entries_ofList hnames)
    (membersToJson?_eq_some_iff.mp hread).flip
  refine ⟨ordered, ?_, .inr ⟨hperm, hnodup⟩⟩
  rw [membersToDocument_eq_map, List.forall₂_map_right_iff]
  refine forall₂_imp_of_mem hordered.flip fun member hmember value hvalue hread => ?_
  exact ⟨⟨value.1, hread.1, rfl⟩,
    .written (hdistinct member (hperm.subset hmember)) hread.2 (hdepth value hvalue)⟩

theorem Restated.form {document document' : Document}
    (h : Restated nesting nesting' document document') :
    RestatedForm nesting nesting' document document' := by
  cases h with
  | deeper hle hvalue =>
      obtain ⟨value, hread⟩ := Option.isSome_iff_exists.mp hvalue
      match document, nesting, nesting', hread with
      | .null, _, _, _ => exact .null
      | .boolean b, _, _, _ => exact .boolean b
      | .integer n, _, _, _ => exact .integer n
      | .float (some x), _, _, _ => exact .float x
      | .string (some s), _, _, _ => exact .string s
      | .array items, nesting + 1, nesting' + 1, hread =>
          obtain ⟨values, hvalues, _⟩ := Option.map_eq_some_iff.mp hread
          exact .array (restatedItems_self (Nat.le_of_succ_le_succ hle) hvalues)
      | .object members, nesting + 1, nesting' + 1, hread =>
          obtain ⟨values, hvalues, _⟩ := Option.map_eq_some_iff.mp hread
          exact .object (restatedMembers_self (Nat.le_of_succ_le_succ hle) hvalues)
  | written hdistinct hread hdepth =>
      match document, nesting, hdistinct, hread with
      | .null, _, _, hread =>
          cases hread
          exact .null
      | .boolean b, _, _, hread =>
          cases hread
          exact .boolean b
      | .integer n, _, _, hread =>
          cases hread
          exact .integer n
      | .float (some x), _, _, hread =>
          cases hread
          exact .float x
      | .string (some s), _, _, hread =>
          cases hread
          exact .string s
      | .array items, nesting + 1, .array hitems, hread =>
          obtain ⟨values, hvalues, rfl⟩ := Option.map_eq_some_iff.mp hread
          obtain ⟨inner, rfl, hinner⟩ := enters_array hdepth
          exact .array (restatedItems_written hitems hvalues hinner)
      | .object members, nesting + 1, .object hnodup hmembers, hread =>
          obtain ⟨values, hvalues, rfl⟩ := Option.map_eq_some_iff.mp hread
          obtain ⟨inner, rfl, hinner⟩ := enters_object hdepth
          exact .object (restatedMembers_written hnodup hmembers hvalues hinner)

end Parts

/-! ### Members -/

section SameOrder

variable {nesting nesting' : Nat} {members members' : List (Option String × Document)}

theorem names_eq_of_forall₂
    (h : List.Forall₂ (RestatedMember nesting nesting') members members') :
    members.map (·.1) = members'.map (·.1) := by
  induction h with
  | nil => rfl
  | cons hhead _ ih =>
      obtain ⟨_, hname, hname'⟩ := hhead.name
      rw [List.map_cons, List.map_cons, hname, hname', ih]

theorem forall_iff_of_forall₂ {P Q : Option String × Document → Prop}
    (h : List.Forall₂ (RestatedMember nesting nesting') members members')
    (hiff : ∀ member member', RestatedMember nesting nesting' member member' →
      (P member ↔ Q member')) :
    (∀ member ∈ members, P member) ↔ ∀ member' ∈ members', Q member' := by
  induction h with
  | nil => exact iff_of_true (List.forall_mem_nil P) (List.forall_mem_nil Q)
  | cons hhead _ ih => rw [List.forall_mem_cons, List.forall_mem_cons, hiff _ _ hhead, ih]

theorem lookup_of_forall₂ (h : List.Forall₂ (RestatedMember nesting nesting') members members')
    (name : Option String) :
    Option.Rel (Restated nesting nesting') (members.lookup name) (members'.lookup name) := by
  induction h with
  | nil => exact .none
  | @cons member member' _ _ hhead _ ih =>
      obtain ⟨own, document⟩ := member
      obtain ⟨own', document'⟩ := member'
      obtain ⟨⟨_, rfl, rfl⟩, hvalue⟩ := hhead
      rw [List.lookup_cons, List.lookup_cons]
      split
      · exact .some hvalue
      · exact ih

end SameOrder

namespace RestatedMembers

variable {nesting nesting' : Nat} {members members' : List (Option String × Document)}

theorem exists_perm (h : RestatedMembers nesting nesting' members members') :
    ∃ ordered, List.Forall₂ (RestatedMember nesting nesting') ordered members' ∧
      ordered.Perm members := by
  obtain ⟨ordered, hordered, horder⟩ := h
  refine ⟨ordered, hordered, ?_⟩
  obtain rfl | ⟨hperm, _⟩ := horder
  · exact List.Perm.refl ordered
  · exact hperm

/-- The same names are there, each as often. -/
theorem names_perm (h : RestatedMembers nesting nesting' members members') :
    (members.map (·.1)).Perm (members'.map (·.1)) := by
  obtain ⟨ordered, hordered, hperm⟩ := h.exists_perm
  rw [← names_eq_of_forall₂ hordered]
  exact hperm.symm.map _

/-- What holds of every member holds of every member that restates one. -/
theorem forall_iff {P Q : Option String × Document → Prop}
    (h : RestatedMembers nesting nesting' members members')
    (hiff : ∀ member member', RestatedMember nesting nesting' member member' →
      (P member ↔ Q member')) :
    (∀ member ∈ members, P member) ↔ ∀ member' ∈ members', Q member' := by
  obtain ⟨ordered, hordered, hperm⟩ := h.exists_perm
  simp only [← forall_iff_of_forall₂ hordered hiff, hperm.mem_iff]

theorem reverse (h : RestatedMembers nesting nesting' members members') :
    RestatedMembers nesting nesting' members.reverse members'.reverse := by
  obtain ⟨ordered, hordered, horder⟩ := h
  refine ⟨ordered.reverse, List.forall₂_reverse_iff.mpr hordered, ?_⟩
  obtain rfl | ⟨hperm, hnodup⟩ := horder
  · exact .inl rfl
  · rw [List.map_reverse, List.nodup_reverse]
    exact .inr ⟨(ordered.reverse_perm.trans hperm).trans members.reverse_perm.symm, hnodup⟩

/-- What stands under a name is restated by what stands under it there. -/
theorem lookup (h : RestatedMembers nesting nesting' members members') (name : Option String) :
    Option.Rel (Restated nesting nesting') (members.lookup name) (members'.lookup name) := by
  obtain ⟨ordered, hordered, horder⟩ := h
  have hfound := lookup_of_forall₂ hordered name
  obtain rfl | ⟨hperm, hnodup⟩ := horder
  · exact hfound
  · rwa [lookup_eq_of_perm hperm hnodup] at hfound

end RestatedMembers

end FeatureFlags.Json
