import FeatureFlags.Json.Written
import FeatureFlags.Proofs.Table

/-!
Values that are read. The members of an object stand in order in every value
that is built, and such a value reads back from its document whenever the
reader may enter as many containers as the value nests. Whatever is read from a
document is of this kind, and nests no deeper than the reader may go.
-/

namespace FeatureFlags.Json

/-- Every object in the value has its members in ascending order, so that none
is there twice. -/
inductive Canonical : Json → Prop where
  | null : Canonical .null
  | boolean (b : Bool) : Canonical (.boolean b)
  | integer (n : Integer) : Canonical (.integer n)
  | float (x : Binary64.Finite) : Canonical (.float x)
  | string (s : String) : Canonical (.string s)
  | array {items : List Json} (hitems : ∀ item ∈ items, Canonical item) : Canonical (.array items)
  | object {members : List (String × Json)} (hascending : Ascending members)
      (hmembers : ∀ member ∈ members, Canonical member.2) : Canonical (.object members)

mutual

/-- How many containers are inside one another. -/
def depth : Json → Nat
  | .array items => itemsDepth items + 1
  | .object members => membersDepth members + 1
  | _ => 0

def itemsDepth : List Json → Nat
  | [] => 0
  | item :: rest => max (depth item) (itemsDepth rest)

def membersDepth : List (String × Json) → Nat
  | [] => 0
  | (_, value) :: rest => max (depth value) (membersDepth rest)

end

theorem itemsDepth_le_iff {items : List Json} {bound : Nat} :
    itemsDepth items ≤ bound ↔ ∀ item ∈ items, item.depth ≤ bound := by
  induction items with
  | nil => simp [itemsDepth]
  | cons item rest ih => rw [itemsDepth, Nat.max_le, ih, List.forall_mem_cons]

theorem membersDepth_le_iff {members : List (String × Json)} {bound : Nat} :
    membersDepth members ≤ bound ↔ ∀ member ∈ members, member.2.depth ≤ bound := by
  induction members with
  | nil => simp [membersDepth]
  | cons member rest ih => rw [membersDepth, Nat.max_le, ih, List.forall_mem_cons]

theorem depth_array_le_iff {items : List Json} {bound : Nat} :
    (Json.array items).depth ≤ bound + 1 ↔ ∀ item ∈ items, item.depth ≤ bound := by
  rw [depth, Nat.succ_le_succ_iff, itemsDepth_le_iff]

theorem depth_object_le_iff {members : List (String × Json)} {bound : Nat} :
    (Json.object members).depth ≤ bound + 1 ↔ ∀ member ∈ members, member.2.depth ≤ bound := by
  rw [depth, Nat.succ_le_succ_iff, membersDepth_le_iff]

theorem depth_array_map_le {α : Type} {toJson : α → Json} {values : List α} {bound : Nat}
    (h : ∀ value ∈ values, (toJson value).depth ≤ bound) :
    (Json.array (values.map toJson)).depth ≤ bound + 1 :=
  depth_array_le_iff.mpr (List.forall_mem_map.mpr h)

/-- A reader that may go as deep as an array may enter it, and then go as deep
as each of its items. -/
theorem enters_array {items : List Json} {nesting : Nat}
    (hdepth : (Json.array items).depth ≤ nesting) :
    ∃ inner, nesting = inner + 1 ∧ ∀ item ∈ items, item.depth ≤ inner := by
  cases nesting with
  | zero => cases hdepth
  | succ inner => exact ⟨inner, rfl, depth_array_le_iff.mp hdepth⟩

theorem enters_object {members : List (String × Json)} {nesting : Nat}
    (hdepth : (Json.object members).depth ≤ nesting) :
    ∃ inner, nesting = inner + 1 ∧ ∀ member ∈ members, member.2.depth ≤ inner := by
  cases nesting with
  | zero => cases hdepth
  | succ inner => exact ⟨inner, rfl, depth_object_le_iff.mp hdepth⟩

theorem depth_ofOption_le {α : Type} {toJson : α → Json} {value : Option α} {bound : Nat}
    (h : ∀ a, (toJson a).depth ≤ bound) : (ofOption (value.map toJson)).depth ≤ bound := by
  cases value with
  | none => exact Nat.zero_le bound
  | some a => exact h a

theorem ofMembers_of_ascending {members : List (String × Json)} (h : Ascending members) :
    ofMembers members = .object members :=
  congrArg (fun table : Table Json => Json.object table.entries) (Table.ofList_entries ⟨members, h⟩)

section Written

open Document (itemsToJson? membersToJson?)

mutual

/-- The document of a value reads back as the value. Each container takes one
from the reader's limit and one from the depth. -/
theorem toJson?_toDocument : ∀ (value : Json) (nesting : Nat), value.Canonical →
    value.depth ≤ nesting → value.toDocument.toJson? nesting = some value
  | .null, _, _, _ => by simp only [toDocument, Document.toJson?]
  | .boolean _, _, _, _ => by simp only [toDocument, Document.toJson?]
  | .string _, _, _, _ => by simp only [toDocument, Document.toJson?, Option.map_some]
  | .integer _, _, _, _ => by simp only [toDocument, Document.toJson?]
  | .float _, _, _, _ => by simp only [toDocument, Document.toJson?, Option.map_some]
  | .array items, _, .array hitems, hdepth => by
      obtain ⟨nesting, rfl, hinner⟩ := enters_array hdepth
      have hread := itemsToJson?_itemsToDocument items nesting hitems hinner
      simp only [toDocument, Document.toJson?, hread, Option.map_some]
  | .object members, _, .object hascending hmembers, hdepth => by
      obtain ⟨nesting, rfl, hinner⟩ := enters_object hdepth
      have hread := membersToJson?_membersToDocument members nesting hmembers hinner
      simp only [toDocument, Document.toJson?, hread, Option.map_some,
        ofMembers_of_ascending hascending]

theorem itemsToJson?_itemsToDocument : ∀ (items : List Json) (nesting : Nat),
    (∀ item ∈ items, item.Canonical) → (∀ item ∈ items, item.depth ≤ nesting) →
      itemsToJson? nesting (itemsToDocument items) = some items
  | [], _, _, _ => by simp only [itemsToDocument, itemsToJson?]
  | item :: rest, nesting, hcanonical, hdepth => by
      obtain ⟨hitem, hrest⟩ := List.forall_mem_cons.mp hcanonical
      obtain ⟨hitemDepth, hrestDepth⟩ := List.forall_mem_cons.mp hdepth
      have hitemRead := toJson?_toDocument item nesting hitem hitemDepth
      have hrestRead := itemsToJson?_itemsToDocument rest nesting hrest hrestDepth
      simp only [itemsToDocument, itemsToJson?, hitemRead, hrestRead]
      rfl

theorem membersToJson?_membersToDocument : ∀ (members : List (String × Json)) (nesting : Nat),
    (∀ member ∈ members, member.2.Canonical) → (∀ member ∈ members, member.2.depth ≤ nesting) →
      membersToJson? nesting (membersToDocument members) = some members
  | [], _, _, _ => by simp only [membersToDocument, membersToJson?]
  | (name, value) :: rest, nesting, hcanonical, hdepth => by
      obtain ⟨hvalue, hrest⟩ := List.forall_mem_cons.mp hcanonical
      obtain ⟨hvalueDepth, hrestDepth⟩ := List.forall_mem_cons.mp hdepth
      have hvalueRead := toJson?_toDocument value nesting hvalue hvalueDepth
      have hrestRead := membersToJson?_membersToDocument rest nesting hrest hrestDepth
      simp only [membersToDocument, membersToJson?, hvalueRead, hrestRead]
      rfl

end

end Written

section Read

open Document (itemsToJson? membersToJson?)

theorem depth_ofMembers_le {members : List (String × Json)} {bound : Nat}
    (hmembers : ∀ member ∈ members, member.2.depth ≤ bound) :
    (ofMembers members).depth ≤ bound + 1 :=
  depth_object_le_iff.mpr fun member hmem => hmembers member (Table.mem_of_mem_ofList hmem)

theorem canonical_ofMembers {members : List (String × Json)}
    (hmembers : ∀ member ∈ members, member.2.Canonical) : (ofMembers members).Canonical :=
  .object (Table.ofList members).ascending fun member hmem =>
    hmembers member (Table.mem_of_mem_ofList hmem)

theorem canonical_ofOption {α : Type} {toJson : α → Json} {value : Option α}
    (h : ∀ a, (toJson a).Canonical) : (ofOption (value.map toJson)).Canonical := by
  cases value with
  | none => exact .null
  | some a => exact h a

mutual

/-- What is read is canonical, and nests no deeper than the reader may go. -/
theorem canonical_of_toJson? : ∀ (document : Document) (nesting : Nat) {value : Json},
    document.toJson? nesting = some value → value.Canonical ∧ value.depth ≤ nesting
  | .null, _, _, hread => by
      cases hread
      exact ⟨.null, Nat.zero_le _⟩
  | .boolean b, _, _, hread => by
      cases hread
      exact ⟨.boolean b, Nat.zero_le _⟩
  | .integer n, _, _, hread => by
      cases hread
      exact ⟨.integer n, Nat.zero_le _⟩
  | .float number, _, _, hread => by
      obtain ⟨x, _, rfl⟩ := Option.map_eq_some_iff.mp hread
      exact ⟨.float x, Nat.zero_le _⟩
  | .string text, _, _, hread => by
      obtain ⟨s, _, rfl⟩ := Option.map_eq_some_iff.mp hread
      exact ⟨.string s, Nat.zero_le _⟩
  | .array items, nesting + 1, _, hread => by
      obtain ⟨values, hvalues, rfl⟩ := Option.map_eq_some_iff.mp hread
      have hitems := canonical_of_itemsToJson? items nesting hvalues
      exact ⟨.array fun item hmem => (hitems item hmem).1,
        depth_array_le_iff.mpr fun item hmem => (hitems item hmem).2⟩
  | .object members, nesting + 1, _, hread => by
      obtain ⟨values, hvalues, rfl⟩ := Option.map_eq_some_iff.mp hread
      have hmembers := canonical_of_membersToJson? members nesting hvalues
      exact ⟨canonical_ofMembers fun member hmem => (hmembers member hmem).1,
        depth_ofMembers_le fun member hmem => (hmembers member hmem).2⟩

theorem canonical_of_itemsToJson? : ∀ (items : List Document) (nesting : Nat) {values : List Json},
    itemsToJson? nesting items = some values →
      ∀ value ∈ values, value.Canonical ∧ value.depth ≤ nesting
  | [], _, _, hread => by
      cases hread
      exact List.forall_mem_nil _
  | item :: rest, nesting, _, hread => by
      obtain ⟨value, hvalue, hread⟩ := Option.bind_eq_some_iff.mp hread
      obtain ⟨values, hvalues, hread⟩ := Option.bind_eq_some_iff.mp hread
      cases hread
      exact List.forall_mem_cons.mpr ⟨canonical_of_toJson? item nesting hvalue,
        canonical_of_itemsToJson? rest nesting hvalues⟩

theorem canonical_of_membersToJson? : ∀ (members : List (Option String × Document)) (nesting : Nat)
    {values : List (String × Json)}, membersToJson? nesting members = some values →
      ∀ member ∈ values, member.2.Canonical ∧ member.2.depth ≤ nesting
  | [], _, _, hread => by
      cases hread
      exact List.forall_mem_nil _
  | (name, document) :: rest, nesting, _, hread => by
      obtain ⟨name, _, hread⟩ := Option.bind_eq_some_iff.mp hread
      obtain ⟨value, hvalue, hread⟩ := Option.bind_eq_some_iff.mp hread
      obtain ⟨values, hvalues, hread⟩ := Option.bind_eq_some_iff.mp hread
      cases hread
      exact List.forall_mem_cons.mpr ⟨canonical_of_toJson? document nesting hvalue,
        canonical_of_membersToJson? rest nesting hvalues⟩

end

end Read

end FeatureFlags.Json
