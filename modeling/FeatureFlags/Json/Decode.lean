import FeatureFlags.Json.Document

/-!
Taking documents apart. A decoder gets the number of containers it may still
enter and a document, and answers with a value or with nothing.

A record is written as an object or, shorter, as an array of its members in
their declared order. In an object every declared member may occur once, and
members with other names are passed over without a look at their values. In an
array members may be missing at the end only, and there may be no others.
-/

namespace FeatureFlags.Json

variable {α : Type}

/-- A decoder, given how many containers inside one another it may enter. -/
abbrev Decoder (α : Type) := Nat → Document → Option α

namespace Decoder

def string : Decoder String
  | _, .string text => text
  | _, _ => none

def boolean : Decoder Bool
  | _, .boolean b => some b
  | _, _ => none

/-- An integer of 64 bits without a sign. Numbers written with a fraction or an
exponent are no integers. -/
def word64 : Decoder UInt64
  | _, .integer n => n.toUInt64?
  | _, _ => none

/-- An integer of 32 bits without a sign. -/
def word32 : Decoder UInt32 := fun nesting document =>
  (word64 nesting document).bind fun n =>
    if n.toNat < UInt32.size then some n.toUInt32 else none

/-- The value as such. -/
def json : Decoder Json := fun nesting document => document.toJson? nesting

/-- `null` for an absent value. -/
def optional (decoder : Decoder α) : Decoder (Option α)
  | _, .null => some none
  | nesting, document => (decoder nesting document).map some

def list (item : Decoder α) : Decoder (List α)
  | nesting + 1, .array items => items.mapM (item nesting)
  | _, _ => none

/-- An object with members of any name; the last value given for a name
wins. -/
def table (value : Decoder α) : Decoder (Table α)
  | nesting + 1, .object members => do
      let entries ← members.mapM fun (name, document) => do
        let name ← name
        let value ← value nesting document
        return (name, value)
      return Table.ofList entries
  | _, _ => none

/-- One of a fixed set of names, as a string or as an object that has it for its
only member, of value `null`. -/
def choice (meaning? : String → Option α) : Decoder α
  | _, .string text => text.bind meaning?
  | _ + 1, .object [(name, .null)] => name.bind meaning?
  | _, _ => none

end Decoder

/-- The members of a record that are there, each under its declared name. -/
structure Fields where
  /-- Whether the record is an array. -/
  positional : Bool
  nesting : Nat
  members : List (String × Document)

namespace Fields

/-- The members of an object that a record declares, none of them twice. -/
def ofMembers (names : List String) :
    List (Option String × Document) → Option (List (String × Document))
  | [] => some []
  | (name, value) :: rest => do
      let name ← name
      let members ← ofMembers names rest
      if names.contains name then
        if members.any (·.1 == name) then none
        else return (name, value) :: members
      else return members

/-- The fields of a record with these members. -/
def ofDocument? (names : List String) : Decoder Fields
  | nesting + 1, .array items =>
      if items.length ≤ names.length then some ⟨true, nesting, names.zip items⟩ else none
  | nesting + 1, .object members =>
      (ofMembers names members).map fun members => ⟨false, nesting, members⟩
  | _, _ => none

def find? (fields : Fields) (name : String) : Option Document :=
  fields.members.lookup name

/-- A member that has to be there. -/
def required (fields : Fields) (name : String) (decoder : Decoder α) : Option α :=
  (fields.find? name).bind (decoder fields.nesting)

/-- A member that may be left out. -/
def withDefault (fields : Fields) (name : String) (decoder : Decoder α) (default : α) :
    Option α :=
  match fields.find? name with
  | some document => decoder fields.nesting document
  | none => some default

/-- A member that may be `null` or left out. -/
def optional (fields : Fields) (name : String) (decoder : Decoder α) : Option (Option α) :=
  fields.withDefault name (Decoder.optional decoder) none

/-- A member that may be `null`, and left out of an object but not of an
array. -/
def optionalByName (fields : Fields) (name : String) (decoder : Decoder α) :
    Option (Option α) :=
  if fields.positional then fields.required name (Decoder.optional decoder)
  else fields.optional name decoder

end Fields

/-- How many containers a document may nest. -/
def maxNesting : Nat := 127

/-- Reads a document from its bytes. -/
def Decoder.run (decoder : Decoder α) (text : List UInt8) : Option α :=
  (Document.parse? text).bind (decoder maxNesting)

end FeatureFlags.Json
