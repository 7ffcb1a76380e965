import FeatureFlags.Flag.Document

/-!
Flag sets: documents that hold flags under keys. A flag that cannot be read is
kept as the value that was written, so that one bad flag spoils no other and
nothing is lost when the set is written again.
-/

namespace FeatureFlags

open Json (Decoder Fields)

/-- What a flag set has under a key. -/
inductive FlagSet.Entry where
  | readable (flag : Flag)
  | unreadable (value : Json)

structure FlagSet where
  entries : Table FlagSet.Entry

namespace FlagSet

namespace Entry

/-- The value of an entry has to be well formed even if it is no flag. -/
def decoder : Decoder Entry := fun nesting document => do
  let value ← document.toJson? nesting
  match Flag.decoder nesting document with
  | some flag => return .readable flag
  | none => return .unreadable value

def flag? : Entry → Option Flag
  | .readable flag => some flag
  | .unreadable _ => none

def toJson : Entry → Json
  | .readable flag => flag.toJson
  | .unreadable value => value

end Entry

def members : List String := ["flags"]

def decoder : Decoder FlagSet := fun nesting document => do
  let fields ← Fields.ofDocument? members nesting document
  return { entries := ← fields.required "flags" (.table Entry.decoder) }

def toJson (set : FlagSet) : Json :=
  .ofMembers [("flags", .object (set.entries.map fun _ entry => entry.toJson).entries)]

/-- The flags that could be read, under the keys of the document. -/
def flags (set : FlagSet) : Table Flag :=
  set.entries.filterMap fun _ entry => entry.flag?

/-- The set of these flags, each under its own key; the last one given for a
key wins. -/
def ofFlags (flags : List Flag) : FlagSet :=
  ⟨Table.ofList (flags.map fun flag => (flag.key, .readable flag))⟩

end FlagSet

end FeatureFlags
