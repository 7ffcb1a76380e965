import FeatureFlags.Json.Document

/-!
The document of a value, with members in the order in which the value holds
them. Its numbers are those of the value: what becomes of a number in a text is
no matter of documents.
-/

namespace FeatureFlags.Json

mutual

def toDocument : Json → Document
  | .null => .null
  | .boolean b => .boolean b
  | .integer n => .integer n
  | .float x => .float (some x)
  | .string s => .string (some s)
  | .array items => .array (itemsToDocument items)
  | .object members => .object (membersToDocument members)

def itemsToDocument : List Json → List Document
  | [] => []
  | item :: rest => toDocument item :: itemsToDocument rest

def membersToDocument : List (String × Json) → List (Option String × Document)
  | [] => []
  | (name, value) :: rest => (some name, toDocument value) :: membersToDocument rest

end

end FeatureFlags.Json
