import FeatureFlags.Context
import FeatureFlags.Json.Decode

/-!
The written form of a context. Only the key has to be there. What is unset or
empty is not written, except for the mark of an anonymous context.
-/

namespace FeatureFlags

open Json (Decoder Fields)

/-- An attribute is read as a value first, so repeated names and numbers out of
range count also where the attribute would not need them. -/
def Attribute.decoder : Decoder Attribute := fun nesting document =>
  (document.toJson? nesting).bind Attribute.ofJson?

namespace Context

def members : List String :=
  ["key", "name", "email", "ip", "country", "anonymous", "groups", "custom"]

def decoder : Decoder Context := fun nesting document => do
  let fields ← Fields.ofDocument? members nesting document
  return {
    key := ← fields.required "key" .string
    name := ← fields.optional "name" .string
    email := ← fields.optional "email" .string
    ip := ← fields.optional "ip" .string
    country := ← fields.optional "country" .string
    anonymous := ← fields.withDefault "anonymous" .boolean false
    groups := ← fields.withDefault "groups" (.list .string) []
    custom := ← fields.withDefault "custom" (.table Attribute.decoder) Table.empty }

/-- A member that is written only when there is a text for it. -/
def textMember (name : String) (text : Option String) : List (String × Json) :=
  text.toList.map fun s => (name, .string s)

def toJson (context : Context) : Json :=
  .ofMembers <|
    [("key", .string context.key)] ++ textMember "name" context.name ++
      textMember "email" context.email ++ textMember "ip" context.ip ++
      textMember "country" context.country ++
      [("anonymous", .boolean context.anonymous)] ++
      (if context.groups.isEmpty then []
        else [("groups", .array (context.groups.map .string))]) ++
      (if context.custom.isEmpty then []
        else [("custom", .object (context.custom.map fun _ value => value.toJson).entries)])

end Context

end FeatureFlags
