import FeatureFlags.Json.Token
import FeatureFlags.Json.Value

/-!
JSON documents as they are written: member order and repeated members are kept,
and so are parts that have no value, such as a string that spells no text or a
number beyond every range. `Document.toJson?` gives the value of a document if
every part of it has one.

A document is built from its tokens with the containers that are still open
held in a list, so nesting costs no recursion and knows no limit here. A
reader that takes values apart allows a limited number of nested containers.
-/

namespace FeatureFlags.Json

/-- A written value. The text of a string or a name is absent where its pieces
spell none, and the number of a float where it is out of range. -/
inductive Document where
  | null
  | boolean (b : Bool)
  | integer (n : Integer)
  | float (x : Option Binary64.Finite)
  | string (text : Option String)
  | array (items : List Document)
  | object (members : List (Option String × Document))

namespace Document

/-- A number, which is an integer if it is written as one that fits. -/
def ofNumeral (n : Numeral) : Document :=
  match n.integer? with
  | some i => .integer i
  | none => .float n.float?

/-- A container that is still open, with what it holds so far in reverse. An
object's frame also has the name of the member being read. -/
inductive Frame where
  | array (done : List Document)
  | object (done : List (Option String × Document)) (name : Option String)

/-- What may come next. -/
inductive Expected where
  /-- A value. -/
  | value
  /-- A value, or the end of the array just opened. -/
  | itemOrEnd
  /-- A member's name. -/
  | name (done : List (Option String × Document))
  /-- A member's name, or the end of the object just opened. -/
  | nameOrEnd
  /-- The colon between a name and its value. -/
  | colon
  /-- A comma or the end of the innermost container. -/
  | separator

/-- Where the reading of a document stands. -/
inductive Progress where
  | reading (frames : List Frame) (expected : Expected)
  | finished (document : Document)

/-- Hands a complete value to the innermost open container. -/
def complete (value : Document) : List Frame → Progress
  | [] => .finished value
  | .array done :: frames => .reading (.array (value :: done) :: frames) .separator
  | .object done name :: frames =>
      .reading (.object ((name, value) :: done) none :: frames) .separator

/-- Begins a value with its first token. -/
def beginValue (frames : List Frame) : Token → Option Progress
  | .null => some (complete .null frames)
  | .boolean b => some (complete (.boolean b) frames)
  | .number n => some (complete (ofNumeral n) frames)
  | .string pieces => some (complete (.string (spelled? pieces)) frames)
  | .openArray => some (.reading (.array [] :: frames) .itemOrEnd)
  | .openObject => some (.reading frames .nameOrEnd)
  | _ => none

/-- Begins a member with its name. -/
def beginMember (frames : List Frame) (done : List (Option String × Document)) :
    Token → Option Progress
  | .string pieces => some (.reading (.object done (spelled? pieces) :: frames) .colon)
  | _ => none

/-- Reads one token. -/
def Progress.step : Progress → Token → Option Progress
  | .finished _, _ => none
  | .reading frames .value, token => beginValue frames token
  | .reading (.array [] :: frames) .itemOrEnd, .closeArray => some (complete (.array []) frames)
  | .reading frames .itemOrEnd, token => beginValue frames token
  | .reading frames (.name done), token => beginMember frames done token
  | .reading frames .nameOrEnd, .closeObject => some (complete (.object []) frames)
  | .reading frames .nameOrEnd, token => beginMember frames [] token
  | .reading frames .colon, .colon => some (.reading frames .value)
  | .reading (.array done :: frames) .separator, .comma =>
      some (.reading (.array done :: frames) .value)
  | .reading (.array done :: frames) .separator, .closeArray =>
      some (complete (.array done.reverse) frames)
  | .reading (.object done _ :: frames) .separator, .comma => some (.reading frames (.name done))
  | .reading (.object done _ :: frames) .separator, .closeObject =>
      some (complete (.object done.reverse) frames)
  | .reading _ _, _ => none

/-- Reads tokens one after the other. -/
def Progress.run : Progress → List Token → Option Progress
  | progress, [] => some progress
  | progress, token :: rest => (progress.step token).bind fun progress => progress.run rest

/-- The document that tokens form, with nothing before or behind it. -/
def ofTokens? (tokens : List Token) : Option Document :=
  match Progress.run (.reading [] .value) tokens with
  | some (.finished document) => some document
  | _ => none

/-- Reads the bytes of a document. -/
def parse? (text : List UInt8) : Option Document :=
  (tokens? text).bind ofTokens?

end Document

namespace Document

mutual

/-- The value of a document, with at most `nesting` containers inside one
another. It is absent if the document nests deeper, if a string or a name in
it spells no text, or if a number is out of range. Of members with one name
the last counts. -/
def toJson? (nesting : Nat) : Document → Option Json
  | .null => some .null
  | .boolean b => some (.boolean b)
  | .integer n => some (.integer n)
  | .float x => x.map .float
  | .string text => text.map .string
  | .array items =>
      match nesting with
      | 0 => none
      | nesting + 1 => (itemsToJson? nesting items).map .array
  | .object members =>
      match nesting with
      | 0 => none
      | nesting + 1 => (membersToJson? nesting members).map ofMembers

def itemsToJson? (nesting : Nat) : List Document → Option (List Json)
  | [] => some []
  | item :: rest => do
      let value ← toJson? nesting item
      let values ← itemsToJson? nesting rest
      return value :: values

def membersToJson? (nesting : Nat) :
    List (Option String × Document) → Option (List (String × Json))
  | [] => some []
  | (name, value) :: rest => do
      let name ← name
      let value ← toJson? nesting value
      let values ← membersToJson? nesting rest
      return (name, value) :: values

end

end Document

end FeatureFlags.Json
