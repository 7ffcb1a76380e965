import FeatureFlags.Attribute

/-!
Evaluation contexts. A context has built-in attributes and custom ones, and
everything that looks at a context does so through `resolve`. The names of the
built-in attributes are taken: a custom attribute of such a name is never
found, and a built-in one that is unset or empty is absent.
-/

namespace FeatureFlags

/-- What is known of the user, request or device a flag is evaluated for. -/
structure Context where
  key : String
  name : Option String := none
  email : Option String := none
  ip : Option String := none
  country : Option String := none
  anonymous : Bool := false
  groups : List String := []
  custom : Table Attribute := Table.empty

namespace Context

/-- A built-in text, absent when it is empty. -/
def nonEmpty (text : Option String) : Option Attribute :=
  (text.filter fun s => !s.isEmpty).map .string

/-- The attribute of a name. Names are case sensitive. -/
def resolve (context : Context) (name : String) : Option Attribute :=
  match name with
  | "key" => nonEmpty (some context.key)
  | "name" => nonEmpty context.name
  | "email" => nonEmpty context.email
  | "ip" => nonEmpty context.ip
  | "country" => nonEmpty context.country
  | "anonymous" => some (.bool context.anonymous)
  | "groups" => if context.groups.isEmpty then none else some (.list context.groups)
  | name => context.custom.get? name

/-- Appends group memberships. -/
def addGroups (context : Context) (groups : List String) : Context :=
  { context with groups := context.groups ++ groups }

/-- Sets a custom attribute, replacing the one of that name. -/
def setCustom (context : Context) (name : String) (value : Attribute) : Context :=
  { context with custom := context.custom.insert name value }

/-- Equality member by member. -/
def same (left right : Context) : Bool :=
  left.key == right.key && left.name == right.name && left.email == right.email &&
    left.ip == right.ip && left.country == right.country &&
    left.anonymous == right.anonymous && left.groups == right.groups &&
    left.custom.keys == right.custom.keys &&
    (left.custom.entries.zip right.custom.entries).all fun (x, y) => x.2.same y.2

end Context

end FeatureFlags
