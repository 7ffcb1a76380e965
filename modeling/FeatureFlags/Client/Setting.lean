import FeatureFlags.Client

/-!
The making of clients. A client is made by settings, one after the other. The
last setting of a kind counts, but overrides add up, and of those for one key
the last counts.
-/

namespace FeatureFlags

inductive Client.Setting where
  | store (store : Store)
  | override (key : String) (value : FlagValue)
  | overrides (entries : List (String × FlagValue))
  | bucketer (bucketer : Bucketer)
  | maxDepth (maxDepth : UInt64)

namespace Client

def configure (client : Client) : Setting → Client
  | .store store => { client with store := some store }
  | .override key value => client.withOverride key value
  | .overrides entries => client.withOverrides entries
  | .bucketer bucketer => { client with bucketer }
  | .maxDepth maxDepth => { client with maxDepth }

/-- The client that settings make, given in their order. -/
def ofSettings (settings : List Setting) : Client :=
  settings.foldl configure {}

end Client

end FeatureFlags
