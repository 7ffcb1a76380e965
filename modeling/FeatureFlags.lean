import FeatureFlags.Table
import FeatureFlags.Numeric.Decimal
import FeatureFlags.Json.Value
import FeatureFlags.Json.Numeral
import FeatureFlags.Json.Token
import FeatureFlags.Json.Document
import FeatureFlags.Json.Render
import FeatureFlags.Json.Decode
import FeatureFlags.Hash.Fnv
import FeatureFlags.Hash.Md5
import FeatureFlags.Bucket
import FeatureFlags.Context.Document
import FeatureFlags.Version
import FeatureFlags.Flag.Document
import FeatureFlags.Rule
import FeatureFlags.Store
import FeatureFlags.Store.Shared
import FeatureFlags.Client
import FeatureFlags.Client.Setting
import FeatureFlags.Session
import FeatureFlags.Json.Written
import FeatureFlags.Unicode.CaseFold
import FeatureFlags.Unicode.Named
import FeatureFlags.Proofs.Prerequisite.Enforcement
import FeatureFlags.Proofs.Prerequisite.Course
import FeatureFlags.Proofs.Store
import FeatureFlags.Proofs.Client.AllFlags
import FeatureFlags.Proofs.Prerequisite.Cycle
import FeatureFlags.Proofs.Prerequisite.Locality
import FeatureFlags.Proofs.Prerequisite.Lookups
import FeatureFlags.Proofs.Prerequisite.Memory
import FeatureFlags.Proofs.Prerequisite.Height
import FeatureFlags.Proofs.Prerequisite.Depth
import FeatureFlags.Proofs.Context.Mentions
import FeatureFlags.Proofs.Evaluation.Consistency
import FeatureFlags.Proofs.Prerequisite.Order
import FeatureFlags.Proofs.Json.Canonical
import FeatureFlags.Proofs.Json.Decoders
import FeatureFlags.Proofs.Json.Restated
import FeatureFlags.Proofs.Json.ValueReaders
import FeatureFlags.Proofs.Json.Numeral
import FeatureFlags.Proofs.Json.RenderedToken
import FeatureFlags.Proofs.Json.Reread
import FeatureFlags.Proofs.Json.Floats
import FeatureFlags.Proofs.Json.Rendered
import FeatureFlags.Proofs.Flag.ValueReaders
import FeatureFlags.Proofs.Context.Document
import FeatureFlags.Proofs.Flag.Document
import FeatureFlags.Proofs.Flag.Floats
import FeatureFlags.Proofs.RoundTrip
import FeatureFlags.Proofs.FlagSet.Listed
import FeatureFlags.Proofs.FlagSet.Isolation
import FeatureFlags.Proofs.FlagSet.Reload
import FeatureFlags.Proofs.Client.Overrides
import FeatureFlags.Proofs.Session
import FeatureFlags.Proofs.Store.Shared
import FeatureFlags.Proofs.Prerequisite.Lasso
import FeatureFlags.Proofs.Prerequisite.Reuse
import FeatureFlags.Proofs.Prerequisite.Alike
import FeatureFlags.Proofs.Evaluation.FirstEligible
import FeatureFlags.Proofs.Rule.Percentage
import FeatureFlags.Proofs.Evaluation.Ramp
import FeatureFlags.Proofs.Rule.Shares
import FeatureFlags.Proofs.Rule.Matching
import FeatureFlags.Proofs.Numeric.Whole
import FeatureFlags.Proofs.Numeric.Rounding
import FeatureFlags.Proofs.Rule.Integers
import FeatureFlags.Proofs.Flag.Integers
import FeatureFlags.Proofs.Prerequisite.Calls
import FeatureFlags.Proofs.Prerequisite.Missing
import FeatureFlags.Proofs.Hash.Fnv
import FeatureFlags.Proofs.Version.Text
import FeatureFlags.Proofs.Version.Order
import FeatureFlags.Proofs.Rule.Versions
import FeatureFlags.Proofs.Prerequisite.Stack
import FeatureFlags.Proofs.Json.Rearranged
import FeatureFlags.Proofs.Flag.Rearranged
import FeatureFlags.Proofs.FlagSet.Rearranged
