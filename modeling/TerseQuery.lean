import TerseQuery.Main
import TerseQuery.Result.Json
import TerseQuery.Proofs.Query.Placement
import TerseQuery.Proofs.Failure
import TerseQuery.Proofs.Query.Deduction
import TerseQuery.Proofs.Query.Interleaving
import TerseQuery.Proofs.Sql.Reading
import TerseQuery.Proofs.Sql.Predicates
import TerseQuery.Proofs.Sql.Splitting
import TerseQuery.Proofs.Text.Numeral
import TerseQuery.Proofs.Sql.Literals
import TerseQuery.Proofs.Sql.Conditions
import TerseQuery.Proofs.Sql.Filters
import TerseQuery.Proofs.Sql.Operators
import TerseQuery.Proofs.Sql.Grammar
import TerseQuery.Proofs.Sql.Truth
import TerseQuery.Proofs.Sql.Evaluation
import TerseQuery.Proofs.Sql.Complement
import TerseQuery.Proofs.Options.Effective
import TerseQuery.Proofs.Terse.Spelling
import TerseQuery.Proofs.Terse.Items
import TerseQuery.Proofs.Terse.Completeness
import TerseQuery.Proofs.Options.Groups
import TerseQuery.Proofs.Options.Modes
import TerseQuery.Proofs.Options.Tokens
import TerseQuery.Proofs.StableSort
import TerseQuery.Proofs.Query.Printing
import TerseQuery.Proofs.Query.LiteralSql
import TerseQuery.Proofs.Result.Blocks
import TerseQuery.Proofs.Result.Packing
import TerseQuery.Proofs.Result.Planning
import TerseQuery.Proofs.Result.Greedy
import TerseQuery.Proofs.Result.Projection
import TerseQuery.Proofs.Text.Cut
import TerseQuery.Proofs.Text.Width
import TerseQuery.Proofs.Result.Fit
import TerseQuery.Proofs.Result.Alignment
import TerseQuery.Proofs.Session.Invariants
import TerseQuery.Proofs.Json.RoundTrip
import TerseQuery.Proofs.Json.Ordering
import TerseQuery.Proofs.Json.Overlay
import TerseQuery.Proofs.Json.Paths
import TerseQuery.Proofs.Settings.Files
import TerseQuery.Proofs.Settings.ConnectionStrings
import TerseQuery.Proofs.Settings.Layers
import TerseQuery.Proofs.Session.Registry
import TerseQuery.Proofs.Session.Failing
import TerseQuery.Proofs.Session.Saving
import TerseQuery.Proofs.Session.Execution
import TerseQuery.Proofs.Session.SideBySide
import TerseQuery.Proofs.Session.OptionSetting
import TerseQuery.Proofs.Session.Credentials
import TerseQuery.Proofs.Session.Connection
import TerseQuery.Proofs.Options.Difference
import TerseQuery.Proofs.Query.Passwords
import TerseQuery.Proofs.Engine.Uses
import TerseQuery.Proofs.Session.Erasure
import TerseQuery.Proofs.Session.Output
import TerseQuery.Proofs.Session.Secrecy
import TerseQuery.Proofs.Session.DisplayMode
import TerseQuery.Proofs.Checked.Access
import TerseQuery.Proofs.Checked.Dispatch
