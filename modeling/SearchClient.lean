import SearchClient.Client
import SearchClient.Engine.Script
import SearchClient.Entity.Table
import SearchClient.Failure.Named
import SearchClient.Log.Setup
import SearchClient.Statement.Given
import SearchClient.Tracing
import SearchClient.Proofs.Statement.FullText
import SearchClient.Proofs.Connection
import SearchClient.Proofs.Query.Execution
import SearchClient.Proofs.Query.Mutation
import SearchClient.Proofs.Query.Reachable
import SearchClient.Proofs.Statement.Literals
import SearchClient.Proofs.Query.Coherence
import SearchClient.Proofs.Query.Trace
import SearchClient.Proofs.Session.Trace
import SearchClient.Proofs.Query.Refusal
import SearchClient.Proofs.Query.Reordering
import SearchClient.Proofs.Engine.Driver
import SearchClient.Proofs.Statement.Compile
import SearchClient.Proofs.Query.Driver
import SearchClient.Proofs.Query.Determined
import SearchClient.Proofs.Session.Isolation
import SearchClient.Proofs.Query.Entities
import SearchClient.Proofs.Query.RowCount
import SearchClient.Proofs.Query.Statistics
import SearchClient.Proofs.Session.Aliases
import SearchClient.Proofs.Query.Comparisons
import SearchClient.Proofs.Query.Statement
import SearchClient.Proofs.Statement.Result
import SearchClient.Proofs.Query.Followup
import SearchClient.Proofs.Backoff
import SearchClient.Proofs.Manager.Opening
import SearchClient.Proofs.Manager.Lifecycle
import SearchClient.Proofs.Hydration
import SearchClient.Proofs.Query.FullText
import SearchClient.Proofs.Query.Throttle
import SearchClient.Proofs.Statement.Legible
import SearchClient.Proofs.Backoff.Outcome
import SearchClient.Proofs.Backoff.Waits
import SearchClient.Proofs.Hydration.Failures
import SearchClient.Proofs.Query.Reports
import SearchClient.Proofs.Query.Readings
import SearchClient.Proofs.Session.Readings
import SearchClient.Proofs.Hydration.Identifiers
import SearchClient.Proofs.Settings.Reload
import SearchClient.Proofs.Log.Scope
import SearchClient.Proofs.Log.Line
import SearchClient.Proofs.Statement.Parentheses
import SearchClient.Proofs.Query.Reading
import SearchClient.Proofs.Query.Mistakes
import SearchClient.Proofs.Record.Lenient
import SearchClient.Proofs.Settings.Environment
import SearchClient.Proofs.Settings.Describe
