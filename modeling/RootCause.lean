import RootCause.Main
import RootCause.Proofs.Breakdown.Depth
import RootCause.Proofs.Breakdown.Preorder
import RootCause.Proofs.Breakdown.Published
import RootCause.Proofs.Breakdown.Queries
import RootCause.Proofs.Context.Gathering
import RootCause.Proofs.Context.Merge
import RootCause.Proofs.Evidence
import RootCause.Proofs.Insight.Selection
import RootCause.Proofs.Insight.Tokens
import RootCause.Proofs.Json.Normal
import RootCause.Proofs.Json.Record
import RootCause.Proofs.Run.Composite
import RootCause.Proofs.Run.ControlGraph
import RootCause.Proofs.Run.Course
import RootCause.Proofs.Run.Dimensions
import RootCause.Proofs.Run.Execution
import RootCause.Proofs.Run.Grouping
import RootCause.Proofs.Run.Growth
import RootCause.Proofs.Run.Handoff
import RootCause.Proofs.Run.Records
import RootCause.Proofs.Run.Resolution
import RootCause.Proofs.Run.Subject
import RootCause.Proofs.Step.Asking
import RootCause.Proofs.Step.Branch
import RootCause.Proofs.Step.Composite
import RootCause.Proofs.Step.Gathering
import RootCause.Proofs.Time.Digits
import RootCause.Proofs.Time.Written
import RootCause.Proofs.Workflow.Codec
import RootCause.Proofs.Workflow.Document
import RootCause.Proofs.Workflow.Validation
import RootCause.Proofs.Context.Codec
import RootCause.Proofs.Source.Tenant
import RootCause.Proofs.Time.Day
import RootCause.Proofs.Time.Moment
import RootCause.Proofs.Source.Sums
import RootCause.Proofs.Source.Totals
import RootCause.Proofs.Source.Traffic
import RootCause.Proofs.Source.Parts
import RootCause.Proofs.Breakdown.Siblings
import RootCause.Proofs.Breakdown.Budget
import RootCause.Proofs.Breakdown.RowOrder
import RootCause.Proofs.Run.Reachability
import RootCause.Proofs.Insight.Ranked
import RootCause.Proofs.Insight.Grammar
import RootCause.Proofs.Insight.Overriding
import RootCause.Proofs.Insight.Agreement
import RootCause.Proofs.Source.Fixture
import RootCause.Proofs.Source.Titles
import RootCause.Proofs.Step.Route
import RootCause.Proofs.Step.Equality
import RootCause.Proofs.Source.Filters
import RootCause.Proofs.Time.Spelling
import RootCause.Proofs.Breakdown.Shares
import RootCause.Proofs.Insight.Confidence
import RootCause.Proofs.Breakdown.Slots
import RootCause.Proofs.Score.Arrangement
