import ProcessStep.Decimal.Layout
import ProcessStep.Decimal.Reading
import ProcessStep.Decimal.Shortest
import ProcessStep.Definition.Basic
import ProcessStep.Definition.Decoder
import ProcessStep.Definition.Message
import ProcessStep.Definition.Reading
import ProcessStep.Definition.Writing
import ProcessStep.Environment
import ProcessStep.Execution.Basic
import ProcessStep.Execution.Completion
import ProcessStep.Execution.Form
import ProcessStep.Execution.Pending
import ProcessStep.Execution.Session
import ProcessStep.Execution.Snapshot
import ProcessStep.Execution.Suspension
import ProcessStep.Expression.Access
import ProcessStep.Expression.Arguments
import ProcessStep.Expression.Evaluation
import ProcessStep.Expression.Filter
import ProcessStep.Expression.Grammar
import ProcessStep.Expression.Operator
import ProcessStep.Expression.Order
import ProcessStep.Expression.Problem
import ProcessStep.Expression.Term
import ProcessStep.Expression.Test
import ProcessStep.Expression.Token
import ProcessStep.Expression.Value
import ProcessStep.Json.Basic
import ProcessStep.Json.Node
import ProcessStep.Json.Printer
import ProcessStep.Json.Reader
import ProcessStep.Main
import ProcessStep.Process.Basic
import ProcessStep.Process.Graph
import ProcessStep.Proofs.Choosing
import ProcessStep.Proofs.Coercing
import ProcessStep.Proofs.Collecting
import ProcessStep.Proofs.Converting
import ProcessStep.Proofs.Exchanging
import ProcessStep.Proofs.Flows
import ProcessStep.Proofs.Formats.Builders
import ProcessStep.Proofs.Formats.Definitions
import ProcessStep.Proofs.Formats.Messages
import ProcessStep.Proofs.Formats.Records
import ProcessStep.Proofs.Formats.RoundTrip
import ProcessStep.Proofs.Formats.Values
import ProcessStep.Proofs.Forms
import ProcessStep.Proofs.Forms.Defaults
import ProcessStep.Proofs.Forms.Editing
import ProcessStep.Proofs.Forms.Typing
import ProcessStep.Proofs.Forms.Values
import ProcessStep.Proofs.Graphs
import ProcessStep.Proofs.Inputs
import ProcessStep.Proofs.Linking
import ProcessStep.Proofs.Listing
import ProcessStep.Proofs.Merging
import ProcessStep.Proofs.Naming
import ProcessStep.Proofs.Numerals
import ProcessStep.Proofs.Operation
import ProcessStep.Proofs.Parts
import ProcessStep.Proofs.Paths
import ProcessStep.Proofs.Policies
import ProcessStep.Proofs.Precedence
import ProcessStep.Proofs.Reading
import ProcessStep.Proofs.Refusing
import ProcessStep.Proofs.Relaying
import ProcessStep.Proofs.Repeating
import ProcessStep.Proofs.Restoring
import ProcessStep.Proofs.Resuming
import ProcessStep.Proofs.Rounds.Apart
import ProcessStep.Proofs.Rounds.Group
import ProcessStep.Proofs.Rounds.Isolation
import ProcessStep.Proofs.Scopes
import ProcessStep.Proofs.Settling
import ProcessStep.Proofs.Snapshots
import ProcessStep.Proofs.Sources
import ProcessStep.Proofs.Steps.Likeness
import ProcessStep.Proofs.Steps.Passing
import ProcessStep.Proofs.Steps.Preparing
import ProcessStep.Proofs.Steps.Replacing
import ProcessStep.Proofs.Tables
import ProcessStep.Proofs.Trimming
import ProcessStep.Proofs.Truth
import ProcessStep.Proofs.Unrestored
import ProcessStep.Proofs.Viewing
import ProcessStep.Proofs.Waiting.History
import ProcessStep.Proofs.Waiting.Protocol
import ProcessStep.Proofs.Waiting.Turn
import ProcessStep.Proofs.WellFormed
import ProcessStep.Proofs.Wrapping
import ProcessStep.Resolution.Coercion
import ProcessStep.Resolution.Error
import ProcessStep.Resolution.Expression
import ProcessStep.Resolution.Parameter
import ProcessStep.Step.Arguments
import ProcessStep.Step.Problem
import ProcessStep.Step.Report
import ProcessStep.Table
import ProcessStep.Template.Basic
import ProcessStep.Template.Grammar
import ProcessStep.Template.Rendering
import ProcessStep.Text.Blank
import ProcessStep.Text.CaseTable
import ProcessStep.Text.Casing
import ProcessStep.Text.Hidden
import ProcessStep.Text.Quoted
import ProcessStep.Text.Span
