import StagedSql.Binary64.Basic
import StagedSql.Binary64.Shortest
import StagedSql.Chat.Client
import StagedSql.Chat.Message
import StagedSql.Chat.Request
import StagedSql.Domain.Composition
import StagedSql.Domain.CompositionTable
import StagedSql.Domain.ContextTable
import StagedSql.Domain.Label
import StagedSql.Domain.LetterTable
import StagedSql.Domain.MarkTable
import StagedSql.Domain.Punycode
import StagedSql.Engine.Connection
import StagedSql.Engine.Operations
import StagedSql.Engine.Script
import StagedSql.Engine.Statement
import StagedSql.Fault
import StagedSql.Flow.Candidate
import StagedSql.Flow.Event
import StagedSql.Flow.Export
import StagedSql.Graph
import StagedSql.Json.Encoding
import StagedSql.Json.Reader
import StagedSql.Json.Token
import StagedSql.Json.Writer
import StagedSql.Keyed
import StagedSql.Query.Basic
import StagedSql.Query.Literal
import StagedSql.Query.Problem
import StagedSql.Record.Problem
import StagedSql.Record.Reader
import StagedSql.Record.WholeText
import StagedSql.Session.Basic
import StagedSql.Session.Edit
import StagedSql.Session.Import
import StagedSql.Session.Materialize
import StagedSql.Session.Source
import StagedSql.Session.Suggest
import StagedSql.Settings
import StagedSql.Stage.Basic
import StagedSql.Stage.Completeness
import StagedSql.Stage.Kind
import StagedSql.Stage.Payload
import StagedSql.Store.Basic
import StagedSql.Store.Command
import StagedSql.Suggestion.Prompt
import StagedSql.Suggestion.Reply
import StagedSql.Suggestion.Schema
import StagedSql.Table
import StagedSql.Table.Definition
import StagedSql.TableName
import StagedSql.Text.Basic
import StagedSql.Text.Blank
import StagedSql.Text.Case
import StagedSql.Text.CaseTable
import StagedSql.Text.Digit
import StagedSql.Text.Number
import StagedSql.Text.Percent
import StagedSql.Text.Printable
import StagedSql.Text.Quoted
import StagedSql.Text.Utf8
import StagedSql.Url.Basic
import StagedSql.Url.Host
import StagedSql.Url.Path
import StagedSql.Value.Basic
import StagedSql.Value.Display
import StagedSql.Web.Path
import StagedSql.Web.Request
import StagedSql.Web.Route
import StagedSql.Web.Server
import StagedSql.Proofs.Engine.Database
import StagedSql.Proofs.Engine.Effects
import StagedSql.Proofs.Engine.Exchange
import StagedSql.Proofs.Keyed
import StagedSql.Proofs.MintedId
import StagedSql.Proofs.Outcome
import StagedSql.Proofs.Session.Materialize
import StagedSql.Proofs.Store.WellFormed
import StagedSql.Proofs.TableName
import StagedSql.Proofs.Session.AllOrNothing
import StagedSql.Proofs.Session.Operation
import StagedSql.Proofs.Session.FlowRun
import StagedSql.Proofs.Session.Source
import StagedSql.Proofs.Session.Consistent
import StagedSql.Proofs.Session.InStep
import StagedSql.Proofs.Flow.Screening
import StagedSql.Proofs.Session.Minting
import StagedSql.Proofs.Session.SourceTables
import StagedSql.Proofs.Session.Recording
import StagedSql.Proofs.Session.Restoring
import StagedSql.Proofs.Session.Step
import StagedSql.Proofs.Session.Ownership
import StagedSql.Proofs.Session.LoadedNames
import StagedSql.Proofs.Flow.Interchange
import StagedSql.Proofs.Session.Completeness
import StagedSql.Proofs.Session.Rebuilding
import StagedSql.Proofs.Session.Rerunning
import StagedSql.Proofs.Session.Suggesting
import StagedSql.Proofs.Chat.Client
import StagedSql.Proofs.Session.SuggestionFaults
import StagedSql.Proofs.Session.Exporting
import StagedSql.Proofs.Session.Previewing
import StagedSql.Proofs.Graph.Producers
import StagedSql.Proofs.Graph.Edges
import StagedSql.Proofs.Session.Places
import StagedSql.Proofs.Session.Extending
import StagedSql.Proofs.Session.Reading
import StagedSql.Proofs.Session.Reporting
import StagedSql.Proofs.Session.Transactions
import StagedSql.Proofs.Json.Tokens
import StagedSql.Proofs.Json.RoundTrip
import StagedSql.Proofs.EngineName
import StagedSql.Proofs.Flow.EventStream
import StagedSql.Proofs.Stage.Payload
import StagedSql.Proofs.Query.Gate
import StagedSql.Proofs.Store.Versions
import StagedSql.Proofs.Query.Unwritable
import StagedSql.Proofs.Session.Identity
import StagedSql.Proofs.Session.ReadingAgain
import StagedSql.Proofs.Graph.Dependencies
import StagedSql.Proofs.Graph.ForwardReferences
import StagedSql.Proofs.Query.Literals
import StagedSql.Proofs.Value.Numerals
import StagedSql.Proofs.Query.LiteralTokens
import StagedSql.Proofs.Text.Blank
import StagedSql.Proofs.Identifier
import StagedSql.Proofs.Query.Statement
import StagedSql.Proofs.Query.Parts
import StagedSql.Proofs.Query.NormalPayload
import StagedSql.Proofs.Query.Filters
import StagedSql.Proofs.Query.Names
import StagedSql.Proofs.Query.SourceTable
import StagedSql.Proofs.Session.CatalogueNames
import StagedSql.Proofs.Session.ResolvedInput
import StagedSql.Proofs.Flow.Verdicts
import StagedSql.Proofs.Session.Appending
import StagedSql.Proofs.Chat.Retries
import StagedSql.Proofs.Suggestion.Fences
import StagedSql.Proofs.Json.Unreadable
import StagedSql.Proofs.Session.FailedIntake
import StagedSql.Proofs.Session.Takeover
import StagedSql.Proofs.Session.DistinctTables
import StagedSql.Proofs.Engine.ColumnList
import StagedSql.Proofs.Session.DefinedTables
import StagedSql.Proofs.Graph.EdgeOrder
import StagedSql.Proofs.GeneratedName
import StagedSql.Proofs.JoinedName
import StagedSql.Proofs.Graph.JoinInputs
import StagedSql.Proofs.Engine.Sending
import StagedSql.Proofs.Session.JoinedViews
import StagedSql.Proofs.Session.BareNames
import StagedSql.Proofs.Session.Sending
