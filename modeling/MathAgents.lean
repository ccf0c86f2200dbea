import MathAgents.Agent.Basic
import MathAgents.Agent.Controller
import MathAgents.Agent.Math
import MathAgents.Agent.Narrator
import MathAgents.Agent.Poet
import MathAgents.Agent.Transcriber
import MathAgents.Bytes.Base64
import MathAgents.Chat.Embedded
import MathAgents.Chat.Message
import MathAgents.Chat.Provider
import MathAgents.CommandLine.Execution
import MathAgents.CommandLine.Invocation
import MathAgents.CommandLine.Switch
import MathAgents.Decimal.Notation
import MathAgents.Decimal.Numeral
import MathAgents.Decimal.Rounding
import MathAgents.Decimal.Shortest
import MathAgents.Digest.Blake3
import MathAgents.Endpoint.Authority
import MathAgents.Endpoint.Basic
import MathAgents.Endpoint.Exchange
import MathAgents.Endpoint.Percent
import MathAgents.Endpoint.Url
import MathAgents.Endpoint.Wire
import MathAgents.Expr.Basic
import MathAgents.Expr.Error
import MathAgents.Expr.Evaluation
import MathAgents.Expr.Parser
import MathAgents.Expr.Printer
import MathAgents.Expr.Token
import MathAgents.Host.AttachedFile
import MathAgents.Host.Basic
import MathAgents.Json.Basic
import MathAgents.Json.Fault
import MathAgents.Json.Numeral
import MathAgents.Json.Printer
import MathAgents.Json.Quoted
import MathAgents.Json.Reader
import MathAgents.Main
import MathAgents.Proofs.Bytes.Base64
import MathAgents.Proofs.Chat.Braces
import MathAgents.Proofs.Chat.Dialogue
import MathAgents.Proofs.Chat.Embedded
import MathAgents.Proofs.Chat.Origin
import MathAgents.Proofs.CommandLine.Credential
import MathAgents.Proofs.CommandLine.Likeness
import MathAgents.Proofs.CommandLine.Lines
import MathAgents.Proofs.CommandLine.Requests
import MathAgents.Proofs.Decimal.Finite
import MathAgents.Proofs.Endpoint.Images
import MathAgents.Proofs.Endpoint.Replies
import MathAgents.Proofs.Expr.Completeness
import MathAgents.Proofs.Expr.Grammar
import MathAgents.Proofs.Expr.Layout
import MathAgents.Proofs.Expr.NormalForm
import MathAgents.Proofs.Expr.Parentheses
import MathAgents.Proofs.Expr.Parsing
import MathAgents.Proofs.Expr.Reader
import MathAgents.Proofs.Expr.Refusal
import MathAgents.Proofs.Expr.RoundTrip
import MathAgents.Proofs.Expr.Spelling
import MathAgents.Proofs.Expr.Trace
import MathAgents.Proofs.Json.Bounds
import MathAgents.Proofs.Json.Canonical
import MathAgents.Proofs.Json.Extent
import MathAgents.Proofs.Json.Integers
import MathAgents.Proofs.Json.Layout
import MathAgents.Proofs.Json.Records
import MathAgents.Proofs.Json.RoundTrip
import MathAgents.Proofs.Json.Steps
import MathAgents.Proofs.Json.Unambiguous
import MathAgents.Proofs.Json.View
import MathAgents.Proofs.Outcome
import MathAgents.Proofs.Run.Budget
import MathAgents.Proofs.Run.ChatHistory
import MathAgents.Proofs.Run.CommonPlan
import MathAgents.Proofs.Run.Consultation
import MathAgents.Proofs.Run.FixedOrder
import MathAgents.Proofs.Run.Handover
import MathAgents.Proofs.Run.Ledger
import MathAgents.Proofs.Run.Likeness
import MathAgents.Proofs.Run.PoetryOrder
import MathAgents.Proofs.Run.PoetryRefusal
import MathAgents.Proofs.Run.Replay
import MathAgents.Proofs.Run.Rounds
import MathAgents.Proofs.Run.ToolCalls
import MathAgents.Proofs.Run.ToolLoop
import MathAgents.Proofs.Run.Watching
import MathAgents.Proofs.Session.History
import MathAgents.Proofs.Session.ImageMemory
import MathAgents.Proofs.Settings.Precedence
import MathAgents.Proofs.Text.Search
import MathAgents.Proofs.Tool.Arguments
import MathAgents.Proofs.Tool.Reports
import MathAgents.Proofs.Turn.Snapshot
import MathAgents.Run.Audit
import MathAgents.Run.Crew
import MathAgents.Run.Delegating
import MathAgents.Run.Event
import MathAgents.Run.Progress
import MathAgents.Run.Sequential
import MathAgents.Session.Basic
import MathAgents.Session.ImageCache
import MathAgents.Session.Service
import MathAgents.Session.StateStore
import MathAgents.Settings.Basic
import MathAgents.Settings.Error
import MathAgents.Settings.Secret
import MathAgents.Settings.Sources
import MathAgents.Settings.Written
import MathAgents.Text.Blank
import MathAgents.Text.ByteOrder
import MathAgents.Text.Escaped
import MathAgents.Text.Found
import MathAgents.Text.Hexadecimal
import MathAgents.Text.Letter
import MathAgents.Text.Plain
import MathAgents.Text.Search
import MathAgents.Text.Utf8
import MathAgents.Toml.Basic
import MathAgents.Toml.Draft
import MathAgents.Toml.Layout
import MathAgents.Toml.Quoted
import MathAgents.Toml.Reader
import MathAgents.Toml.Scalar
import MathAgents.Tool.Calculator
import MathAgents.Tool.Request
import MathAgents.Tool.Response
import MathAgents.Tool.Spec
import MathAgents.Turn.Attachment
import MathAgents.Turn.Basic
import MathAgents.Turn.Context
import MathAgents.Turn.Error
