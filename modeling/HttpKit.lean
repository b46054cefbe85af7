import HttpKit.AccessLog
import HttpKit.Assoc
import HttpKit.Bytes.Latin1
import HttpKit.Bytes.Utf8
import HttpKit.Candidate
import HttpKit.CommandLine
import HttpKit.CommandLine.Switch
import HttpKit.CommandLine.Word
import HttpKit.Connection
import HttpKit.Decimal.Binary
import HttpKit.Decimal.Fixed
import HttpKit.Decimal.Notation
import HttpKit.Decimal.Shortest
import HttpKit.Demo
import HttpKit.FileTree
import HttpKit.Gateway
import HttpKit.Gateway.Environ
import HttpKit.Handler
import HttpKit.Headers
import HttpKit.Json
import HttpKit.Json.Octets
import HttpKit.Json.Printer
import HttpKit.Log
import HttpKit.Main
import HttpKit.Method
import HttpKit.Middleware
import HttpKit.Numeral.Error
import HttpKit.Numeral.Real
import HttpKit.Numeral.Whole
import HttpKit.Path
import HttpKit.Program
import HttpKit.Proofs.Bytes.Utf8
import HttpKit.Proofs.Route.Tree
import HttpKit.Proofs.Router.Dispatch
import HttpKit.Proofs.Text.Split
import HttpKit.Proofs.Wire.Pieces
import HttpKit.Proofs.Wire.Reading
import HttpKit.Query
import HttpKit.Request
import HttpKit.Response
import HttpKit.Response.Builder
import HttpKit.Route.Trie
import HttpKit.Router
import HttpKit.Server.LifeCycle
import HttpKit.Server.Run
import HttpKit.Server.State
import HttpKit.Server.Work
import HttpKit.Settings
import HttpKit.Status
import HttpKit.Text.Blank
import HttpKit.Text.CaseTable
import HttpKit.Text.Casing
import HttpKit.Text.Digit
import HttpKit.Text.Hex
import HttpKit.Text.Printable
import HttpKit.Text.PrintableTable
import HttpKit.Text.Quoted
import HttpKit.Text.Span
import HttpKit.Text.Split
import HttpKit.Trouble
import HttpKit.Wire.Line
import HttpKit.Wire.Request
import HttpKit.Wire.Source
import HttpKit.Wire.Stream
import HttpKit.Proofs.Wire.Grammar
import HttpKit.Proofs.DeclaredLength
import HttpKit.Proofs.Headers
import HttpKit.Proofs.Method
import HttpKit.Proofs.Wire.Message
import HttpKit.Proofs.Wire.RoundTrip
import HttpKit.Proofs.Server.Exchange
import HttpKit.Proofs.Response.Head
import HttpKit.Proofs.Response.ReadBack
import HttpKit.Proofs.Wire.Breaks
import HttpKit.Proofs.Response.Framing
import HttpKit.Proofs.Server.Refusals
import HttpKit.Proofs.Server.Interleaving
import HttpKit.Proofs.Server.Tracking
import HttpKit.Proofs.Server.Calls
import HttpKit.Proofs.Server.Frame
import HttpKit.Proofs.Server.LifeCycle
import HttpKit.Proofs.Server.FailedStart
import HttpKit.Proofs.Server.Accepting
import HttpKit.Proofs.Server.Independence
import HttpKit.Proofs.Versions
import HttpKit.Proofs.Headers.OrderedMap
import HttpKit.Proofs.Gateway.Answer
import HttpKit.Proofs.Bytes.Latin1
import HttpKit.Proofs.Gateway.Request
import HttpKit.Proofs.Middleware.Nesting
import HttpKit.Proofs.Middleware.Plan
import HttpKit.Proofs.Middleware.Trace
import HttpKit.Proofs.Path
import HttpKit.Proofs.Route.Listing
import HttpKit.Proofs.Router.Places
import HttpKit.Proofs.Router.Mounting
import HttpKit.Proofs.Router.Listing
import HttpKit.Proofs.Router.Order
import HttpKit.Proofs.Router.Replay
import HttpKit.Proofs.Gateway.Refusals
import HttpKit.Proofs.Wire.Timeout
import HttpKit.Proofs.Wire.Rewriting
import HttpKit.Proofs.Router.Attempts
import HttpKit.Proofs.Response.Building
import HttpKit.Proofs.Middleware.Accounting
import HttpKit.Proofs.Numeral.Whole
import HttpKit.Proofs.Gateway.BodyLength
import HttpKit.Proofs.Gateway.Decoding
import HttpKit.Proofs.Program.Hiding
import HttpKit.Proofs.Numeral.Real
import HttpKit.Proofs.Method.Tokens
import HttpKit.Proofs.Router.Targets
import HttpKit.Proofs.Settings.Environment
import HttpKit.Proofs.Settings.Validation
import HttpKit.Proofs.Route.Nodes
import HttpKit.Proofs.Route.Cells
import HttpKit.Proofs.Router.Cells
import HttpKit.Proofs.Router.Nodes
import HttpKit.Proofs.Wire.Arrival
import HttpKit.Text.Raw
import HttpKit.Proofs.Text.Raw
import HttpKit.Proofs.Server.Stages
import HttpKit.Proofs.Server.Parts
import HttpKit.Proofs.Server.Shutdown
