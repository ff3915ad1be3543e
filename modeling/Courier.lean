import Courier.Bytes
import Courier.Text.Characters
import Courier.Text.Base64
import Courier.Text.Cut
import Courier.Text.Numbers
import Courier.Text.Pattern
import Courier.Text.Pattern.Atom
import Courier.Text.Pattern.CharacterClass
import Courier.Text.Pattern.Flags
import Courier.Text.Percent
import Courier.Text.Similarity
import Courier.Text.Terminal
import Courier.Text.Utf8
import Courier.Wire.Fault
import Courier.Wire.Input
import Courier.Wire.Reader
import Courier.Wire.Varint
import Courier.Wire.Skip
import Courier.Wire.Record
import Courier.Wire.Schema
import Courier.Crash
import Courier.Address
import Courier.Deadline
import Courier.Request
import Courier.Http.Index
import Courier.Http.Headers
import Courier.Http.Uri
import Courier.Call.Code
import Courier.Call.Status
import Courier.Call.Options
import Courier.Call.Exchange
import Courier.Call.Frame
import Courier.Call.Messages
import Courier.Call.Reply
import Courier.Call.Send
import Courier.Socket
import Courier.Endpoint
import Courier.Server.Recorder
import Courier.Server.Session
import Courier.Log.Event
import Courier.Log.Directive
import Courier.Log.Filter
import Courier.Log.Connecting
import Courier.CommandLine.Argument
import Courier.CommandLine.Header
import Courier.CommandLine.Target
import Courier.CommandLine.Usage
import Courier.CommandLine.Fault
import Courier.CommandLine.Parse
import Courier.CommandLine.Run
import Courier.Main
import Courier.Proofs.Wire.Reading
import Courier.Proofs.Wire.Overlay
import Courier.Proofs.Wire.RoundTrip
import Courier.Proofs.Wire.Spelling
import Courier.Proofs.Wire.Locality
import Courier.Proofs.Wire.Undeclared
import Courier.Proofs.Wire.Declared
import Courier.Proofs.Wire.Nested
import Courier.Proofs.Wire.Parts
import Courier.Proofs.Wire.OverlayLaws
import Courier.Proofs.Wire.UnknownFields
import Courier.Proofs.Wire.Shortest
import Courier.Proofs.Text.Percent
import Courier.Proofs.Text.Blank
import Courier.Proofs.Text.Quoted
import Courier.Proofs.Http.Headers
import Courier.Proofs.Http.Rows
import Courier.Proofs.Http.Values
import Courier.Proofs.Http.Names
import Courier.Proofs.Http.Crowds
import Courier.Proofs.Call.Framing
import Courier.Proofs.Call.Gathering
import Courier.Proofs.Call.Bodies
import Courier.Proofs.Call.RequestBody
import Courier.Proofs.Call.OptionSteps
import Courier.Proofs.Call.Sending
import Courier.Proofs.Call.Status
import Courier.Proofs.Call.Stages
import Courier.Proofs.Call.Success
import Courier.Proofs.Call.FailureStatus
import Courier.Proofs.Call.BodyFailures
import Courier.Proofs.Call.Crashes
import Courier.Proofs.Server.Cuts
import Courier.Proofs.Server.Answering
import Courier.Proofs.Server.WirePath
import Courier.Proofs.Server.Runs
import Courier.Proofs.Call.Attempts
import Courier.Proofs.Call.SentHeaders
import Courier.Proofs.Call.Deadlines
import Courier.Proofs.Server.Refusals
import Courier.Proofs.Server.Traces
import Courier.Proofs.Server.Verdicts
import Courier.Proofs.Server.Log
import Courier.Proofs.Log.Cuts
import Courier.Proofs.CommandLine.HeaderLists
import Courier.Proofs.CommandLine.Ending
import Courier.Proofs.CommandLine.Contract
import Courier.Proofs.Call.LastValues
import Courier.Proofs.Call.SentDeadline
import Courier.Proofs.Call.Causes
import Courier.Proofs.CommandLine.HeaderSpelling
import Courier.Proofs.CommandLine.FailureReport
import Courier.Proofs.CommandLine.Words
import Courier.Proofs.CommandLine.Arrangement
