import RelayDevice.Account
import RelayDevice.Argument.Basic
import RelayDevice.Argument.Layout
import RelayDevice.Bytes
import RelayDevice.Capability.Descriptor
import RelayDevice.Capability.Registry
import RelayDevice.CommandLine.Answer
import RelayDevice.CommandLine.Command
import RelayDevice.CommandLine.Help
import RelayDevice.CommandLine.Option
import RelayDevice.CommandLine.Surroundings
import RelayDevice.Decimal.Nearest
import RelayDevice.Decimal.Shortest
import RelayDevice.Decimal.Whole
import RelayDevice.Demo.Oven
import RelayDevice.Digest.Hmac
import RelayDevice.Digest.Sha1
import RelayDevice.Error
import RelayDevice.Identity
import RelayDevice.Instant
import RelayDevice.Link.Arrival
import RelayDevice.Link.Backoff
import RelayDevice.Link.Datagram
import RelayDevice.Link.Heartbeat
import RelayDevice.Link.Kind
import RelayDevice.Link.Queue
import RelayDevice.Link.Reassembly
import RelayDevice.Link.ServerName
import RelayDevice.Link.Stream
import RelayDevice.Link.Transport
import RelayDevice.Link.Worker
import RelayDevice.Log
import RelayDevice.Main
import RelayDevice.Proofs.Access
import RelayDevice.Proofs.Argument.Access
import RelayDevice.Proofs.Argument.Assignments
import RelayDevice.Proofs.Argument.Completeness
import RelayDevice.Proofs.Argument.Records
import RelayDevice.Proofs.Argument.RoundTrip
import RelayDevice.Proofs.Argument.Truncation
import RelayDevice.Proofs.Argument.Writing
import RelayDevice.Proofs.Capability.Building
import RelayDevice.Proofs.Capability.Checked
import RelayDevice.Proofs.Identity.Stores
import RelayDevice.Proofs.Identity.Written
import RelayDevice.Proofs.Link.Answering
import RelayDevice.Proofs.Link.Attachment
import RelayDevice.Proofs.Link.Calls
import RelayDevice.Proofs.Link.Connections
import RelayDevice.Proofs.Link.Delays
import RelayDevice.Proofs.Link.Delivery
import RelayDevice.Proofs.Link.Departure
import RelayDevice.Proofs.Link.Division
import RelayDevice.Proofs.Link.Farewell
import RelayDevice.Proofs.Link.Handover
import RelayDevice.Proofs.Link.Liveness
import RelayDevice.Proofs.Link.Ownership
import RelayDevice.Proofs.Link.Routing
import RelayDevice.Proofs.Link.Run
import RelayDevice.Proofs.Link.Schedule
import RelayDevice.Proofs.Link.Steps
import RelayDevice.Proofs.Outcome
import RelayDevice.Proofs.Session.Actions
import RelayDevice.Proofs.Session.Announcing
import RelayDevice.Proofs.Session.ArrivalOrder
import RelayDevice.Proofs.Session.Attempts
import RelayDevice.Proofs.Session.Cadence
import RelayDevice.Proofs.Session.Composition
import RelayDevice.Proofs.Session.Course
import RelayDevice.Proofs.Session.Dispatching
import RelayDevice.Proofs.Session.EventNames
import RelayDevice.Proofs.Session.FailedStarts
import RelayDevice.Proofs.Session.Inbox
import RelayDevice.Proofs.Session.Installing
import RelayDevice.Proofs.Session.Lives
import RelayDevice.Proofs.Session.Parts
import RelayDevice.Proofs.Session.Performing
import RelayDevice.Proofs.Session.Readings
import RelayDevice.Proofs.Session.Recording
import RelayDevice.Proofs.Session.Registering
import RelayDevice.Proofs.Session.Reordering
import RelayDevice.Proofs.Session.Responding
import RelayDevice.Proofs.Session.SentEvents
import RelayDevice.Proofs.Session.Status
import RelayDevice.Proofs.Session.Tallies
import RelayDevice.Proofs.Session.Unreadable
import RelayDevice.Proofs.Settings.Period
import RelayDevice.Proofs.Text.Copies
import RelayDevice.Proofs.Toml.RoundTrip
import RelayDevice.Proofs.Wire.Access
import RelayDevice.Proofs.Wire.Addresses
import RelayDevice.Proofs.Wire.Answers
import RelayDevice.Proofs.Wire.Authentication
import RelayDevice.Proofs.Wire.Canonical
import RelayDevice.Proofs.Wire.ErrorCodes
import RelayDevice.Proofs.Wire.Forwarding
import RelayDevice.Proofs.Wire.Letters
import RelayDevice.Proofs.Wire.Reader
import RelayDevice.Proofs.Wire.Resigning
import RelayDevice.Proofs.Wire.RoundTrip
import RelayDevice.Proofs.Wire.Signing
import RelayDevice.Session.Context
import RelayDevice.Session.Device
import RelayDevice.Session.Dispatcher
import RelayDevice.Session.Feature
import RelayDevice.Session.Interaction
import RelayDevice.Session.Life
import RelayDevice.Session.MainLoop
import RelayDevice.Session.Registration
import RelayDevice.Session.Start
import RelayDevice.Session.Startup
import RelayDevice.Session.State
import RelayDevice.Settings.Basic
import RelayDevice.Settings.Connector
import RelayDevice.Settings.Environment
import RelayDevice.Settings.File
import RelayDevice.Settings.Trust
import RelayDevice.Simulation.Connection
import RelayDevice.Simulation.Link
import RelayDevice.Simulation.Loopback
import RelayDevice.Simulation.Medium
import RelayDevice.Simulation.OvenRun
import RelayDevice.Simulation.Part
import RelayDevice.Simulation.Rehearsal
import RelayDevice.Simulation.Session
import RelayDevice.Text.Base64
import RelayDevice.Text.Blank
import RelayDevice.Text.Hexadecimal
import RelayDevice.Text.Json
import RelayDevice.Text.Place
import RelayDevice.Text.Printable
import RelayDevice.Text.Quoted
import RelayDevice.Text.Record
import RelayDevice.Text.Utf8
import RelayDevice.Toml.Document
import RelayDevice.Toml.Fault
import RelayDevice.Toml.Number
import RelayDevice.Toml.Printer
import RelayDevice.Toml.Text
import RelayDevice.Toml.Value
import RelayDevice.Uuid
import RelayDevice.Wire.Address
import RelayDevice.Wire.Code
import RelayDevice.Wire.Header
import RelayDevice.Wire.Integrity
import RelayDevice.Wire.Message
import RelayDevice.Wire.Report
