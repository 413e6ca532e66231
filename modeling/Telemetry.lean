import Telemetry.Agent.Cache
import Telemetry.Agent.Config
import Telemetry.Agent.Delivery
import Telemetry.Agent.Places
import Telemetry.Agent.Reporter
import Telemetry.Agent.Reporting
import Telemetry.Agent.Sampler
import Telemetry.Agent.Settings
import Telemetry.Binary64.Basic
import Telemetry.Binary64.Decimal
import Telemetry.Binary64.Text
import Telemetry.Bytes
import Telemetry.CommandLine.Basic
import Telemetry.CommandLine.Parse
import Telemetry.CommandLine.Settings
import Telemetry.Crypto.Base64
import Telemetry.Crypto.Der
import Telemetry.Crypto.Pem
import Telemetry.Crypto.Rsa
import Telemetry.Crypto.Sha256
import Telemetry.Gzip.Basic
import Telemetry.Gzip.Bits
import Telemetry.Gzip.Crc32
import Telemetry.Gzip.Huffman
import Telemetry.Gzip.Inflate
import Telemetry.Host.Allocation
import Telemetry.Host.Gauges
import Telemetry.Http.Endpoint
import Telemetry.Http.Journal
import Telemetry.Http.Message
import Telemetry.Http.Percent
import Telemetry.Http.Route
import Telemetry.Http.Snippet
import Telemetry.Http.Status
import Telemetry.Http.Target
import Telemetry.Json.Basic
import Telemetry.Json.Numeral
import Telemetry.Json.Reader
import Telemetry.Json.Record
import Telemetry.Json.Token
import Telemetry.Json.Writer
import Telemetry.Log
import Telemetry.Main
import Telemetry.Metric.Basic
import Telemetry.Metric.Document
import Telemetry.Metric.Envelope
import Telemetry.Net.Address
import Telemetry.Net.Endpoint
import Telemetry.Net.Subnet
import Telemetry.Parcel.Admission
import Telemetry.Parcel.Basic
import Telemetry.Parcel.Compression
import Telemetry.Parcel.Encryption
import Telemetry.Parcel.Headers
import Telemetry.Parcel.Pipeline
import Telemetry.Parcel.Signature
import Telemetry.Proofs.Acceptance
import Telemetry.Proofs.Addresses
import Telemetry.Proofs.Admission
import Telemetry.Proofs.Aggregation
import Telemetry.Proofs.Allocations
import Telemetry.Proofs.Answers
import Telemetry.Proofs.Atomicity
import Telemetry.Proofs.Blocks
import Telemetry.Proofs.Contents
import Telemetry.Proofs.Delivery
import Telemetry.Proofs.Discipline
import Telemetry.Proofs.Documents
import Telemetry.Proofs.Elements
import Telemetry.Proofs.Encodings
import Telemetry.Proofs.Encryption
import Telemetry.Proofs.Envelopes
import Telemetry.Proofs.Exactness
import Telemetry.Proofs.Faults
import Telemetry.Proofs.Finiteness
import Telemetry.Proofs.Framings
import Telemetry.Proofs.Grammar
import Telemetry.Proofs.Ledgers
import Telemetry.Proofs.Listings
import Telemetry.Proofs.Merging
import Telemetry.Proofs.Messages
import Telemetry.Proofs.Negotiation
import Telemetry.Proofs.Numerals
import Telemetry.Proofs.Outsiders
import Telemetry.Proofs.Overlaps
import Telemetry.Proofs.Packing
import Telemetry.Proofs.Pipelines
import Telemetry.Proofs.Polls
import Telemetry.Proofs.Readings
import Telemetry.Proofs.Refinement
import Telemetry.Proofs.Reports
import Telemetry.Proofs.Responses
import Telemetry.Proofs.Restarts
import Telemetry.Proofs.Restriction
import Telemetry.Proofs.Rounding
import Telemetry.Proofs.Rsa
import Telemetry.Proofs.Scanning
import Telemetry.Proofs.Schedules
import Telemetry.Proofs.Sealing
import Telemetry.Proofs.Signature
import Telemetry.Proofs.Snapshots
import Telemetry.Proofs.Snippets
import Telemetry.Proofs.Spellings
import Telemetry.Proofs.Synchrony
import Telemetry.Proofs.Tables
import Telemetry.Proofs.Texts
import Telemetry.Proofs.Transparency
import Telemetry.Proofs.Unsaved
import Telemetry.Proofs.Visits
import Telemetry.Retry
import Telemetry.Rpc.Frame
import Telemetry.Rpc.Method
import Telemetry.Rpc.Status
import Telemetry.Server.Application
import Telemetry.Server.Config
import Telemetry.Server.Framing
import Telemetry.Server.Gateway
import Telemetry.Server.Launch
import Telemetry.Server.Lifetime
import Telemetry.Server.Settings
import Telemetry.Server.Snapshotter
import Telemetry.Service.Basic
import Telemetry.Service.Error
import Telemetry.Store.Backend
import Telemetry.Store.Error
import Telemetry.Store.File
import Telemetry.Store.Locator
import Telemetry.Store.Memory
import Telemetry.Store.NameMap
import Telemetry.Store.Scripted
import Telemetry.Store.Snapshot
import Telemetry.Store.Table
import Telemetry.Text.Blank
import Telemetry.Text.Hex
import Telemetry.Text.Integer
import Telemetry.Text.Quoted
import Telemetry.Text.Unseen
import Telemetry.Timeline
import Telemetry.Toml.DateTime
import Telemetry.Toml.Field
import Telemetry.Toml.Numeral
import Telemetry.Toml.Quoted
import Telemetry.Toml.Reader
import Telemetry.Toml.Value
import Telemetry.Wire.Field
import Telemetry.Wire.Message
import Telemetry.Wire.Varint
