import Casebook.Cache.Key
import Casebook.Cache.Location
import Casebook.Cache.Mapped
import Casebook.Cache.Memory
import Casebook.Cache.Pages
import Casebook.Cache.Requests
import Casebook.Cache.Shelf
import Casebook.Cache.Stats
import Casebook.Cache.Steps
import Casebook.Cache.Store
import Casebook.CaseId
import Casebook.Collection.Client
import Casebook.Collection.Gathering
import Casebook.Decimal.Binary64
import Casebook.Decimal.Digits
import Casebook.Decimal.Literal
import Casebook.Decimal.Notation
import Casebook.Decimal.Scaled
import Casebook.Decimal.Shortest
import Casebook.Entry
import Casebook.Event
import Casebook.Fault
import Casebook.Feed.Decode
import Casebook.Feed.Endpoint
import Casebook.Feed.Fetch
import Casebook.Feed.Timing
import Casebook.Health
import Casebook.Http.Message
import Casebook.Http.Origins
import Casebook.Http.Query
import Casebook.Http.Route
import Casebook.Http.Site
import Casebook.Json.Basic
import Casebook.Json.Pointer
import Casebook.Json.Printer
import Casebook.Json.Reader
import Casebook.Json.Record
import Casebook.Log
import Casebook.Main
import Casebook.Metrics.Basic
import Casebook.Metrics.Labelled
import Casebook.Metrics.Page
import Casebook.Net.Address
import Casebook.Net.Domain
import Casebook.Net.Domain.Mapping
import Casebook.Net.Host
import Casebook.Net.Punycode
import Casebook.Net.Segments
import Casebook.Net.Uri
import Casebook.Net.Url
import Casebook.OpenApi.Document
import Casebook.OpenApi.Operation
import Casebook.OpenApi.Schema
import Casebook.Outcome
import Casebook.Problem
import Casebook.Proofs.Cache.Agreement
import Casebook.Proofs.Cache.Alike
import Casebook.Proofs.Cache.Deadlines
import Casebook.Proofs.Cache.Durability
import Casebook.Proofs.Cache.Frames
import Casebook.Proofs.Cache.InMemory
import Casebook.Proofs.Cache.Loading
import Casebook.Proofs.Cache.Shelf
import Casebook.Proofs.Cache.Steps
import Casebook.Proofs.Cache.Store
import Casebook.Proofs.Collection.Enlisting
import Casebook.Proofs.Collection.Joining
import Casebook.Proofs.Decimal.Digits
import Casebook.Proofs.Feed.Asking
import Casebook.Proofs.Feed.Coercion
import Casebook.Proofs.Feed.Discretion
import Casebook.Proofs.Feed.Distinctness
import Casebook.Proofs.Feed.Format
import Casebook.Proofs.Feed.Splicing
import Casebook.Proofs.Http.Availability
import Casebook.Proofs.Http.Counting
import Casebook.Proofs.Http.Paths
import Casebook.Proofs.Http.Sharing
import Casebook.Proofs.Http.Sparing
import Casebook.Proofs.Json.Compact
import Casebook.Proofs.Json.Members
import Casebook.Proofs.Json.Reading
import Casebook.Proofs.Json.RoundTrip
import Casebook.Proofs.Json.Stopping
import Casebook.Proofs.Json.Text
import Casebook.Proofs.Metrics.Counting
import Casebook.Proofs.Naming
import Casebook.Proofs.Net.Dots
import Casebook.Proofs.Net.Hosts
import Casebook.Proofs.Net.Targets
import Casebook.Proofs.Record.RoundTrip
import Casebook.Proofs.Service.Answering
import Casebook.Proofs.Service.Conservation
import Casebook.Proofs.Service.Contents
import Casebook.Proofs.Service.FanOut
import Casebook.Proofs.Service.Freshness
import Casebook.Proofs.Service.Healing
import Casebook.Proofs.Service.Isolation
import Casebook.Proofs.Service.Precedence
import Casebook.Proofs.Service.Renewal
import Casebook.Proofs.Service.Retention
import Casebook.Proofs.Service.Run
import Casebook.Proofs.Service.Transparency
import Casebook.Proofs.Service.Waiting
import Casebook.Proofs.Settings.Checking
import Casebook.Proofs.Settings.Reloading
import Casebook.Proofs.Text.Keyed
import Casebook.Proofs.Text.Substitute
import Casebook.Proofs.Text.Trimming
import Casebook.Proofs.Time.Calendar
import Casebook.Proofs.Time.Expiry
import Casebook.Proofs.Time.Normalization
import Casebook.Proofs.Time.RoundTrip
import Casebook.Proofs.Timeline.Arrangement
import Casebook.Proofs.Timeline.Separation
import Casebook.Record.Case
import Casebook.Record.Health
import Casebook.Record.Problem
import Casebook.Samples
import Casebook.Service.Basic
import Casebook.Service.Overview
import Casebook.Settings.Api
import Casebook.Settings.Telemetry
import Casebook.Settings.Timeline
import Casebook.Settings.Variables
import Casebook.Source
import Casebook.Startup
import Casebook.Text.Blank
import Casebook.Text.Composition
import Casebook.Text.Direction
import Casebook.Text.Hex
import Casebook.Text.Joining
import Casebook.Text.Keyed
import Casebook.Text.Marks
import Casebook.Text.Parts
import Casebook.Text.Percent
import Casebook.Text.Printable
import Casebook.Text.Quoted
import Casebook.Text.Substitute
import Casebook.Text.Table
import Casebook.Text.Utf8
import Casebook.Time.Calendar
import Casebook.Time.Format
import Casebook.Time.Instant
import Casebook.Time.Reader
import Casebook.Time.Span
import Casebook.Timeline
