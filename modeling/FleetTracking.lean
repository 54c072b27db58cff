import FleetTracking.Text.Digit
import FleetTracking.Text.Blank
import FleetTracking.Text.Percent
import FleetTracking.Text.Runs
import FleetTracking.Text.Printable
import FleetTracking.Text.UnicodeDigit
import FleetTracking.Decimal.Shortest
import FleetTracking.Decimal.Text
import FleetTracking.Text.Numeral
import FleetTracking.Json.Basic
import FleetTracking.Text.Surrogate
import FleetTracking.Json.Printer
import FleetTracking.Json.Parser
import FleetTracking.Json.Literal
import FleetTracking.Calendar.Date
import FleetTracking.Calendar.Civil
import FleetTracking.Calendar.Timestamp
import FleetTracking.Calendar.Iso
import FleetTracking.Geo.Box
import FleetTracking.Fleet.Rejection
import FleetTracking.Json.Body
import FleetTracking.Failure
import FleetTracking.Geo.Coordinates
import FleetTracking.Fleet.Vehicle
import FleetTracking.Fleet.Position
import FleetTracking.Fleet.Report
import FleetTracking.Fleet.Record
import FleetTracking.Route
import FleetTracking.Store.Basic
import FleetTracking.Store.Memory
import FleetTracking.Store.Tables
import FleetTracking.Store.Session
import FleetTracking.Store.Backing
import FleetTracking.Validation.Violation
import FleetTracking.Validation.Rule
import FleetTracking.Service.Submission
import FleetTracking.Service.Query
import FleetTracking.Cache.Basic
import FleetTracking.Settings
import FleetTracking.Text.Split
import FleetTracking.Url.Ip
import FleetTracking.Cache.Address
import FleetTracking.Cache.Service
import FleetTracking.Simulation.Random
import FleetTracking.Simulation.Walk
import FleetTracking.Seeding
import FleetTracking.Startup
import FleetTracking.Health
import FleetTracking.Feed.Exchange
import FleetTracking.Text.Composed
import FleetTracking.Text.Lowercase
import FleetTracking.Url.Label.Direction
import FleetTracking.Url.Label.Permitted
import FleetTracking.Url.Punycode
import FleetTracking.Url.Label.Basic
import FleetTracking.Url.Host
import FleetTracking.Url.Basic
import FleetTracking.Feed.Client
import FleetTracking.Feed.Generator
import FleetTracking.Feed.Options
import FleetTracking.Feed.CommandLine
import FleetTracking.Api.Moment
import FleetTracking.Api.Target
import FleetTracking.Api.Input
import FleetTracking.Api.Endpoint
import FleetTracking.Api.Answer
import FleetTracking.Api.Respond
import FleetTracking.Main
import FleetTracking.Proofs.Calendar
import FleetTracking.Proofs.Geo
import FleetTracking.Proofs.Iso
import FleetTracking.Proofs.Outcome
import FleetTracking.Proofs.Record
import FleetTracking.Proofs.Route
import FleetTracking.Proofs.Store.Memory
import FleetTracking.Proofs.Store.Connection
import FleetTracking.Proofs.Store.Lawful
import FleetTracking.Proofs.Store.Contents
import FleetTracking.Proofs.Store.Window
import FleetTracking.Proofs.Service.Batch
import FleetTracking.Proofs.Service.Request
import FleetTracking.Proofs.Service.Numbering
import FleetTracking.Proofs.Service.Verdict
import FleetTracking.Proofs.Service.Invariant
import FleetTracking.Proofs.Service.Acceptance
import FleetTracking.Proofs.Cache.Run
import FleetTracking.Proofs.Cache.Damage
import FleetTracking.Proofs.Distance
import FleetTracking.Proofs.Service.Arrival
import FleetTracking.Proofs.Service.Retry
import FleetTracking.Proofs.Service.Moment
import FleetTracking.Proofs.Service.Interchange
import FleetTracking.Proofs.Service.Contention
import FleetTracking.Proofs.Service.Atomicity
import FleetTracking.Proofs.Simulation.Walk
import FleetTracking.Proofs.Feed.Traffic
import FleetTracking.Proofs.Api.Truth
import FleetTracking.Proofs.Store.Tidy
import FleetTracking.Proofs.Store.Roster
import FleetTracking.Proofs.Store.Arising
import FleetTracking.Proofs.Store.Agreement
import FleetTracking.Proofs.Seconds
import FleetTracking.Proofs.Service.Story
import FleetTracking.Proofs.Service.Fleet
import FleetTracking.Proofs.Validation.Report
import FleetTracking.Proofs.Validation.Batch
import FleetTracking.Proofs.Simulation.Pace
import FleetTracking.Proofs.Url
import FleetTracking.Proofs.Feed.Account
import FleetTracking.Proofs.Feed.Listing
import FleetTracking.Proofs.Rounding
import FleetTracking.Proofs.Seeding.Sample
import FleetTracking.Proofs.Simulation.Draws
import FleetTracking.Proofs.Startup
import FleetTracking.Proofs.Seeding.Stores
import FleetTracking.Proofs.Seeding.Torn
import FleetTracking.Proofs.Seeding.Alike
import FleetTracking.Proofs.Legs
import FleetTracking.Proofs.Store.Register
import FleetTracking.Proofs.Universal
import FleetTracking.Proofs.Recoding
import FleetTracking.Proofs.Feed.Lifecycle
