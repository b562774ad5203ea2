import TopUpPromo.Api.Http
import TopUpPromo.Api.Request
import TopUpPromo.Api.Response
import TopUpPromo.Api.Server
import TopUpPromo.Campaign
import TopUpPromo.Command.Basic
import TopUpPromo.Command.Flags
import TopUpPromo.Command.LoadTest
import TopUpPromo.Command.Process
import TopUpPromo.Command.Seeder
import TopUpPromo.Command.Server
import TopUpPromo.Command.Worker
import TopUpPromo.Config
import TopUpPromo.Console.Admin
import TopUpPromo.Console.Answer
import TopUpPromo.Console.Calculations
import TopUpPromo.Console.Commands
import TopUpPromo.Console.Configuration
import TopUpPromo.Console.Deployment
import TopUpPromo.Console.Input
import TopUpPromo.Console.Logs
import TopUpPromo.Console.Masking
import TopUpPromo.Console.Script
import TopUpPromo.Console.SeedOptions
import TopUpPromo.Console.Session
import TopUpPromo.Database.Client
import TopUpPromo.Database.Options
import TopUpPromo.Database.Scan
import TopUpPromo.Database.Script
import TopUpPromo.Database.Timestamp
import TopUpPromo.Database.Value
import TopUpPromo.Decimal.Basic
import TopUpPromo.Decimal.Text
import TopUpPromo.Deployment.Connections
import TopUpPromo.Deployment.Services
import TopUpPromo.Deployment.Site
import TopUpPromo.Discount
import TopUpPromo.Events.Admin
import TopUpPromo.Events.Handler
import TopUpPromo.Events.Task
import TopUpPromo.Failure
import TopUpPromo.Json.Basic
import TopUpPromo.Json.Bind
import TopUpPromo.Json.Reader
import TopUpPromo.Json.Writer
import TopUpPromo.Log
import TopUpPromo.Main
import TopUpPromo.Participation
import TopUpPromo.Sandbox.Steps
import TopUpPromo.Sandbox.View
import TopUpPromo.Sandbox.World
import TopUpPromo.Seed
import TopUpPromo.Service.Effects
import TopUpPromo.Service.Enrollment
import TopUpPromo.Service.Queries
import TopUpPromo.Service.Redemption
import TopUpPromo.Store.Basic
import TopUpPromo.Store.Memory
import TopUpPromo.Store.Relational
import TopUpPromo.Store.Rows
import TopUpPromo.Store.Schema
import TopUpPromo.Text.Float
import TopUpPromo.Text.Integer
import TopUpPromo.Text.MediaType
import TopUpPromo.Text.Printable
import TopUpPromo.Text.Quote
import TopUpPromo.Time.Instant
import TopUpPromo.Time.Text
import TopUpPromo.Voucher.Basic
import TopUpPromo.Voucher.Code
import TopUpPromo.Concurrent.Program
import TopUpPromo.Concurrent.World
import TopUpPromo.Proofs.Concurrent.Machine
import TopUpPromo.Proofs.Enrollment.Stages
import TopUpPromo.Proofs.Memory.Coherence
import TopUpPromo.Proofs.Concurrent.Threads
import TopUpPromo.Proofs.Enrollment.Steps
import TopUpPromo.Proofs.Enrollment.Invariant
import TopUpPromo.Proofs.Enrollment.Orders
import TopUpPromo.Proofs.Enrollment.Admissions
import TopUpPromo.Proofs.Enrollment.Capacity
import TopUpPromo.Proofs.Enrollment.Vouchers
import TopUpPromo.Proofs.Redemption.Stages
import TopUpPromo.Proofs.Memory.Updates
import TopUpPromo.Proofs.Redemption.Phases
import TopUpPromo.Proofs.Redemption.Steps
import TopUpPromo.Proofs.Redemption.Invariant
import TopUpPromo.Proofs.Redemption.Lifecycle
import TopUpPromo.Proofs.Memory.Changes
import TopUpPromo.Proofs.Isolated.Frame
import TopUpPromo.Proofs.Isolated.Runs
import TopUpPromo.Proofs.Isolated.Enrollment
import TopUpPromo.Proofs.Isolated.Redemption
import TopUpPromo.Proofs.Isolated.TopUp
import TopUpPromo.Proofs.Isolated.Outcomes
import TopUpPromo.Proofs.Standing.Rows
import TopUpPromo.Proofs.Standing.Frames
import TopUpPromo.Proofs.Standing.Threads
import TopUpPromo.Proofs.Standing.World
import TopUpPromo.Proofs.Decimal.Value
import TopUpPromo.Proofs.Discount.Rounding
import TopUpPromo.Proofs.Discount.Bounds
import TopUpPromo.Proofs.Redemption.Amounts
import TopUpPromo.Proofs.Memory.Transactions
import TopUpPromo.Proofs.Enrollment.Eligibility
import TopUpPromo.Proofs.Discount.Monotone
import TopUpPromo.Proofs.Memory.Listings
import TopUpPromo.Proofs.Memory.Orders
import TopUpPromo.Proofs.Standing.Views
import TopUpPromo.Proofs.Isolated.Check
import TopUpPromo.Proofs.Standing.Expiry
import TopUpPromo.Proofs.Enrollment.Slots
import TopUpPromo.Proofs.Enrollment.Seeding
import TopUpPromo.Proofs.Standing.Locks
import TopUpPromo.Proofs.Enrollment.Codes
