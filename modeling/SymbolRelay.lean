import SymbolRelay.Action
import SymbolRelay.Codec
import SymbolRelay.Decimal.Binary32
import SymbolRelay.Decimal.Reader
import SymbolRelay.Decimal.Rounding
import SymbolRelay.Decimal.Shortest
import SymbolRelay.Delivery.Calls
import SymbolRelay.Delivery.Metering
import SymbolRelay.Delivery.Publisher
import SymbolRelay.Delivery.Queue
import SymbolRelay.Delivery.Requests
import SymbolRelay.Delivery.Subscription
import SymbolRelay.Duration
import SymbolRelay.Handling.Backoff
import SymbolRelay.Handling.CatalogRoutes
import SymbolRelay.Handling.Course
import SymbolRelay.Handling.Dispatch
import SymbolRelay.Handling.HandlerError
import SymbolRelay.Handling.Lifecycle
import SymbolRelay.Handling.Middleware
import SymbolRelay.Handling.Router
import SymbolRelay.Handling.Watch
import SymbolRelay.Json.Lexeme
import SymbolRelay.Json.Record
import SymbolRelay.Json.Skip
import SymbolRelay.Main
import SymbolRelay.Message
import SymbolRelay.Proofs.Actions
import SymbolRelay.Proofs.Delivery.Deliveries
import SymbolRelay.Proofs.Delivery.Handovers
import SymbolRelay.Proofs.Delivery.MeterReadings
import SymbolRelay.Proofs.Delivery.Metered
import SymbolRelay.Proofs.Delivery.Openings
import SymbolRelay.Proofs.Delivery.QueueGrowth
import SymbolRelay.Proofs.Delivery.Registrations
import SymbolRelay.Proofs.Delivery.StampedValues
import SymbolRelay.Proofs.Delivery.Stamping
import SymbolRelay.Proofs.Delivery.Subscriptions
import SymbolRelay.Proofs.Encoding.Events
import SymbolRelay.Proofs.Encoding.JsonLexemes
import SymbolRelay.Proofs.Encoding.JsonRecords
import SymbolRelay.Proofs.Encoding.JsonRoundTrip
import SymbolRelay.Proofs.Handling.Accounts
import SymbolRelay.Proofs.Handling.Acts
import SymbolRelay.Proofs.Handling.Backlog
import SymbolRelay.Proofs.Handling.Cleanup
import SymbolRelay.Proofs.Handling.Growing
import SymbolRelay.Proofs.Handling.Hops
import SymbolRelay.Proofs.Handling.Keeping
import SymbolRelay.Proofs.Handling.Lifecycle
import SymbolRelay.Proofs.Handling.LostBroker
import SymbolRelay.Proofs.Handling.MirroredRuns
import SymbolRelay.Proofs.Handling.OneMessage
import SymbolRelay.Proofs.Handling.PanicCount
import SymbolRelay.Proofs.Handling.PoisonCopies
import SymbolRelay.Proofs.Handling.Recorded
import SymbolRelay.Proofs.Handling.Refusals
import SymbolRelay.Proofs.Handling.RoundOrder
import SymbolRelay.Proofs.Handling.Rounds
import SymbolRelay.Proofs.Handling.SettingOut
import SymbolRelay.Proofs.Handling.Settling
import SymbolRelay.Proofs.Handling.Shutdown
import SymbolRelay.Proofs.Handling.Stages
import SymbolRelay.Proofs.Handling.Watching
import SymbolRelay.Proofs.Request.Families
import SymbolRelay.Proofs.Service.Alone
import SymbolRelay.Proofs.Service.Announcements
import SymbolRelay.Proofs.Service.Atomicity
import SymbolRelay.Proofs.Service.Attending
import SymbolRelay.Proofs.Service.CleanStop
import SymbolRelay.Proofs.Service.Contention
import SymbolRelay.Proofs.Service.Failures
import SymbolRelay.Proofs.Service.LastState
import SymbolRelay.Proofs.Service.LateStart
import SymbolRelay.Proofs.Service.MeteredPipelines
import SymbolRelay.Proofs.Service.MirroredCalls
import SymbolRelay.Proofs.Service.Numbering
import SymbolRelay.Proofs.Service.Pages
import SymbolRelay.Proofs.Service.Removals
import SymbolRelay.Proofs.Service.Sessions
import SymbolRelay.Proofs.Service.Standing
import SymbolRelay.Proofs.Service.Steps
import SymbolRelay.Proofs.Service.Stopping
import SymbolRelay.Proofs.Service.StoredRows
import SymbolRelay.Proofs.Service.Traffic
import SymbolRelay.Proofs.Service.UpdateOrder
import SymbolRelay.Proofs.Store.CodeUniqueness
import SymbolRelay.Proofs.Store.Conflicts
import SymbolRelay.Proofs.Store.DirectExecution
import SymbolRelay.Proofs.Store.ExactReservations
import SymbolRelay.Proofs.Store.IdSequence
import SymbolRelay.Proofs.Store.Isolation
import SymbolRelay.Proofs.Store.Lookups
import SymbolRelay.Proofs.Store.LostWrites
import SymbolRelay.Proofs.Store.RefusedVotes
import SymbolRelay.Proofs.Store.Reservations
import SymbolRelay.Proofs.Store.Soundness
import SymbolRelay.Proofs.Store.Turns
import SymbolRelay.Proofs.Store.UnitLeftovers
import SymbolRelay.Proofs.Store.UnitProtocol
import SymbolRelay.Proofs.Store.UnitSteps
import SymbolRelay.Proofs.Store.Votes
import SymbolRelay.Proofs.Symbol.AcceptedIds
import SymbolRelay.Proofs.Symbol.CatalogReplay
import SymbolRelay.Proofs.Symbol.LastWord
import SymbolRelay.Proofs.Symbol.NameFilter
import SymbolRelay.Proofs.Symbol.Overtaking
import SymbolRelay.Proofs.Symbol.Redelivery
import SymbolRelay.Proofs.Text.FinalSigma
import SymbolRelay.Proofs.Text.LetterCase
import SymbolRelay.Rehearsal.BusBench
import SymbolRelay.Rehearsal.RouterBench
import SymbolRelay.Rehearsal.Script
import SymbolRelay.Rehearsal.ServiceBench
import SymbolRelay.Rehearsal.State
import SymbolRelay.Rehearsal.ToyRunnable
import SymbolRelay.Rehearsal.UnitScript
import SymbolRelay.Request.Context
import SymbolRelay.Request.Family
import SymbolRelay.Request.Ids
import SymbolRelay.Service.Arguments
import SymbolRelay.Service.Attendance
import SymbolRelay.Service.DomainError
import SymbolRelay.Service.Label
import SymbolRelay.Service.LogFilter
import SymbolRelay.Service.Pipeline
import SymbolRelay.Service.Round
import SymbolRelay.Service.Session
import SymbolRelay.Service.Settings
import SymbolRelay.Service.Startup
import SymbolRelay.Service.SymbolService
import SymbolRelay.Service.Tenure
import SymbolRelay.Service.Traffic
import SymbolRelay.Service.Worker
import SymbolRelay.Standin.Compact
import SymbolRelay.Standin.NumberedIds
import SymbolRelay.Standin.RetryLoop
import SymbolRelay.Store.Basic
import SymbolRelay.Store.Desk
import SymbolRelay.Store.Storage
import SymbolRelay.Store.UnitBody
import SymbolRelay.Store.UnitOfWork
import SymbolRelay.Symbol.Basic
import SymbolRelay.Symbol.Catalog
import SymbolRelay.Symbol.Event
import SymbolRelay.Symbol.Query
import SymbolRelay.Symbol.RecentIds
import SymbolRelay.Table
import SymbolRelay.Text.Alphanumeric
import SymbolRelay.Text.Blank
import SymbolRelay.Text.CaseTable
import SymbolRelay.Text.Hidden
import SymbolRelay.Text.Lowercase
import SymbolRelay.Text.Octets
import SymbolRelay.Text.Pattern
import SymbolRelay.Text.Quoted
import SymbolRelay.Time
import SymbolRelay.Validation
import SymbolRelay.World
