import FleetFlow.Domain.RouteSchedule
import FleetFlow.Domain.RoutePosition
import FleetFlow.Domain.RouteScheduler
import FleetFlow.Base.Program
import FleetFlow.Base.Errors
import FleetFlow.Base.Datetime
import FleetFlow.Base.Text
import FleetFlow.Domain.Locations
import FleetFlow.Base.Validation
import FleetFlow.Base.Rounding
import FleetFlow.Domain.Events
import FleetFlow.Domain.DeliveryPackage
import FleetFlow.Domain.DeliveryRoute
import FleetFlow.Domain.RouteLoad
import FleetFlow.Domain.Truck
import FleetFlow.Domain.AssignmentPolicies
import FleetFlow.Domain.RouteLinks
import FleetFlow.Domain.Customer
import FleetFlow.Base.Store
import FleetFlow.Base.Calendar
import FleetFlow.Base.IsoText
import FleetFlow.Runtime.World
import FleetFlow.Runtime.Reconciliation
import FleetFlow.Domain.Timetable
import FleetFlow.Runtime.PackagePass
import FleetFlow.Runtime.RoutePass
import FleetFlow.Runtime.Rollback
import FleetFlow.Runtime.Sweep
import FleetFlow.Runtime.Heartbeat
import FleetFlow.Runtime.UseCases
import FleetFlow.Runtime.Invariant
import FleetFlow.Runtime.Links
import FleetFlow.Runtime.Advance
import FleetFlow.Runtime.Settled
import FleetFlow.Runtime.Commands
import FleetFlow.Runtime.Run
import FleetFlow.Composition.SeedFleet
import FleetFlow.Runtime.Guarantees
import FleetFlow.Runtime.Bookkeeping
import FleetFlow.Runtime.Ledger
import FleetFlow.Runtime.PassEvents
import FleetFlow.Runtime.RouteEvents
import FleetFlow.Runtime.Updates
import FleetFlow.Runtime.Journal
import FleetFlow.Runtime.EventRecord
import FleetFlow.Runtime.Quiet
import FleetFlow.Runtime.Punctual
import FleetFlow.Runtime.TimePaths
import FleetFlow.Runtime.Progress
import FleetFlow.Base.Dict
import FleetFlow.Base.Json
import FleetFlow.Base.Base64
import FleetFlow.Users.Identity
import FleetFlow.Users.Repository
import FleetFlow.Users.Coherence
import FleetFlow.Users.Restart
import FleetFlow.Users.Tokens
import FleetFlow.Users.Sessions
import FleetFlow.Users.Revocation
import FleetFlow.Runtime.Suggestions
import FleetFlow.Runtime.Stamps
import FleetFlow.Runtime.Chronicle
import FleetFlow.Runtime.TruckTours
import FleetFlow.Runtime.PackageTrips
import FleetFlow.Base.Shared
import FleetFlow.Audit.Records
import FleetFlow.Audit.Queries
import FleetFlow.Audit.Delivery
import FleetFlow.Snapshot.Snapshots
import FleetFlow.Snapshot.JsonForm
import FleetFlow.Snapshot.ReadContract
import FleetFlow.Snapshot.JsonRoundTrip
import FleetFlow.Snapshot.Validators
import FleetFlow.Snapshot.Preparer
import FleetFlow.Snapshot.Rebuilt
import FleetFlow.Snapshot.Linked
import FleetFlow.Snapshot.Prepared
import FleetFlow.Domain.RoutePhases
import FleetFlow.Runtime.PickupRule
import FleetFlow.Snapshot.SegmentLoads
import FleetFlow.Runtime.SuitableRoutes
import FleetFlow.Runtime.PackageIntake
import FleetFlow.Runtime.Undo
import FleetFlow.Runtime.PackageRemoval
import FleetFlow.Runtime.Isolation
import FleetFlow.Base.Index
import FleetFlow.Runtime.CustomerIndex
import FleetFlow.Users.FailedWrites
import FleetFlow.Outbox.Registry
import FleetFlow.Runtime.PackageReports
import FleetFlow.Snapshot.Swap
import FleetFlow.Snapshot.Loaded
import FleetFlow.Snapshot.Reconciled
import FleetFlow.Snapshot.Accepted
import FleetFlow.Snapshot.Saved
import FleetFlow.Snapshot.SavedSchedules
import FleetFlow.Snapshot.Resumed
import FleetFlow.Snapshot.Places
import FleetFlow.Base.Rows
import FleetFlow.Database.Tables
import FleetFlow.Database.Importer
import FleetFlow.Database.Parity
import FleetFlow.Database.WorldGraph
import FleetFlow.Database.Restored
import FleetFlow.Base.Paging
import FleetFlow.Base.IsoFormat
import FleetFlow.Overview.FleetOverview
import FleetFlow.Overview.InMemoryQuery
import FleetFlow.Overview.PostgresQuery
import FleetFlow.Overview.Counts
import FleetFlow.Overview.ActiveRoutes
import FleetFlow.Overview.Batches
import FleetFlow.Overview.Listing
import FleetFlow.Overview.RouteCounts
import FleetFlow.Overview.Parity
import FleetFlow.Overview.Dashboard
import FleetFlow.Runtime.Retained
import FleetFlow.Runtime.ExpectedArrivals
import FleetFlow.Snapshot.Sessions
import FleetFlow.Base.FieldCodec
import FleetFlow.Outbox.Events
import FleetFlow.Outbox.PayloadCodecs
import FleetFlow.Outbox.Catalog
