import FleetFlow.Base.Shared
import FleetFlow.Domain.DeliveryRoute
import FleetFlow.Base.Paging

/-!
# The fleet overview

Follows `application/results/fleet_overview.py`. A count is a natural number, so the checks that
counts are not negative have nothing left to reject.
-/

namespace FleetFlow

/-- Packages by status; `application/results/fleet_overview.py:17–40`. -/
structure PackageStatusCounts where
  todo : Nat
  inProgress : Nat
  done : Nat
deriving DecidableEq, Repr

/-- All packages together; `application/results/fleet_overview.py:37–40`. -/
def PackageStatusCounts.total (counts : PackageStatusCounts) : Nat :=
  counts.todo + counts.inProgress + counts.done

/-- Checks of a package overview; `application/results/fleet_overview.py:61–77`. -/
def PackageOverview.check (byStatus : PackageStatusCounts) (unassigned pastDue : Nat) :
    Except PyError Unit := do
  require (unassigned ≤ byStatus.total)
    ⟨.valueError, "unassigned cannot exceed the total package count."⟩
  require (pastDue ≤ byStatus.todo + byStatus.inProgress)
    ⟨.valueError, "past_due cannot exceed the undelivered package count."⟩

/-- Package counts; `application/results/fleet_overview.py:43–77`. -/
structure PackageOverview where
  byStatus : PackageStatusCounts
  unassigned : Nat
  pastDue : Nat
  valid : PackageOverview.check byStatus unassigned pastDue = .ok ()

/-- The constructor. -/
def PackageOverview.new (byStatus : PackageStatusCounts) (unassigned pastDue : Nat) :
    Except PyError PackageOverview :=
  match h : check byStatus unassigned pastDue with
  | .ok () => .ok ⟨byStatus, unassigned, pastDue, h⟩
  | .error e => .error e

/-- Routes by status; `application/results/fleet_overview.py:80–106`. -/
structure RouteStatusCounts where
  planned : Nat
  scheduled : Nat
  inProgress : Nat
  completed : Nat
deriving DecidableEq, Repr

/-- Checks of a route overview; `application/results/fleet_overview.py:125–137`. -/
def RouteOverview.check (byStatus : RouteStatusCounts) (pastDue : Nat) : Except PyError Unit :=
  require (pastDue ≤ byStatus.planned + byStatus.scheduled + byStatus.inProgress)
    ⟨.valueError, "past_due cannot exceed the non-completed route count."⟩

/-- Route counts; `application/results/fleet_overview.py:109–137`. -/
structure RouteOverview where
  byStatus : RouteStatusCounts
  pastDue : Nat
  valid : RouteOverview.check byStatus pastDue = .ok ()

/-- The constructor. -/
def RouteOverview.new (byStatus : RouteStatusCounts) (pastDue : Nat) :
    Except PyError RouteOverview :=
  match h : check byStatus pastDue with
  | .ok () => .ok ⟨byStatus, pastDue, h⟩
  | .error e => .error e

/-- Trucks by status; `application/results/fleet_overview.py:140–160`. -/
structure TruckStatusCounts where
  free : Nat
  onTheWay : Nat
deriving DecidableEq, Repr

/-- All trucks together; `application/results/fleet_overview.py:157–160`. -/
def TruckStatusCounts.total (counts : TruckStatusCounts) : Nat := counts.free + counts.onTheWay

/-- Checks of a truck overview; `application/results/fleet_overview.py:178–188`. -/
def TruckOverview.check (byStatus : TruckStatusCounts) (unknownLocation : Nat) :
    Except PyError Unit :=
  require (unknownLocation ≤ byStatus.total)
    ⟨.valueError, "unknown_location cannot exceed the total truck count."⟩

/-- Truck counts; `application/results/fleet_overview.py:163–188`. -/
structure TruckOverview where
  byStatus : TruckStatusCounts
  unknownLocation : Nat
  valid : TruckOverview.check byStatus unknownLocation = .ok ()

/-- The constructor. -/
def TruckOverview.new (byStatus : TruckStatusCounts) (unknownLocation : Nat) :
    Except PyError TruckOverview :=
  match h : check byStatus unknownLocation with
  | .ok () => .ok ⟨byStatus, unknownLocation, h⟩
  | .error e => .error e

/-- The truck of a route; `application/results/fleet_overview.py:191–210`. -/
structure AssignedTruckOverview where
  truckId : Int
  capacity : Int
  valid : Shared.requirePositiveInt capacity "capacity" = .ok capacity

/-- The constructor. -/
def AssignedTruckOverview.new (truckId capacity : Int) : Except PyError AssignedTruckOverview :=
  if h : Shared.requirePositiveInt capacity "capacity" = .ok capacity then
    .ok ⟨truckId, capacity, h⟩
  else .error ⟨.valueError, "capacity must be a positive integer."⟩

/-- Where an active route is; `application/results/fleet_overview.py:213–246`. -/
inductive ActiveRoutePosition where
  | inTransit (fromLocation toLocation : LocationCode) (nextEta : Datetime)
  | atStop (stopLocation : LocationCode) (nextEta : Option Datetime)
deriving DecidableEq

/-- The next arrival, unless the route stands at its last stop. -/
def ActiveRoutePosition.nextEta : ActiveRoutePosition → Option Datetime
  | inTransit _ _ eta => some eta
  | atStop _ eta => eta

/-- What is shown of a route under way. -/
structure ActiveRouteFields where
  routeId : Int
  status : RouteStatus
  startLocation : LocationCode
  endLocation : LocationCode
  position : ActiveRoutePosition
  assignedPackageCount : Nat
  truck : Option AssignedTruckOverview
  maximumSegmentLoad : Rat

/-- A route under way; `application/results/fleet_overview.py:249–303`. -/
structure ActiveRouteOverview extends ActiveRouteFields where
  nonneg : 0 ≤ maximumSegmentLoad

/-- The constructor; `application/results/fleet_overview.py:278–292`. -/
def ActiveRouteOverview.new (fields : ActiveRouteFields) : Except PyError ActiveRouteOverview :=
  if h : 0 ≤ fields.maximumSegmentLoad then .ok ⟨fields, h⟩
  else .error ⟨.valueError, "maximum_segment_load must be non-negative."⟩

/-- How much of the truck's capacity the heaviest leg needs, where there is a truck;
`application/results/fleet_overview.py:294–303`. -/
def ActiveRouteOverview.capacityUtilizationPercent (overview : ActiveRouteOverview) : Option Rat :=
  overview.truck.map fun truck ↦ overview.maximumSegmentLoad / truck.capacity * 100

/-- Known next arrivals first, and the route id where they are equal;
`adapters/driven/persistence/memory/fleet_overview_query.py:105–109`. -/
def ActiveRouteOverview.rank (generatedAt : Datetime) (overview : ActiveRouteOverview) :
    Bool ×ₗ Datetime ×ₗ Int :=
  toLex (overview.position.nextEta.isNone,
    toLex (overview.position.nextEta.getD generatedAt, overview.routeId))

/-- The overview; `application/results/fleet_overview.py:306–326`. -/
structure FleetOverview where
  generatedAt : Datetime
  packages : PackageOverview
  routes : RouteOverview
  trucks : TruckOverview
  activeRoutes : List ActiveRouteOverview

/-- The limit of active routes that a query accepts;
`adapters/driven/persistence/memory/fleet_overview_query.py:85–87`. -/
def requireActiveRouteLimit (activeRouteLimit : Int) : Except PyError Unit := do
  let limit ← Shared.requirePositiveInt activeRouteLimit "active_route_limit"
  require (limit ≤ 100)
    ⟨.valueError, "active_route_limit must be less than or equal to 100."⟩

/-- Counts that pass the checks make an overview of packages. -/
theorem PackageOverview.exists_new {byStatus : PackageStatusCounts} {unassigned pastDue : Nat}
    (hunassigned : unassigned ≤ byStatus.total)
    (hpastDue : pastDue ≤ byStatus.todo + byStatus.inProgress) :
    ∃ overview, new byStatus unassigned pastDue = .ok overview := by
  have hcheck : check byStatus unassigned pastDue = .ok () := by
    simp only [check, require_bind_eq_ok_iff, require_eq_ok_iff]
    exact ⟨hunassigned, hpastDue⟩
  unfold new
  split
  · exact ⟨_, rfl⟩
  · next e he =>
    rw [hcheck] at he
    cases he

/-- Counts that pass the check make an overview of routes. -/
theorem RouteOverview.exists_new {byStatus : RouteStatusCounts} {pastDue : Nat}
    (h : pastDue ≤ byStatus.planned + byStatus.scheduled + byStatus.inProgress) :
    ∃ overview, new byStatus pastDue = .ok overview := by
  have hcheck : check byStatus pastDue = .ok () := require_eq_ok_iff.mpr h
  unfold new
  split
  · exact ⟨_, rfl⟩
  · next e he =>
    rw [hcheck] at he
    cases he

/-- Counts that pass the check make an overview of trucks. -/
theorem TruckOverview.exists_new {byStatus : TruckStatusCounts} {unknownLocation : Nat}
    (h : unknownLocation ≤ byStatus.total) :
    ∃ overview, new byStatus unknownLocation = .ok overview := by
  have hcheck : check byStatus unknownLocation = .ok () := require_eq_ok_iff.mpr h
  unfold new
  split
  · exact ⟨_, rfl⟩
  · next e he =>
    rw [hcheck] at he
    cases he

/-- An overview of packages has the counts that it is made of. -/
theorem PackageOverview.fields_of_new {byStatus : PackageStatusCounts} {unassigned pastDue : Nat}
    {overview : PackageOverview} (h : new byStatus unassigned pastDue = .ok overview) :
    overview.byStatus = byStatus ∧ overview.unassigned = unassigned ∧
      overview.pastDue = pastDue := by
  unfold new at h
  split at h
  · rw [← Except.ok.inj h]
    exact ⟨rfl, rfl, rfl⟩
  · cases h

/-- An overview of routes has the counts that it is made of. -/
theorem RouteOverview.fields_of_new {byStatus : RouteStatusCounts} {pastDue : Nat}
    {overview : RouteOverview} (h : new byStatus pastDue = .ok overview) :
    overview.byStatus = byStatus ∧ overview.pastDue = pastDue := by
  unfold new at h
  split at h
  · rw [← Except.ok.inj h]
    exact ⟨rfl, rfl⟩
  · cases h

end FleetFlow
