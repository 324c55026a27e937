import FleetFlow.Base.Validation
import FleetFlow.Domain.Events
import FleetFlow.Domain.RoutePosition
import FleetFlow.Domain.RouteScheduler

/-!
# Delivery routes

Follows the parts of `domain/entities/delivery_route.py` that touch the route alone.
The attributes `_path` and `_schedule` live together in a `RoutePlan`, since the only
schedule a route ever holds is the one built over its path.
-/

namespace FleetFlow

/-- A path, and the schedule built over it when the route has a departure. -/
structure RoutePlan where
  path : RoutePath
  schedule? : Option RouteSchedule
  built : ∀ s ∈ schedule?, RouteScheduler.build path.locations s.departureTime = .ok s
deriving DecidableEq

namespace RoutePlan

/-- Plan a path with or without a departure; `domain/entities/delivery_route.py:84–92`. -/
def create (path : RoutePath) (departureTime : Option Datetime) : Except PyError RoutePlan :=
  match departureTime with
  | none => .ok ⟨path, none, by simp⟩
  | some t =>
    match h : RouteScheduler.build path.locations t with
    | .ok s => .ok ⟨path, some s, by simpa using RouteScheduler.build_departureTime h⟩
    | .error e => .error e

/-- Departure of a plan. -/
def departureTime (plan : RoutePlan) : Option Datetime :=
  plan.schedule?.map RouteSchedule.departureTime

/-- A plan is determined by its path and departure. -/
theorem create_eq_ok_iff {path : RoutePath} {t : Option Datetime} {plan : RoutePlan} :
    create path t = .ok plan ↔ plan.path = path ∧ plan.departureTime = t := by
  obtain ⟨path', schedule?, built⟩ := plan
  cases t with
  | none =>
    simp only [create, Except.ok.injEq, RoutePlan.mk.injEq, departureTime, Option.map_eq_none_iff]
    exact ⟨fun h ↦ ⟨h.1.symm, h.2.symm⟩, fun h ↦ ⟨h.1.symm, h.2.symm⟩⟩
  | some t =>
    simp only [create, departureTime, Option.map_eq_some_iff]
    split
    · next s hs =>
      rw [Except.ok.injEq, RoutePlan.mk.injEq]
      constructor
      · rintro ⟨rfl, rfl⟩
        exact ⟨rfl, s, rfl, RouteScheduler.departureTime_of_build hs⟩
      · rintro ⟨rfl, s', rfl, rfl⟩
        refine ⟨rfl, ?_⟩
        have := built s' rfl
        rw [hs, Except.ok.injEq] at this
        rw [this]
    · next e he =>
      simp only [reduceCtorEq, false_iff]
      rintro ⟨rfl, s', rfl, rfl⟩
      rw [built s' rfl] at he
      cases he

/-- A plan with a departure can leave at any earlier time. -/
theorem exists_create_earlier {plan : RoutePlan} {s : RouteSchedule} {t : Datetime}
    (hs : plan.schedule? = some s) (ht : t ≤ s.departureTime) :
    ∃ plan', create plan.path (some t) = .ok plan' := by
  obtain ⟨s', hs', -⟩ := RouteScheduler.build_earlier (plan.built s hs) ht
  unfold create
  dsimp only
  split
  · exact ⟨_, rfl⟩
  · next e he =>
    rw [he] at hs'
    cases hs'

/-- Scheduled stops are the stops of the path. -/
theorem locations_schedule {plan : RoutePlan} {s : RouteSchedule} (hs : plan.schedule? = some s) :
    s.stops.map ScheduledStop.location = plan.path.locations :=
  RouteScheduler.locations_of_build (plan.built s hs)

end RoutePlan

/-- A route with its truck and packages by id; `domain/entities/delivery_route.py:53–94`. -/
structure DeliveryRoute where
  routeId : Int
  plan : RoutePlan
  truck : Option Int
  packages : List Int
  status : RouteStatus
  pendingEvents : List DomainEvent
  routeId_pos : 0 < routeId
deriving DecidableEq

/-- Captured mutable route state; `domain/entities/delivery_route.py:43–50`. -/
structure RouteStateSnapshot where
  departureTime : Option Datetime
  status : RouteStatus
  truck : Option Int
  packages : List Int
deriving DecidableEq, Repr

namespace DeliveryRoute

/-- Construct a route without recording an event; `domain/entities/delivery_route.py:58–94`. -/
def new (path : RoutePath) (departureTime : Option Datetime) (routeId : Int) :
    Except PyError DeliveryRoute :=
  if h : 0 < routeId then do
    let plan ← RoutePlan.create path departureTime
    .ok {
      routeId, plan
      truck := none
      packages := []
      status := if departureTime.isSome then .scheduled else .planned
      pendingEvents := []
      routeId_pos := h }
  else .error ⟨.domainValidation, "route_id must be a positive integer."⟩

variable (route : DeliveryRoute)

/-- Departure from the first stop; `domain/entities/delivery_route.py:96–99`. -/
def departureTime : Option Datetime := route.plan.departureTime

/-- Final arrival; `domain/entities/delivery_route.py:291–294`. -/
def etaFinal : Option Datetime := route.plan.schedule?.map RouteSchedule.etaFinal

/-- Ordered stops; `domain/entities/delivery_route.py:101–104`. -/
def locations : List LocationCode := route.plan.path.locations

/-- First stop; `domain/entities/delivery_route.py:106–109`. -/
def startLocation : LocationCode := route.plan.path.start

/-- Final stop; `domain/entities/delivery_route.py:111–114`. -/
def endLocation : LocationCode := route.plan.path.end_

/-- Buffer one event; `shared/event_recorder_mixin.py`. -/
def recordEvent (event : DomainEvent) : DeliveryRoute :=
  { route with pendingEvents := route.pendingEvents ++ [event] }

/-- Construct a route and record its creation; `domain/entities/delivery_route.py:121–164`. -/
def create (u : UnicodeTables) (locations : List String) (departureTime : Option Datetime)
    (routeId : Int) (occurredAt : Datetime) : Except PyError DeliveryRoute := do
  requirePositiveInt routeId "route_id"
  let path ← RoutePath.create u locations
  let route ← new path departureTime routeId
  .ok (route.recordEvent (.routeCreated {
    routeId := route.routeId
    locations := route.locations
    departureTime := route.departureTime
    initialStatus := route.status
    expectedCompletionTime := route.etaFinal
    occurredAt }))

/-- Start a scheduled route; `domain/entities/delivery_route.py:166–187`. -/
def markStarted (occurredAt : Datetime) : Except PyError DeliveryRoute := do
  require (route.status = .scheduled) ⟨.domainConflict,
    s!"Route {route.routeId} cannot start from status {route.status.value}."⟩
  .ok ({ route with status := .inProgress }.recordEvent (.routeStarted {
    routeId := route.routeId
    previousStatus := route.status
    newStatus := .inProgress
    occurredAt }))

/-- Complete a scheduled or started route; `domain/entities/delivery_route.py:189–223`. -/
def markCompleted (occurredAt : Datetime) : Except PyError DeliveryRoute := do
  require (route.status = .scheduled ∨ route.status = .inProgress) ⟨.domainConflict,
    s!"Route {route.routeId} cannot complete from status {route.status.value}."⟩
  match route.departureTime, route.etaFinal with
  | none, _ => .error ⟨.domainConflict,
      s!"Route {route.routeId} cannot complete without a departure time."⟩
  | some _, none => .error ⟨.domainConflict,
      s!"Route {route.routeId} cannot complete without an expected completion time."⟩
  | some departureTime, some etaFinal =>
    .ok ({ route with status := .completed }.recordEvent (.routeCompleted {
      routeId := route.routeId
      previousStatus := route.status
      newStatus := .completed
      departureTime
      expectedCompletionTime := etaFinal
      occurredAt }))

/-- Record the removal; `domain/entities/delivery_route.py:225–246`. -/
def recordRemoval (detachedPackageIds : List Int) (releasedTruckId : Option Int)
    (occurredAt : Datetime) : DeliveryRoute :=
  route.recordEvent (.routeRemoved {
    routeId := route.routeId
    previousStatus := route.status
    previousLocations := route.locations
    previousDepartureTime := route.departureTime
    previousExpectedCompletionTime := route.etaFinal
    detachedPackageIds
    releasedTruckId
    occurredAt })

/-- Capture the mutable state; `domain/entities/delivery_route.py:248–259`. -/
def snapshotState : RouteStateSnapshot where
  departureTime := route.departureTime
  status := route.status
  truck := route.truck
  packages := route.packages

/-- Restore a captured state, rebuilding its schedule; `domain/entities/delivery_route.py:261–280`. -/
def restoreState (snapshot : RouteStateSnapshot) : Except PyError DeliveryRoute := do
  let plan ← RoutePlan.create route.plan.path snapshot.departureTime
  .ok { route with
    plan
    status := snapshot.status
    truck := snapshot.truck
    packages := snapshot.packages }

/-- Total distance; `domain/entities/delivery_route.py:282–289`. -/
def totalDistanceKm : Except PyError Int :=
  match route.plan.schedule? with
  | some s => .ok s.totalDistanceKm
  | none => do
    let distances ← (route.locations.zip route.locations.tail).mapM fun leg ↦
      Map.getDistance leg.1 leg.2
    .ok distances.sum

/-- Schedule a planned route; `domain/entities/delivery_route.py:296–335`. -/
def schedule (departureTime occurredAt : Datetime) : Except PyError DeliveryRoute := do
  require (route.plan.schedule? = none)
    ⟨.domainConflict, s!"Route {route.routeId} is already scheduled."⟩
  let plan ← RoutePlan.create route.plan.path (some departureTime)
  match plan.schedule? with
  | none => .error ⟨.assertionError, "A plan with a departure has a schedule."⟩
  | some newSchedule =>
    .ok ({ route with plan, status := .scheduled }.recordEvent (.routeScheduled {
      routeId := route.routeId
      previousStatus := route.status
      newStatus := .scheduled
      previousDepartureTime := route.departureTime
      newDepartureTime := departureTime
      previousExpectedCompletionTime := route.etaFinal
      newExpectedCompletionTime := newSchedule.etaFinal
      occurredAt }))

/-- Scheduled arrival at a city; `domain/entities/delivery_route.py:337–356`. -/
def arrivalTimeAt (city : LocationCode) : Except PyError Datetime :=
  match route.plan.schedule? with
  | none => .error ⟨.domainConflict, "Route not scheduled yet."⟩
  | some s =>
    match s.arrivalTimeAt city with
    | .ok t => .ok t
    | .error _ => .error ⟨.domainValidation, s!"City {city} is not on route {route.routeId}."⟩

/-- Position at an instant; `domain/entities/delivery_route.py:358–371`. -/
def currentPosition (now : Datetime) : RoutePosition :=
  match route.plan.schedule? with
  | none => { kind := .unscheduled, stopCity := some route.startLocation }
  | some s => s.positionAt now

/-- Order of two locations on the route; `domain/entities/delivery_route.py:373–383`. -/
def includesInOrder (start end_ : LocationCode) : Bool := route.plan.path.includesInOrder start end_

/-- Whether a package is listed; `domain/entities/delivery_route.py:658–659`. -/
def hasPackage (packageId : Int) : Bool := decide (packageId ∈ route.packages)

/-! ### Facts about schedules and plans -/

variable {route}

/-- Restoring a route's own snapshot gives back its plan, status and links. -/
theorem restoreState_eq {r : DeliveryRoute} (hid : route.routeId = r.routeId)
    (hpath : route.plan.path = r.plan.path) :
    route.restoreState r.snapshotState = .ok { r with pendingEvents := route.pendingEvents } := by
  have hc : RoutePlan.create route.plan.path r.departureTime = .ok r.plan :=
    RoutePlan.create_eq_ok_iff.mpr ⟨hpath.symm, rfl⟩
  cases route
  cases r
  simp_all [restoreState, snapshotState, bind, Except.bind]

/-- A new route is unlinked, and scheduled exactly when it has a departure. -/
theorem new_eq_ok_iff {path : RoutePath} {t : Option Datetime} {routeId : Int} {r : DeliveryRoute} :
    new path t routeId = .ok r ↔
      r.routeId = routeId ∧ r.plan.path = path ∧ r.departureTime = t ∧ r.truck = none ∧
        r.packages = [] ∧ r.status = (if t.isSome then .scheduled else .planned) ∧
        r.pendingEvents = [] := by
  obtain ⟨id, plan, truck, packages, status, pendingEvents, hpos⟩ := r
  unfold new departureTime
  split
  · next h =>
    simp only [except_bind_eq_ok_iff, RoutePlan.create_eq_ok_iff, Except.ok.injEq,
      DeliveryRoute.mk.injEq]
    constructor
    · rintro ⟨plan', ⟨hp, ht⟩, rfl, rfl, rfl, rfl, rfl, rfl⟩
      exact ⟨rfl, hp, ht, rfl, rfl, rfl, rfl⟩
    · rintro ⟨rfl, hp, ht, rfl, rfl, rfl, rfl⟩
      exact ⟨plan, ⟨hp, ht⟩, rfl, rfl, rfl, rfl, rfl, rfl⟩
  · next h =>
    simp only [reduceCtorEq, false_iff]
    rintro ⟨rfl, -⟩
    exact h hpos

/-- Scheduling succeeds exactly on an unscheduled route whose path can leave at that time. -/
theorem schedule_eq_ok_iff {t occurredAt : Datetime} {r : DeliveryRoute} :
    route.schedule t occurredAt = .ok r ↔
      route.plan.schedule? = none ∧ ∃ plan s, plan.path = route.plan.path ∧
        plan.schedule? = some s ∧ s.departureTime = t ∧
        r = { route with
          plan
          status := .scheduled
          pendingEvents := route.pendingEvents ++ [.routeScheduled {
            routeId := route.routeId
            previousStatus := route.status
            newStatus := .scheduled
            previousDepartureTime := route.departureTime
            newDepartureTime := t
            previousExpectedCompletionTime := route.etaFinal
            newExpectedCompletionTime := s.etaFinal
            occurredAt }] } := by
  simp only [schedule, require_bind_eq_ok_iff]
  refine and_congr_right fun _ ↦ ?_
  rw [except_bind_eq_ok_iff]
  refine exists_congr fun plan ↦ ?_
  simp only [RoutePlan.create_eq_ok_iff, RoutePlan.departureTime, Option.map_eq_some_iff]
  constructor
  · rintro ⟨⟨hp, s, hs, ht⟩, h⟩
    simp only [hs, Except.ok.injEq, recordEvent] at h
    exact ⟨s, hp, hs, ht, h.symm⟩
  · rintro ⟨s, hp, hs, ht, rfl⟩
    refine ⟨⟨hp, s, hs, ht⟩, ?_⟩
    simp only [hs, recordEvent]

/-- An unscheduled route has no arrival times; a scheduled one has those of its schedule. -/
theorem arrivalTimeAt_eq_ok_iff {city : LocationCode} {t : Datetime} :
    route.arrivalTimeAt city = .ok t ↔
      ∃ s, route.plan.schedule? = some s ∧ s.arrival? city = some t := by
  unfold arrivalTimeAt
  cases hs : route.plan.schedule? with
  | none => simp
  | some s =>
    simp only [Option.some.injEq, exists_eq_left', ← RouteSchedule.arrivalTimeAt_eq_ok_iff]
    cases s.arrivalTimeAt city <;> simp

/-- A stop of a scheduled route has an arrival time. -/
theorem exists_arrival {s : RouteSchedule} (hs : route.plan.schedule? = some s)
    {city : LocationCode} {i : Nat} (hi : route.locations[i]? = some city) :
    ∃ t, s.stops[i]? = some (ScheduledStop.mk city t) := by
  have hl := RoutePlan.locations_schedule hs
  unfold locations at hi
  rw [← hl, List.getElem?_map, Option.map_eq_some_iff] at hi
  obtain ⟨a, ha, rfl⟩ := hi
  exact ⟨a.arrivalAt, ha⟩

/-- A scheduled stop is a stop of the route at the same position. -/
theorem getElem?_locations {s : RouteSchedule} (hs : route.plan.schedule? = some s) {i : Nat}
    {a : ScheduledStop} (ha : s.stops[i]? = some a) : route.locations[i]? = some a.location := by
  unfold locations
  rw [← RoutePlan.locations_schedule hs, List.getElem?_map, ha, Option.map_some]

/-- The first scheduled stop is the start location. -/
theorem location_firstStop {s : RouteSchedule} (hs : route.plan.schedule? = some s) :
    s.firstStop.location = route.startLocation := by
  have h := getElem?_locations hs RouteSchedule.getElem?_firstStop
  unfold startLocation RoutePath.start
  unfold locations at h
  rw [List.head_eq_getElem]
  exact ((List.getElem?_eq_some_iff.mp h).2).symm

/-- The last scheduled stop is the end location. -/
theorem location_lastStop {s : RouteSchedule} (hs : route.plan.schedule? = some s) :
    s.lastStop.location = route.endLocation := by
  have h := getElem?_locations hs RouteSchedule.getElem?_lastStop
  have hlen := congrArg List.length (RoutePlan.locations_schedule hs)
  rw [List.length_map] at hlen
  unfold endLocation RoutePath.end_
  unfold locations at h
  rw [List.getLast_eq_getElem]
  simp only [hlen] at h
  exact ((List.getElem?_eq_some_iff.mp h).2).symm

end DeliveryRoute
end FleetFlow
