import FleetFlow.Runtime.Updates

/-!
# When the events of a command occurred

Every domain call of a command records one event, which occurred at the instant of the command.
-/

namespace FleetFlow

/-- When an event occurred. -/
def DomainEvent.occurredAt : DomainEvent → Datetime
  | .customerCreated e => e.occurredAt
  | .packageCreated e => e.occurredAt
  | .packageRemoved e => e.occurredAt
  | .packagePickedUp e | .packageDelivered e => e.occurredAt
  | .routeCreated e => e.occurredAt
  | .routeScheduled e => e.occurredAt
  | .routeStarted e => e.occurredAt
  | .routeCompleted e => e.occurredAt
  | .routeRemoved e => e.occurredAt
  | .packageAssignedToRoute e => e.occurredAt
  | .packageDetachedFromRoute e => e.occurredAt
  | .truckAssignedToRoute e => e.occurredAt
  | .truckReleasedFromRoute e => e.occurredAt

/-- An event that a command may record at an instant: it occurred then, and trucks are assigned only
as the command admits. -/
def DomainEvent.At (now : Datetime) (links : TruckAssignedToRoute → Prop) (e : DomainEvent) : Prop :=
  e.occurredAt = now ∧ ∀ assigned, e = .truckAssignedToRoute assigned → links assigned

/-- All events may be recorded at an instant. -/
def EventsAt (now : Datetime) (links : TruckAssignedToRoute → Prop) (es : List DomainEvent) : Prop :=
  ∀ e ∈ es, e.At now links

section EventsAt

variable {now : Datetime} {links : TruckAssignedToRoute → Prop} {es es' : List DomainEvent}

@[simp] theorem eventsAt_nil : EventsAt now links [] := by simp [EventsAt]

@[simp] theorem eventsAt_singleton {e : DomainEvent} : EventsAt now links [e] ↔ e.At now links := by
  simp [EventsAt]

@[simp] theorem eventsAt_append :
    EventsAt now links (es ++ es') ↔ EventsAt now links es ∧ EventsAt now links es' := by
  simp [EventsAt, or_imp, forall_and]

end EventsAt

/-! ### What each domain call records -/

/-- A new package has recorded its creation. -/
theorem DeliveryPackage.create_events {startLocation endLocation : LocationCode} {weight : PyFloat}
    {customer packageId : Int} {now : Datetime} {package : DeliveryPackage}
    (h : create startLocation endLocation weight customer packageId now = .ok package) :
    ∃ e : PackageCreated, package.pendingEvents = [.packageCreated e] ∧ e.occurredAt = now := by
  simp only [create, except_bind_eq_ok_iff, Except.ok.injEq] at h
  obtain ⟨p, hp, rfl⟩ := h
  obtain ⟨-, -, -, -, -, -, -, -, -, -, hempty⟩ := new_eq_ok hp
  simp [recordEvent, hempty]

namespace DeliveryRoute

variable {route route' : DeliveryRoute} {t : Datetime} {es : List DomainEvent}

/-- A new route has recorded its creation. -/
theorem create_events {u : UnicodeTables} {locations : List String}
    {departureTime : Option Datetime} {routeId : Int}
    (h : create u locations departureTime routeId t = .ok route) :
    ∃ e : RouteCreated, route.pendingEvents = [.routeCreated e] ∧ e.occurredAt = t := by
  simp only [create, except_bind_eq_ok_iff, new_eq_ok_iff, Except.ok.injEq] at h
  obtain ⟨-, -, -, -, r, ⟨-, -, -, -, -, -, hempty⟩, rfl⟩ := h
  simp [recordEvent, hempty]

/-- Scheduling records one event. -/
theorem schedule_events {departureTime : Datetime} (h : route.schedule departureTime t = .ok route')
    (hes : route'.pendingEvents = route.pendingEvents ++ es) :
    ∃ e : RouteScheduled, es = [.routeScheduled e] ∧ e.occurredAt = t := by
  obtain ⟨-, plan, s, -, -, -, rfl⟩ := schedule_eq_ok_iff.mp h
  exact ⟨_, (List.append_cancel_left hes).symm, rfl⟩

/-- Linking a truck records one event. -/
theorem assignTruck_events {truck truck' : Truck} (h : route.assignTruck truck t = .ok (route', truck'))
    (hes : route'.pendingEvents = route.pendingEvents ++ es) :
    ∃ e : TruckAssignedToRoute, es = [.truckAssignedToRoute e] ∧ e.truckId = truck.vehicleId ∧
      e.newRouteId = route.routeId ∧ e.newBusyUntil = route.etaFinal ∧ e.occurredAt = t := by
  simp only [assignTruck, require_bind_eq_ok_iff] at h
  obtain ⟨-, -, h⟩ := h
  split at h
  · cases h
  · simp only [Except.ok.injEq, Prod.mk.injEq] at h
    obtain ⟨rfl, rfl⟩ := h
    exact ⟨_, (List.append_cancel_left hes).symm, rfl, rfl, rfl, rfl⟩

/-- Linking a package records one event. -/
theorem assignPackage_events {routePackages : List DeliveryPackage} {truck : Option Truck}
    {package package' : DeliveryPackage} {now : Datetime} (hnew : package.packageId ∉ route.packages)
    (h : route.assignPackage routePackages truck package now t = .ok (route', package'))
    (hes : route'.pendingEvents = route.pendingEvents ++ es) :
    ∃ e : PackageAssignedToRoute, es = [.packageAssignedToRoute e] ∧
      e.packageId = package.packageId ∧ e.newRouteId = route.routeId ∧ e.occurredAt = t := by
  unfold assignPackage hasPackage at h
  rw [if_neg (by simpa using hnew), except_bind_eq_ok_iff] at h
  obtain ⟨message, -, h⟩ := h
  cases message with
  | some message => cases h
  | none =>
    simp only [except_bind_eq_ok_iff, Except.ok.injEq, Prod.mk.injEq] at h
    obtain ⟨linked, -, rfl, rfl⟩ := h
    exact ⟨_, (List.append_cancel_left hes).symm, rfl, rfl, rfl⟩

/-- Detaching a package records one event. -/
theorem detachPackage_events {package package' : DeliveryPackage} {reason : PackageDetachmentReason}
    (h : route.detachPackage package reason t = .ok (route', package'))
    (hes : route'.pendingEvents = route.pendingEvents ++ es) :
    ∃ e : PackageDetachedFromRoute, es = [.packageDetachedFromRoute e] ∧
      e.packageId = package.packageId ∧ e.occurredAt = t := by
  unfold detachPackage at h
  split at h
  · split at h
    · cases h
    · simp only [Except.ok.injEq, Prod.mk.injEq] at h
      obtain ⟨rfl, rfl⟩ := h
      exact ⟨_, (List.append_cancel_left hes).symm, rfl, rfl⟩
  · cases h

/-- Releasing a truck by force records one event. -/
theorem releaseTruck_events {truck truck' : Truck} {now : Datetime} {reason : TruckReleaseReason}
    {location : LocationCode} (hloc : truck.currentLocation = some location)
    (h : route.releaseTruck (some truck) (some route) now true reason t =
      .ok (route', some truck', true)) (hes : route'.pendingEvents = route.pendingEvents ++ es) :
    ∃ e : TruckReleasedFromRoute, es = [.truckReleasedFromRoute e] ∧
      e.truckId = truck.vehicleId ∧ e.previousRouteId = route.routeId ∧ e.occurredAt = t := by
  unfold releaseTruck Truck.release at h
  simp only [hloc, Bool.true_or, if_true, Truck.free, Except.ok.injEq, Prod.mk.injEq,
    Option.some.injEq, and_true] at h
  obtain ⟨rfl, rfl⟩ := h
  exact ⟨_, (List.append_cancel_left hes).symm, rfl, rfl, rfl⟩

end DeliveryRoute

namespace World

/-- Changes whose events may be recorded at one instant. -/
def UpdatesAt (u : UnicodeTables) (now : Datetime) (links : TruckAssignedToRoute → Prop)
    (focus : Focus) (w : World) (es : List DomainEvent) (w' : World) : Prop :=
  Updates u focus w es w' ∧ EventsAt now links es

variable {u : UnicodeTables} {now : Datetime} {links : TruckAssignedToRoute → Prop} {focus : Focus}
  {w w1 w' : World} {es es' : List DomainEvent}

/-- No change. -/
theorem UpdatesAt.refl : UpdatesAt u now links focus w [] w := ⟨.refl, eventsAt_nil⟩

/-- One change. -/
theorem Update.updatesAt (h : Update u focus w es w') (hes : EventsAt now links es) :
    UpdatesAt u now links focus w es w' :=
  ⟨h.updates, hes⟩

/-- Changes in a row. -/
theorem UpdatesAt.trans (h : UpdatesAt u now links focus w es w1)
    (h' : UpdatesAt u now links focus w1 es' w') : UpdatesAt u now links focus w (es ++ es') w' :=
  ⟨h.1.trans h'.1, eventsAt_append.mpr ⟨h.2, h'.2⟩⟩

/-- The effect of a command at an instant. -/
inductive EffectAt (u : UnicodeTables) (now : Datetime) (links : TruckAssignedToRoute → Prop)
    (w : World) : Option Focus → List EventRecorder → World → Prop
  | updates {focus : Focus} {es : List DomainEvent} {recorders : List EventRecorder} {w' : World}
      (h : UpdatesAt u now links focus w es w')
      (hrec : recorders.filterMap EventRecorder.removed? = []) : EffectAt u now links w none recorders w'
  | removal {focus gone : Focus} {es : List DomainEvent} {event : DomainEvent}
      {recorders : List EventRecorder} {w1 w' : World} (h : UpdatesAt u now links focus w es w1)
      (hdrop : Removal w1 gone event w') (hevent : event.occurredAt = now)
      (hrec : recorders.filterMap EventRecorder.removed? = [w1.buffer gone ++ [event]]) :
      EffectAt u now links w (some gone) recorders w'

/-- A command that changed nothing. -/
theorem EffectAt.refl : EffectAt u now links w none [] w :=
  .updates (@UpdatesAt.refl u now links (.route 0) w) rfl

/-- The effect of a command, whenever it occurred. -/
theorem EffectAt.effect {gone : Option Focus} {recorders : List EventRecorder}
    (h : EffectAt u now links w gone recorders w') : w.Effect u gone recorders w' := by
  cases h with
  | updates h hrec => exact .updates h.1 hrec
  | removal h hdrop _ hrec => exact .removal h.1 hdrop hrec

end World
end FleetFlow
