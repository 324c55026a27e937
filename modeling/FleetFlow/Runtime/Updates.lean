import FleetFlow.Runtime.Ledger
import FleetFlow.Runtime.UseCases

/-!
# What a command can do to the world

The elementary changes that commands are made of, each with the domain call that made it and the
events it appended to one buffer. Every invariant of a run is derived from these cases; a
command never has to be unfolded again.
-/

namespace FleetFlow

/-- Events carried along for an object that is no longer stored. -/
def EventRecorder.removed? : EventRecorder → Option (List DomainEvent)
  | .removed events => some events
  | _ => none

namespace World

/-- The buffer of a stored route or package that a change appends to. -/
inductive Focus where
  | route (routeId : Int)
  | package (packageId : Int)
deriving DecidableEq, Repr

/-- Buffered events of a stored object, none where there is no object. -/
def buffer (w : World) : Focus → List DomainEvent
  | .route r => ((w.routes.find? r).map DeliveryRoute.pendingEvents).getD []
  | .package p => ((w.packages.find? p).map DeliveryPackage.pendingEvents).getD []

/-- An elementary change, with what it appended to the buffer in focus. -/
inductive Update (u : UnicodeTables) : Focus → World → List DomainEvent → World → Prop
  | contacts {focus : Focus} {w w' : World} (hroutes : w'.routes = w.routes)
      (hpackages : w'.packages = w.packages) (htrucks : w'.trucks = w.trucks) : Update u focus w [] w'
  | createPackage {w w' : World} {start end_ : LocationCode} {weight : PyFloat} {customer : Int}
      {now : Datetime} {package : DeliveryPackage}
      (hcreate : DeliveryPackage.create start end_ weight customer w.nextPackageId now = .ok package)
      (hnew : w.packages.find? package.packageId = none) (hroutes : w'.routes = w.routes)
      (hpackages : w'.packages = w.packages.put package) (htrucks : w'.trucks = w.trucks) :
      Update u (.package package.packageId) w package.pendingEvents w'
  | createRoute {w : World} {locations : List String} {departureTime : Option Datetime}
      {now : Datetime} {route : DeliveryRoute} {next : Int}
      (hcreate : DeliveryRoute.create u locations departureTime w.nextRouteId now = .ok route)
      (hnew : w.routes.find? route.routeId = none) :
      Update u (.route route.routeId) w route.pendingEvents
        { w with routes := w.routes.put route, nextRouteId := next }
  | scheduleRoute {w : World} {route route' : DeliveryRoute} {t : Datetime} {es : List DomainEvent}
      (hr : w.routes.find? route.routeId = some route) (hnone : route.truck = none)
      (hschedule : route.schedule t t = .ok route')
      (hes : route'.pendingEvents = route.pendingEvents ++ es) :
      Update u (.route route.routeId) w es (w.putRoute route')
  | linkTruck {w : World} {route route' : DeliveryRoute} {truck truck' : Truck} {t : Datetime}
      {es : List DomainEvent} (hr : w.routes.find? route.routeId = some route)
      (ht : w.trucks.find? truck.vehicleId = some truck) (hidle : truck.inTransitTo = none)
      (hassign : route.assignTruck truck t = .ok (route', truck'))
      (hes : route'.pendingEvents = route.pendingEvents ++ es) :
      Update u (.route route.routeId) w es ((w.putRoute route').putTruck truck')
  | linkPackage {w : World} {route route' : DeliveryRoute} {package package' : DeliveryPackage}
      {t : Datetime} {es : List DomainEvent} (hr : w.routes.find? route.routeId = some route)
      (hp : w.packages.find? package.packageId = some package) (hnone : package.route = none)
      (hnew : package.packageId ∉ route.packages)
      (hassign : route.assignPackage (w.packagesOf route) (w.truckOf route) package t t =
        .ok (route', package')) (hes : route'.pendingEvents = route.pendingEvents ++ es) :
      Update u (.route route.routeId) w es ((w.putRoute route').putPackage package')
  | unlinkPackage {w : World} {route route' : DeliveryRoute} {package package' : DeliveryPackage}
      {reason : PackageDetachmentReason} {t : Datetime} {es : List DomainEvent}
      (hr : w.routes.find? route.routeId = some route)
      (hp : w.packages.find? package.packageId = some package)
      (hmem : package.packageId ∈ route.packages) (hlink : package.route = some route.routeId)
      (hdetach : route.detachPackage package reason t = .ok (route', package'))
      (hes : route'.pendingEvents = route.pendingEvents ++ es) :
      Update u (.route route.routeId) w es ((w.putRoute route').putPackage package')
  | unlinkTruck {w : World} {route route' : DeliveryRoute} {truck truck' : Truck} {now t : Datetime}
      {reason : TruckReleaseReason} {location : LocationCode} {es : List DomainEvent}
      (hr : w.routes.find? route.routeId = some route)
      (ht : w.trucks.find? truck.vehicleId = some truck)
      (hlink : route.truck = some truck.vehicleId) (hloc : truck.currentLocation = some location)
      (hrelease : route.releaseTruck (some truck) (some route) now true reason t =
        .ok (route', some truck', true))
      (hes : route'.pendingEvents = route.pendingEvents ++ es) :
      Update u (.route route.routeId) w es ((w.putRoute route').putTruck truck')

/-- Any number of changes that append to one buffer. -/
inductive Updates (u : UnicodeTables) (focus : Focus) : World → List DomainEvent → World → Prop
  | refl {w : World} : Updates u focus w [] w
  | snoc {w w1 w2 : World} {es es' : List DomainEvent} (h : Updates u focus w es w1)
      (hstep : Update u focus w1 es' w2) : Updates u focus w (es ++ es') w2

/-- The removal of an object that nothing refers to, with its last event. -/
inductive Removal : World → Focus → DomainEvent → World → Prop
  | package {w w' : World} {package : DeliveryPackage} {event : PackageRemoved}
      (hp : w.packages.find? package.packageId = some package) (hnone : package.route = none)
      (hevent : event.packageId = package.packageId) (hroutes : w'.routes = w.routes)
      (hpackages : w'.packages = w.packages.remove package.packageId)
      (htrucks : w'.trucks = w.trucks) :
      Removal w (.package package.packageId) (.packageRemoved event) w'
  | route {w w' : World} {route : DeliveryRoute} {event : RouteRemoved}
      (hr : w.routes.find? route.routeId = some route) (ht : route.truck = none)
      (hp : route.packages = []) (hevent : event.routeId = route.routeId)
      (hroutes : w'.routes = w.routes.remove route.routeId) (hpackages : w'.packages = w.packages)
      (htrucks : w'.trucks = w.trucks) :
      Removal w (.route route.routeId) (.routeRemoved event) w'

/-- One change is a run of changes. -/
theorem Update.updates {u : UnicodeTables} {focus : Focus} {w w' : World} {es : List DomainEvent}
    (h : Update u focus w es w') : Updates u focus w es w' :=
  Updates.refl.snoc h

/-- Runs of changes to one buffer compose. -/
theorem Updates.trans {u : UnicodeTables} {focus : Focus} {w w1 w2 : World}
    {es es' : List DomainEvent} (h : Updates u focus w es w1) (h' : Updates u focus w1 es' w2) :
    Updates u focus w (es ++ es') w2 := by
  induction h' with
  | refl => simpa using h
  | snoc _ hstep ih => rw [← List.append_assoc]; exact ih.snoc hstep

/-! ### Buffers -/

section Buffers

variable {w : World} {focus : Focus}

@[simp] theorem buffer_putRoute (route : DeliveryRoute) : (w.putRoute route).buffer focus =
    if focus = .route route.routeId then route.pendingEvents else w.buffer focus := by
  cases focus with
  | route r =>
    by_cases h : r = route.routeId
    · subst h
      simp [buffer]
    · simp [buffer, h, Ne.symm h]
  | package p => simp [buffer]

@[simp] theorem buffer_putPackage (package : DeliveryPackage) :
    (w.putPackage package).buffer focus =
      if focus = .package package.packageId then package.pendingEvents else w.buffer focus := by
  cases focus with
  | route r => simp [buffer]
  | package p =>
    by_cases h : p = package.packageId
    · subst h
      simp [buffer]
    · simp [buffer, h, Ne.symm h]

@[simp] theorem buffer_putTruck (truck : Truck) : (w.putTruck truck).buffer focus = w.buffer focus := by
  cases focus <;> rfl

theorem buffer_congr {w' : World} (hroutes : w'.routes = w.routes)
    (hpackages : w'.packages = w.packages) : w'.buffer focus = w.buffer focus := by
  cases focus
  · simp [buffer, hroutes]
  · simp [buffer, hpackages]

end Buffers

/-! ### What a change records -/

variable {u : UnicodeTables} {focus : Focus} {w w' : World} {es : List DomainEvent}

/-- A change appends its events to the buffer in focus and leaves all others alone. -/
theorem Update.buffer_eq (h : Update u focus w es w') : w'.buffer focus = w.buffer focus ++ es ∧
    ∀ other, other ≠ focus → w'.buffer other = w.buffer other := by
  cases h with
  | contacts hroutes hpackages htrucks =>
    simp [buffer_congr hroutes hpackages]
  | createPackage hcreate hnew hroutes hpackages htrucks =>
    rename_i package
    have hput : ∀ focus, w'.buffer focus = (w.putPackage package).buffer focus :=
      fun _ ↦ buffer_congr hroutes hpackages
    have hempty : w.buffer (.package package.packageId) = [] := by simp [buffer, hnew]
    exact ⟨by simp [hput, hempty], fun other hne ↦ by simp [hput, hne]⟩
  | createRoute hcreate hnew =>
    rename_i route next
    have hput : ∀ focus, World.buffer { w with
        routes := w.routes.put route, nextRouteId := next } focus = (w.putRoute route).buffer focus :=
      fun _ ↦ buffer_congr rfl rfl
    have hempty : w.buffer (.route route.routeId) = [] := by simp [buffer, hnew]
    exact ⟨by simp [hput, hempty], fun other hne ↦ by simp [hput, hne]⟩
  | scheduleRoute hr hnone hschedule hes =>
    rename_i route route' t
    obtain ⟨-, plan, s, -, -, -, rfl⟩ := DeliveryRoute.schedule_eq_ok_iff.mp hschedule
    have hold : w.buffer (.route route.routeId) = route.pendingEvents := by simp [buffer, hr]
    exact ⟨by simpa [hold] using hes, fun other hne ↦ by simp [hne]⟩
  | linkTruck hr ht hidle hassign hes =>
    rename_i route route' truck truck' t
    obtain ⟨-, -, rfl, events, rfl⟩ := DeliveryRoute.assignTruck_eq_ok hassign
    have hold : w.buffer (.route route.routeId) = route.pendingEvents := by simp [buffer, hr]
    exact ⟨by simpa [hold] using hes, fun other hne ↦ by simp [hne]⟩
  | linkPackage hr hp hnone hnew hassign hes =>
    rename_i route route' package package' t
    obtain ⟨-, ⟨arrival, rfl⟩, events, rfl⟩ := DeliveryRoute.assignPackage_eq_ok hnew hassign
    have hold : w.buffer (.route route.routeId) = route.pendingEvents := by simp [buffer, hr]
    have holdp : w.buffer (.package package.packageId) = package.pendingEvents := by simp [buffer, hp]
    refine ⟨by simpa [hold] using hes, fun other hne ↦ ?_⟩
    simp only [buffer_putPackage, buffer_putRoute, if_neg hne, DeliveryPackage.setRoute]
    split
    · next hother => rw [hother, holdp]
    · rfl
  | unlinkPackage hr hp hmem hlink hdetach hes =>
    rename_i route route' package package' reason t
    obtain ⟨events, hdetached⟩ := DeliveryRoute.detachPackage_eq_ok hmem hlink reason t
    rw [hdetach, Except.ok.injEq, Prod.mk.injEq] at hdetached
    obtain ⟨rfl, rfl⟩ := hdetached
    have hold : w.buffer (.route route.routeId) = route.pendingEvents := by simp [buffer, hr]
    have holdp : w.buffer (.package package.packageId) = package.pendingEvents := by simp [buffer, hp]
    refine ⟨by simpa [hold] using hes, fun other hne ↦ ?_⟩
    simp only [buffer_putPackage, buffer_putRoute, if_neg hne, DeliveryPackage.resetAssignmentState,
      DeliveryPackage.setRoute]
    split
    · next hother => rw [hother, holdp]
    · rfl
  | unlinkTruck hr ht hlink hloc hrelease hes =>
    rename_i route route' truck truck' now t reason location
    obtain ⟨events, hreleased⟩ :=
      @DeliveryRoute.releaseTruck_eq_ok route truck route location hloc now reason t
    rw [hrelease, Except.ok.injEq, Prod.mk.injEq] at hreleased
    obtain ⟨rfl, -⟩ := hreleased
    have hold : w.buffer (.route route.routeId) = route.pendingEvents := by simp [buffer, hr]
    exact ⟨by simpa [hold] using hes, fun other hne ↦ by simp [hne]⟩

/-- Changes append their events to the buffer in focus and leave all others alone. -/
theorem Updates.buffer_eq (h : Updates u focus w es w') :
    w'.buffer focus = w.buffer focus ++ es ∧
      ∀ other, other ≠ focus → w'.buffer other = w.buffer other := by
  induction h with
  | refl => simp
  | snoc _ hstep ih =>
    obtain ⟨h1, h2⟩ := ih
    obtain ⟨h3, h4⟩ := hstep.buffer_eq
    exact ⟨by rw [h3, h1, List.append_assoc], fun other hne ↦ (h4 other hne).trans (h2 other hne)⟩

/-- Replaying the events of a change gives the account of the changed world. -/
theorem Update.replay (h : Update u focus w es w') :
    w.ledger.replay (es.map .domain) = w'.ledger := by
  cases h with
  | contacts hroutes hpackages htrucks => exact (ledger_congr hroutes hpackages htrucks).symm
  | createPackage hcreate hnew hroutes hpackages htrucks =>
    rename_i start end_ weight customer now package
    have hput : w'.ledger = (w.putPackage package).ledger := ledger_congr hroutes hpackages htrucks
    rw [hput, ledger_putPackage]
    simp only [DeliveryPackage.create, except_bind_eq_ok_iff, Except.ok.injEq] at hcreate
    obtain ⟨p, hp, rfl⟩ := hcreate
    obtain ⟨h1, -, -, -, -, h6, -, -, -, -, hempty⟩ := DeliveryPackage.new_eq_ok hp
    simp only [DeliveryPackage.recordEvent, hempty, List.nil_append, List.map_singleton,
      Ledger.replay_cons, Ledger.replay_nil, Ledger.apply, Ledger.applyDomain, DeliveryPackage.view, h6]
    rfl
  | createRoute hcreate hnew =>
    rename_i locations departureTime now route next
    have hput : World.ledger { w with routes := w.routes.put route, nextRouteId := next } =
        (w.putRoute route).ledger := ledger_congr rfl rfl rfl
    rw [hput, ledger_putRoute]
    simp only [DeliveryRoute.create, except_bind_eq_ok_iff, DeliveryRoute.new_eq_ok_iff,
      Except.ok.injEq] at hcreate
    obtain ⟨-, -, -, -, r, ⟨-, -, -, ht, hp, -, hempty⟩, rfl⟩ := hcreate
    simp only [DeliveryRoute.recordEvent, hempty, List.nil_append, List.map_singleton,
      Ledger.replay_cons, Ledger.replay_nil, Ledger.apply, Ledger.applyDomain, DeliveryRoute.view,
      ht, hp]
    rfl
  | scheduleRoute hr hnone hschedule hes =>
    rename_i route route' t
    obtain ⟨-, plan, s, -, hs, rfl, rfl⟩ := DeliveryRoute.schedule_eq_ok_iff.mp hschedule
    obtain rfl := List.append_cancel_left hes
    rw [ledger_putRoute]
    simp only [List.map_singleton, Ledger.replay_cons, Ledger.replay_nil, Ledger.apply,
      Ledger.applyDomain]
    rw [Ledger.editRoute_eq (ledger_route hr)]
    simp [DeliveryRoute.view, DeliveryRoute.departureTime, RoutePlan.departureTime, hs]
  | linkTruck hr ht hidle hassign hes =>
    rename_i route route' truck truck' t
    simp only [DeliveryRoute.assignTruck, require_bind_eq_ok_iff] at hassign
    obtain ⟨-, -, hassign⟩ := hassign
    cases hl : truck.currentLocation with
    | none =>
      rw [hl] at hassign
      cases hassign
    | some location =>
      rw [hl] at hassign
      simp only [Except.ok.injEq, Prod.mk.injEq] at hassign
      obtain ⟨rfl, rfl⟩ := hassign
      obtain rfl := List.append_cancel_left hes
      rw [ledger_putTruck, ledger_putRoute]
      simp only [List.map_singleton, Ledger.replay_cons, Ledger.replay_nil, Ledger.apply,
        Ledger.applyDomain]
      rw [Ledger.editRoute_editTruck (ledger_route hr) (ledger_truck ht)]
      simp only [Truck.view, Truck.assign, hl, hidle]
      rfl
  | linkPackage hr hp hnone hnew hassign hes =>
    rename_i route route' package package' t
    unfold DeliveryRoute.assignPackage DeliveryRoute.hasPackage at hassign
    rw [if_neg (by simpa using hnew), except_bind_eq_ok_iff] at hassign
    obtain ⟨message, -, hassign⟩ := hassign
    cases message with
    | some message => cases hassign
    | none =>
      simp only [except_bind_eq_ok_iff, Except.ok.injEq, Prod.mk.injEq] at hassign
      obtain ⟨linked, hlinked, rfl, rfl⟩ := hassign
      obtain rfl := List.append_cancel_left hes
      rw [ledger_putPackage, ledger_putRoute]
      simp only [List.map_singleton, Ledger.replay_cons, Ledger.replay_nil, Ledger.apply,
        Ledger.applyDomain]
      rw [Ledger.editRoute_editPackage (ledger_route hr) (ledger_package hp)]
      have hkept : linked = { package.setRoute (some route.routeId) with
          expectedArrival := linked.expectedArrival } := by
        unfold DeliveryRoute.updateExpectedArrival at hlinked
        split at hlinked
        · rw [← Except.ok.inj hlinked]
        · simp only [except_bind_eq_ok_iff, Except.ok.injEq] at hlinked
          obtain ⟨arrival, -, rfl⟩ := hlinked
          rfl
      rw [hkept]
      rfl
  | unlinkPackage hr hp hmem hlink hdetach hes =>
    rename_i route route' package package' reason t
    unfold DeliveryRoute.detachPackage at hdetach
    rw [if_pos hmem, hlink] at hdetach
    simp only [Except.ok.injEq, Prod.mk.injEq] at hdetach
    obtain ⟨rfl, rfl⟩ := hdetach
    obtain rfl := List.append_cancel_left hes
    rw [ledger_putPackage, ledger_putRoute]
    simp only [List.map_singleton, Ledger.replay_cons, Ledger.replay_nil, Ledger.apply,
      Ledger.applyDomain]
    rw [Ledger.editRoute_editPackage (ledger_route hr) (ledger_package hp)]
    rfl
  | unlinkTruck hr ht hlink hloc hrelease hes =>
    rename_i route route' truck truck' now t reason location
    unfold DeliveryRoute.releaseTruck Truck.release at hrelease
    simp only [hloc, Bool.true_or, if_true, Truck.free, Except.ok.injEq, Prod.mk.injEq,
      Option.some.injEq, and_true] at hrelease
    obtain ⟨rfl, rfl⟩ := hrelease
    obtain rfl := List.append_cancel_left hes
    rw [ledger_putTruck, ledger_putRoute]
    simp only [List.map_singleton, Ledger.replay_cons, Ledger.replay_nil, Ledger.apply,
      Ledger.applyDomain]
    rw [Ledger.editRoute_editTruck (ledger_route hr) (ledger_truck ht)]
    rfl

/-- Replaying the events of changes gives the account of the changed world. -/
theorem Updates.replay (h : Updates u focus w es w') :
    w.ledger.replay (es.map .domain) = w'.ledger := by
  induction h with
  | refl => rfl
  | snoc _ hstep ih => rw [List.map_append, Ledger.replay_append, ih, hstep.replay]

/-- Replaying the last event of a removed object strikes it out. -/
theorem Removal.replay {event : DomainEvent} (h : Removal w focus event w') :
    w.ledger.replay [.domain event] = w'.ledger := by
  cases h with
  | package hp hnone hevent hroutes hpackages htrucks =>
    rename_i package event
    ext1
    · funext p
      by_cases hpid : package.packageId = p
      · subst hpid
        simp [Ledger.apply, Ledger.applyDomain, Ledger.dropPackage, hevent, ledger, hpackages]
      · simp [Ledger.apply, Ledger.applyDomain, Ledger.dropPackage, hevent, ledger, hpackages, hpid,
          Function.update_of_ne (Ne.symm hpid)]
    · simp [Ledger.apply, Ledger.applyDomain, Ledger.dropPackage, ledger, hroutes]
    · simp [Ledger.apply, Ledger.applyDomain, Ledger.dropPackage, ledger, htrucks]
  | route hr ht hp hevent hroutes hpackages htrucks =>
    rename_i route event
    ext1
    · simp [Ledger.apply, Ledger.applyDomain, Ledger.dropRoute, ledger, hpackages]
    · funext r
      by_cases hrid : route.routeId = r
      · subst hrid
        simp [Ledger.apply, Ledger.applyDomain, Ledger.dropRoute, hevent, ledger, hroutes]
      · simp [Ledger.apply, Ledger.applyDomain, Ledger.dropRoute, hevent, ledger, hroutes, hrid,
          Function.update_of_ne (Ne.symm hrid)]
    · simp [Ledger.apply, Ledger.applyDomain, Ledger.dropRoute, ledger, htrucks]

/-! ### What a whole command does -/

/-- The effect of a command: changes that append to one buffer, after which an object that nothing
refers to any more may be removed. Its events are then the removed ones to drain. -/
inductive Effect (u : UnicodeTables) (w : World) : Option Focus → List EventRecorder → World → Prop
  | updates {focus : Focus} {es : List DomainEvent} {recorders : List EventRecorder} {w' : World}
      (h : Updates u focus w es w') (hrec : recorders.filterMap EventRecorder.removed? = []) :
      Effect u w none recorders w'
  | removal {focus gone : Focus} {es : List DomainEvent} {event : DomainEvent}
      {recorders : List EventRecorder} {w1 w' : World} (h : Updates u focus w es w1)
      (hdrop : Removal w1 gone event w')
      (hrec : recorders.filterMap EventRecorder.removed? = [w1.buffer gone ++ [event]]) :
      Effect u w (some gone) recorders w'

end World
end FleetFlow
