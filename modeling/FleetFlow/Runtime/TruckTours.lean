import FleetFlow.Runtime.Chronicle

/-!
# What becomes of a truck

The assignments and releases of one truck, in the order of their record. A truck is assigned at the
instant of the command and released at the final ETA of its route or when the route is removed;
the order of these times rests on the final ETA of a route that gets a truck.
-/

namespace FleetFlow

open Program

/-- An assignment or a release of a truck. -/
inductive TruckMoment where
  | assigned (routeId : Int) (occurredAt : Datetime)
  | released (routeId : Int) (occurredAt : Datetime)
deriving DecidableEq, Repr

namespace TruckMoment

/-- When a moment occurred. -/
def occurredAt : TruckMoment → Datetime
  | assigned _ t | released _ t => t

/-- Assignments and releases alternate, from an assignment on, and never go back in time. -/
def Next : Option TruckMoment → TruckMoment → Prop
  | none, assigned _ _ => True
  | some (assigned r t), released r' t' => r' = r ∧ t ≤ t'
  | some (released _ t), assigned _ t' => t ≤ t'
  | _, _ => False

end TruckMoment

/-- The moment of a truck that an event records, if it records one. -/
def DomainEvent.truckMoment? (t : Int) : DomainEvent → Option TruckMoment
  | .truckAssignedToRoute e =>
    if e.truckId = t then some (.assigned e.newRouteId e.occurredAt) else none
  | .truckReleasedFromRoute e =>
    if e.truckId = t then some (.released e.previousRouteId e.occurredAt) else none
  | _ => none

/-- The moments of a truck in a record. -/
def truckTour (t : Int) (log : List Note) : List TruckMoment :=
  moments (fun _ e ↦ e.truckMoment? t) log

/-- Every truck assignment is made in time: the route has no departure yet, or its final ETA is not
over. -/
def Operation.InTime (w : World) (now : Datetime) : Operation → Prop
  | .assignTruck _ routeId _ =>
    ∀ route ∈ w.routes.find? routeId, ∀ eta ∈ route.etaFinal, now ≤ eta
  | _ => True

namespace World

variable {u : UnicodeTables} {allowed : Option LocationCode → Prop} {clock : Option Datetime}
  {w w' : World} {now : Datetime} {t : Int} {last : Option TruckMoment}

/-- A stored route that has a given truck. -/
def Holds (w : World) (t r : Int) (route : DeliveryRoute) : Prop :=
  w.routes.find? r = some route ∧ route.truck = some t

/-- What the last moment of a truck tells about it. -/
structure TruckTold (t : Int) (clock : Option Datetime) (w : World) (last : Option TruckMoment) :
    Prop where
  past : ∀ m ∈ last, ∃ c ∈ clock, m.occurredAt ≤ c
  held : ∀ r route, w.Holds t r route →
    ∃ truck, w.trucks.find? t = some truck ∧ truck.route = some r
  linked : ∀ truck r, w.trucks.find? t = some truck → truck.route = some r →
    ∃ t0 route, last = some (.assigned r t0) ∧ w.Holds t r route ∧
      ∀ eta ∈ route.etaFinal, t0 ≤ eta
  free : ∀ truck, w.trucks.find? t = some truck → truck.route = none →
    last = none ∨ ∃ r t0, last = some (.released r t0)

/-- A change that leaves alone the link of the truck and the final ETA of its route. -/
structure SameTour (t : Int) (w w' : World) : Prop where
  trucks : (w'.trucks.find? t).map Truck.route = (w.trucks.find? t).map Truck.route
  forward : ∀ r route, w.Holds t r route →
    ∃ route', w'.Holds t r route' ∧ route'.etaFinal = route.etaFinal
  backward : ∀ r route', w'.Holds t r route' → ∃ route, w.Holds t r route

/-- The truck before such a change. -/
theorem SameTour.truck_before (h : SameTour t w w') {truck : Truck}
    (ht : w'.trucks.find? t = some truck) :
    ∃ old, w.trucks.find? t = some old ∧ old.route = truck.route := by
  rw [← Option.map_eq_some_iff, ← h.trucks, ht]
  rfl

/-- What has been told stays told while the tour goes on. -/
theorem SameTour.told (h : SameTour t w w') (hw : w.TruckTold t clock last) :
    w'.TruckTold t clock last := by
  constructor
  · exact hw.past
  · intro r route' hroute'
    obtain ⟨route, hroute⟩ := h.backward r route' hroute'
    rw [← Option.map_eq_some_iff, h.trucks, Option.map_eq_some_iff]
    exact hw.held r route hroute
  · intro truck r ht hlink
    obtain ⟨old, hold, hsame⟩ := h.truck_before ht
    obtain ⟨t0, route, hlast, hroute, heta⟩ := hw.linked old r hold (hsame.trans hlink)
    obtain ⟨route', hroute', hsame⟩ := h.forward r route hroute
    exact ⟨t0, route', hlast, hroute', hsame ▸ heta⟩
  · intro truck ht hnone
    obtain ⟨old, hold, hsame⟩ := h.truck_before ht
    exact hw.free old hold (hsame.trans hnone)

/-- What has been told stays told as time passes. -/
theorem TruckTold.later (h : w.TruckTold t clock last) (hnow : ∀ c ∈ clock, c ≤ now) :
    w.TruckTold t (some now) last := by
  constructor
  · intro m hm
    obtain ⟨c, hc, hle⟩ := h.past m hm
    exact ⟨now, rfl, hle.trans (hnow c hc)⟩
  · exact h.held
  · exact h.linked
  · exact h.free

/-- Storing a route that has the truck, with the same final ETA, exactly when it had the truck. -/
theorem sameTour_putRoute {route route' : DeliveryRoute}
    (hr : w.routes.find? route.routeId = some route) (hroutes : w'.routes = w.routes.put route')
    (hid : route'.routeId = route.routeId)
    (htruck : route'.truck = some t ↔ route.truck = some t)
    (heta : route.truck = some t → route'.etaFinal = route.etaFinal)
    (htrucks : w'.trucks.find? t = w.trucks.find? t) : SameTour t w w' := by
  have hfind : ∀ r, w'.routes.find? r =
      if route.routeId = r then some route' else w.routes.find? r := by
    intro r
    rw [hroutes, Store.find?_put, hid]
  constructor
  · rw [htrucks]
  · rintro r x ⟨hx, hxt⟩
    by_cases hrid : route.routeId = r
    · subst hrid
      obtain rfl := Option.some.inj (hr.symm.trans hx)
      exact ⟨route', ⟨by rw [hfind, if_pos rfl], htruck.mpr hxt⟩, heta hxt⟩
    · exact ⟨x, ⟨by rw [hfind, if_neg hrid, hx], hxt⟩, rfl⟩
  · rintro r x ⟨hx, hxt⟩
    rw [hfind] at hx
    split at hx
    · next hrid =>
      subst hrid
      obtain rfl := Option.some.inj hx
      exact ⟨route, hr, htruck.mp hxt⟩
    · exact ⟨x, hx, hxt⟩

/-- No route and no truck changes. -/
theorem sameTour_of_eq (hroutes : w'.routes = w.routes) (htrucks : w'.trucks = w.trucks) :
    SameTour t w w' := by
  constructor
  · rw [htrucks]
  · intro r route hroute
    exact ⟨route, ⟨by rw [hroutes]; exact hroute.1, hroute.2⟩, rfl⟩
  · intro r route hroute
    exact ⟨route, ⟨by rw [← hroutes]; exact hroute.1, hroute.2⟩⟩

/-- A new route has no truck. -/
theorem sameTour_addRoute {route : DeliveryRoute} (hnew : w.routes.find? route.routeId = none)
    (hnone : route.truck = none) (hroutes : w'.routes = w.routes.put route)
    (htrucks : w'.trucks = w.trucks) : SameTour t w w' := by
  have hfind : ∀ r, w'.routes.find? r =
      if route.routeId = r then some route else w.routes.find? r := by
    intro r
    rw [hroutes, Store.find?_put]
  constructor
  · rw [htrucks]
  · rintro r x ⟨hx, hxt⟩
    have hrid : route.routeId ≠ r := by
      rintro rfl
      rw [hnew] at hx
      cases hx
    exact ⟨x, ⟨by rw [hfind, if_neg hrid, hx], hxt⟩, rfl⟩
  · rintro r x ⟨hx, hxt⟩
    rw [hfind] at hx
    split at hx
    · obtain rfl := Option.some.inj hx
      rw [hnone] at hxt
      cases hxt
    · exact ⟨x, hx, hxt⟩

/-- A removed route has no truck. -/
theorem Removal.sameTour {gone : Focus} {event : DomainEvent} (h : Removal w gone event w') :
    SameTour t w w' := by
  cases h with
  | package hp hnone hevent hroutes hpackages htrucks => exact sameTour_of_eq hroutes htrucks
  | @route _ route _ hr ht hp hevent hroutes hpackages htrucks =>
    constructor
    · rw [htrucks]
    · rintro r x ⟨hx, hxt⟩
      have hrid : route.routeId ≠ r := by
        rintro rfl
        obtain rfl := Option.some.inj (hr.symm.trans hx)
        rw [ht] at hxt
        cases hxt
      exact ⟨x, ⟨by rw [hroutes, Store.find?_remove, if_neg hrid, hx], hxt⟩, rfl⟩
    · rintro r x ⟨hx, hxt⟩
      rw [hroutes, Store.find?_remove] at hx
      split at hx
      · cases hx
      · exact ⟨x, hx, hxt⟩

/-- Emptying buffers does not concern trucks. -/
theorem Drained.sameTour (h : w.Drained w') : SameTour t w w' := by
  constructor
  · rw [h.trucks]
  · rintro r x ⟨hx, hxt⟩
    obtain ⟨y, hy, hxy⟩ := h.routes.forward hx
    rw [hxy] at hy
    exact ⟨_, ⟨hy, hxt⟩, rfl⟩
  · rintro r y ⟨hy, hyt⟩
    obtain ⟨x, hx, hxy⟩ := h.routes.backward hy
    rw [hxy] at hyt
    exact ⟨x, hx, hyt⟩

/-! ### One change -/

/-- What a step contributes to the tour of a truck. -/
abbrev TourStep (t : Int) (clock : Option Datetime) (last : Option TruckMoment)
    (new : List TruckMoment) (w' : World) : Prop :=
  StoryStep TruckMoment.Next (w'.TruckTold t clock) last new

/-- Linking a free truck until a time that is not over. -/
private theorem TruckTold.linkTruck {route : DeliveryRoute} {truck : Truck}
    {pendingEvents : List DomainEvent} (h : w.TruckTold t (some now) last)
    (ht : w.trucks.find? t = some truck) (hid : truck.vehicleId = t) (hnone : truck.route = none)
    (heta : ∀ eta ∈ route.etaFinal, now ≤ eta)
    (hroutes : w'.routes = w.routes.put { route with truck := some t, pendingEvents })
    (htrucks : w'.trucks = w.trucks.put (truck.assign route)) :
    TourStep t (some now) last [.assigned route.routeId now] w' := by
  have hfind : w'.trucks.find? t = some (truck.assign route) := by
    rw [htrucks, Store.find?_put, if_pos (show (truck.assign route).vehicleId = t from hid)]
  have hstored : w'.routes.find? route.routeId =
      some { route with truck := some t, pendingEvents } := by
    rw [hroutes, Store.find?_put, if_pos rfl]
  apply StoryStep.one
  · rcases h.free truck ht hnone with rfl | ⟨r, t0, rfl⟩
    · trivial
    · obtain ⟨c, ⟨⟩, hle⟩ := h.past _ rfl
      exact hle
  · constructor
    · rintro m ⟨⟩
      exact ⟨now, rfl, le_rfl⟩
    · rintro r x ⟨hx, hxt⟩
      refine ⟨_, hfind, ?_⟩
      by_cases hrid : route.routeId = r
      · exact congrArg some hrid
      · rw [hroutes, Store.find?_put, if_neg hrid] at hx
        obtain ⟨y, hy, hyr⟩ := h.held r x ⟨hx, hxt⟩
        obtain rfl := Option.some.inj (ht.symm.trans hy)
        rw [hnone] at hyr
        cases hyr
    · intro x r hx hlink
      obtain rfl := Option.some.inj (hfind.symm.trans hx)
      obtain rfl := Option.some.inj hlink
      exact ⟨now, _, rfl, ⟨hstored, rfl⟩, heta⟩
    · intro x hx hn
      obtain rfl := Option.some.inj (hfind.symm.trans hx)
      cases hn

/-- Letting go of the truck of a route, not before it was assigned. -/
private theorem TruckTold.unlinkTruck {route : DeliveryRoute} {truck : Truck} {time : Datetime}
    {r : Int} (h : w.TruckTold t clock last) (hr : w.Holds t r route)
    (hle : ∀ t0, last = some (.assigned r t0) → t0 ≤ time) (hnow : time ≤ now)
    (hheld : ∀ r' x, w'.Holds t r' x → r' ≠ r ∧ ∃ y, w.Holds t r' y)
    (ht : w'.trucks.find? t = some truck) (hnone : truck.route = none) :
    TourStep t (some now) last [.released r time] w' := by
  obtain ⟨old, hold, hlink⟩ := h.held r route hr
  obtain ⟨t0, _, rfl, -⟩ := h.linked old r hold hlink
  apply StoryStep.one
  · exact ⟨rfl, hle t0 rfl⟩
  · constructor
    · rintro m ⟨⟩
      exact ⟨now, rfl, hnow⟩
    · intro r' x hx
      obtain ⟨hne, y, hy⟩ := hheld r' x hx
      obtain ⟨other, hother, hlink'⟩ := h.held r' y hy
      obtain rfl := Option.some.inj (hold.symm.trans hother)
      exact absurd (Option.some.inj (hlink'.symm.trans hlink)) hne
    · intro x r' hx hlink'
      obtain rfl := Option.some.inj (ht.symm.trans hx)
      rw [hnone] at hlink'
      cases hlink'
    · exact fun _ _ _ ↦ .inr ⟨r, time, rfl⟩

/-- One change of a command. -/
theorem Update.tourStep {focus : Focus} {es : List DomainEvent} (h : Update u focus w es w')
    (hes : EventsAt now (fun e ↦ ∀ eta ∈ e.newBusyUntil, now ≤ eta) es)
    (hw : w.TruckTold t (some now) last) :
    TourStep t (some now) last (es.filterMap (DomainEvent.truckMoment? t)) w' := by
  cases h with
  | contacts hroutes hpackages htrucks =>
    exact .silent ((sameTour_of_eq hroutes htrucks).told hw)
  | createPackage hcreate hnew hroutes hpackages htrucks =>
    obtain ⟨e, hevents, -⟩ := DeliveryPackage.create_events hcreate
    rw [hevents]
    exact .silent ((sameTour_of_eq hroutes htrucks).told hw)
  | createRoute hcreate hnew =>
    obtain ⟨e, hevents, -⟩ := DeliveryRoute.create_events hcreate
    rw [hevents]
    simp only [DeliveryRoute.create, except_bind_eq_ok_iff, DeliveryRoute.new_eq_ok_iff,
      Except.ok.injEq] at hcreate
    obtain ⟨-, -, -, -, r, ⟨-, -, -, hnone, -, -, -⟩, rfl⟩ := hcreate
    apply StoryStep.silent
    apply SameTour.told _ hw
    exact sameTour_addRoute hnew hnone rfl rfl
  | @scheduleRoute _ route route' time _ hr hnone hschedule hevents =>
    obtain ⟨e, rfl, -⟩ := DeliveryRoute.schedule_events hschedule hevents
    obtain ⟨-, plan, s, -, -, -, rfl⟩ := DeliveryRoute.schedule_eq_ok_iff.mp hschedule
    have hother : ¬ route.truck = some t := by simp [hnone]
    apply StoryStep.silent
    apply SameTour.told _ hw
    exact sameTour_putRoute hr rfl rfl Iff.rfl (fun hx ↦ absurd hx hother) rfl
  | @linkTruck _ route route' truck truck' time _ hr ht hidle hassign hevents =>
    have hroute := hassign
    simp only [DeliveryRoute.assignTruck, require_bind_eq_ok_iff] at hroute
    obtain ⟨e, rfl, hid, hnew, huntil, htime⟩ := DeliveryRoute.assignTruck_events hassign hevents
    obtain ⟨hnone, -, rfl, events, rfl⟩ := DeliveryRoute.assignTruck_eq_ok hassign
    obtain ⟨hoccurred, hlinks⟩ := eventsAt_singleton.mp hes
    have hmoment : [DomainEvent.truckAssignedToRoute e].filterMap (DomainEvent.truckMoment? t) =
        if truck.vehicleId = t then [.assigned route.routeId now] else [] := by
      have hnow : e.occurredAt = now := hoccurred
      simp only [List.filterMap_cons, List.filterMap_nil, DomainEvent.truckMoment?, hid, hnew, hnow]
      by_cases htruck : truck.vehicleId = t <;> simp only [htruck, if_true, if_false]
    rw [hmoment]
    split
    · next htruck =>
      subst htruck
      exact hw.linkTruck ht rfl hnone (huntil ▸ hlinks e rfl) rfl rfl
    · next htruck =>
      have hroutes : ¬ route.truck = some t := by simp [hroute.1]
      apply StoryStep.silent
      apply SameTour.told _ hw
      refine sameTour_putRoute hr rfl rfl ?_ (fun hx ↦ absurd hx hroutes) ?_
      · simp [htruck, hroute.1]
      · exact Store.find?_put.trans (if_neg htruck)
  | @linkPackage _ route route' package package' time _ hr hp hnone hnew hassign hevents =>
    obtain ⟨e, rfl, -⟩ := DeliveryRoute.assignPackage_events hnew hassign hevents
    obtain ⟨-, -, events, rfl⟩ := DeliveryRoute.assignPackage_eq_ok hnew hassign
    apply StoryStep.silent
    apply SameTour.told _ hw
    exact sameTour_putRoute hr rfl rfl Iff.rfl (fun _ ↦ rfl) rfl
  | @unlinkPackage _ route route' package package' reason time _ hr hp hmem hlink hdetach hevents =>
    obtain ⟨e, rfl, -⟩ := DeliveryRoute.detachPackage_events hdetach hevents
    obtain ⟨events, hdetached⟩ := DeliveryRoute.detachPackage_eq_ok hmem hlink reason time
    rw [hdetach, Except.ok.injEq, Prod.mk.injEq] at hdetached
    obtain ⟨rfl, rfl⟩ := hdetached
    apply StoryStep.silent
    apply SameTour.told _ hw
    exact sameTour_putRoute hr rfl rfl Iff.rfl (fun _ ↦ rfl) rfl
  | @unlinkTruck _ route route' truck truck' at_ time reason location _ hr ht hlink hloc hrelease
      hevents =>
    obtain ⟨e, rfl, hid, hold, htime⟩ := DeliveryRoute.releaseTruck_events hloc hrelease hevents
    obtain ⟨events, hreleased⟩ :=
      @DeliveryRoute.releaseTruck_eq_ok route truck route location hloc at_ reason time
    rw [hrelease, Except.ok.injEq, Prod.mk.injEq, Prod.mk.injEq, Option.some.injEq] at hreleased
    obtain ⟨rfl, rfl, -⟩ := hreleased
    have hmoment : [DomainEvent.truckReleasedFromRoute e].filterMap (DomainEvent.truckMoment? t) =
        if truck.vehicleId = t then [.released route.routeId now] else [] := by
      have hnow : e.occurredAt = now := (eventsAt_singleton.mp hes).1
      simp only [List.filterMap_cons, List.filterMap_nil, DomainEvent.truckMoment?, hid, hold, hnow]
      by_cases htruck : truck.vehicleId = t <;> simp only [htruck, if_true, if_false]
    rw [hmoment]
    split
    · next htruck =>
      subst htruck
      apply hw.unlinkTruck ⟨hr, hlink⟩ _ le_rfl
      · rintro r x ⟨hx, hxt⟩
        rw [Store.find?_put] at hx
        split at hx
        · obtain rfl := Option.some.inj hx
          cases hxt
        · next hne => exact ⟨fun heq ↦ hne heq.symm, x, hx, hxt⟩
      · exact Store.find?_put.trans (if_pos rfl)
      · rfl
      · rintro t0 hlast
        obtain ⟨c, ⟨⟩, hle⟩ := hw.past _ hlast
        exact hle
    · next htruck =>
      have hroutes : ¬ route.truck = some t := by simp [hlink, htruck]
      apply StoryStep.silent
      apply SameTour.told _ hw
      refine sameTour_putRoute hr rfl rfl ?_ (fun hx ↦ absurd hx hroutes) ?_
      · simp [hlink, htruck]
      · exact Store.find?_put.trans (if_neg htruck)

/-! ### The heartbeat -/

end World

/-- The moment of a truck that a lifecycle event is, if it is one. -/
def LifecycleEvent.truckMoment? (t : Int) : LifecycleEvent → Option TruckMoment
  | .truckReleased q r time => if q = t then some (.released r time) else none
  | _ => none

theorem DomainEvent.truckMoment?_of_lifecycle {e : DomainEvent} {l : LifecycleEvent} {t : Int}
    (h : e.lifecycle? = some l) : e.truckMoment? t = l.truckMoment? t := by
  cases e <;> cases h <;> rfl

/-- Packages on a route have no part in the moments of trucks. -/
private theorem filterMap_transitionsOn {package : DeliveryPackage} {route : DeliveryRoute}
    {now : Datetime} {t : Int} :
    (package.transitionsOn route now).filterMap (LifecycleEvent.truckMoment? t) = [] := by
  unfold DeliveryPackage.transitionsOn
  split
  · rfl
  · split
    · rw [DeliveryPackage.transitions, List.filterMap_append]
      split <;> split <;> rfl
    · rfl

namespace World

variable {u : UnicodeTables} {allowed : Option LocationCode → Prop} {clock : Option Datetime}
  {w w' : World} {now : Datetime} {t r : Int} {last : Option TruckMoment}

private theorem filterMap_movementsOn (route : DeliveryRoute) :
    (w.movementsOn now route).filterMap (LifecycleEvent.truckMoment? t) =
      (route.releases (w.truckOf route) now).filterMap (LifecycleEvent.truckMoment? t) := by
  have hpackages : ((w.packagesOf route).flatMap (·.transitionsOn route now)).filterMap
      (LifecycleEvent.truckMoment? t) = [] := by
    rw [List.filterMap_flatMap, List.flatMap_eq_nil_iff]
    exact fun _ _ ↦ filterMap_transitionsOn
  rw [movementsOn, List.filterMap_append, hpackages, List.append_nil]

/-- A route that does not have the truck does not release it. -/
private theorem filterMap_releases_of_not {route : DeliveryRoute} (h : ¬ route.truck = some t) :
    (route.releases (w.truckOf route) now).filterMap (LifecycleEvent.truckMoment? t) = [] := by
  unfold DeliveryRoute.releases
  split
  · next truck eta htruck heta =>
    split
    · obtain ⟨q, hq, hfind⟩ := Option.bind_eq_some_iff.mp htruck
      have hne : ¬ truck.vehicleId = t := by
        rw [Store.key_of_find? hfind]
        rintro rfl
        exact h hq
      simp [LifecycleEvent.truckMoment?, hne]
    · rfl
  · rfl

/-- A truck that no route has is not released. -/
theorem truckMoments_of_not (h : ∀ r route, ¬ w.Holds t r route) :
    (w.routes.values.flatMap (w.movementsOn now)).filterMap (LifecycleEvent.truckMoment? t) =
      [] := by
  rw [List.filterMap_flatMap, List.flatMap_eq_nil_iff]
  intro route hroute
  rw [filterMap_movementsOn]
  exact filterMap_releases_of_not fun htruck ↦ h _ route ⟨Store.mem_values.mp hroute, htruck⟩

/-- A truck is released once, by the route that has it, when this route is finished. -/
theorem truckMoments_of_holds (hl : w.RouteLinked) {route : DeliveryRoute}
    (h : w.Holds t r route) :
    (w.routes.values.flatMap (w.movementsOn now)).filterMap (LifecycleEvent.truckMoment? t) =
      (route.etaFinal.filter (· ≤ now)).toList.map (TruckMoment.released r) := by
  obtain ⟨truck, ht, hlink⟩ := hl.truck_of_route h.1 h.2
  have hother : ∀ x ∈ w.routes.values, x.routeId ≠ route.routeId →
      (w.movementsOn now x).filterMap (LifecycleEvent.truckMoment? t) = [] := by
    intro x hx hne
    rw [filterMap_movementsOn]
    apply filterMap_releases_of_not
    intro hxt
    obtain ⟨truck', ht', hlink'⟩ := hl.truck_of_route (Store.mem_values.mp hx) hxt
    obtain rfl := Option.some.inj (ht.symm.trans ht')
    exact hne (Option.some.inj (hlink'.symm.trans hlink) |>.trans (Store.key_of_find? h.1).symm)
  have hid : route.routeId = r := Store.key_of_find? h.1
  have hvehicle : truck.vehicleId = t := Store.key_of_find? ht
  rw [List.filterMap_flatMap,
    flatMap_eq_of_key Store.nodup_values (Store.mem_values_of_find? h.1) hother,
    filterMap_movementsOn, truckOf, h.2, Option.bind_some, ht]
  unfold DeliveryRoute.releases
  cases route.etaFinal with
  | none => rfl
  | some eta =>
    by_cases hle : eta ≤ now
    · simp [hle, hid, hvehicle, LifecycleEvent.truckMoment?, Option.filter]
    · simp [hle, Option.filter]

/-- A heartbeat releases the truck of a finished route at the final ETA of this route, and leaves
the other links of trucks alone. -/
theorem tourStep_heartbeatAt (hw : w.Sound u allowed clock) (hnow : ∀ c ∈ clock, c ≤ now)
    (h : w.TruckTold t clock last) : TourStep t (some now) last
      ((w.routes.values.flatMap (w.movementsOn now)).filterMap (LifecycleEvent.truckMoment? t))
      (w.heartbeatAt u now) := by
  have hl := hw.linked.toRouteLinked
  have htimed : w.Timed now (w.heartbeatAt u now) := (HeartbeatService.beat hw hnow).timed
  have hbefore : ∀ r' x, (w.heartbeatAt u now).Holds t r' x →
      ∃ y, w.Holds t r' y ∧ ¬ y.Finished now := by
    rintro r' x ⟨hx, hxt⟩
    obtain ⟨y, hy, hsettled⟩ := htimed.routes.backward hx
    rw [hsettled.truck] at hxt
    by_cases hfin : y.Finished now
    · rw [if_pos hfin] at hxt
      cases hxt
    · rw [if_neg hfin] at hxt
      exact ⟨y, ⟨hy, hxt⟩, hfin⟩
  by_cases hfinished : ∃ r route, w.Holds t r route ∧ route.Finished now
  · obtain ⟨r, route, hheld, eta, heta, hle⟩ := hfinished
    obtain ⟨truck, ht, hlink⟩ := h.held r route hheld
    obtain ⟨truck', ht', hmoved⟩ := htimed.trucks.forward ht
    have hreleased := (hmoved.passed r hlink route hheld.1 (by simp)).released ⟨eta, heta, hle⟩
    have hmoments : (w.routes.values.flatMap (w.movementsOn now)).filterMap
        (LifecycleEvent.truckMoment? t) = [.released r eta] := by
      rw [truckMoments_of_holds hl hheld, heta]
      simp [Option.filter, hle]
    rw [hmoments]
    apply h.unlinkTruck hheld _ hle
    · intro r' x hx
      obtain ⟨y, hy, hopen⟩ := hbefore r' x hx
      refine ⟨?_, ?_⟩
      · rintro rfl
        obtain rfl := Option.some.inj (hheld.1.symm.trans hy.1)
        exact hopen ⟨eta, heta, hle⟩
      · exact ⟨y, hy⟩
    · exact ht'
    · exact hreleased.2.1
    · intro t0 hlast
      obtain ⟨t1, route', hlast', hroute', hbound⟩ := h.linked truck r ht hlink
      rw [hlast, Option.some.injEq, TruckMoment.assigned.injEq] at hlast'
      obtain rfl := Option.some.inj (hheld.1.symm.trans hroute'.1)
      exact hlast'.2 ▸ hbound eta heta
  · have hopen : ∀ r route, w.Holds t r route → ¬ route.Finished now :=
      fun r route hroute hfin ↦ hfinished ⟨r, route, hroute, hfin⟩
    have hmoments : (w.routes.values.flatMap (w.movementsOn now)).filterMap
        (LifecycleEvent.truckMoment? t) = [] := by
      by_cases hheld : ∃ r route, w.Holds t r route
      · obtain ⟨r, route, hroute⟩ := hheld
        rw [truckMoments_of_holds hl hroute]
        cases heta : route.etaFinal with
        | none => rfl
        | some eta =>
          have hlt : ¬ eta ≤ now := fun hle ↦ hopen r route hroute ⟨eta, heta, hle⟩
          simp [Option.filter, hlt]
      · exact truckMoments_of_not fun r route hroute ↦ hheld ⟨r, route, hroute⟩
    rw [hmoments]
    apply StoryStep.silent
    apply SameTour.told _ (h.later hnow)
    constructor
    · cases ht : w.trucks.find? t with
      | none =>
        cases ht' : (w.heartbeatAt u now).trucks.find? t with
        | none => rfl
        | some truck' =>
          obtain ⟨truck, hfind, -⟩ := htimed.trucks.backward ht'
          rw [ht] at hfind
          cases hfind
      | some truck =>
        obtain ⟨truck', ht', hmoved⟩ := htimed.trucks.forward ht
        rw [ht', Option.map_some, Option.map_some]
        cases hlink : truck.route with
        | none => rw [hmoved.idle hlink, hlink]
        | some r =>
          obtain ⟨route, hr, hrt⟩ := hl.route_of_truck ht hlink
          have hkept := (hmoved.passed r hlink route hr (by simp)).kept (hopen r route ⟨hr, hrt⟩)
          rw [hkept.2.1, hlink]
    · intro r route hroute
      obtain ⟨route', hr', hsettled⟩ := htimed.routes.forward hroute.1
      have htruck := hsettled.truck
      rw [if_neg (hopen r route hroute)] at htruck
      exact ⟨route', ⟨hr', htruck.trans hroute.2⟩,
        congrArg (fun plan ↦ plan.schedule?.map RouteSchedule.etaFinal) hsettled.plan⟩
    · intro r route' hroute'
      obtain ⟨route, hroute, -⟩ := hbefore r route' hroute'
      exact ⟨route, hroute⟩

/-! ### Runs -/

/-- The moments of a truck that events record at one instant. -/
theorem truckTour_notesAt {es : List DomainEvent} :
    truckTour t (notesAt now es) = es.filterMap (DomainEvent.truckMoment? t) :=
  moments_notesAt now es

/-- The moments of a truck that a heartbeat records. -/
theorem truckTour_heartbeat (h : HeartbeatService.Beat u now w) :
    truckTour t ((w.heartbeatRecord u now).map (Note.mk now)) =
      (w.routes.values.flatMap (w.movementsOn now)).filterMap
        (LifecycleEvent.truckMoment? t) := by
  rw [← h.movements]
  apply moments_heartbeat h.only
  · exact fun e l hl ↦ DomainEvent.truckMoment?_of_lifecycle hl
  · intro l hl
    cases l <;> first | rfl | cases hl

/-- A removal is no moment of a truck. -/
theorem Removal.truckMoment? {gone : Focus} {event : DomainEvent} (h : Removal w gone event w') :
    event.truckMoment? t = none := by
  cases h <;> rfl

/-- The tour so far, and what its last moment tells. -/
structure OnTour (t : Int) (clock : Option Datetime) (w : World) (log : List Note) : Prop where
  story : Story TruckMoment.Next (truckTour t log)
  told : w.TruckTold t clock (truckTour t log).getLast?

/-- A step goes on with the tour. -/
theorem OnTour.step {log notes : List Note} {last : Option Datetime} (h : w.OnTour t clock log)
    (hstep : TourStep t last (truckTour t log).getLast? (truckTour t notes) w') :
    w'.OnTour t last (log ++ notes) := by
  obtain ⟨hstory, htold⟩ := hstep.story h.story
  rw [truckTour, truckTour, ← moments_append] at hstory htold
  exact ⟨hstory, htold⟩

/-- Tours go on through every operation as long as trucks are assigned in time. -/
theorem onTour_rule (t : Int) : RunRule u allowed
    (fun now e ↦ ∀ eta ∈ e.newBusyUntil, now ≤ eta) fun clock w log ↦ w.OnTour t clock log where
  later h hnow := ⟨h.story, h.told.later hnow⟩
  update _ hupdate hes h := by
    apply h.step
    rw [truckTour_notesAt]
    exact hupdate.tourStep hes h.told
  removal hremoval h := by
    apply h.step
    rw [truckTour_notesAt, List.filterMap_cons_none hremoval.truckMoment?, List.filterMap_nil]
    exact .silent (hremoval.sameTour.told h.told)
  drained hdrained h := ⟨h.story, hdrained.sameTour.told h.told⟩
  heartbeat hw _ hnow h := by
    apply h.step
    rw [truckTour_heartbeat (HeartbeatService.beat hw hnow)]
    exact tourStep_heartbeatAt hw hnow h.told

end World

/-- In a run whose truck assignments are all made in time, the assignments and releases of a truck
alternate, from an assignment on, and never go back in time. -/
theorem Chronicled.truckTour_next {u : UnicodeTables} {fleet : Fleet} {clock : Option Datetime}
    {w : World} {log : List Note} (hidle : fleet.All (Truck.Idle fun _ ↦ True))
    (h : Chronicled u fleet (fun w now operation ↦ operation.InTime w now) clock w log) (t : Int) :
    ∀ earlier m later, truckTour t log = earlier ++ m :: later →
      TruckMoment.Next earlier.getLast? m := by
  have htour : w.OnTour t clock log := by
    apply h.invariant hidle (World.onTour_rule t)
    · intro w now operation hallow e he eta heta
      cases operation with
      | assignTruck truckId routeId at_ =>
        rcases he eta heta with hle | ⟨route, hr, hroute⟩
        · exact hle
        · exact hallow route hr eta hroute
      | _ => cases he
    · refine ⟨.nil, ⟨by simp [truckTour], ?_, ?_, ?_⟩⟩
      · rintro r route ⟨hr, -⟩
        simp [World.initial] at hr
      · intro truck r ht hlink
        rw [(hidle t truck ht).route] at hlink
        cases hlink
      · exact fun _ _ _ ↦ .inl rfl
  exact fun earlier m later ↦ htour.story.next_of_append

namespace Scenario

/-- A truck that goes to a route, assigned and observed at given hours. -/
def tourSteps (assigned observed : Nat) : List (Datetime × Operation) :=
  [(hour 0, .createRoute ["SYD", "MEL"] (some (hour 8))),
    (hour assigned, .assignTruck 1001 1 (hour assigned)),
    (hour observed, .heartbeat)]

/-- What a run through these steps records. -/
def tourLog (assigned observed : Nat) : List Note :=
  chronicle .asciiOnly (.initial fleet) (tourSteps assigned observed)

/-- A truck that is assigned before the end of its route is released after that. -/
theorem truckTour_next_in_time :
    (∃ w, Chronicled .asciiOnly fleet (fun w now operation ↦ operation.InTime w now)
      (some (hour 20)) w (tourLog 2 20)) ∧ (truckTour 1001 (tourLog 2 20)).length = 2 ∧
    ∀ earlier m later, truckTour 1001 (tourLog 2 20) = earlier ++ m :: later →
      TruckMoment.Next earlier.getLast? m := by
  have hsorted : ([] ++ (tourSteps 2 20).map Prod.fst).Pairwise (· ≤ ·) := by decide
  have hopen : (((performAll .asciiOnly (.initial fleet) [(hour 0,
      .createRoute ["SYD", "MEL"] (some (hour 8)))]).routes.find? 1).all fun route ↦
        route.etaFinal.all fun eta ↦ decide (hour 2 ≤ eta)) = true := by decide +kernel
  have hallow : AllAdmitted .asciiOnly (fun w now operation ↦ operation.InTime w now)
      (.initial fleet) (tourSteps 2 20) := by
    refine ⟨trivial, trivial, rfl, ?_, trivial, trivial, trivial⟩
    intro route hr eta heta
    rw [Option.all_eq_true] at hopen
    have hroute := hopen route hr
    rw [Option.all_eq_true] at hroute
    exact of_decide_eq_true (hroute eta heta)
  have hrun : Chronicled .asciiOnly fleet (fun w now operation ↦ operation.InTime w now)
      (some (hour 20)) _ (tourLog 2 20) := Chronicled.performAll .start hsorted hallow
  exact ⟨⟨_, hrun⟩, by decide +kernel, Chronicled.truckTour_next fleet_idle_anywhere hrun 1001⟩

/-- A truck that is assigned after the end of its route is released before that. -/
theorem not_truckTour_next_late :
    ∃ w, Chronicled .asciiOnly fleet (fun _ _ _ ↦ True) (some (hour 22)) w (tourLog 21 22) ∧
      ∃ assigned released, truckTour 1001 (tourLog 21 22) =
        [.assigned 1 assigned, .released 1 released] ∧ released < assigned ∧
        ¬ ∀ earlier m later, truckTour 1001 (tourLog 21 22) = earlier ++ m :: later →
          TruckMoment.Next earlier.getLast? m := by
  have hsorted : ([] ++ (tourSteps 21 22).map Prod.fst).Pairwise (· ≤ ·) := by decide
  have hallow : AllAdmitted .asciiOnly (fun _ _ _ ↦ True) (.initial fleet) (tourSteps 21 22) :=
    ⟨trivial, trivial, rfl, trivial, trivial, trivial, trivial⟩
  have hrun : Chronicled .asciiOnly fleet (fun _ _ _ ↦ True) (some (hour 22)) _ (tourLog 21 22) :=
    Chronicled.performAll .start hsorted hallow
  have htour : truckTour 1001 (tourLog 21 22) = [.assigned 1 (hour 21),
      .released 1 ⟨63839729089655172, by unfold maxMicros; omega⟩] := by decide +kernel
  refine ⟨_, hrun, _, _, htour, by decide, fun hnext ↦ ?_⟩
  have hlast := (hnext [_] _ [] htour).2
  revert hlast
  decide

end Scenario
end FleetFlow
