import FleetFlow.Runtime.Advance

/-!
# The world that the schedules determine

In a world where every truck has a location no route is skipped, so after a heartbeat every
status, position and arrival is the one that the schedules determine at that instant.
-/

namespace FleetFlow.World

open Reconciler

variable {u : UnicodeTables} {allowed : Option LocationCode → Prop} {clock : Option Datetime}
  {w w' : World} {now : Datetime} {skipped : List Int}

/-- Every object is in the state that the schedules determine at an instant. -/
structure SettledAt (now : Datetime) (w : World) : Prop where
  status : w.routes.All fun route ↦ route.status = route.statusAt now
  unfinished : w.routes.All fun route ↦ route.Finished now → route.truck = none
  package : ∀ {p r : Int} {package : DeliveryPackage} {route : DeliveryRoute},
    w.packages.find? p = some package → package.route = some r →
    w.routes.find? r = some route → package.SettledOn route now
  truck : ∀ {t r : Int} {truck : Truck} {route : DeliveryRoute} {s : RouteSchedule},
    w.trucks.find? t = some truck → truck.route = some r → w.routes.find? r = some route →
    route.plan.schedule? = some s → truck.OnSchedule s now

/-- A route, its packages and its truck are in the state that its schedule determines. -/
structure RouteSettled (now : Datetime) (w : World) (r : Int) (route : DeliveryRoute) : Prop where
  status : route.status = route.statusAt now
  unfinished : route.Finished now → route.truck = none
  package : ∀ {p : Int} {package : DeliveryPackage}, w.packages.find? p = some package →
    package.route = some r → package.SettledOn route now
  truck : ∀ {t : Int} {truck : Truck} {s : RouteSchedule}, w.trucks.find? t = some truck →
    truck.route = some r → route.plan.schedule? = some s → truck.OnSchedule s now

/-- A route that is not skipped is settled. -/
theorem Advanced.routeSettled (h : Advanced now skipped w w') (hl : w.Linked) {r : Int}
    {b : DeliveryRoute} (hb : w'.routes.find? r = some b) (hr : r ∉ skipped) :
    w'.RouteSettled now r b := by
  obtain ⟨a, ha, hab⟩ := h.routes.backward hb
  have hid : a.routeId = r := Store.key_of_find? ha
  unfold RouteMoved at hab
  rw [if_neg (hid ▸ hr)] at hab
  have hstatus : a.statusAt now = b.statusAt now := by
    unfold DeliveryRoute.statusAt
    rw [hab.plan]
  refine ⟨hab.status.trans hstatus, ?_, ?_, ?_⟩
  · intro hfin
    rw [← DeliveryRoute.statusAt_eq_completed_iff, ← hstatus,
      DeliveryRoute.statusAt_eq_completed_iff] at hfin
    rw [hab.truck, if_pos hfin]
  · intro p y hy hyr
    obtain ⟨x, hx, hxy⟩ := h.packages.backward hy
    have hxr := (hxy.links hl.toRouteLinked hx).2.1
    obtain ⟨_, hpass⟩ := hxy.passed r (hxr ▸ hyr) a ha hr
    exact (hpass.of_plan hab.plan).settled
  · intro t y s hy hyr hs
    obtain ⟨x, hx, hxy⟩ := h.trucks.backward hy
    obtain ⟨-, -, hidle, hroutes⟩ := hxy.links hl.toRouteLinked hx (hl.linkState _ _ hx)
    cases hxr : x.route with
    | none =>
      rw [hidle hxr, hxr] at hyr
      cases hyr
    | some r' =>
      obtain ⟨a', ha', -⟩ := hl.route_of_truck hx hxr
      by_cases hg : Gone now skipped a'
      · rw [(hroutes r' a' hxr ha').1 hg] at hyr
        cases hyr
      · rw [((hroutes r' a' hxr ha').2 hg).1, hxr, Option.some.injEq] at hyr
        subst hyr
        rw [ha', Option.some.injEq] at ha
        subst ha
        have hlt : now < s.etaFinal := by
          rw [hab.plan] at hs
          exact not_le.mp fun hle ↦ hg ⟨hid ▸ hr, (DeliveryRoute.finished_iff hs).mpr hle⟩
        exact (hxy.passed r' hxr a' ha' hr).onSchedule s (hab.plan ▸ hs) hlt

/-- Without skipped routes the world is settled. -/
theorem Advanced.settled (h : Advanced now [] w w') (hl : w.Linked) : w'.SettledAt now where
  status _ _ hb := (h.routeSettled hl hb List.not_mem_nil).status
  unfinished _ _ hb := (h.routeSettled hl hb List.not_mem_nil).unfinished
  package hy hyr hb := (h.routeSettled hl hb List.not_mem_nil).package hy hyr
  truck hy hyr hb hs := (h.routeSettled hl hb List.not_mem_nil).truck hy hyr hs

/-- The truck of a finished route is free at the last stop. -/
theorem Advanced.released_of_notMem (h : Advanced now skipped w w') {r t : Int}
    {route : DeliveryRoute} {truck : Truck} (hr : w.routes.find? r = some route)
    (hs : r ∉ skipped) (hfin : route.Finished now) (ht : w.trucks.find? t = some truck)
    (hlink : truck.route = some r) :
    ∃ truck', w'.trucks.find? t = some truck' ∧ truck'.status = .free ∧ truck'.route = none ∧
      truck'.currentLocation = some route.endLocation ∧ truck'.inTransitTo = none := by
  obtain ⟨truck', ht', hmoved⟩ := h.trucks.forward ht
  obtain ⟨h1, h2, -, -, h3, h4⟩ := (hmoved.passed r hlink route hr hs).released hfin
  exact ⟨truck', ht', h1, h2, h4, h3⟩

/-- Without skipped routes the truck of a finished route is free at the last stop. -/
theorem Advanced.released (h : Advanced now [] w w') {r t : Int} {route : DeliveryRoute}
    {truck : Truck} (hr : w.routes.find? r = some route) (hfin : route.Finished now)
    (ht : w.trucks.find? t = some truck) (hlink : truck.route = some r) :
    ∃ truck', w'.trucks.find? t = some truck' ∧ truck'.status = .free ∧ truck'.route = none ∧
      truck'.currentLocation = some route.endLocation ∧ truck'.inTransitTo = none :=
  h.released_of_notMem hr List.not_mem_nil hfin ht hlink

/-- A settled route is justified by the instant. -/
private theorem timely_of_settledFrom {a b : DeliveryRoute} (h : a.SettledFrom now b)
    (ha : a.truck.isSome → a.departureTime.isSome) : b.Timely (some now) := by
  have hstatus : b.status = b.statusAt now := by
    rw [h.status]
    unfold DeliveryRoute.statusAt
    rw [h.plan]
  refine ⟨?_, fun hb ↦ ⟨now, rfl, ?_⟩, fun hb ↦ ⟨now, rfl, ?_⟩, fun hb ↦ ?_⟩
  · rw [hstatus]
    exact DeliveryRoute.statusAt_eq_planned_iff
  · rw [hstatus] at hb
    unfold DeliveryRoute.statusAt at hb
    unfold DeliveryRoute.departureTime RoutePlan.departureTime
    cases hs : b.plan.schedule? with
    | none =>
      rw [hs] at hb
      cases hb
    | some s =>
      rw [hs] at hb
      refine ⟨s.departureTime, rfl, not_lt.mp fun hlt ↦ ?_⟩
      simp [hlt] at hb
  · exact DeliveryRoute.statusAt_eq_completed_iff.mp (hstatus ▸ hb)
  · unfold DeliveryRoute.departureTime at ha ⊢
    rw [h.plan]
    refine ha ?_
    rw [h.truck] at hb
    split at hb
    · cases hb
    · exact hb

/-- A truck on a schedule that has not ended is at a stop of the schedule. -/
theorem located_of_onSchedule {s : RouteSchedule} {route : DeliveryRoute}
    (hs : route.plan.schedule? = some s) (hmap : ∀ l ∈ Map.locations, allowed (some l)) {truck : Truck}
    (h : truck.OnSchedule s now) (hlt : now < s.etaFinal) : truck.Located allowed := by
  have hmem : ∀ {i : Nat} {a : ScheduledStop}, s.stops[i]? = some a → a.location ∈ Map.locations :=
    fun ha ↦ route.plan.path.mem_map (List.mem_of_getElem? (DeliveryRoute.getElem?_locations hs ha))
  by_cases hdep : now < s.departureTime
  · obtain ⟨h1, h2⟩ := h.beforeStart hdep
    refine ⟨h1 ▸ hmap _ (hmem RouteSchedule.getElem?_firstStop), fun _ ↦ by simp [h1], ?_⟩
    simp [h2]
  · rcases RouteSchedule.atStop_or_inTransit (not_lt.mp hdep) hlt with
      ⟨i, x, hx, hnow⟩ | ⟨i, x, y, hx, hy, hnow, hlt⟩
    · obtain ⟨h1, h2⟩ := h.atStop i x hx hnow
      refine ⟨h1 ▸ hmap _ (hmem hx), fun _ ↦ by simp [h1], ?_⟩
      simp [h2]
    · obtain ⟨h1, h2⟩ := h.inTransit i x y hx hy hnow hlt
      refine ⟨h1 ▸ hmap _ (hmem hx), fun _ ↦ by simp [h1], ?_⟩
      simp [h2, hmem hy]

/-- A pass leaves a truck at a location. -/
private theorem located_of_truckPass {route : DeliveryRoute} {a b : Truck}
    (h : TruckPass route now a b) (hmap : ∀ l ∈ Map.locations, allowed (some l))
    (ha : a.Located allowed) : b.Located allowed := by
  by_cases hfin : route.Finished now
  · obtain ⟨-, -, -, -, h1, h2⟩ := h.released hfin
    exact ⟨h2 ▸ hmap _ (route.plan.path.mem_map (List.getLast_mem _)), fun _ ↦ by simp [h2],
      by simp [h1]⟩
  · cases hs : route.plan.schedule? with
    | none =>
      obtain ⟨h1, h2⟩ := h.unscheduled hs
      exact ⟨h1 ▸ ha.place, fun hb ↦ h1 ▸ ha.onRoute ((h.kept hfin).2.1 ▸ hb), by simp [h2]⟩
    | some s =>
      have hlt : now < s.etaFinal :=
        not_le.mp fun hle ↦ hfin ((DeliveryRoute.finished_iff hs).mpr hle)
      exact located_of_onSchedule hs hmap (h.onSchedule s hs hlt) hlt

/-- Without skipped routes a sound world stays sound at the instant of the heartbeat. -/
theorem Advanced.sound (h : Advanced now [] w w') (hmap : ∀ l ∈ Map.locations, allowed (some l))
    (hw : w.Sound u allowed clock) : w'.Sound u allowed (some now) := by
  refine ⟨h.linked hw.linked, ?_, h.onPath hw.linked.toRouteLinked hw.onPath, ?_,
    h.withinLimits hw.linked hw.limits, h.counted hw.counted, h.registered hw.registered⟩
  · intro r b hb
    obtain ⟨a, ha, hab⟩ := h.routes.backward hb
    unfold RouteMoved at hab
    rw [if_neg (List.not_mem_nil)] at hab
    exact timely_of_settledFrom hab (hw.timely _ _ ha).truck_scheduled
  · intro t b hb
    obtain ⟨a, ha, hab⟩ := h.trucks.backward hb
    cases hr : a.route with
    | none => exact hab.idle hr ▸ hw.located _ _ ha
    | some r =>
      obtain ⟨route, hroute, -⟩ := hw.linked.route_of_truck ha hr
      exact located_of_truckPass (hab.passed r hr route hroute List.not_mem_nil) hmap
        (hw.located _ _ ha)

/-- No route of a world whose trucks on routes are located is skipped. -/
theorem Advanced.skipped_eq_nil (h : Advanced now skipped w w') (hw : w.Sound u allowed clock) :
    skipped = [] := by
  rw [List.eq_nil_iff_forall_not_mem]
  intro r hr
  obtain ⟨route, t, truck, hroute, hlink, ht, hnone, -⟩ := h.stuck r hr
  obtain ⟨x, hx, hxr⟩ := hw.linked.truck_of_route hroute hlink
  rw [ht, Option.some.injEq] at hx
  have hloc := (hw.located _ _ ht).onRoute (by rw [hx, hxr]; rfl)
  rw [hnone] at hloc
  cases hloc

/-- A sound world can be passed over from its clock on. -/
theorem Sound.ready (h : w.Sound u allowed clock) (hnow : ∀ c ∈ clock, c ≤ now) :
    Reconciler.Ready now w := by
  refine ⟨h.linked.toRouteLinked, fun {r route} hr ↦ ?_, fun {r route package} hr hp ↦ ?_⟩
  · have ht := h.timely _ _ hr
    unfold StatusReady
    cases hs : route.status with
    | planned =>
      rw [DeliveryRoute.statusAt_eq_planned_iff.mpr (ht.planned.mp hs)]
      exact .inr (.inl rfl)
    | scheduled => exact .inl rfl
    | inProgress =>
      obtain ⟨c, hc, t, hdep, htc⟩ := ht.started hs
      refine .inr ?_
      unfold DeliveryRoute.departureTime RoutePlan.departureTime at hdep
      obtain ⟨s, hsched, rfl⟩ := Option.map_eq_some_iff.mp hdep
      unfold DeliveryRoute.statusAt
      simp only [hsched, if_neg (not_lt.mpr (htc.trans (hnow c hc)))]
      split <;> simp
    | completed =>
      obtain ⟨c, hc, hfin⟩ := ht.completed hs
      rw [DeliveryRoute.statusAt_eq_completed_iff.mpr (hfin.mono (hnow c hc))]
      exact .inr (.inl rfl)
  · obtain ⟨hmem, hfind⟩ := mem_packagesOf.mp hp
    exact h.onPath hr hmem hfind

end FleetFlow.World
