import FleetFlow.Runtime.PackagePass

/-!
# What the reconciler does to a route and its truck

One pass over a route either settles the route, its truck and its packages at the instant of
the pass, or puts every one of them back as it was. Both outcomes also say what the summary of
the pass leaves out.
-/

namespace FleetFlow

open Program

namespace Reconciler

/-! ### Route status -/

/-- The computed status is the one the schedule determines. -/
theorem fst_computeRouteStatus (route : DeliveryRoute) (now : Datetime) :
    (computeRouteStatus route now).1 = route.statusAt now := by
  unfold computeRouteStatus DeliveryRoute.statusAt DeliveryRoute.departureTime
    RoutePlan.departureTime DeliveryRoute.etaFinal
  cases route.plan.schedule? with
  | none => rfl
  | some s =>
    dsimp only [Option.map_some]
    split
    · rfl
    · split <;> rfl

/-- A status from which the lifecycle reaches the status at an instant. -/
def StatusReady (route : DeliveryRoute) (now : Datetime) : Prop :=
  route.status = .scheduled ∨ route.status = route.statusAt now ∨
    route.status = .inProgress ∧ route.statusAt now = .completed

/-- The status step sets the status and otherwise records events only. -/
structure StatusStep (now : Datetime) (before after : RouteCell) (changed : Bool) : Prop where
  truck : after.truck = before.truck
  packages : after.packages = before.packages
  route : ∃ events, after.route = { before.route with
    status := before.route.statusAt now
    pendingEvents := before.route.pendingEvents ++ events }
  unchanged : changed = false → after.route = before.route
  changed : changed = true → before.route.status ≠ before.route.statusAt now

/-- Reconciling the status of a route. -/
theorem ensures_reconcileStatus {c : RouteCell} {now : Datetime} (h : StatusReady c.route now) :
    Ensures (reconcileStatus now) c (fun result c' ↦ StatusStep now c c' result.1)
      (fun _ _ ↦ False) := by
  have hfst := fst_computeRouteStatus c.route now
  unfold reconcileStatus
  simp only [ensures_bind, ensures_get]
  rcases hcompute : computeRouteStatus c.route now with ⟨newStatus, reason⟩
  rw [hcompute] at hfst
  dsimp only at hfst ⊢
  subst hfst
  by_cases heq : c.route.status = c.route.statusAt now
  · rw [if_neg (not_not.mpr heq), ensures_pure]
    refine ⟨rfl, rfl, ⟨[], ?_⟩, fun _ ↦ rfl, by simp⟩
    rw [← heq, List.append_nil]
  · rw [if_pos heq]
    simp only [ensures_bind, ensures_pure]
    unfold applyRouteStatus
    simp only [ensures_bind, ensures_get]
    have hstep : ∀ events, StatusStep now c { c with route := { c.route with
        status := c.route.statusAt now
        pendingEvents := c.route.pendingEvents ++ events } } true :=
      fun events ↦ ⟨rfl, rfl, ⟨events, rfl⟩, by simp, fun _ ↦ heq⟩
    cases hs : c.route.plan.schedule? with
    | none =>
      have hd : c.route.departureTime = none := by
        simp [DeliveryRoute.departureTime, RoutePlan.departureTime, hs]
      have hst : c.route.statusAt now = .planned := by simp [DeliveryRoute.statusAt, hs]
      obtain rfl : some .missingDepartureTime = reason := by
        simpa [computeRouteStatus, hd, hst] using hcompute
      rw [hst] at hstep ⊢
      simpa using hstep []
    | some s =>
      have hd : c.route.departureTime = some s.departureTime := by
        simp [DeliveryRoute.departureTime, RoutePlan.departureTime, hs]
      have heta : c.route.etaFinal = some s.etaFinal := by simp [DeliveryRoute.etaFinal, hs]
      by_cases h1 : now < s.departureTime
      · have hst : c.route.statusAt now = .scheduled := by simp [DeliveryRoute.statusAt, hs, h1]
        obtain rfl : some .beforeScheduledDeparture = reason := by
          simpa [computeRouteStatus, hd, heta, hst, h1] using hcompute
        rw [hst] at hstep ⊢
        simpa using hstep []
      · by_cases h2 : s.etaFinal ≤ now
        · have hst : c.route.statusAt now = .completed := by
            simp [DeliveryRoute.statusAt, hs, h1, h2]
          have hfrom : c.route.status = .scheduled ∨ c.route.status = .inProgress := by
            rcases h with h | h | h
            · exact .inl h
            · exact absurd h heq
            · exact .inr h.1
          rw [hst] at hstep ⊢
          simp only [heta]
          unfold DeliveryRoute.markCompleted
          rw [require_bind_of_true hfrom]
          simp only [hd, heta, ensures_bind, ensures_lift_ok, ensures_set,
            ensures_pure]
          exact hstep _
        · have hst : c.route.statusAt now = .inProgress := by
            simp [DeliveryRoute.statusAt, hs, h1, h2]
          have hfrom : c.route.status = .scheduled := by
            rcases h with h | h | h
            · exact h
            · exact absurd h heq
            · rw [hst] at h
              cases h.2
          rw [hst] at hstep ⊢
          simp only [hd]
          unfold DeliveryRoute.markStarted
          rw [require_bind_of_true hfrom]
          simp only [ensures_bind, ensures_lift_ok, ensures_set, ensures_pure]
          exact hstep _

/-! ### Truck position -/

/-- What one pass does to the truck of a route. -/
structure TruckPass (route : DeliveryRoute) (now : Datetime) (before after : Truck) : Prop where
  same : before.SameVehicle after
  released : route.Finished now → after.status = .free ∧ after.route = none ∧
    after.busyFrom = none ∧ after.busyUntil = none ∧ after.inTransitTo = none ∧
    after.currentLocation = some route.endLocation
  kept : ¬ route.Finished now → after.status = before.status ∧ after.route = before.route ∧
    after.busyFrom = before.busyFrom ∧ after.busyUntil = before.busyUntil
  unscheduled : route.plan.schedule? = none →
    after.currentLocation = before.currentLocation ∧ after.inTransitTo = none
  onSchedule : ∀ s, route.plan.schedule? = some s → now < s.etaFinal → after.OnSchedule s now

/-- A truck that is linked with its route. -/
structure TruckReady (route : DeliveryRoute) (truck : Truck) : Prop where
  vehicleId : route.truck = some truck.vehicleId
  routeId : truck.route = some route.routeId

/-- The release of a finished route. -/
structure Released (now : Datetime) (truck : Truck) (before after : RouteCell) : Prop where
  packages : after.packages = before.packages
  route : ∃ events, after.route = { before.route with
    truck := none
    pendingEvents := before.route.pendingEvents ++ events }
  truck : after.truck =
    some ({ truck with currentLocation := some before.route.endLocation }.free)

/-- Releasing the truck of a finished route succeeds when the truck has a location. -/
theorem ensures_releaseFinished {c : RouteCell} {truck : Truck} {now : Datetime}
    (ht : c.truck = some truck) (hl : truck.currentLocation.isSome)
    (hfin : c.route.Finished now) (completionTime : Datetime) :
    Ensures (releaseFinished now completionTime) c
      (fun released c' ↦ released = true ∧ Released now truck c c') (fun _ _ ↦ False) := by
  obtain ⟨location, hl⟩ := Option.isSome_iff_exists.mp hl
  obtain ⟨eta, heta, hle⟩ := hfin
  have hrel : truck.release (some c.route) now false =
      ({ truck with currentLocation := some c.route.endLocation }.free, true) := by
    simp [Truck.release, heta, hle]
  unfold releaseFinished
  simp only [ensures_bind, ensures_get, ht, DeliveryRoute.releaseTruck, hl, hrel, Truck.free,
    ensures_lift_ok, ensures_set, ensures_pure]
  exact ⟨trivial, rfl, ⟨_, rfl⟩, rfl⟩

/-- What positioning the truck does to the cell, and what it reports. -/
structure PositionStep (now : Datetime) (truck : Truck) (before after : RouteCell)
    (released : Bool) : Prop where
  packages : after.packages = before.packages
  truck : ∃ t, after.truck = some t ∧ TruckPass before.route now truck t
  route : if released then ∃ events, after.route = { before.route with
      truck := none
      pendingEvents := before.route.pendingEvents ++ events }
    else after.route = before.route
  released : released = true ↔ before.route.Finished now

/-- A release settles the truck of a finished route. -/
theorem positionStep_of_released {c c' : RouteCell} {truck moved : Truck} {now : Datetime}
    (hfin : c.route.Finished now) (h : Released now moved c c') (hsame : truck.SameVehicle moved) :
    PositionStep now truck c c' true := by
  refine ⟨h.packages, ⟨_, h.truck, ?_⟩, h.route, by simp [hfin]⟩
  refine ⟨hsame.trans ⟨rfl, rfl, rfl, rfl⟩, fun _ ↦ ⟨rfl, rfl, rfl, rfl, rfl, rfl⟩,
    fun hn ↦ absurd hfin hn, fun hn ↦ ?_, fun s hs hlt ↦ ?_⟩
  · exact absurd hfin (DeliveryRoute.not_finished_of_unscheduled hn)
  · exact absurd ((DeliveryRoute.finished_iff hs).mp hfin) (not_le.mpr hlt)

/-- Moving the truck of an unfinished route. -/
theorem positionStep_of_moved {c : RouteCell} {truck moved : Truck} {now : Datetime}
    (hfin : ¬ c.route.Finished now) (hsame : truck.SameVehicle moved)
    (hstatus : moved.status = truck.status) (hroute : moved.route = truck.route)
    (hfrom : moved.busyFrom = truck.busyFrom) (huntil : moved.busyUntil = truck.busyUntil)
    (hun : c.route.plan.schedule? = none →
      moved.currentLocation = truck.currentLocation ∧ moved.inTransitTo = none)
    (hon : ∀ s, c.route.plan.schedule? = some s → now < s.etaFinal → moved.OnSchedule s now) :
    PositionStep now truck c { c with truck := some moved } false :=
  ⟨rfl, ⟨moved, rfl, hsame, fun h ↦ absurd h hfin, fun _ ↦ ⟨hstatus, hroute, hfrom, huntil⟩, hun,
    hon⟩, rfl, by simp [hfin]⟩

/-- Positioning a truck settles it, unless the route has passed its end and the truck has no
location to be released at. -/
theorem ensures_positionTruck {c : RouteCell} {truck : Truck} (ht : c.truck = some truck)
    (hready : TruckReady c.route truck) (now : Datetime) :
    Ensures (positionTruck truck c.route (c.route.currentPosition now) now) c
      (fun result c' ↦ PositionStep now truck c c' result.2)
      (fun _ _ ↦ truck.currentLocation = none ∧ c.route.Finished now) := by
  have hset : ∀ f : Truck → Truck, { c with truck := c.truck.map f } =
      { c with truck := some (f truck) } := fun f ↦ by rw [ht, Option.map_some]
  unfold positionTruck
  cases hs : c.route.plan.schedule? with
  | none =>
    have hnf := @DeliveryRoute.not_finished_of_unscheduled c.route hs now
    have hpos : (c.route.currentPosition now).kind = .unscheduled := by
      simp [DeliveryRoute.currentPosition, hs]
    simp only [hpos, setTruckUnscheduled, ensures_bind, ensures_pure]
    split
    · next hin =>
      have hstep : PositionStep now truck c { c with truck := some truck } false :=
        positionStep_of_moved hnf (.refl truck) rfl rfl rfl rfl (fun _ ↦ ⟨rfl, hin⟩) (by simp [hs])
      rw [← ht] at hstep
      rwa [ensures_pure]
    · simp only [modifyTruck, ensures_bind, ensures_modify, ensures_pure, hset]
      exact positionStep_of_moved hnf ⟨rfl, rfl, rfl, rfl⟩ rfl rfl rfl rfl
        (fun _ ↦ ⟨rfl, rfl⟩) (by simp [hs])
  | some s =>
    have hcur : c.route.currentPosition now = s.positionAt now := by
      simp [DeliveryRoute.currentPosition, hs]
    have heta : c.route.etaFinal = some s.etaFinal := by simp [DeliveryRoute.etaFinal, hs]
    rw [hcur]
    rcases lt_trichotomy now s.etaFinal with hlt | rfl | hafter
    · have hnf : ¬ c.route.Finished now := by
        rw [DeliveryRoute.finished_iff hs, not_le]
        exact hlt
      have hmove : ∀ moved : Truck, truck.SameVehicle moved → moved.status = truck.status →
          moved.route = some c.route.routeId → moved.busyFrom = truck.busyFrom →
          moved.busyUntil = truck.busyUntil → moved.OnSchedule s now →
          PositionStep now truck c { c with truck := some moved } false := by
        intro moved h1 h2 h3 h4 h5 h6
        refine positionStep_of_moved hnf h1 h2 (h3.trans hready.routeId.symm) h4 h5 (by simp [hs])
          fun s' hs' _ ↦ ?_
        rwa [← Option.some.inj (hs.symm.trans hs')]
      by_cases hbefore : now < s.departureTime
      · rw [RouteSchedule.positionAt_beforeStart hbefore]
        simp only [setTruckBeforeStart, modifyTruck, ensures_bind, ensures_modify, ensures_pure, hset]
        refine hmove _ ⟨rfl, rfl, rfl, rfl⟩ rfl rfl rfl rfl
          (Truck.onSchedule_of_beforeStart hbefore ?_ rfl)
        rw [DeliveryRoute.location_firstStop hs]
      · rcases RouteSchedule.atStop_or_inTransit (not_lt.mp hbefore) hlt with
          ⟨i, a, ha, hnow⟩ | ⟨i, a, b, ha, hb, hnow, hlt'⟩
        · rw [RouteSchedule.positionAt_atStop ha hnow]
          simp only [setTruckAtStop, modifyTruck, ensures_bind, ensures_modify, hset, heta]
          rw [if_neg fun h ↦ absurd h.2 (not_le.mpr hlt), ensures_pure]
          exact hmove _ ⟨rfl, rfl, rfl, rfl⟩ rfl rfl rfl rfl
            (Truck.onSchedule_of_atStop ha hnow rfl rfl)
        · rw [RouteSchedule.positionAt_inTransit ha hb hnow hlt']
          simp only [setTruckInTransit, modifyTruck, ensures_bind, ensures_modify, ensures_pure,
            hset, Option.isSome_some, if_true]
          exact hmove _ ⟨rfl, rfl, rfl, rfl⟩ rfl rfl rfl rfl
            (Truck.onSchedule_of_inTransit ha hb hnow hlt' rfl rfl)
    · -- At the final arrival the truck is moved to the last stop and then released.
      have hfin : c.route.Finished s.etaFinal := (DeliveryRoute.finished_iff hs).mpr le_rfl
      rw [RouteSchedule.positionAt_etaFinal, DeliveryRoute.location_lastStop hs]
      simp only [setTruckAtStop, modifyTruck, ensures_bind, ensures_modify, hset, heta]
      rw [if_pos ⟨trivial, le_rfl⟩]
      simp only [validateRouteEtaFinal, heta, ensures_bind, ensures_pure, ensures_lift_ok]
      let moved : Truck := { truck with
        currentLocation := some c.route.endLocation
        inTransitTo := none
        route := some c.route.routeId }
      have hmoved : ({ c with truck := some moved } : RouteCell).truck = some moved := rfl
      refine (ensures_releaseFinished hmoved rfl hfin _).mono ?_ (fun _ _ h ↦ h.elim)
      rintro released c' ⟨rfl, h⟩
      exact positionStep_of_released hfin ⟨h.packages, h.route, h.truck⟩ ⟨rfl, rfl, rfl, rfl⟩
    · -- After the final arrival the truck is released where it stands.
      have hfin : c.route.Finished now := (DeliveryRoute.finished_iff hs).mpr hafter.le
      rw [RouteSchedule.positionAt_afterEnd hafter]
      simp only [validateRouteEtaFinal, heta, ensures_bind, ensures_pure, ensures_lift_ok]
      cases hl : truck.currentLocation with
      | none =>
        simp only [releaseFinished, ensures_bind, ensures_get, ht, DeliveryRoute.releaseTruck, hl,
          ensures_lift_error]
        exact ⟨trivial, hfin⟩
      | some location =>
        refine (ensures_releaseFinished ht (by simp [hl]) hfin _).mono ?_ (fun _ _ h ↦ h.elim)
        rintro released c' ⟨rfl, h⟩
        exact positionStep_of_released hfin h (.refl truck)

/-- What reconciling the truck does to the cell, and what its summary lists. -/
structure TruckStep (now : Datetime) (before : RouteCell) (summary : TruckReconciliationSummary)
    (after : RouteCell) : Prop where
  packages : after.packages = before.packages
  route : if summary.trucksReleased = [] then after.route = before.route
    else ∃ events, after.route = { before.route with
      truck := none
      pendingEvents := before.route.pendingEvents ++ events }
  released : summary.trucksReleased =
    if before.route.Finished now then before.truck.toList.map Truck.vehicleId else []
  truck : Option.Rel (TruckPass before.route now) before.truck after.truck
  listed : ∀ t, before.truck = some t →
    t.vehicleId ∉ summary.trucksMoved ++ summary.trucksReleased ++ summary.trucksReconciled →
    after.truck = some t

/-- A truck that kept its position and was not released is unchanged. -/
theorem TruckPass.eq_of_position {route : DeliveryRoute} {now : Datetime} {t t' : Truck}
    (h : TruckPass route now t t') (hnf : ¬ route.Finished now)
    (hl : t'.currentLocation = t.currentLocation) (ht : t'.inTransitTo = t.inTransitTo) :
    t' = t := by
  obtain ⟨h1, h2, h3, h4⟩ := h.same
  obtain ⟨h5, h6, h7, h8⟩ := h.kept hnf
  cases t
  cases t'
  simp_all

/-- Reconciling the truck of a route settles it, unless it has no location to be released at. -/
theorem ensures_reconcileTruckForRoute {c : RouteCell}
    (hready : ∀ t, c.truck = some t → TruckReady c.route t) (now : Datetime) :
    Ensures (reconcileTruckForRoute now) c (TruckStep now c)
      (fun _ _ ↦ ∃ t, c.truck = some t ∧ t.currentLocation = none ∧ c.route.Finished now) := by
  unfold reconcileTruckForRoute
  simp only [ensures_bind, ensures_get]
  cases ht : c.truck with
  | none =>
    rw [ensures_pure]
    exact ⟨rfl, rfl, by simp [ht], by rw [ht]; exact .none, by simp [ht]⟩
  | some truck =>
    have hr := hready truck ht
    have hcheck : checkRouteReference truck c.route now = pure ([], []) := by
      simp [checkRouteReference, hr.routeId]
    simp only [hcheck, ensures_bind, ensures_pure, ensures_get]
    refine (ensures_positionTruck ht hr now).mono (fun result c' h ↦ ?_)
      (fun _ _ h ↦ ⟨truck, rfl, h⟩)
    obtain ⟨moved, released⟩ := result
    obtain ⟨t', ht', hpass⟩ := h.truck
    dsimp only at h
    have hrel := h.released
    have hroute := h.route
    refine ⟨h.packages, ?_, ?_, by rw [ht, ht']; exact .some hpass, ?_⟩
    · cases released <;> simpa using hroute
    · cases released <;> simp_all
    · rintro t heq hno
      obtain rfl := Option.some.inj (ht.symm.trans heq)
      have hnf : ¬ c.route.Finished now := by
        intro hfin
        rw [hrel.mpr hfin] at hno
        simp at hno
      have hposition : t'.currentLocation = truck.currentLocation ∧
          t'.inTransitTo = truck.inTransitTo := by
        by_contra hcon
        refine hno ?_
        simp only [ht', Option.bind_some]
        rw [not_and_or] at hcon
        rcases hcon with h1 | h1 <;> simp [h1]
      rw [ht', hpass.eq_of_position hnf hposition.1 hposition.2]

/-! ### One pass -/

/-- A cell on which a pass can work: its status has a legal way on, its truck and packages are
linked with the route and the packages lie on its path. -/
structure CellReady (now : Datetime) (c : RouteCell) : Prop where
  status : StatusReady c.route now
  truck : ∀ t, c.truck = some t → TruckReady c.route t
  packages : ∀ p ∈ c.packages, PackageReady c.route p

/-- A settled cell, with what the pass reports about it. -/
structure RoutePass (now : Datetime) (before : RouteCell) (changes : RouteChanges)
    (after : RouteCell) : Prop where
  routeId : after.route.routeId = before.route.routeId
  plan : after.route.plan = before.route.plan
  listedPackages : after.route.packages = before.route.packages
  status : after.route.status = before.route.statusAt now
  routeTruck : after.route.truck =
    if before.truck.isSome ∧ before.route.Finished now then none else before.route.truck
  truck : Option.Rel (TruckPass before.route now) before.truck after.truck
  packages : List.Forall₂ (fun p p' ↦ PackagePass before.route now p p'
    (decide (p.packageId ∈ changes.packagesUpdated))) before.packages after.packages
  routeChanged : changes.routeChanged = true ↔ before.route.status ≠ before.route.statusAt now
  released : changes.trucks.trucksReleased =
    if before.route.Finished now then before.truck.toList.map Truck.vehicleId else []
  routeListed : changes.routeChanged = false → changes.trucks.trucksReleased = [] →
    after.route = before.route
  truckListed : ∀ t, before.truck = some t → t.vehicleId ∉ changes.trucks.trucksMoved ++
    changes.trucks.trucksReleased ++ changes.trucks.trucksReconciled → after.truck = some t

/-- A pass over a package depends on the plan of the route only. -/
theorem PackagePass.of_plan {route route' : DeliveryRoute} {now : Datetime}
    {p p' : DeliveryPackage} {changed : Bool} (h : PackagePass route now p p' changed)
    (hplan : route'.plan = route.plan) : PackagePass route' now p p' changed := by
  refine ⟨?_, h.same, h.route, h.routeId, h.unchanged⟩
  have hsettled := h.settled
  unfold DeliveryPackage.SettledOn at hsettled ⊢
  rwa [hplan]

/-- A pass over a truck depends on the plan of the route only. -/
theorem TruckPass.of_plan {route route' : DeliveryRoute} {now : Datetime} {t t' : Truck}
    (h : TruckPass route now t t') (hplan : route'.plan = route.plan) :
    TruckPass route' now t t' := by
  have hfin : route'.Finished now ↔ route.Finished now := by
    unfold DeliveryRoute.Finished DeliveryRoute.etaFinal
    rw [hplan]
  have hend : route'.endLocation = route.endLocation := by
    unfold DeliveryRoute.endLocation
    rw [hplan]
  exact ⟨h.same, fun hf ↦ hend ▸ h.released (hfin.mp hf), fun hf ↦ h.kept (hf ∘ hfin.mpr),
    fun hs ↦ h.unscheduled (hplan ▸ hs), fun s hs ↦ h.onSchedule s (hplan ▸ hs)⟩

/-- A pass over an optional truck depends on the plan of the route only. -/
theorem rel_truckPass_of_plan {route route' : DeliveryRoute} {now : Datetime}
    (hplan : route'.plan = route.plan) {t t' : Option Truck}
    (h : Option.Rel (TruckPass route now) t t') : Option.Rel (TruckPass route' now) t t' := by
  cases h with
  | some h => exact .some (h.of_plan hplan)
  | none => exact .none

/-- The guarded body settles a ready cell, unless a truck has no location to be released at. -/
theorem ensures_reconcileBody {c : RouteCell} {now : Datetime} (h : CellReady now c) :
    Ensures (reconcileBody now true) c (RoutePass now c)
      (fun _ _ ↦ ∃ t, c.truck = some t ∧ t.currentLocation = none ∧ c.route.Finished now) := by
  unfold reconcileBody
  simp only [ensures_bind, if_true, ensures_pure]
  refine (ensures_reconcileStatus h.status).mono (fun statusResult c1 h1 ↦ ?_) fun _ _ h ↦ h.elim
  obtain ⟨route1, truck1, packages1⟩ := c1
  obtain ⟨events1, hroute1⟩ := h1.route
  have ht1 := h1.truck
  have hp1 := h1.packages
  dsimp only at hroute1 ht1 hp1
  subst hroute1 ht1 hp1
  refine (ensures_reconcileTruckForRoute (fun t ht ↦ ?_) now).mono (fun trucks c2 h2 ↦ ?_)
    (fun _ _ h ↦ h)
  · exact ⟨(h.truck t ht).vehicleId, (h.truck t ht).routeId⟩
  obtain ⟨route2, truck2, packages2⟩ := c2
  have hp2 := h2.packages
  dsimp only at hp2
  subst hp2
  have hroute2 : route2.routeId = c.route.routeId ∧ route2.plan = c.route.plan ∧
      route2.packages = c.route.packages ∧ route2.status = c.route.statusAt now ∧
      route2.truck = if trucks.trucksReleased = [] then c.route.truck else none := by
    have := h2.route
    dsimp only at this
    split at this
    · next hno =>
      rw [this, if_pos hno]
      exact ⟨rfl, rfl, rfl, rfl, rfl⟩
    · next hno =>
      obtain ⟨events, rfl⟩ := this
      rw [if_neg hno]
      exact ⟨rfl, rfl, rfl, rfl, rfl⟩
  have hin : ∀ p : DeliveryPackage, route2.includesInOrder p.startLocation p.endLocation =
      c.route.includesInOrder p.startLocation p.endLocation := fun p ↦ by
    rw [DeliveryRoute.includesInOrder, hroute2.2.1, DeliveryRoute.includesInOrder]
  refine (ensures_updatePackagesForRoute ⟨route2, truck2, c.packages⟩ (fun p hp ↦ ?_) now).mono
    (fun packages c3 h3 ↦ ?_) fun _ _ h ↦ h.elim
  · exact ⟨(h.packages p hp).routeId, (hin p).trans (h.packages p hp).inOrder⟩
  obtain ⟨route3, truck3, packages3⟩ := c3
  obtain ⟨rfl, rfl, hpackages⟩ := h3
  obtain ⟨hid, hplan, hlisted, hstatus, htruck⟩ := hroute2
  have hreleased : trucks.trucksReleased =
      if c.route.Finished now then c.truck.toList.map Truck.vehicleId else [] := h2.released
  have htruck3 : Option.Rel (TruckPass c.route now) c.truck truck3 :=
    rel_truckPass_of_plan (by rfl) h2.truck
  refine ⟨hid, hplan, hlisted, hstatus, ?_, htruck3, ?_, ⟨h1.changed, fun hne ↦ ?_⟩, hreleased, ?_,
    h2.listed⟩
  · show route3.truck = _
    rw [htruck, hreleased]
    by_cases hfin : c.route.Finished now
    · cases c.truck <;> simp [hfin]
    · simp [hfin]
  · exact hpackages.imp fun p p' hp ↦ hp.of_plan hplan.symm
  · by_contra hc
    rw [Bool.not_eq_true] at hc
    exact hne (congrArg DeliveryRoute.status (h1.unchanged hc)).symm
  · intro hc hrel
    have hkept := h2.route
    rw [if_pos hrel] at hkept
    exact hkept.trans (h1.unchanged hc)

end Reconciler
end FleetFlow
