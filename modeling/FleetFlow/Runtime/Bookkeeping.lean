import FleetFlow.Runtime.Guarantees

/-!
# What a heartbeat reports

The persistence step writes the entities that the summary of a heartbeat lists, and only the
recorders of listed entities are drained. A summary is complete when every entity whose row or
event buffer has changed is listed.
-/

namespace FleetFlow

open Program

/-- Columns that `sql/routes/update_state.sql` writes. -/
def DeliveryRoute.row (route : DeliveryRoute) : Option Datetime × RouteStatus × Option Int :=
  (route.departureTime, route.status, route.truck)

/-- Columns that `sql/packages/update_state.sql` writes. -/
def DeliveryPackage.row (package : DeliveryPackage) :
    ItemStatus × LocationCode × Option Datetime × Option Int :=
  (package.status, package.currentLocation, package.expectedArrival, package.routeId)

/-- Columns that `sql/trucks/update_state.sql` writes. -/
def Truck.row (truck : Truck) :
    TruckStatus × Option LocationCode × Option Datetime × Option Datetime × Option LocationCode :=
  (truck.status, truck.currentLocation, truck.busyFrom, truck.busyUntil, truck.inTransitTo)

/-- Every change between two worlds is listed. -/
structure HeartbeatSummary.Complete (summary : HeartbeatSummary) (w w' : World) : Prop where
  route : ∀ r a b, w.routes.find? r = some a → w'.routes.find? r = some b →
    b.row ≠ a.row ∨ b.pendingEvents ≠ a.pendingEvents → r ∈ summary.mutatedRoutes
  package : ∀ p a b, w.packages.find? p = some a → w'.packages.find? p = some b →
    b.row ≠ a.row ∨ b.pendingEvents ≠ a.pendingEvents → p ∈ summary.mutatedPackages
  truck : ∀ t a b, w.trucks.find? t = some a → w'.trucks.find? t = some b →
    b.row ≠ a.row → t ∈ summary.changedTrucks

/-- No route that is recorded as completed holds a truck. -/
def World.CompletedReleased (w : World) : Prop :=
  w.routes.All fun route ↦ route.status = .completed → route.truck = none

namespace HeartbeatSummary

variable {passes : List (Int × Option RouteChanges)} {r : Int} {ch : RouteChanges}

/-- A package that a pass lists is listed. -/
theorem mem_mutatedPackages (h : (r, some ch) ∈ passes) {p : Int} (hp : p ∈ ch.packagesUpdated) :
    p ∈ (ofPasses passes).mutatedPackages :=
  List.mem_flatMap.mpr ⟨ch, List.mem_filterMap.mpr ⟨_, h, rfl⟩, hp⟩

/-- A truck that a pass lists is listed. -/
theorem mem_changedTrucks (h : (r, some ch) ∈ passes) {t : Int}
    (ht : t ∈ ch.trucks.trucksMoved ++ ch.trucks.trucksReleased ++ ch.trucks.trucksReconciled) :
    t ∈ (ofPasses passes).changedTrucks := by
  have hch : ch ∈ passes.filterMap Prod.snd := List.mem_filterMap.mpr ⟨_, h, rfl⟩
  unfold changedTrucks ofPasses
  simp only [List.mem_dedup, List.mem_append, List.mem_flatMap] at ht ⊢
  rcases ht with (ht | ht) | ht
  · exact .inl (.inl ⟨ch, hch, ht⟩)
  · exact .inl (.inr ⟨ch, hch, ht⟩)
  · exact .inr ⟨ch, hch, ht⟩

/-- A route is listed exactly when its pass changed the status. -/
theorem mem_mutatedRoutes_iff (hnd : (passes.map Prod.fst).Nodup) (h : (r, some ch) ∈ passes) :
    r ∈ (ofPasses passes).mutatedRoutes ↔ ch.routeChanged = true := by
  unfold ofPasses
  simp only [List.mem_filterMap]
  constructor
  · rintro ⟨⟨r', changes⟩, hmem, hr⟩
    split at hr
    · next hany =>
      cases hr
      obtain rfl := (Prod.mk.inj (List.inj_on_of_nodup_map hnd h hmem rfl)).2
      simpa using hany
    · cases hr
  · intro hc
    exact ⟨(r, some ch), h, by simp [hc]⟩

end HeartbeatSummary

namespace World

open Reconciler

variable {u : UnicodeTables} {allowed : Option LocationCode → Prop} {clock : Option Datetime}
  {w w' : World} {now : Datetime} {summary : HeartbeatSummary}

/-- The pass over a route that a heartbeat did not skip. -/
private theorem exists_routePass (h : HeartbeatService.Advances now w summary w') {r : Int}
    {route : DeliveryRoute} (hr : w.routes.find? r = some route) :
    ∃ passes ch c, summary = .ofPasses passes ∧ (passes.map Prod.fst).Nodup ∧
      (r, some ch) ∈ passes ∧ RoutePass now (w.cell route) ch c ∧
      w'.routes.find? r = some c.route ∧ route.truck.bind w'.trucks.find? = c.truck ∧
      route.packages.filterMap w'.packages.find? = c.packages := by
  obtain ⟨passes, rfl, hfst, hswept⟩ := h.passes
  obtain ⟨changes, c, hmem, hpass, hroute, htruck, hpackages⟩ :=
    visited_of_swept hswept (.of_eq hfst) hr
  have hnd : (passes.map Prod.fst).Nodup := hfst ▸ Store.nodup_values
  obtain ⟨ch, rfl, hpass⟩ | ⟨rfl, -, -⟩ := hpass
  · exact ⟨passes, ch, c, rfl, hnd, hmem, hpass, hroute, htruck, hpackages⟩
  · have hskip : r ∈ (HeartbeatSummary.ofPasses passes).skippedRoutes :=
      List.mem_filterMap.mpr ⟨_, hmem, by simp⟩
    rw [h.skippedRoutes] at hskip
    cases hskip

/-- A route outside the list lost at most its truck. -/
private theorem route_unlisted (h : HeartbeatService.Advances now w summary w') {r : Int}
    {a b : DeliveryRoute} (ha : w.routes.find? r = some a)
    (hb : w'.routes.find? r = some b) (hno : r ∉ summary.mutatedRoutes) :
    a.status = a.statusAt now ∧ (a.truck = none ∨ ¬ a.Finished now → b = a) := by
  obtain ⟨passes, ch, c, rfl, hnd, hmem, hpass, hroute, -, -⟩ := exists_routePass h ha
  rw [hroute, Option.some.injEq] at hb
  subst hb
  rw [HeartbeatSummary.mem_mutatedRoutes_iff hnd hmem, hpass.routeChanged, not_not] at hno
  refine ⟨hno, fun hkeep ↦ hpass.routeListed ?_ ?_⟩
  · rw [← Bool.not_eq_true, hpass.routeChanged, not_not]
    exact hno
  · rw [hpass.released]
    split
    · next hfin =>
      have hnone : a.truck = none := hkeep.resolve_right (not_not.mpr hfin)
      simp [cell, truckOf, hnone]
    · rfl

/-- A package outside the list is unchanged. -/
private theorem package_unlisted (h : HeartbeatService.Advances now w summary w')
    (hl : w.RouteLinked) {p : Int} {a b : DeliveryPackage} (ha : w.packages.find? p = some a)
    (hb : w'.packages.find? p = some b) (hno : p ∉ summary.mutatedPackages) : b = a := by
  cases hlink : a.route with
  | none =>
    obtain ⟨x, hx, hmoved⟩ := h.advanced.packages.forward ha
    rw [hb, Option.some.injEq] at hx
    exact hx ▸ hmoved.waiting hlink
  | some r =>
    obtain ⟨route, hr, hlist⟩ := hl.route_of_package ha hlink
    obtain ⟨passes, ch, c, rfl, -, hmem, hpass, -, -, hpackages⟩ := exists_routePass h hr
    obtain ⟨x, hx, -, hrel⟩ :=
      exists_package_of_pass (.inl ⟨ch, rfl, hpass⟩) hpackages ha hlist
    rw [hb, Option.some.injEq] at hx
    subst hx
    refine (hrel ch rfl).unchanged ?_
    rw [decide_eq_false_iff_not]
    exact fun hp ↦ hno (HeartbeatSummary.mem_mutatedPackages hmem hp)

/-- A truck outside the list is unchanged. -/
private theorem truck_unlisted (h : HeartbeatService.Advances now w summary w')
    (hl : w.RouteLinked) {t : Int} {a b : Truck} (ha : w.trucks.find? t = some a)
    (hb : w'.trucks.find? t = some b) (hno : t ∉ summary.changedTrucks) : b = a := by
  cases hlink : a.route with
  | none =>
    obtain ⟨x, hx, hmoved⟩ := h.advanced.trucks.forward ha
    rw [hb, Option.some.injEq] at hx
    exact hx ▸ hmoved.idle hlink
  | some r =>
    obtain ⟨route, hr, htruck⟩ := hl.route_of_truck ha hlink
    obtain ⟨passes, ch, c, rfl, -, hmem, hpass, -, hafter, -⟩ := exists_routePass h hr
    have hcell : (w.cell route).truck = some a := by
      show route.truck.bind w.trucks.find? = some a
      rw [htruck]
      exact ha
    have hkept := hpass.truckListed a hcell fun hlisted ↦ hno ?_
    · rw [htruck, Option.bind_some, hb, hkept, Option.some.injEq] at hafter
      exact hafter
    · rw [Store.key_of_find? ha] at hlisted
      exact HeartbeatSummary.mem_changedTrucks hmem hlisted

/-- The truck of a completed route leaves it without the route being listed. -/
private theorem released_unlisted (h : HeartbeatService.Advances now w summary w')
    (hl : w.RouteLinked) {r : Int} {a : DeliveryRoute} (ha : w.routes.find? r = some a)
    (hfin : a.Finished now) (hstatus : a.status = .completed) (htruck : a.truck.isSome) :
    ∃ b, w'.routes.find? r = some b ∧ b.row ≠ a.row ∧ r ∉ summary.mutatedRoutes := by
  obtain ⟨passes, ch, c, rfl, hnd, hmem, hpass, hroute, -, -⟩ := exists_routePass h ha
  refine ⟨c.route, hroute, fun hrow ↦ ?_, ?_⟩
  · obtain ⟨t, ht⟩ := Option.isSome_iff_exists.mp htruck
    obtain ⟨truck, htruck, -⟩ := hl.truck_of_route ha ht
    have hnone := hpass.routeTruck
    rw [if_pos ⟨by simp [cell, truckOf, ht, htruck], hfin⟩] at hnone
    have hkept : c.route.truck = a.truck := congrArg (fun row ↦ row.2.2) hrow
    rw [hnone, ht] at hkept
    cases hkept
  · rw [HeartbeatSummary.mem_mutatedRoutes_iff hnd hmem, hpass.routeChanged, not_not]
    show a.status = a.statusAt now
    rw [hstatus, DeliveryRoute.statusAt_eq_completed_iff.mpr hfin]

/-- The summary of a heartbeat is complete exactly when no completed route holds a truck. -/
theorem Sound.complete_iff (hw : w.Sound u allowed clock) (hnow : ∀ c ∈ clock, c ≤ now)
    (h : HeartbeatService.Advances now w summary w') :
    summary.Complete w w' ↔ w.CompletedReleased := by
  have hl := hw.linked.toRouteLinked
  constructor
  · intro hcomplete r a ha hstatus
    obtain ⟨c, hc, hfin⟩ := (hw.timely _ _ ha).completed hstatus
    by_contra hne
    obtain ⟨b, hb, hrow, hno⟩ := released_unlisted h hl ha (hfin.mono (hnow c hc)) hstatus
      (Option.isSome_iff_ne_none.mpr hne)
    exact hno (hcomplete.route r a b ha hb (.inl hrow))
  · intro hreleased
    refine ⟨fun r a b ha hb hne ↦ ?_, fun p a b ha hb hne ↦ ?_, fun t a b ha hb hne ↦ ?_⟩
    · by_contra hno
      obtain ⟨hstatus, hkept⟩ := route_unlisted h ha hb hno
      have hkeep : a.truck = none ∨ ¬ a.Finished now := by
        by_cases hfin : a.Finished now
        · rw [DeliveryRoute.statusAt_eq_completed_iff.mpr hfin] at hstatus
          exact .inl (hreleased _ _ ha hstatus)
        · exact .inr hfin
      rw [hkept hkeep] at hne
      simp at hne
    · by_contra hno
      rw [package_unlisted h hl ha hb hno] at hne
      simp at hne
    · by_contra hno
      rw [truck_unlisted h hl ha hb hno] at hne
      exact hne rfl

end World

/-- A heartbeat lists all that it changes exactly when no completed route holds a truck. -/
theorem Reachable.heartbeat_complete_iff {u : UnicodeTables} {fleet : Fleet}
    {clock : Option Datetime} {w : World} {now : Datetime}
    (hidle : fleet.All (Truck.Idle fun _ ↦ True)) (h : Reachable u fleet clock w)
    (hnow : ∀ c ∈ clock, c ≤ now) :
    Ensures (HeartbeatService.advance .inMemory now) w
      (fun summary w' ↦ summary.Complete w w' ↔ w.CompletedReleased) (fun _ _ ↦ False) := by
  have hsound := h.sound (fun _ _ ↦ trivial) hidle
  exact (HeartbeatService.ensures_advance hsound hnow).mono
    (fun _ _ hw ↦ hsound.complete_iff hnow hw) fun _ _ hf ↦ hf

namespace Scenario

/-- The heartbeat after the arrival of the scenario's route, whose truck is still linked. -/
theorem heartbeat_complete_iff_steps :
    Ensures (HeartbeatService.advance .inMemory (hour 20))
      (performAll .asciiOnly (.initial fleet) steps)
      (fun summary w' ↦ summary.Complete (performAll .asciiOnly (.initial fleet) steps) w' ↔
        (performAll .asciiOnly (.initial fleet) steps).CompletedReleased) (fun _ _ ↦ False) :=
  Reachable.heartbeat_complete_iff fleet_idle_anywhere reachable_steps (by decide)

/-- The route completes before it has a truck, and then gets one. -/
def lateTruck : List (Datetime × Operation) :=
  [(hour 0, .createRoute ["SYD", "MEL"] (some (hour 8))),
    (hour 20, .heartbeat),
    (hour 21, .assignTruck 1001 1 (hour 21))]

/-- The state before the next heartbeat is reachable. -/
theorem reachable_lateTruck : Reachable .asciiOnly fleet (some (hour 21))
    (performAll .asciiOnly (.initial fleet) lateTruck) := by
  have hsorted : ([] ++ lateTruck.map Prod.fst).Pairwise (· ≤ ·) := by decide
  exact Reachable.performAll .start hsorted

/-- The next heartbeat takes the truck from the completed route, records the release and lists
no route. -/
theorem lateTruck_unlisted :
    Reachable .asciiOnly fleet (some (hour 21))
      (performAll .asciiOnly (.initial fleet) lateTruck) ∧
    ∃ summary w', (HeartbeatService.advance .inMemory (hour 22)).run
        (performAll .asciiOnly (.initial fleet) lateTruck) = .ok summary w' ∧
      summary.mutatedRoutes = [] ∧
      ¬ summary.Complete (performAll .asciiOnly (.initial fleet) lateTruck) w' := by
  refine ⟨reachable_lateTruck, ?_⟩
  have hrun : (match (HeartbeatService.advance .inMemory (hour 22)).run
      (performAll .asciiOnly (.initial fleet) lateTruck) with
    | .ok summary w' => decide (summary.mutatedRoutes = []) &&
      ((performAll .asciiOnly (.initial fleet) lateTruck).routes.find? 1).any (fun a ↦
        (w'.routes.find? 1).any fun b ↦ decide (b.row ≠ a.row))
    | .error _ _ => false) = true := by decide +kernel
  split at hrun
  · next summary w' heq =>
    rw [Bool.and_eq_true, decide_eq_true_eq, Option.any_eq_true] at hrun
    obtain ⟨hnone, a, ha, hb⟩ := hrun
    obtain ⟨b, hb, hrow⟩ := (Option.any_eq_true ..).mp hb
    refine ⟨summary, w', heq, hnone, fun hcomplete ↦ ?_⟩
    have hlisted := hcomplete.route 1 a b ha hb (.inl (of_decide_eq_true hrow))
    rw [hnone] at hlisted
    cases hlisted
  · cases hrun

end Scenario
end FleetFlow
