import FleetFlow.Runtime.EventRecord

/-!
# Reconciling a settled world

A heartbeat over a world that is already in the state its schedules determine at that instant
records nothing, reports nothing and changes nothing.
-/

namespace FleetFlow

open Program

/-- The state that a route determines for a package is determined by its pickup and drop-off. -/
theorem DeliveryPackage.SettledOn.observed_eq {route : DeliveryRoute} {now : Datetime}
    {p q : DeliveryPackage} (hp : p.SettledOn route now) (hq : q.SettledOn route now)
    (hstart : p.startLocation = q.startLocation) (hend : p.endLocation = q.endLocation)
    (hin : route.includesInOrder p.startLocation p.endLocation = true) :
    p.observed = q.observed := by
  unfold SettledOn at hp hq
  cases hs : route.plan.schedule? with
  | none =>
    rw [hs] at hp hq
    exact hp.observed_eq hq hstart
  | some s =>
    rw [hs] at hp hq
    obtain ⟨i, j, pickup, delivery, hvisit, -, -⟩ := Reconciler.exists_visitedInOrder hs hin
    exact hp.observed_eq hq hstart hend hvisit.arrival_start hvisit.arrival_end

namespace Reconciler

/-- A route, its truck and its packages in the state that the schedule determines. -/
structure CellSettled (now : Datetime) (c : RouteCell) : Prop where
  status : c.route.status = c.route.statusAt now
  truck : ∀ t, c.truck = some t →
    ¬ c.route.Finished now ∧ ∃ s, c.route.plan.schedule? = some s ∧ t.OnSchedule s now
  packages : ∀ p ∈ c.packages, p.SettledOn c.route now

/-- The report of a pass that has found nothing to do. -/
def noChanges : RouteChanges where
  routeChanged := false
  trucks := {}
  packagesUpdated := []
  events := []

/-- The status of a settled cell is left alone. -/
private theorem ensures_reconcileStatus_settled {c : RouteCell} {now : Datetime}
    (h : CellSettled now c) :
    Ensures (reconcileStatus now) c (fun result c' ↦ result = (false, []) ∧ c' = c)
      (fun _ _ ↦ False) := by
  apply (ensures_reconcileStatus_record (.inr (.inl h.status))).mono _ fun _ _ hf ↦ hf
  rintro ⟨changed, corrections⟩ ⟨route, truck, packages⟩ hrecord
  have hstep := hrecord.step
  obtain rfl : changed = false := by
    by_contra hne
    exact hstep.changed (by simpa using hne) h.status
  obtain rfl : corrections = [] := hrecord.silent rfl
  have h1 := hstep.unchanged rfl
  have h2 := hstep.truck
  have h3 := hstep.packages
  dsimp only at h1 h2 h3
  rw [h1, h2, h3]
  exact ⟨rfl, rfl⟩

/-- The truck of a settled cell is left alone. -/
private theorem ensures_reconcileTruckForRoute_settled {c : RouteCell} {now : Datetime}
    (h : CellSettled now c) (hready : ∀ t, c.truck = some t → TruckReady c.route t) :
    Ensures (reconcileTruckForRoute now) c (fun summary c' ↦ summary = {} ∧ c' = c)
      (fun _ _ ↦ False) := by
  apply (ensures_reconcileTruckForRoute_record hready now).mono
  · rintro ⟨moved, released, reconciled, events⟩ ⟨route, truck, packages⟩ hrecord
    have hreleased := hrecord.step.released
    have hpackages := hrecord.step.packages
    have hroute := hrecord.step.route
    have hreconciled := hrecord.reconciled
    dsimp only at hreleased hpackages hroute hreconciled
    subst hpackages hreconciled
    have hnone : released = [] := by
      rw [hreleased]
      cases ht : c.truck with
      | none => simp
      | some t => rw [if_neg (h.truck t ht).1]
    rw [if_pos hnone] at hroute
    subst hnone hroute
    cases ht : c.truck with
    | none =>
      have hstill := hrecord.still ht
      have hidle := (hrecord.idle ht).1
      have hrel := hrecord.step.truck
      dsimp only at hstill hidle hrel
      rw [ht] at hrel
      cases hrel
      subst hstill hidle
      exact ⟨rfl, by rw [← ht]⟩
    | some t =>
      obtain ⟨hopen, s, hs, hon⟩ := h.truck t ht
      obtain ⟨t', ht', hposition, hkept⟩ := hrecord.position t ht
      have hpass : TruckPass c.route now t t' := by
        have hrel := hrecord.step.truck
        rw [ht, ht'] at hrel
        cases hrel with
        | some hpass => exact hpass
      have hlt : now < s.etaFinal :=
        not_le.mp fun hle ↦ hopen ((DeliveryRoute.finished_iff hs).mpr hle)
      obtain ⟨hlocation, htransit⟩ := (hpass.onSchedule s hs hlt).position_eq hon hlt
      have hmoved := hkept rfl hlocation htransit
      have hevents := hposition.silent hlocation htransit
      obtain rfl := hpass.eq_of_position hopen hlocation htransit
      dsimp only at hmoved hevents ht'
      subst hmoved hevents ht'
      exact ⟨rfl, by rw [← ht]⟩
  · rintro _ _ ⟨t, ht, -, hfin⟩
    exact (h.truck t ht).1 hfin

/-- A settled package is left alone. -/
private theorem ensures_journalPackage_settled {route : DeliveryRoute}
    {times : List (LocationCode × Datetime)} (ht : stopTimes route = .ok times)
    {p : DeliveryPackage} (hr : p.routeId = some route.routeId)
    (hv : route.includesInOrder p.startLocation p.endLocation = true) {now : Datetime}
    (h : p.SettledOn route now) :
    Ensures (journalPackage route times now) p (fun x q ↦ x = (([], []), []) ∧ q = p)
      (fun _ _ ↦ False) := by
  unfold journalPackage Program.observed
  simp only [ensures_bind, ensures_get, ensures_pure]
  apply (ensures_updatePackage_record ht hr hv now).mono _ fun _ _ hf ↦ hf
  rintro ⟨updated, corrections⟩ q hq
  obtain ⟨changed, reasons, htrace, hupdated, hnone, -⟩ := hq.trace
  have hpass := htrace.pass
  have hview : q.view = p.view := by
    have hobserved := hpass.settled.observed_eq h hpass.same.startLocation.symm
      hpass.same.endLocation.symm (hpass.same.startLocation ▸ hpass.same.endLocation ▸ hv)
    simp only [DeliveryPackage.observed, Prod.mk.injEq] at hobserved
    simp only [DeliveryPackage.view, hpass.route, hobserved]
  obtain rfl : changed = false := by
    by_contra hne
    exact htrace.accounted.view_ne (by simpa using hne) hview
  obtain rfl := hpass.unchanged rfl
  have hreasons : reasons = [] := by
    by_contra hne
    exact Bool.noConfusion (htrace.accounted.reported hne)
  dsimp only at hupdated hnone ⊢
  rw [hnone hreasons, hupdated, appended_self]
  exact ⟨rfl, rfl⟩

/-- The packages of a settled cell are left alone. -/
private theorem ensures_journalPackages_settled {c : RouteCell} {now : Datetime}
    (h : CellSettled now c) (hid : ∀ p ∈ c.packages, p.routeId = some c.route.routeId)
    (hin : ∀ p ∈ c.packages, c.route.includesInOrder p.startLocation p.endLocation = true) :
    Ensures (journalPackages now) c (fun x c' ↦ x = (([], []), []) ∧ c' = c)
      (fun _ _ ↦ False) := by
  obtain ⟨times, ht⟩ := exists_stopTimes c.route
  unfold journalPackages
  simp only [ht, ensures_bind, ensures_get, ensures_lift_ok, ensures_zoom, ensures_pure]
  apply (ensures_each (fun p x ↦ x = ((([], []), []), p)) fun p hp ↦
    (ensures_journalPackage_settled ht (hid p hp) (hin p hp) (h.packages p hp)).mono
      (fun x q hx ↦ by rw [hx.1, hx.2]) fun _ _ hf ↦ hf).mono _ fun _ _ hf ↦ hf
  rintro listed packages ⟨results, rfl, rfl, hrel⟩
  have hresults : results = c.packages.map fun p ↦ ((([], []), []), p) := by
    revert hrel
    generalize c.packages = ps
    intro hrel
    induction hrel with
    | nil => rfl
    | cons hx _ ih => rw [hx, ih, List.map_cons]
  simp [hresults, Function.comp_def]

/-- A pass over a settled cell finds nothing to do. -/
theorem ensures_journalRoute_settled {c : RouteCell} {now : Datetime} (h : CellReady now c)
    (hlinked : CellLinked c) (hsettled : CellSettled now c) :
    Ensures (journalRoute now true) c (fun x c' ↦ x = (some noChanges, []) ∧ c' = c)
      (fun _ _ ↦ False) := by
  suffices hbody : Ensures (journalBody now true) c
      (fun x c' ↦ x = (noChanges, []) ∧ c' = c) (fun _ _ ↦ False) by
    unfold journalRoute
    simp only [ensures_bind, ensures_get, ensures_tryCatch, ensures_map, ensures_pure]
    apply hbody.mono _ fun _ _ hf ↦ hf.elim
    rintro _ _ ⟨rfl, rfl⟩
    exact ⟨rfl, rfl⟩
  unfold journalBody journalStatus journalTruck Program.observed
  simp only [ensures_bind, ensures_get, ensures_pure, if_true]
  apply (ensures_reconcileStatus_settled hsettled).mono _ fun _ _ hf ↦ hf
  rintro _ _ ⟨rfl, rfl⟩
  apply (ensures_reconcileTruckForRoute_settled hsettled h.truck).mono _ fun _ _ hf ↦ hf
  rintro _ _ ⟨rfl, rfl⟩
  apply (ensures_journalPackages_settled hsettled hlinked.routeId
    fun p hp ↦ (h.packages p hp).inOrder).mono _ fun _ _ hf ↦ hf
  rintro _ _ ⟨rfl, rfl⟩
  simp [noChanges, stepEntries, truckEntries]

end Reconciler

/-- The cells of a settled world are settled. -/
theorem World.SettledAt.cellSettled {u : UnicodeTables} {allowed : Option LocationCode → Prop}
    {clock : Option Datetime} {w : World} {now : Datetime} (h : w.SettledAt now)
    (hw : w.Sound u allowed clock) {r : Int} {route : DeliveryRoute}
    (hr : w.routes.find? r = some route) : Reconciler.CellSettled now (w.cell route) := by
  constructor
  · exact h.status _ _ hr
  · intro t ht
    have ht' : route.truck.bind w.trucks.find? = some t := ht
    obtain ⟨id, hlink, hfind⟩ := Option.bind_eq_some_iff.mp ht'
    obtain ⟨truck, htruck, hback⟩ := hw.linked.truck_of_route hr hlink
    obtain rfl := Option.some.inj (hfind.symm.trans htruck)
    constructor
    · intro hfin
      have hnone := h.unfinished _ _ hr hfin
      rw [hlink] at hnone
      cases hnone
    · have hdeparture := (hw.timely _ _ hr).truck_scheduled (by simp [hlink])
      unfold DeliveryRoute.departureTime RoutePlan.departureTime at hdeparture
      rw [Option.isSome_map] at hdeparture
      obtain ⟨s, hs⟩ := Option.isSome_iff_exists.mp hdeparture
      exact ⟨s, hs, h.truck hfind hback hr hs⟩
  · intro p hp
    obtain ⟨hmem, hfind⟩ := World.mem_packagesOf.mp hp
    obtain ⟨package, hpackage, hlink⟩ := hw.linked.package_of_route hr hmem
    obtain rfl := Option.some.inj (hfind.symm.trans hpackage)
    exact h.package hfind hlink hr

/-- The summary that reports nothing. -/
def HeartbeatSummary.nothing : HeartbeatSummary where
  mutatedRoutes := []
  mutatedPackages := []
  mutatedTrucksMoved := []
  mutatedTrucksReleased := []
  mutatedTrucksReconciled := []
  reconciliationEvents := []
  skippedRoutes := []

/-- Passes that have found nothing to do. -/
theorem ofPasses_eq_nothing {passes : List (Int × Option RouteChanges × List Entry)}
    (h : ∀ pass ∈ passes, pass.2 = (some Reconciler.noChanges, [])) :
    HeartbeatSummary.ofPasses (passes.map fun pass ↦ (pass.1, pass.2.1)) = .nothing ∧
      passEntries passes = [] := by
  have hpasses : passes.map (fun pass ↦ (pass.1, pass.2.1)) =
      (passes.map Prod.fst).map fun r ↦ (r, some Reconciler.noChanges) := by
    rw [List.map_map]
    apply List.map_congr_left
    intro pass hpass
    rw [h pass hpass]
    rfl
  constructor
  · rw [hpasses]
    simp [HeartbeatSummary.ofPasses, HeartbeatSummary.nothing, Reconciler.noChanges,
      List.filterMap_map, Function.comp_def]
  · apply List.flatMap_eq_nil_iff.mpr
    intro pass hpass
    rw [h pass hpass]

namespace HeartbeatService

/-- The heartbeat of a settled world records nothing, reports nothing and changes nothing. -/
theorem ensures_journalAdvance_settled {u : UnicodeTables} {allowed : Option LocationCode → Prop}
    {clock : Option Datetime} {w : World} {now : Datetime} (h : w.Sound u allowed clock)
    (hnow : ∀ c ∈ clock, c ≤ now) (hsettled : w.SettledAt now) :
    Ensures (journalAdvance .inMemory now) w
      (fun x w' ↦ x.1 = .nothing ∧ x.2 = [] ∧ w' = w) (fun _ _ ↦ False) := by
  have hids : ∀ r ∈ routeIds w, ∃ route, w.routes.find? r = some route := by
    intro r hr
    obtain ⟨route, hroute, rfl⟩ := List.mem_map.mp hr
    exact ⟨route, Store.mem_values.mp hroute⟩
  have hready := h.ready hnow
  have hprogram : ∀ r route, w.routes.find? r = some route →
      Ensures (Reconciler.journalRoute now true) (w.cell route)
        (fun x c ↦ (x = (some Reconciler.noChanges, []) ∧ c = w.cell route) ∧
          (w.cell route).SameIds c) (fun _ _ ↦ False) := by
    intro r route hr
    apply (Reconciler.ensures_journalRoute_settled (hready.cellReady hr)
      (h.linked.toRouteLinked.cellLinked hr) (hsettled.cellSettled h hr)).mono _ fun _ _ hf ↦ hf
    rintro x _ ⟨hx, rfl⟩
    exact ⟨⟨hx, rfl⟩, rfl, rfl, rfl⟩
  have hinv : ∀ (done : List (Int × Option RouteChanges × List Entry)) (v : World) (r : Int)
      (route : DeliveryRoute) (x : Option RouteChanges × List Entry) (c : RouteCell),
      w.routes.find? r = some route → r ∉ done.map Prod.fst →
      v.routes.find? r = some route → v.cell route = w.cell route →
      (x = (some Reconciler.noChanges, []) ∧ c = w.cell route) →
      (v = w ∧ ∀ pass ∈ done, pass.2 = (some Reconciler.noChanges, [])) →
      v.putCell c = w ∧
        ∀ pass ∈ done ++ [(r, x)], pass.2 = (some Reconciler.noChanges, []) := by
    rintro done v r route x c hr - - - ⟨rfl, rfl⟩ ⟨rfl, hdone⟩
    constructor
    · exact World.putCell_cell hr
    · intro pass hpass
      rcases List.mem_append.mp hpass with hpass | hpass
      · exact hdone pass hpass
      · rw [List.mem_singleton.mp hpass]
  unfold journalAdvance
  simp only [ensures_bind, ensures_get, ensures_tryCatch]
  apply (World.ensures_sweep_inv (fun before x after ↦
      x = (some Reconciler.noChanges, []) ∧ after = before)
    (fun passes v ↦ v = w ∧ ∀ pass ∈ passes, pass.2 = (some Reconciler.noChanges, []))
    h.linked.toRouteLinked hprogram hinv .nil ⟨rfl, by simp⟩ hids Store.nodup_values).mono _
    fun _ _ hf ↦ hf.elim
  rintro passes w' ⟨-, -, rfl, hpasses⟩
  obtain ⟨hsummary, hentries⟩ := ofPasses_eq_nothing hpasses
  rw [List.nil_append] at hsummary hentries
  rw [hsummary, hentries, if_neg (by decide), ensures_pure]
  exact ⟨rfl, rfl, rfl⟩

end HeartbeatService
end FleetFlow
