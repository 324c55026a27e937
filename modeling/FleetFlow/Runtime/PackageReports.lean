import FleetFlow.Runtime.EventRecord

/-!
# What the pass over the packages reports

The pass lists a package exactly when it changed it, and reports one correction exactly when it
changed it by other means than the lifecycle methods. This holds whatever state the packages are
in and whether or not their route visits them.
-/

namespace FleetFlow

open Program

/-- The lifecycle calls between two states of a package, as its new events record them. -/
def DeliveryPackage.callsBetween (before after : DeliveryPackage) : List PackageCall :=
  (appended before.pendingEvents after.pendingEvents).filterMap DomainEvent.packageCall?

/-- The package that a correction is about. -/
def ReconciliationEvent.packageId? : ReconciliationEvent → Option Int
  | .packageState e => some e.packageId
  | _ => none

namespace Reconciler

/-- A correction that tells a package's fields before and after the pass, with its reasons. -/
structure Correction (route : DeliveryRoute) (now : Datetime) (before after : DeliveryPackage)
    (e : PackageStateReconciled) : Prop where
  packageId : e.packageId = before.packageId
  routeId : e.routeId = some route.routeId
  previousStatus : e.previousStatus = before.status
  newStatus : e.newStatus = after.status
  previousLocation : e.previousLocation = before.currentLocation
  newLocation : e.newLocation = after.currentLocation
  previousExpectedArrival : e.previousExpectedArrival = before.expectedArrival
  newExpectedArrival : e.newExpectedArrival = after.expectedArrival
  occurredAt : e.occurredAt = now
  reasons_ne_nil : e.reasons ≠ []
  reasons_nodup : e.reasons.Nodup

/-- What a pass says about one package: whether it lists it, and its corrections. -/
structure PackageReport (route : DeliveryRoute) (now : Datetime) (before after : DeliveryPackage)
    (listed : Prop) (corrections : List ReconciliationEvent) : Prop where
  /-- There is at most one correction, and it is true. -/
  correction : corrections = [] ∨
    ∃ e, corrections = [.packageState e] ∧ Correction route now before after e
  /-- There is one exactly when the lifecycle calls alone would have left other fields. -/
  repaired : ∃ mid, before.runCalls (before.callsBetween after) = .ok mid ∧
    (corrections ≠ [] ↔ mid.view ≠ after.view) ∧ (corrections = [] → after = mid)
  listed_iff : listed ↔ before.view ≠ after.view
  unlisted : ¬ listed → after = before

/-- One package of a pass: what it returns for the package and leaves of it. -/
structure PackageRow (route : DeliveryRoute) (now : Datetime) (before : DeliveryPackage)
    (row : (List Int × List ReconciliationEvent) × DeliveryPackage) : Prop where
  packageId : row.2.packageId = before.packageId
  listed : row.1.1 = [] ∨ row.1.1 = [before.packageId]
  own : ∀ e ∈ row.1.2, e.packageId? = some before.packageId
  report : PackageReport route now before row.2 (before.packageId ∈ row.1.1) row.1.2

/-- The calls that repairs follow are those that the new events record. -/
theorem Repairs.callsBetween_eq {before after : DeliveryPackage} {calls : List PackageCall}
    {changed : Bool} {reasons : List PackageReconciliationReason}
    (h : Repairs before after calls changed reasons) : before.callsBetween after = calls := by
  obtain ⟨mid, hcalls, hevents, -⟩ := h.lifecycle
  obtain ⟨recorded, hrecorded, hcallsof, -⟩ := exists_recorded hcalls
  unfold DeliveryPackage.callsBetween
  rw [hevents, hrecorded, appended_append, hcallsof]

/-- Repairs are reported as they are. -/
theorem Repairs.report {route : DeliveryRoute} {now : Datetime} {before after : DeliveryPackage}
    {calls : List PackageCall} {changed : Bool} {reasons : List PackageReconciliationReason}
    {corrections : List ReconciliationEvent} {listed : Prop}
    (h : Repairs before after calls changed reasons) (hlisted : listed ↔ changed = true)
    (hnone : reasons = [] → corrections = [])
    (hsome : reasons ≠ [] →
      ∃ e, corrections = [.packageState e] ∧ Correction route now before after e) :
    PackageReport route now before after listed corrections := by
  have hiff : corrections ≠ [] ↔ reasons ≠ [] := by
    constructor
    · exact fun hne hr ↦ hne (hnone hr)
    · intro hne
      obtain ⟨e, rfl, -⟩ := hsome hne
      exact List.cons_ne_nil _ _
  obtain ⟨mid, hcalls, -, hempty, hrepaired⟩ := h.lifecycle
  constructor
  · by_cases hr : reasons = []
    · exact .inl (hnone hr)
    · exact .inr (hsome hr)
  · refine ⟨mid, h.callsBetween_eq.symm ▸ hcalls,
      ⟨fun hne ↦ hrepaired (hiff.mp hne), fun hview ↦ ?_⟩, fun hno ↦ ?_⟩
    · rw [hiff]
      intro hr
      exact hview (congrArg DeliveryPackage.view (hempty hr).symm)
    · exact hempty (not_not.mp fun hr ↦ hiff.mpr hr hno)
  · rw [hlisted]
    refine ⟨h.view_ne, fun hview ↦ ?_⟩
    by_contra hno
    rw [Bool.not_eq_true] at hno
    exact hview (congrArg DeliveryPackage.view (h.unchanged hno).symm)
  · intro hno
    rw [hlisted, Bool.not_eq_true] at hno
    exact h.unchanged hno

/-- The pass over one package reports what it does. -/
theorem ensures_updatePackage_report {route : DeliveryRoute}
    {times : List (LocationCode × Datetime)} (ht : stopTimes route = .ok times)
    {p : DeliveryPackage} (hr : p.routeId.isSome) (now : Datetime) :
    Ensures (updatePackage route times now) p (fun result q ↦ PackageRow route now p (result, q))
      (fun _ _ ↦ False) := by
  refine ((show Ensures (updatePackage route times now) p
    (fun result q ↦ q.packageId = p.packageId → PackageRow route now p (result, q))
    (fun _ _ ↦ False) from ?_).and (frames_updatePackage route times now p)).mono
      (fun result q hq ↦ hq.1 hq.2.same.packageId.symm) fun _ _ hf ↦ hf.1
  unfold updatePackage
  simp only [ensures_bind, ensures_get, ensures_pure]
  refine (ensures_updatePackageState_repairs ht hr now).mono (fun result q hq ↦ ?_) fun _ _ hf ↦ hf
  have hlisted : p.packageId ∈ (if result.1 = true then [p.packageId] else []) ↔
      result.1 = true := by
    split <;> simp_all
  have hids : (if result.1 = true then [p.packageId] else []) = [] ∨
      (if result.1 = true then [p.packageId] else []) = [p.packageId] := by
    split <;> simp
  unfold packageEvents
  by_cases hnone : result.2 = []
  · rw [if_pos hnone, ensures_lift_ok]
    exact fun hid ↦ ⟨hid, hids, by simp,
      hq.report hlisted (fun _ ↦ rfl) fun hne ↦ absurd hnone hne⟩
  · rw [if_neg hnone]
    unfold PackageStateReconciled.check
    rw [require_bind_of_true hnone, require_bind_of_true hq.nodup]
    apply ensures_lift_ok.mpr
    refine fun hid ↦
      ⟨hid, hids, ?_, hq.report hlisted (fun h ↦ absurd h hnone) fun _ ↦ ⟨_, rfl, ?_⟩⟩
    · simp [ReconciliationEvent.packageId?]
    · exact ⟨rfl, rfl, rfl, rfl, rfl, rfl, rfl, rfl, rfl, hnone, hq.nodup⟩

/-- What a pass over the packages of a cell returns and leaves. -/
structure PassReport (now : Datetime) (before after : RouteCell) (ids : List Int)
    (corrections : List ReconciliationEvent) : Prop where
  route : after.route = before.route
  truck : after.truck = before.truck
  packages : List.Forall₂ (fun p p' ↦ PackageReport before.route now p p' (p.packageId ∈ ids)
    (corrections.filter (·.packageId? = some p.packageId))) before.packages after.packages
  nodup : ids.Nodup
  listed : ∀ id ∈ ids, ∃ p ∈ before.packages, p.packageId = id
  about : ∀ e ∈ corrections, ∃ p ∈ before.packages, e.packageId? = some p.packageId

section Rows

variable {now : Datetime} {route : DeliveryRoute} {packages : List DeliveryPackage}
  {results : List ((List Int × List ReconciliationEvent) × DeliveryPackage)}

/-- The listed ids are ids of packages, in their order. -/
theorem listed_sublist (h : List.Forall₂ (PackageRow route now) packages results) :
    (results.flatMap (·.1.1)).Sublist (packages.map DeliveryPackage.packageId) := by
  induction h with
  | nil => exact .slnil
  | cons hrow _ ih =>
    rw [List.flatMap_cons, List.map_cons]
    rcases hrow.listed with hnil | hone
    · rw [hnil]
      exact ih.cons _
    · rw [hone]
      exact ih.cons_cons _

/-- Every row is the row of a package. -/
theorem exists_row (h : List.Forall₂ (PackageRow route now) packages results)
    {row : (List Int × List ReconciliationEvent) × DeliveryPackage} (hrow : row ∈ results) :
    ∃ p ∈ packages, PackageRow route now p row := by
  induction h with
  | nil => cases hrow
  | cons hpr _ ih =>
    rcases List.mem_cons.mp hrow with rfl | hrow
    · exact ⟨_, by simp, hpr⟩
    · obtain ⟨p, hp, hprow⟩ := ih hrow
      exact ⟨p, by simp [hp], hprow⟩

variable (hnodup : (results.map (·.2.packageId)).Nodup)
  (h : List.Forall₂ (PackageRow route now) packages results) {p : DeliveryPackage}
  {row : (List Int × List ReconciliationEvent) × DeliveryPackage} (hrow : row ∈ results)
  (hp : PackageRow route now p row)
include hnodup h hrow hp

/-- The corrections about a package are those of its row. -/
theorem filter_corrections : (results.flatMap (·.1.2)).filter (·.packageId? = some p.packageId) =
    row.1.2 := by
  rw [List.filter_flatMap, flatMap_eq_of_key hnodup hrow]
  · rw [List.filter_eq_self]
    intro e he
    simpa using hp.own e he
  · intro other hother hne
    obtain ⟨q, -, hq⟩ := exists_row h hother
    rw [List.filter_eq_nil_iff]
    intro e he
    rw [hq.own e he, decide_eq_true_eq, Option.some.injEq, ← hq.packageId, ← hp.packageId]
    exact hne

/-- A package is listed exactly when its row lists it. -/
theorem mem_listed_iff : p.packageId ∈ results.flatMap (·.1.1) ↔ p.packageId ∈ row.1.1 := by
  rw [List.mem_flatMap]
  constructor
  · rintro ⟨other, hother, hmem⟩
    obtain ⟨q, -, hq⟩ := exists_row h hother
    rcases hq.listed with hnil | hone
    · simp [hnil] at hmem
    · rw [hone, List.mem_singleton] at hmem
      have hkey : other.2.packageId = row.2.packageId := by
        rw [hq.packageId, hp.packageId, hmem]
      rwa [← List.inj_on_of_nodup_map hnodup hother hrow hkey, hone, List.mem_singleton]
  · exact fun hmem ↦ ⟨row, hrow, hmem⟩

end Rows

/-- The rows of different packages make up a report on each of them. -/
theorem passReport_of_rows {now : Datetime} {c : RouteCell}
    (hnodup : (c.packages.map DeliveryPackage.packageId).Nodup)
    {results : List ((List Int × List ReconciliationEvent) × DeliveryPackage)}
    (h : List.Forall₂ (PackageRow c.route now) c.packages results) :
    PassReport now c { c with packages := results.map Prod.snd }
      (results.flatMap (·.1.1)) (results.flatMap (·.1.2)) := by
  have hids : results.map (·.2.packageId) = c.packages.map DeliveryPackage.packageId := by
    rw [← List.forall₂_eq_eq_eq, List.forall₂_map_left_iff, List.forall₂_map_right_iff]
    exact h.flip.imp fun row p hp ↦ hp.packageId
  have hnodup' := hids.symm ▸ hnodup
  have hsublist := listed_sublist h
  refine ⟨rfl, rfl, ?_, hsublist.nodup hnodup, fun id hid ↦ ?_, fun e he ↦ ?_⟩
  · rw [List.forall₂_map_right_iff]
    refine List.forall₂_iff_get.mpr ⟨h.length_eq, fun i hi hi' ↦ ?_⟩
    have hp := h.get hi hi'
    have hrow := List.get_mem results ⟨i, hi'⟩
    rw [filter_corrections hnodup' h hrow hp]
    have hiff := mem_listed_iff hnodup' h hrow hp
    exact { hp.report with
      listed_iff := hiff.trans hp.report.listed_iff
      unlisted := fun hno ↦ hp.report.unlisted (hiff.not.mp hno) }
  · exact List.mem_map.mp (hsublist.mem hid)
  · obtain ⟨row, hrow, hmem⟩ := List.mem_flatMap.mp he
    obtain ⟨p, hp, hprow⟩ := exists_row h hrow
    exact ⟨p, hp, hprow.own e hmem⟩

/-- Whatever state the packages of a route are in, the pass over them never raises, lists exactly
the changed ones, and reports one true correction, with different reasons, for exactly those that
it changed other than by the lifecycle methods. -/
theorem package_pass_reports {c : RouteCell} (hlinked : CellLinked c) (now : Datetime) :
    Ensures (updatePackagesForRoute now) c
      (fun result c' ↦ PassReport now c c' result.1 result.2) (fun _ _ ↦ False) := by
  obtain ⟨times, ht⟩ := exists_stopTimes c.route
  unfold updatePackagesForRoute
  simp only [ht, ensures_bind, ensures_get, ensures_lift_ok, ensures_zoom, ensures_pure]
  refine (ensures_each (PackageRow c.route now) fun p hp ↦ ?_).mono ?_ fun _ _ hf ↦ hf
  · exact ensures_updatePackage_report ht (by simp [hlinked.routeId p hp]) now
  · rintro returned packages ⟨results, rfl, rfl, hrel⟩
    have hreport := passReport_of_rows hlinked.nodup hrel
    rwa [List.flatMap_map, List.flatMap_map]

end Reconciler

/-- A package as an import can leave it: delivered, but at its pickup and without an arrival. -/
def Scenario.stale (package : DeliveryPackage) : DeliveryPackage :=
  { package with status := .done, storedLocation := none, expectedArrival := none }

/-- The route of the scenario with such packages. -/
def Scenario.staleCell (route : DeliveryRoute) : RouteCell where
  route
  truck := none
  packages := ((performAll .asciiOnly (.initial Scenario.fleet) Scenario.steps).packagesOf
    route).map Scenario.stale

/-- The report on the stale package of the scenario, at the departure instant. -/
theorem Scenario.package_pass_reports_stale : ∃ route,
    (Scenario.staleCell route).packages ≠ [] ∧
    Ensures (Reconciler.updatePackagesForRoute (Scenario.hour 8)) (Scenario.staleCell route)
      (fun result after ↦ Reconciler.PassReport (Scenario.hour 8) (Scenario.staleCell route) after
        result.1 result.2) (fun _ _ ↦ False) := by
  have hfound : ((performAll .asciiOnly (.initial Scenario.fleet) Scenario.steps).routes.find?
      1).any (fun route ↦ !(Scenario.staleCell route).packages.isEmpty &&
        (Scenario.staleCell route).packages.all (fun p ↦ p.routeId == some route.routeId) &&
        decide ((Scenario.staleCell route).packages.map DeliveryPackage.packageId).Nodup) =
        true := by decide +kernel
  obtain ⟨route, -, hall⟩ := (Option.any_eq_true ..).mp hfound
  rw [Bool.and_eq_true, Bool.and_eq_true, decide_eq_true_eq, List.all_eq_true,
    Bool.not_eq_true', List.isEmpty_eq_false_iff] at hall
  obtain ⟨⟨hsome, hlinked⟩, hnodup⟩ := hall
  refine ⟨route, hsome, Reconciler.package_pass_reports ⟨fun p hp ↦ ?_, hnodup⟩ _⟩
  have hlink := hlinked p hp
  rwa [beq_iff_eq] at hlink

end FleetFlow
