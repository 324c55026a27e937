import FleetFlow.Database.Parity
import FleetFlow.Overview.InMemoryQuery
import FleetFlow.Overview.PostgresQuery

/-!
# Counting entities and counting rows

The counters of the traversals are the counts of the statements, and the checks of the overviews
accept them.
-/

namespace FleetFlow

open Database InMemoryFleetOverviewQuery

variable {generatedAt : Datetime}

namespace InMemoryFleetOverviewQuery

/-- What the traversal of packages counts. -/
theorem foldl_tallyPackage (packages : List DeliveryPackage) (tally : PackageTally) :
    packages.foldl (tallyPackage generatedAt) tally = {
      todo := tally.todo + packages.countP fun package ↦ package.status = .todo
      inProgress := tally.inProgress + packages.countP fun package ↦ package.status = .inProgress
      done := tally.done + packages.countP fun package ↦ package.status = .done
      unassigned := tally.unassigned + packages.countP fun package ↦ package.routeId = none
      pastDue := tally.pastDue + packages.countP fun package ↦
        package.status ≠ .done ∧ ∃ t ∈ package.expectedArrival, t < generatedAt } := by
  induction packages generalizing tally with
  | nil => rfl
  | cons package rest ih =>
    rw [List.foldl_cons, ih]
    simp only [List.countP_cons, tallyPackage]
    cases package.status <;> split <;> split <;> simp_all <;> omega

/-- What the traversal of trucks counts. -/
theorem foldl_tallyTruck (trucks : List Truck) (tally : TruckTally) :
    trucks.foldl tallyTruck tally = {
      free := tally.free + trucks.countP fun truck ↦ truck.status = .free
      onTheWay := tally.onTheWay + trucks.countP fun truck ↦ truck.status = .onTheWay
      unknownLocation := tally.unknownLocation +
        trucks.countP fun truck ↦ truck.currentLocation = none } := by
  induction trucks generalizing tally with
  | nil => rfl
  | cons truck rest ih =>
    rw [List.foldl_cons, ih]
    simp only [List.countP_cons, tallyTruck]
    cases truck.status <;> split <;> simp_all <;> omega

/-- Every package has one of three statuses. -/
theorem length_eq_countP_status (packages : List DeliveryPackage) :
    packages.length = packages.countP (fun package ↦ package.status = .todo) +
      packages.countP (fun package ↦ package.status = .inProgress) +
      packages.countP (fun package ↦ package.status = .done) := by
  induction packages with
  | nil => rfl
  | cons package rest ih =>
    simp only [List.length_cons, List.countP_cons, ih]
    cases package.status <;> simp <;> omega

variable (generatedAt) in
/-- The traversal of packages makes an overview. -/
theorem exists_summarizePackages (packages : List DeliveryPackage) :
    ∃ overview, summarizePackages generatedAt packages = .ok overview := by
  unfold summarizePackages
  rw [foldl_tallyPackage]
  have hunassigned : packages.countP (fun package ↦ package.routeId = none) ≤ packages.length :=
    List.countP_le_length
  have hlength := length_eq_countP_status packages
  have hlate : packages.countP (fun package ↦
      package.status ≠ .done ∧ ∃ t ∈ package.expectedArrival, t < generatedAt) ≤
        packages.countP fun package ↦ ¬ package.status = .done := by
    apply List.countP_mono_left
    intro package _ hpackage
    simp only [decide_eq_true_eq] at *
    exact hpackage.1
  have hopen : packages.length = packages.countP (fun package ↦ package.status = .done) +
      packages.countP fun package ↦ ¬ package.status = .done := by
    have hsplit := List.length_eq_countP_add_countP (fun package : DeliveryPackage ↦
      decide (package.status = .done)) (l := packages)
    simpa using hsplit
  dsimp only
  simp only [Nat.zero_add]
  apply PackageOverview.exists_new
  · unfold PackageStatusCounts.total
    dsimp only
    omega
  · dsimp only
    omega

/-- The traversal of trucks makes an overview. -/
theorem exists_summarizeTrucks (trucks : List Truck) :
    ∃ overview, summarizeTrucks trucks = .ok overview := by
  unfold summarizeTrucks
  rw [foldl_tallyTruck]
  have hunknown : trucks.countP (fun truck ↦ truck.currentLocation = none) ≤ trucks.length :=
    List.countP_le_length
  have hlength : trucks.length = trucks.countP (fun truck ↦ truck.status = .free) +
      trucks.countP fun truck ↦ truck.status = .onTheWay := by
    clear hunknown
    induction trucks with
    | nil => rfl
    | cons truck rest ih =>
      simp only [List.length_cons, List.countP_cons, ih]
      cases truck.status <;> simp <;> omega
  simp only [Nat.zero_add]
  apply TruckOverview.exists_new
  unfold TruckStatusCounts.total
  dsimp only
  omega

end InMemoryFleetOverviewQuery

section Tables

variable {w : World} {tables : Tables} (h : tables.Holds w)
include h

/-- The statement counts the packages of the world. -/
theorem Database.mapPackageOverview_eq : mapPackageOverview (packageCounts generatedAt tables) =
    summarizePackages generatedAt w.packages.values := by
  unfold mapPackageOverview packageCounts summarizePackages
  rw [foldl_tallyPackage]
  simp only [h.packages.countP_eq, List.countP_map, Nat.zero_add]
  rfl

/-- The statement counts the trucks of the world. -/
theorem Database.mapTruckOverview_eq :
    mapTruckOverview (truckCounts tables) = summarizeTrucks w.trucks.values := by
  unfold mapTruckOverview truckCounts summarizeTrucks
  rw [foldl_tallyTruck]
  simp only [h.trucks.countP_eq, List.countP_map, Nat.zero_add]
  rfl

end Tables
end FleetFlow
