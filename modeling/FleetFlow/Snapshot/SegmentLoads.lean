import FleetFlow.Snapshot.Validators

/-!
# Segment loads

The heaviest leg of a path, stated on stop positions and weights only. The calculator of the domain
and the snapshot validator build their position mappings differently and add up the same loads.
-/

namespace FleetFlow

namespace RouteLoadCalculator

variable {locations : List LocationCode}

/-- A package travels on a leg when it is picked up at or before the stop that the leg leaves and
dropped off after it. -/
def Travels (locations : List LocationCode) (k : Nat) (package : PackageLoad) : Prop :=
  locations.idxOf package.startLocation ≤ k ∧ k < locations.idxOf package.endLocation ∧
    package.endLocation ∈ locations

instance (k : Nat) (package : PackageLoad) : Decidable (Travels locations k package) :=
  inferInstanceAs (Decidable (_ ∧ _))

/-- The total weight that travels on a leg. -/
def legWeight (locations : List LocationCode) (packages : List PackageLoad) (k : Nat) : Rat :=
  ((packages.filter fun package ↦ Travels locations k package).map PackageLoad.weight).sum

/-- The largest weight on a leg, zero without legs. -/
def heaviestLeg (locations : List LocationCode) (packages : List PackageLoad) : Rat :=
  ((List.range (locations.length - 1)).map (legWeight locations packages)).max?.getD 0

/-- On distinct stops the calculator counts a package on exactly the legs that it travels. -/
theorem covers_iff_travels (hnd : locations.Nodup) {k : Nat} {package : PackageLoad} :
    covers locations k package = true ↔ Travels locations k package := by
  rw [covers_iff hnd]
  constructor
  · rintro ⟨i, j, hi, hj, hik, hkj⟩
    obtain ⟨hi, hstart⟩ := List.getElem?_eq_some_iff.mp hi
    obtain ⟨hj, hend⟩ := List.getElem?_eq_some_iff.mp hj
    rw [Travels, ← hstart, ← hend, hnd.idxOf_getElem i hi, hnd.idxOf_getElem j hj]
    exact ⟨hik, hkj, List.getElem_mem hj⟩
  · rintro ⟨hik, hkj, hend⟩
    have hj := List.idxOf_lt_length_iff.mpr hend
    have hstart : package.startLocation ∈ locations :=
      List.idxOf_lt_length_iff.mp (lt_of_le_of_lt hik (hkj.trans hj))
    exact ⟨_, _, List.getElem?_idxOf hstart, List.getElem?_idxOf hend, hik, hkj⟩

/-- The load of a leg is the weight that travels on it. -/
theorem legLoad_eq_legWeight (hnd : locations.Nodup) (packages : List PackageLoad) (k : Nat) :
    legLoad locations packages k = legWeight locations packages k := by
  have hfilter : packages.filter (covers locations k) =
      packages.filter fun package ↦ Travels locations k package := by
    refine List.filter_congr fun package _ ↦ Bool.eq_iff_iff.mpr ?_
    rw [covers_iff_travels hnd, decide_eq_true_eq]
  rw [legLoad, legWeight, hfilter]

/-- The calculator finds the heaviest leg. -/
theorem maximumSegmentLoad_eq_heaviestLeg (hnd : locations.Nodup) (packages : List PackageLoad)
    (extra : Option PackageLoad) :
    maximumSegmentLoad locations packages extra =
      heaviestLeg locations (packages ++ extra.toList) := by
  have hlegs : legLoad locations (packages ++ extra.toList) =
      legWeight locations (packages ++ extra.toList) :=
    funext (legLoad_eq_legWeight hnd _)
  rw [maximumSegmentLoad_eq, heaviestLeg, hlegs]

/-- The order of the packages does not matter. -/
theorem maximumSegmentLoad_perm {ps qs : List PackageLoad} (h : ps.Perm qs)
    (extra : Option PackageLoad) :
    maximumSegmentLoad locations ps extra = maximumSegmentLoad locations qs extra := by
  have hlegs : legLoad locations (ps ++ extra.toList) = legLoad locations (qs ++ extra.toList) :=
    funext (legLoad_perm (h.append_right _))
  rw [maximumSegmentLoad_eq, maximumSegmentLoad_eq, hlegs]

/-- One more package never makes the heaviest leg lighter. -/
theorem maximumSegmentLoad_le_cons {packages : List PackageLoad} {extra : Option PackageLoad}
    (hw : ∀ package ∈ packages ++ extra.toList, 0 < package.weight) {package : PackageLoad}
    (hpackage : 0 < package.weight) :
    maximumSegmentLoad locations packages extra ≤
      maximumSegmentLoad locations (package :: packages) extra := by
  rcases Nat.lt_or_ge locations.length 2 with hshort | hlong
  · have hnone : locations.length - 1 = 0 := by omega
    rw [maximumSegmentLoad_eq, maximumSegmentLoad_eq, hnone]
    exact le_rfl
  · rw [maximumSegmentLoad_le_iff hlong]
    intro k hk
    refine (legLoad_le_of_sublist (List.sublist_cons_self package _) ?_ k).trans
      ((maximumSegmentLoad_le_iff hlong).mp le_rfl k hk)
    intro other hmem
    rcases List.mem_cons.mp hmem with rfl | hmem
    · exact hpackage.le
    · exact (hw other hmem).le

/-- The extra package counts like one of the list. -/
theorem maximumSegmentLoad_some (packages : List PackageLoad) (package : PackageLoad) :
    maximumSegmentLoad locations packages (some package) =
      maximumSegmentLoad locations (packages ++ [package]) none := by
  simp only [maximumSegmentLoad, Option.toList_some, Option.toList_none, List.append_nil]

/-- The validator computes the load of the calculator. -/
theorem routeMaxSegmentLoad_eq {route : RouteSnapshot} (hnd : route.locations.Nodup)
    {snapshots listed : List PackageSnapshot}
    (hids : (snapshots.map PackageSnapshot.packageId).Nodup)
    (hlisted : List.Forall₂ (fun p package ↦ package ∈ snapshots ∧ package.packageId = p)
      route.packageIds listed) :
    CompatibilitySnapshotValidator.routeMaxSegmentLoad route (.ofList snapshots) =
      .ok (maximumSegmentLoad route.locations (listed.map PackageSnapshot.load) none) := by
  rw [CompatibilitySnapshotValidator.routeMaxSegmentLoad_eq_ok_iff]
  refine ⟨listed, hlisted.imp fun p package h ↦ ?_, RouteSnapshot.maxSegmentLoad_eq hnd listed⟩
  exact (Store.find?_ofList_eq_some_iff hids).mpr h

/-- The segment load is the weight on the heaviest leg, whatever the order of the packages; it
never falls when a package is added, counts the extra package like the others, and is what the
snapshot validator computes from the records of the packages. -/
theorem maximumSegmentLoad_exact (hnd : locations.Nodup) {packages : List PackageLoad}
    {extra : Option PackageLoad}
    (hw : ∀ package ∈ packages ++ extra.toList, 0 < package.weight) :
    maximumSegmentLoad locations packages extra =
      heaviestLeg locations (packages ++ extra.toList) ∧
    (∀ permuted, packages.Perm permuted → maximumSegmentLoad locations permuted extra =
      maximumSegmentLoad locations packages extra) ∧
    (∀ package : PackageLoad, 0 < package.weight → maximumSegmentLoad locations packages extra ≤
      maximumSegmentLoad locations (package :: packages) extra) ∧
    (∀ package ∈ extra, maximumSegmentLoad locations packages extra =
      maximumSegmentLoad locations (packages ++ [package]) none) ∧
    ∀ (route : RouteSnapshot) (snapshots listed : List PackageSnapshot),
      route.locations = locations → listed.map PackageSnapshot.load = packages →
      (snapshots.map PackageSnapshot.packageId).Nodup →
      List.Forall₂ (fun p package ↦ package ∈ snapshots ∧ package.packageId = p)
        route.packageIds listed →
      CompatibilitySnapshotValidator.routeMaxSegmentLoad route (.ofList snapshots) =
        .ok (maximumSegmentLoad locations packages none) := by
  refine ⟨maximumSegmentLoad_eq_heaviestLeg hnd packages extra,
    fun permuted hperm ↦ (maximumSegmentLoad_perm hperm extra).symm,
    fun package hpackage ↦ maximumSegmentLoad_le_cons hw hpackage, ?_, ?_⟩
  · rintro package rfl
    exact maximumSegmentLoad_some packages package
  · rintro route snapshots listed rfl rfl hids hlisted
    exact routeMaxSegmentLoad_eq hnd hids hlisted

/-- Two packages that share the second of three legs. -/
theorem maximumSegmentLoad_exact_overlap :
    maximumSegmentLoad (Map.locations.take 4)
        [⟨Map.locations[0], Map.locations[2], 30⟩, ⟨Map.locations[1], Map.locations[3], 20⟩]
        none =
      heaviestLeg (Map.locations.take 4)
        [⟨Map.locations[0], Map.locations[2], 30⟩, ⟨Map.locations[1], Map.locations[3], 20⟩] :=
  (maximumSegmentLoad_exact (by decide) (by decide)).1

end RouteLoadCalculator
end FleetFlow
