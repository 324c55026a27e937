import Mathlib.Algebra.Order.BigOperators.Group.List
import FleetFlow.Base.Rounding
import FleetFlow.Domain.DeliveryPackage
import FleetFlow.Domain.DeliveryRoute

/-!
# Cargo load on each leg of a route

Follows `domain/services/route_load_calculator.py`, over any addition of weights. The results are
about exact weights. Leg `k` runs from stop `k` to stop `k + 1`.
-/

namespace FleetFlow

/-- Load contribution of one package; `domain/value_objects/package_load.py`. -/
structure PackageLoad where
  startLocation : LocationCode
  endLocation : LocationCode
  weight : Rat
deriving DecidableEq, Repr

/-- Load contribution of a package entity. -/
def DeliveryPackage.load (package : DeliveryPackage) : PackageLoad :=
  ⟨package.startLocation, package.endLocation, package.weight⟩

namespace RouteLoadCalculator

variable (locations : List LocationCode)

/-- The mapping of `domain/services/route_load_calculator.py:44`, in which a later entry replaces an
earlier one. -/
def lastIndex? (location : LocationCode) : Option Nat :=
  locations.zipIdx.foldl (fun found (other, i) ↦ if other = location then some i else found) none

/-- Legs that a package occupies, from its pickup position up to its drop-off position, with the
positions that a mapping gives. -/
def segmentRange (index : LocationCode → Option Nat) (package : PackageLoad) :
    Option (Nat × Nat) :=
  match index package.startLocation, index package.endLocation with
  | some i, some j => if i < j then some (i, j) else none
  | _, _ => none

/-- Add one package to the leg loads; `domain/services/route_load_calculator.py:51–59`. -/
def addPackage [WeightArithmetic] (index : LocationCode → Option Nat) (segmentLoads : List Rat)
    (package : PackageLoad) : List Rat :=
  match segmentRange index package with
  | none => segmentLoads
  | some (i, j) =>
    (List.range' i (j - i)).foldl
      (fun loads k ↦ loads.modify k (WeightArithmetic.add · package.weight)) segmentLoads

/-- Heaviest leg; `domain/services/route_load_calculator.py:15–61`. -/
def maximumSegmentLoad [WeightArithmetic] (packages : List PackageLoad)
    (extraPackage : Option PackageLoad) : Rat :=
  let candidates := packages ++ extraPackage.toList
  let segmentLoads := candidates.foldl (addPackage (lastIndex? locations))
    (List.replicate (locations.length - 1) 0)
  segmentLoads.max?.getD 0

/-! ### The load of one leg -/

/-- Whether a package is on board during a leg. -/
def aboard (index : LocationCode → Option Nat) (k : Nat) (package : PackageLoad) : Bool :=
  match segmentRange index package with
  | none => false
  | some (i, j) => decide (i ≤ k) && decide (k < j)

/-- Whether a package is on board during a leg of the stops. -/
def covers (k : Nat) (package : PackageLoad) : Bool := aboard (lastIndex? locations) k package

/-- Total weight on board during a leg. -/
def legLoad (packages : List PackageLoad) (k : Nat) : Rat :=
  ((packages.filter (covers locations k)).map PackageLoad.weight).sum

variable {locations}

/-- One more stop. -/
theorem lastIndex?_append_singleton {last location : LocationCode} :
    lastIndex? (locations ++ [last]) location =
      if last = location then some locations.length else lastIndex? locations location := by
  simp only [lastIndex?, List.zipIdx_append, List.zipIdx_singleton, List.foldl_append,
    List.foldl_cons, List.foldl_nil, Nat.zero_add]

/-- Distinct stops are mapped to where they stand. -/
theorem lastIndex?_eq_some_iff (hnd : locations.Nodup) {location : LocationCode} {i : Nat} :
    lastIndex? locations location = some i ↔ locations[i]? = some location := by
  induction locations using List.reverseRecOn with
  | nil => simp [lastIndex?]
  | append_singleton rest last ih =>
    obtain ⟨hrest, -, hnew⟩ := List.nodup_append.mp hnd
    have hlast : ∀ l ∈ rest, l ≠ last := fun l hl ↦ hnew l hl last (by simp)
    rw [lastIndex?_append_singleton]
    by_cases heq : last = location
    · subst heq
      rw [if_pos rfl, Option.some.injEq]
      constructor
      · rintro rfl
        simp
      · intro hi
        rcases Nat.lt_or_ge i rest.length with hlt | hge
        · rw [List.getElem?_append_left hlt] at hi
          exact absurd rfl (hlast last (List.mem_of_getElem? hi))
        · have := (List.getElem?_eq_some_iff.mp hi).1
          rw [List.length_append, List.length_singleton] at this
          omega
    · rw [if_neg heq, ih hrest]
      constructor
      · intro hi
        have hlt := (List.getElem?_eq_some_iff.mp hi).1
        rwa [List.getElem?_append_left hlt]
      · intro hi
        rcases Nat.lt_or_ge i rest.length with hlt | hge
        · rwa [List.getElem?_append_left hlt] at hi
        · have hlt := (List.getElem?_eq_some_iff.mp hi).1
          rw [List.length_append, List.length_singleton] at hlt
          obtain rfl : i = rest.length := by omega
          simp [heq] at hi

/-- On distinct stops it does not matter which entry of a mapping wins. -/
theorem idxOf?_eq_lastIndex? (hnd : locations.Nodup) : locations.idxOf? = lastIndex? locations := by
  funext location
  ext i
  rw [lastIndex?_eq_some_iff hnd, List.idxOf?_eq_some_iff, List.getElem?_eq_some_iff]
  constructor
  · rintro ⟨hi, heq, -⟩
    exact ⟨hi, heq⟩
  · rintro ⟨hi, heq⟩
    refine ⟨hi, heq, fun j hj hsame ↦ ?_⟩
    have := (List.Nodup.getElem_inj_iff hnd).mp (hsame.trans heq.symm)
    omega

/-- A package is on board exactly between its pickup and its drop-off. -/
theorem aboard_iff {index : LocationCode → Option Nat} {k : Nat} {package : PackageLoad} :
    aboard index k package = true ↔ ∃ i j, index package.startLocation = some i ∧
      index package.endLocation = some j ∧ i ≤ k ∧ k < j := by
  unfold aboard segmentRange
  cases index package.startLocation with
  | none => simp
  | some i =>
    cases index package.endLocation with
    | none => simp
    | some j =>
      by_cases h : i < j
      · simp [h]
      · simp only [h, if_false, Bool.false_eq_true, Option.some.injEq, exists_eq_left',
          exists_and_left, false_iff]
        omega

/-- On distinct stops a package is on board between the stops of its pickup and its drop-off. -/
theorem covers_iff (hnd : locations.Nodup) {k : Nat} {package : PackageLoad} :
    covers locations k package = true ↔ ∃ i j : Nat,
      locations[i]? = some package.startLocation ∧ locations[j]? = some package.endLocation ∧
        i ≤ k ∧ k < j := by
  simp only [covers, aboard_iff, lastIndex?_eq_some_iff hnd]

private theorem getElem?_addRange (w : Rat) (i n k : Nat) (loads : List Rat) :
    ((List.range' i n).foldl (fun loads k ↦ loads.modify k (· + w)) loads)[k]? =
      (loads[k]?).map fun l ↦ if i ≤ k ∧ k < i + n then l + w else l := by
  induction n generalizing i loads with
  | zero =>
    have h : ¬ (i ≤ k ∧ k < i + 0) := by omega
    simp only [List.range'_zero, List.foldl_nil, if_neg h, Option.map_id']
  | succ n ih =>
    rw [List.range'_succ, List.foldl_cons, ih, List.getElem?_modify]
    cases loads[k]? with
    | none => simp
    | some l =>
      simp only [Option.map_eq_map, Option.map_some, Option.some.injEq]
      by_cases hk : i = k
      · have h1 : ¬ (i + 1 ≤ k ∧ k < i + 1 + n) := by omega
        have h2 : i ≤ k ∧ k < i + (n + 1) := by omega
        rw [if_neg h1, if_pos hk, if_pos h2]
      · have h1 : (i + 1 ≤ k ∧ k < i + 1 + n) ↔ (i ≤ k ∧ k < i + (n + 1)) := by omega
        simp only [if_neg hk, h1]

/-- Adding a package changes exactly the legs during which it is on board. -/
theorem getElem?_addPackage (index : LocationCode → Option Nat) (loads : List Rat)
    (package : PackageLoad) (k : Nat) : (addPackage index loads package)[k]? =
      (loads[k]?).map fun l ↦ if aboard index k package then l + package.weight else l := by
  unfold addPackage aboard
  cases segmentRange index package with
  | none => simp
  | some range =>
    obtain ⟨i, j⟩ := range
    have h : (i ≤ k ∧ k < i + (j - i)) ↔ (i ≤ k ∧ k < j) := by omega
    show ((List.range' i (j - i)).foldl
      (fun loads k ↦ loads.modify k (· + package.weight)) loads)[k]? = _
    simp only [getElem?_addRange, Bool.and_eq_true, decide_eq_true_eq, h]

/-- The loop leaves on each leg what was there and the packages on board. -/
theorem getElem?_foldl_addPackage (index : LocationCode → Option Nat)
    (packages : List PackageLoad) (loads : List Rat) (k : Nat) :
    (packages.foldl (addPackage index) loads)[k]? =
      (loads[k]?).map (· + ((packages.filter (aboard index k)).map PackageLoad.weight).sum) := by
  induction packages generalizing loads with
  | nil => simp
  | cons p ps ih =>
    rw [List.foldl_cons, ih, getElem?_addPackage, Option.map_map]
    congr 1
    funext l
    by_cases hc : aboard index k p = true
    · rw [List.filter_cons_of_pos hc, List.map_cons, List.sum_cons, ← add_assoc]
      simp only [Function.comp, if_pos hc]
    · rw [List.filter_cons_of_neg hc]
      simp only [Function.comp, if_neg hc]

/-- The loop over all packages leaves the load of each leg. -/
theorem foldl_addPackage_eq (packages : List PackageLoad) :
    packages.foldl (addPackage (lastIndex? locations)) (List.replicate (locations.length - 1) 0) =
      (List.range (locations.length - 1)).map (legLoad locations packages) := by
  ext1 k
  rw [getElem?_foldl_addPackage, List.getElem?_replicate, List.getElem?_map]
  rcases Nat.lt_or_ge k (locations.length - 1) with hlt | hge
  · rw [if_pos hlt, List.getElem?_range hlt, Option.map_some, Option.map_some, zero_add]
    rfl
  · rw [if_neg (by omega), List.getElem?_eq_none (by simpa using hge), Option.map_none,
      Option.map_none]

/-- The calculator finds the heaviest leg. -/
theorem maximumSegmentLoad_eq (packages : List PackageLoad) (extra : Option PackageLoad) :
    maximumSegmentLoad locations packages extra =
      ((List.range (locations.length - 1)).map
        (legLoad locations (packages ++ extra.toList))).max?.getD 0 := by
  rw [maximumSegmentLoad, foldl_addPackage_eq]

/-- A leg's load does not depend on the order of the packages. -/
theorem legLoad_perm {ps qs : List PackageLoad} (h : ps.Perm qs) (k : Nat) :
    legLoad locations ps k = legLoad locations qs k :=
  ((h.filter _).map _).sum_eq

/-- Fewer packages of non-negative weight load a leg less. -/
theorem legLoad_le_of_sublist {ps qs : List PackageLoad} (h : ps.Sublist qs)
    (hw : ∀ q ∈ qs, 0 ≤ q.weight) (k : Nat) :
    legLoad locations ps k ≤ legLoad locations qs k := by
  unfold legLoad
  refine ((h.filter _).map PackageLoad.weight).sum_le_sum fun w hmem ↦ ?_
  obtain ⟨q, hq, rfl⟩ := List.mem_map.mp hmem
  exact hw q (List.mem_filter.mp hq).1

/-- The heaviest leg is bounded exactly when every leg is. -/
theorem maximumSegmentLoad_le_iff (h : 2 ≤ locations.length) {packages : List PackageLoad}
    {extra : Option PackageLoad} {c : Rat} :
    maximumSegmentLoad locations packages extra ≤ c ↔
      ∀ k, k + 1 < locations.length → legLoad locations (packages ++ extra.toList) k ≤ c := by
  rw [maximumSegmentLoad_eq]
  cases hm : ((List.range (locations.length - 1)).map
      (legLoad locations (packages ++ extra.toList))).max? with
  | none =>
    rw [List.max?_eq_none_iff, List.map_eq_nil_iff, List.range_eq_nil] at hm
    omega
  | some m =>
    obtain ⟨hmem, hmax⟩ := List.max?_eq_some_iff.mp hm
    rw [Option.getD_some]
    constructor
    · intro hmc k hk
      exact (hmax _ (List.mem_map.mpr ⟨k, List.mem_range.mpr (by omega), rfl⟩)).trans hmc
    · intro hall
      obtain ⟨k, hk, rfl⟩ := List.mem_map.mp hmem
      rw [List.mem_range] at hk
      exact hall k (by omega)

end RouteLoadCalculator

namespace Map

/-- Sum of the distances between consecutive stops. -/
def pathDistance (locations : List LocationCode) : Except PyError Int := do
  let distances ← (locations.zip locations.tail).mapM fun leg ↦ getDistance leg.1 leg.2
  .ok distances.sum

/-- The distances between consecutive stops, added from the first stop on. -/
theorem pathDistance_cons_cons {a b : LocationCode} {rest : List LocationCode} {d : Int} :
    pathDistance (a :: b :: rest) = .ok d ↔
      ∃ d1 d2, getDistance a b = .ok d1 ∧ pathDistance (b :: rest) = .ok d2 ∧ d = d1 + d2 := by
  simp only [pathDistance, List.tail_cons, List.zip_cons_cons, List.mapM_cons, bind_assoc,
    except_bind_eq_ok_iff, pure, Except.pure, Except.ok.injEq, exists_eq_left']
  constructor
  · rintro ⟨d1, h1, ds, h2, rfl⟩
    exact ⟨d1, _, h1, ⟨ds, h2, rfl⟩, by simp⟩
  · rintro ⟨d1, _, h1, ⟨ds, h2, rfl⟩, rfl⟩
    exact ⟨d1, h1, ds, h2, by simp⟩

/-- Distinct supported stops have a total distance. -/
theorem exists_pathDistance {locations : List LocationCode}
    (hmem : ∀ l ∈ locations, l ∈ Map.locations) (hnd : locations.Nodup) :
    ∃ d, pathDistance locations = .ok d := by
  match locations with
  | [] => exact ⟨0, rfl⟩
  | [a] => exact ⟨0, rfl⟩
  | a :: b :: rest =>
    obtain ⟨d1, h1, -⟩ := getDistance_of_mem (hmem a (by simp)) (hmem b (by simp))
      (fun h ↦ by simp [h] at hnd)
    have hrest : ∀ l ∈ b :: rest, l ∈ Map.locations := fun l hl ↦ hmem l (by simp_all)
    obtain ⟨d2, h2⟩ := exists_pathDistance hrest (List.nodup_cons.mp hnd).2
    exact ⟨d1 + d2, pathDistance_cons_cons.mpr ⟨d1, d2, h1, h2, rfl⟩⟩

end Map

namespace RouteScheduler

/-- The segments of a schedule add up to the distance of its path. -/
theorem pathDistance_of_travel {speedKmph : Int} {current : LocationCode} {t : Datetime}
    {rest : List LocationCode} {segments : List RouteSegment} {stops : List ScheduledStop}
    (h : travel speedKmph current t rest = .ok (segments, stops)) :
    Map.pathDistance (current :: rest) = .ok (segments.map RouteSegment.distanceKm).sum := by
  induction rest generalizing current t segments stops with
  | nil =>
    simp only [travel, Except.ok.injEq, Prod.mk.injEq] at h
    rw [← h.1]
    rfl
  | cons next rest ih =>
    obtain ⟨d, arrival, gs, ss, hd, -, hr, he⟩ := travel_cons_eq_ok_iff.mp h
    obtain ⟨rfl, rfl⟩ := Prod.mk.injEq .. ▸ he
    exact Map.pathDistance_cons_cons.mpr ⟨d, _, hd, ih hr, by simp⟩

end RouteScheduler

namespace DeliveryRoute

/-- The total distance of a route is that of its path, scheduled or not. -/
theorem totalDistanceKm_eq (route : DeliveryRoute) :
    route.totalDistanceKm = Map.pathDistance route.locations := by
  unfold totalDistanceKm
  cases hs : route.plan.schedule? with
  | none => rfl
  | some s =>
    obtain ⟨-, first, rest, stops, hp, -, ht⟩ :=
      RouteScheduler.build_eq_ok_iff.mp (route.plan.built s hs)
    unfold locations
    rw [hp, RouteScheduler.pathDistance_of_travel ht]
    rfl

/-- Every route has a total distance. -/
theorem exists_totalDistanceKm (route : DeliveryRoute) : ∃ d, route.totalDistanceKm = .ok d := by
  rw [totalDistanceKm_eq]
  exact Map.exists_pathDistance (fun _ hl ↦ route.plan.path.mem_map hl) route.plan.path.nodup

/-- Load of the heaviest leg; `domain/entities/delivery_route.py:605–636`. -/
def maximumSegmentLoad [WeightArithmetic] (route : DeliveryRoute) (packages : List DeliveryPackage)
    (extraPackage : Option DeliveryPackage) : Rat :=
  RouteLoadCalculator.maximumSegmentLoad route.locations (packages.map DeliveryPackage.load)
    (extraPackage.map DeliveryPackage.load)

/-- Leg loads and total distance stay within the limits of a vehicle. -/
structure WithinLimits (route : DeliveryRoute) (packages : List DeliveryPackage)
    (capacity maxRange : Int) : Prop where
  load : ∀ k, k + 1 < route.locations.length → RouteLoadCalculator.legLoad route.locations
    (packages.map DeliveryPackage.load) k ≤ capacity
  distance : ∃ d, route.totalDistanceKm = .ok d ∧ d ≤ maxRange

/-- A route visits two stops or more. -/
theorem two_le_length_locations (route : DeliveryRoute) : 2 ≤ route.locations.length :=
  route.plan.path.two_le_length

end DeliveryRoute
end FleetFlow
