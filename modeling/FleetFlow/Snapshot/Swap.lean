import FleetFlow.Runtime.CustomerIndex
import FleetFlow.Snapshot.Preparer

/-!
# Replacing the world

Follows `adapters/driven/persistence/memory/world_state_gateway.py` and the fleet part of
`application/services/vehicle_manager.py`. A replacement that raises puts the repositories and the
trucks back. It does not put back what clearing has unlinked from the routes of before, so a
failure is undone exactly when no truck that was cleared had a route.
-/

namespace FleetFlow

open Program

/-- A step of a replacement that can raise. -/
inductive SwapStep where
  | replaceCustomers
  | replacePackages
  | replaceRoutes
  | clearTruck (vehicleId : Int)
  | bindTruck (vehicleId : Int)
deriving DecidableEq, Repr

/-- The repositories and the fleet, by the steps of a replacement on which they raise. -/
structure SwapFaults where
  raises : SwapStep → Option PyError

/-- A world that is being replaced, with the route objects of before, which the trucks refer to
until they are cleared. -/
structure Swapping where
  world : World
  previousRoutes : Store DeliveryRoute.routeId

namespace VehicleManager

/-- Raise what a step raises. -/
def step (faults : SwapFaults) (s : SwapStep) : Program PyError Swapping PUnit :=
  match faults.raises s with
  | none => pure ⟨⟩
  | some error => throw error

/-- Clear the assignment of a truck; `application/services/vehicle_manager.py:95–108`. -/
def clearTruck (faults : SwapFaults) (truck : Truck) : Program PyError Swapping PUnit := do
  let s ← get
  match truck.route.bind s.previousRoutes.find? with
  | none => pure ⟨⟩
  | some route => do
    Program.lift (require (route.truck = some truck.vehicleId) ⟨.assertionError,
      "Truck and route assignment backlinks must be consistent before replacement."⟩)
    modify fun s ↦ { s with previousRoutes := s.previousRoutes.put { route with truck := none } }
  modify fun s ↦ { s with world := s.world.putTruck truck.free }
  step faults (.clearTruck truck.vehicleId)

/-- The world with the prepared state of one truck. -/
def bound (binding : TruckBinding) (w : World) : World :=
  match w.trucks.find? binding.vehicleId with
  | none => w
  | some truck =>
    let w := w.putTruck { truck with
      status := binding.status
      currentLocation := binding.currentLocation
      busyFrom := binding.busyFrom
      busyUntil := binding.busyUntil
      inTransitTo := binding.inTransitTo
      route := binding.route }
    match binding.route.bind w.routes.find? with
    | none => w
    | some route => w.putRoute { route with truck := some binding.vehicleId }

/-- Apply a binding; `application/services/vehicle_manager.py:110–122`. -/
def bindTruck (faults : SwapFaults) (binding : TruckBinding) :
    Program PyError Swapping PUnit := do
  modify fun s ↦ { s with world := bound binding s.world }
  step faults (.bindTruck binding.vehicleId)

/-- Clear the fleet and give the trucks their new routes;
`application/services/vehicle_manager.py:77–122`. -/
def replaceTruckBindings (faults : SwapFaults) (bindings : List TruckBinding) :
    Program PyError Swapping PUnit := do
  let s ← get
  forM s.world.trucks.values (clearTruck faults)
  forM bindings (bindTruck faults)

end VehicleManager

namespace InMemoryWorldStateRuntime

open VehicleManager (step)

/-- Run an action on the world that is being replaced. -/
def onWorld {α : Type} (action : Action α) : Program PyError Swapping α :=
  Program.zoom Swapping.world (fun w s ↦ { s with world := w }) action

/-- Replace the packages and their next id; `package_repository.py:172–180`. -/
def replacePackages (packages : Store DeliveryPackage.packageId) (nextId : Int) : Action PUnit :=
  modify fun w ↦ { w with packages := packages, nextPackageId := nextId }

/-- Replace the routes and their next id; `route_repository.py:117–125`. -/
def replaceRoutes (routes : Store DeliveryRoute.routeId) (nextId : Int) : Action PUnit :=
  modify fun w ↦ { w with routes := routes, nextRouteId := nextId }

/-- Give a truck its previous state back; `world_state_gateway.py:132–140`. -/
def restoreTruck (w : World) (previous : Truck) : World :=
  match w.trucks.find? previous.vehicleId with
  | none => w
  | some truck => w.putTruck (truck.restoreState previous.snapshotState)

/-- The steps of a replacement; `world_state_gateway.py:77–101`. -/
def swap (faults : SwapFaults) (world : ReconciledWorld) : Program PyError Swapping PUnit := do
  step faults .replaceCustomers
  onWorld (CustomerRepository.replaceCustomers world.customers.values
    world.counters.nextCustomerId)
  step faults .replacePackages
  onWorld (replacePackages world.packages world.counters.nextPackageId)
  step faults .replaceRoutes
  onWorld (replaceRoutes world.routes world.counters.nextRouteId)
  VehicleManager.replaceTruckBindings faults world.truckBindings

/-- What a failed replacement puts back; `world_state_gateway.py:102–115`. The routes are the
objects of before as they are now. -/
def rollBack (previous : World) : Program PyError Swapping PUnit := do
  let s ← get
  onWorld (CustomerRepository.replaceCustomers previous.customers.values previous.nextCustomerId)
  onWorld (replacePackages (.ofList previous.packages.values) previous.nextPackageId)
  onWorld (replaceRoutes (.ofList s.previousRoutes.values) previous.nextRouteId)
  onWorld (modify fun w ↦ previous.trucks.values.foldl restoreTruck w)

/-- Replace the runtime world, and put the previous one back if a step raises;
`world_state_gateway.py:47–117`. -/
def replaceWorldState (faults : SwapFaults) (world : ReconciledWorld) : Action PUnit :=
  Program.zoom (fun w ↦ ⟨w, w.routes⟩) (fun s _ ↦ s.world) do
    let previous ← get
    tryCatch (swap faults world) fun _ ↦ do
      rollBack previous.world
      throw ⟨.worldStateRuntimeSwap, "Failed to replace runtime world state."⟩

end InMemoryWorldStateRuntime

/-! ### How far a replacement gets -/

namespace SwapFaults

variable (faults : SwapFaults)

/-- Every repository is replaced. -/
def Replaces : Prop :=
  faults.raises .replaceCustomers = none ∧ faults.raises .replacePackages = none ∧
    faults.raises .replaceRoutes = none

instance : Decidable faults.Replaces := inferInstanceAs (Decidable (_ ∧ _))

/-- The trucks that are cleared, up to the first one whose update raises. -/
def clearedOf : List Truck → List Truck
  | [] => []
  | truck :: rest =>
    if faults.raises (.clearTruck truck.vehicleId) = none then truck :: clearedOf rest
    else [truck]

/-- The trucks whose assignment a replacement clears before it ends or raises. -/
def cleared (w : World) : List Truck :=
  if faults.Replaces then faults.clearedOf w.trucks.values else []

/-- No step of a replacement raises. -/
structure Completes (w : World) (world : ReconciledWorld) : Prop where
  replaces : faults.Replaces
  clears : ∀ truck ∈ w.trucks.values, faults.raises (.clearTruck truck.vehicleId) = none
  binds : ∀ binding ∈ world.truckBindings, faults.raises (.bindTruck binding.vehicleId) = none

variable {faults} {trucks : List Truck} {truck : Truck}

/-- Only listed trucks are cleared. -/
theorem mem_of_mem_clearedOf (h : truck ∈ faults.clearedOf trucks) : truck ∈ trucks := by
  induction trucks with
  | nil => cases h
  | cons x rest ih =>
    unfold clearedOf at h
    split at h
    · rcases List.mem_cons.mp h with rfl | h
      · exact List.mem_cons_self
      · exact List.mem_cons_of_mem _ (ih h)
    · rw [List.mem_singleton] at h
      exact h ▸ List.mem_cons_self

end SwapFaults

/-! ### Clearing the fleet -/

/-- A route without its truck if the truck is among those cleared. -/
def DeliveryRoute.unlinkedFrom (vehicleIds : List Int) (route : DeliveryRoute) : DeliveryRoute :=
  if route.truck.any (· ∈ vehicleIds) then { route with truck := none } else route

/-- The replacement of a world after the trucks of some ids have been cleared. -/
structure Swapping.Cleared (previous : World) (vehicleIds : List Int) (s : Swapping) : Prop where
  trucks : previous.trucks.Related Truck.SameVehicle s.world.trucks
  routes : ∀ r, s.previousRoutes.find? r =
    (previous.routes.find? r).map (DeliveryRoute.unlinkedFrom vehicleIds)

variable {faults : SwapFaults} {previous w : World} {s : Swapping} {world : ReconciledWorld}

namespace VehicleManager

/-- A step raises what the collaborators raise on it. -/
theorem ensures_step {x : SwapStep} {ok : PUnit → Swapping → Prop}
    {fail : PyError → Swapping → Prop} : Ensures (step faults x) s ok fail ↔
      (faults.raises x = none → ok ⟨⟩ s) ∧ ∀ e, faults.raises x = some e → fail e s := by
  unfold step
  cases faults.raises x <;> simp

/-- Clearing one truck of a linked world. -/
theorem ensures_clearTruck (hp : previous.RouteLinked) {vehicleIds : List Int} {truck : Truck}
    (h : s.Cleared previous vehicleIds)
    (ht : previous.trucks.find? truck.vehicleId = some truck)
    (hnew : truck.vehicleId ∉ vehicleIds) :
    Ensures (clearTruck faults truck) s
      (fun _ s' ↦ faults.raises (.clearTruck truck.vehicleId) = none ∧
        s'.Cleared previous (truck.vehicleId :: vehicleIds))
      (fun _ s' ↦ faults.raises (.clearTruck truck.vehicleId) ≠ none ∧
        s'.Cleared previous (truck.vehicleId :: vehicleIds)) := by
  have htrucks : previous.trucks.Related Truck.SameVehicle (s.world.trucks.put truck.free) :=
    h.trucks.put ht rfl ⟨rfl, rfl, rfl, rfl⟩
  unfold clearTruck
  simp only [ensures_bind, ensures_get]
  cases hroute : truck.route with
  | none =>
    -- no route refers to the truck
    have hcleared : Swapping.Cleared previous (truck.vehicleId :: vehicleIds)
        { s with world := s.world.putTruck truck.free } := by
      refine ⟨htrucks, fun r ↦ (h.routes r).trans ?_⟩
      cases hr : previous.routes.find? r with
      | none => rfl
      | some route =>
        have hother : route.truck ≠ some truck.vehicleId := by
          intro hlink
          obtain ⟨truck', ht', hr'⟩ := hp.truck_of_route hr hlink
          obtain rfl := Option.some.inj (ht.symm.trans ht')
          rw [hroute] at hr'
          cases hr'
        rw [Option.map_some, Option.map_some]
        cases hlink : route.truck with
        | none => simp [DeliveryRoute.unlinkedFrom, hlink]
        | some t =>
          rw [hlink, ne_eq, Option.some.injEq] at hother
          simp [DeliveryRoute.unlinkedFrom, hlink, hother]
    simp only [Option.bind_none, ensures_bind, ensures_modify, ensures_step]
    exact ⟨fun hnone ↦ ⟨hnone, hcleared⟩, fun e he ↦ ⟨by simp [he], hcleared⟩⟩
  | some r =>
    obtain ⟨route, hr, hlink⟩ := hp.route_of_truck ht hroute
    have hlive : s.previousRoutes.find? r = some route := by
      rw [h.routes, hr, Option.map_some, DeliveryRoute.unlinkedFrom, hlink]
      simp [hnew]
    have hcleared : Swapping.Cleared previous (truck.vehicleId :: vehicleIds)
        { world := s.world.putTruck truck.free
          previousRoutes := s.previousRoutes.put { route with truck := none } } := by
      refine ⟨htrucks, fun r' ↦ ?_⟩
      rw [Store.find?_put]
      have hkey : route.routeId = r := Store.key_of_find? hr
      split
      · next hr' =>
        obtain rfl : r' = r := hr'.symm.trans hkey
        rw [hr, Option.map_some, DeliveryRoute.unlinkedFrom, hlink]
        simp
      · next hr' =>
        rw [h.routes]
        cases hfind : previous.routes.find? r' with
        | none => rfl
        | some route' =>
          have hother : route'.truck ≠ some truck.vehicleId := fun hlink' ↦
            hr' (hkey.trans (hp.eq_of_truck hr hfind hlink hlink'))
          rw [Option.map_some, Option.map_some]
          cases hlink' : route'.truck with
          | none => simp [DeliveryRoute.unlinkedFrom, hlink']
          | some t =>
            rw [hlink', ne_eq, Option.some.injEq] at hother
            simp [DeliveryRoute.unlinkedFrom, hlink', hother]
    simp only [Option.bind_some, hlive, ensures_bind, ensures_lift, ensures_modify, ensures_step]
    refine ⟨fun _ _ ↦ ⟨fun hnone ↦ ⟨hnone, hcleared⟩, fun e he ↦ ⟨by simp [he], hcleared⟩⟩,
      fun e he ↦ ?_⟩
    simp [require, hlink] at he

/-- Clearing listed trucks of a linked world, up to the first update that raises. -/
theorem ensures_clearTrucks (hp : previous.RouteLinked) {trucks : List Truck}
    (hstored : ∀ truck ∈ trucks, previous.trucks.find? truck.vehicleId = some truck)
    (hnd : (trucks.map fun truck ↦ truck.vehicleId).Nodup) {vehicleIds : List Int}
    (hnew : ∀ truck ∈ trucks, truck.vehicleId ∉ vehicleIds) (h : s.Cleared previous vehicleIds) :
    Ensures (forM trucks (clearTruck faults)) s
      (fun _ s' ↦ (∀ truck ∈ trucks, faults.raises (.clearTruck truck.vehicleId) = none) ∧
        ∃ ids, (∀ t, t ∈ ids ↔ t ∈ vehicleIds ∨
          ∃ truck ∈ faults.clearedOf trucks, truck.vehicleId = t) ∧ s'.Cleared previous ids)
      (fun _ s' ↦ (∃ truck ∈ trucks, faults.raises (.clearTruck truck.vehicleId) ≠ none) ∧
        ∃ ids, (∀ t, t ∈ ids ↔ t ∈ vehicleIds ∨
          ∃ truck ∈ faults.clearedOf trucks, truck.vehicleId = t) ∧ s'.Cleared previous ids) := by
  induction trucks generalizing s vehicleIds with
  | nil =>
    refine ensures_pure.mpr ⟨by simp, vehicleIds, fun t ↦ ?_, h⟩
    simp [SwapFaults.clearedOf]
  | cons truck rest ih =>
    rw [List.map_cons, List.nodup_cons] at hnd
    rw [List.forM_cons, ensures_bind]
    refine (ensures_clearTruck hp h (hstored truck (by simp)) (hnew truck (by simp))).mono
      (fun _ s1 h1 ↦ ?_) fun _ s1 h1 ↦ ?_
    · obtain ⟨hraises, h1⟩ := h1
      have hfresh : ∀ x ∈ rest, x.vehicleId ∉ truck.vehicleId :: vehicleIds := by
        intro x hx hmem
        rcases List.mem_cons.mp hmem with heq | hmem
        · exact hnd.1 (heq ▸ List.mem_map_of_mem hx)
        · exact hnew x (by simp [hx]) hmem
      have hids : ∀ ids : List Int, (∀ t, t ∈ ids ↔ t ∈ truck.vehicleId :: vehicleIds ∨
          ∃ x ∈ faults.clearedOf rest, x.vehicleId = t) → ∀ t, t ∈ ids ↔ t ∈ vehicleIds ∨
            ∃ x ∈ faults.clearedOf (truck :: rest), x.vehicleId = t := by
        intro ids hmem t
        rw [hmem, SwapFaults.clearedOf, if_pos hraises]
        simp only [List.mem_cons, exists_eq_or_imp]
        grind
      refine (ih (fun x hx ↦ hstored x (by simp [hx])) hnd.2 hfresh h1).mono
        (fun _ s2 h2 ↦ ?_) fun _ s2 h2 ↦ ?_
      · obtain ⟨hall, ids, hmem, hcleared⟩ := h2
        refine ⟨fun x hx ↦ ?_, ids, hids ids hmem, hcleared⟩
        rcases List.mem_cons.mp hx with rfl | hx
        · exact hraises
        · exact hall x hx
      · obtain ⟨⟨x, hx, hfail⟩, ids, hmem, hcleared⟩ := h2
        exact ⟨⟨x, by simp [hx], hfail⟩, ids, hids ids hmem, hcleared⟩
    · obtain ⟨hraises, h1⟩ := h1
      refine ⟨⟨truck, by simp, hraises⟩, _, fun t ↦ ?_, h1⟩
      rw [SwapFaults.clearedOf, if_neg hraises]
      simp only [List.mem_cons, List.not_mem_nil, or_false, exists_eq_left]
      grind

/-- Binding a truck keeps what has been cleared. -/
theorem cleared_bound {vehicleIds : List Int} (h : s.Cleared previous vehicleIds)
    (binding : TruckBinding) :
    Swapping.Cleared previous vehicleIds { s with world := bound binding s.world } := by
  unfold bound
  cases ht : s.world.trucks.find? binding.vehicleId with
  | none => exact h
  | some truck =>
    obtain ⟨before, hbefore, hsame⟩ := h.trucks.backward ht
    have hid : truck.vehicleId = binding.vehicleId := Store.key_of_find? ht
    have htrucks : previous.trucks.Related Truck.SameVehicle (s.world.trucks.put { truck with
        status := binding.status
        currentLocation := binding.currentLocation
        busyFrom := binding.busyFrom
        busyUntil := binding.busyUntil
        inTransitTo := binding.inTransitTo
        route := binding.route }) :=
      h.trucks.put hbefore hid ⟨hsame.vehicleId, hsame.name, hsame.capacity, hsame.maxRange⟩
    dsimp only
    split
    · exact ⟨htrucks, h.routes⟩
    · exact ⟨htrucks, h.routes⟩

/-- Applying bindings keeps what has been cleared. -/
theorem ensures_bindTrucks {vehicleIds : List Int} {bindings : List TruckBinding}
    (h : s.Cleared previous vehicleIds) :
    Ensures (forM bindings (bindTruck faults)) s
      (fun _ _ ↦ ∀ binding ∈ bindings, faults.raises (.bindTruck binding.vehicleId) = none)
      (fun _ s' ↦ (∃ binding ∈ bindings, faults.raises (.bindTruck binding.vehicleId) ≠ none) ∧
        s'.Cleared previous vehicleIds) := by
  induction bindings generalizing s with
  | nil => exact ensures_pure.mpr fun _ hmem ↦ by cases hmem
  | cons binding rest ih =>
    rw [List.forM_cons, ensures_bind]
    unfold bindTruck
    simp only [ensures_bind, ensures_modify, ensures_step]
    refine ⟨fun hnone ↦ ?_, fun e he ↦ ⟨⟨binding, by simp, by simp [he]⟩,
      cleared_bound h binding⟩⟩
    refine (ih (cleared_bound h binding)).mono (fun _ _ hall ↦ ?_) fun _ s' hs' ↦ ?_
    · intro x hx
      rcases List.mem_cons.mp hx with rfl | hx
      · exact hnone
      · exact hall x hx
    · obtain ⟨⟨x, hx, hfail⟩, hcleared⟩ := hs'
      exact ⟨⟨x, by simp [hx], hfail⟩, hcleared⟩

end VehicleManager

namespace InMemoryWorldStateRuntime

/-- Restoring the trucks of before gives back the fleet of before. -/
theorem foldl_restoreTruck {trucks : List Truck}
    (hstored : ∀ truck ∈ trucks, previous.trucks.find? truck.vehicleId = some truck)
    (h : previous.trucks.Related Truck.SameVehicle w.trucks)
    (hdone : ∀ t truck, previous.trucks.find? t = some truck → truck ∉ trucks →
      w.trucks.find? t = some truck) :
    trucks.foldl restoreTruck w = { w with trucks := previous.trucks } := by
  induction trucks generalizing w with
  | nil =>
    have hsame : w.trucks = previous.trucks := by
      ext t truck
      constructor
      · intro ht
        obtain ⟨before, hbefore, -⟩ := h.backward ht
        rw [hdone t before hbefore (by simp)] at ht
        rw [hbefore, ht]
      · exact fun ht ↦ hdone t truck ht (by simp)
    rw [List.foldl_nil, ← hsame]
  | cons truck rest ih =>
    have ht := hstored truck (by simp)
    obtain ⟨now, hnow, hsame⟩ := h.forward ht
    have hrestored : restoreTruck w truck = w.putTruck truck := by
      rw [restoreTruck, hnow]
      dsimp only
      rw [Truck.restoreState_eq_of_same hsame]
    rw [List.foldl_cons, hrestored]
    refine ih (fun x hx ↦ hstored x (by simp [hx])) (h.put ht rfl (.refl truck)) fun t x hx hmem ↦ ?_
    rw [Store.find?_put]
    split
    · next hkey =>
      rw [← hx, ← hkey, ht]
    · next hkey =>
      refine hdone t x hx fun hmem' ↦ ?_
      rcases List.mem_cons.mp hmem' with rfl | hmem'
      · exact hkey (Store.key_of_find? hx)
      · exact hmem hmem'

/-- Rolling back restores everything but the links of the routes of before. -/
theorem ensures_rollBack (hindexed : previous.Indexed)
    (h : previous.trucks.Related Truck.SameVehicle s.world.trucks) :
    Ensures (rollBack previous) s
      (fun _ s' ↦ s'.world = { previous with routes := s.previousRoutes }) (fun _ _ ↦ False) := by
  unfold rollBack onWorld CustomerRepository.replaceCustomers replacePackages replaceRoutes
  simp only [ensures_bind, ensures_get, ensures_zoom, ensures_set, ensures_modify]
  simp only [Store.ofList_values, hindexed.email.ofList_values, hindexed.phone.ofList_values]
  exact foldl_restoreTruck (fun truck htruck ↦ Store.mem_values.mp htruck) h
    fun t truck ht hmem ↦ absurd (Store.mem_values_of_find? ht) hmem

/-- A replacement of a linked world completes, or it raises with some trucks cleared. -/
theorem ensures_swap (hp : previous.RouteLinked) :
    Ensures (swap faults world) ⟨previous, previous.routes⟩
      (fun _ _ ↦ faults.Completes previous world)
      (fun _ s' ↦ ¬ faults.Completes previous world ∧ ∃ ids,
        (∀ t, t ∈ ids ↔ ∃ truck ∈ faults.cleared previous, truck.vehicleId = t) ∧
          s'.Cleared previous ids) := by
  have hnothing : ∀ {s' : Swapping}, s'.world.trucks = previous.trucks →
      s'.previousRoutes = previous.routes → s'.Cleared previous [] := by
    intro s' htrucks hroutes
    refine ⟨htrucks ▸ Store.related_refl .refl, fun r ↦ ?_⟩
    rw [hroutes]
    cases previous.routes.find? r with
    | none => rfl
    | some route => cases ht : route.truck <;> simp [DeliveryRoute.unlinkedFrom, ht]
  have hraised : ∀ {s' : Swapping}, ¬ faults.Replaces → s'.world.trucks = previous.trucks →
      s'.previousRoutes = previous.routes → ¬ faults.Completes previous world ∧ ∃ ids,
        (∀ t, t ∈ ids ↔ ∃ truck ∈ faults.cleared previous, truck.vehicleId = t) ∧
          s'.Cleared previous ids := by
    intro s' hreplaces htrucks hroutes
    refine ⟨fun h ↦ hreplaces h.replaces, [], fun t ↦ ?_, hnothing htrucks hroutes⟩
    simp [SwapFaults.cleared, hreplaces]
  unfold swap onWorld CustomerRepository.replaceCustomers replacePackages replaceRoutes
  simp only [ensures_bind, ensures_get, ensures_zoom, ensures_set, ensures_modify,
    VehicleManager.ensures_step]
  refine ⟨fun h1 ↦ ⟨fun h2 ↦ ⟨fun h3 ↦ ?_, fun e h3 ↦ ?_⟩, fun e h2 ↦ ?_⟩, fun e h1 ↦ ?_⟩
  · have hreplaces : faults.Replaces := ⟨h1, h2, h3⟩
    unfold VehicleManager.replaceTruckBindings
    simp only [ensures_bind, ensures_get]
    refine (VehicleManager.ensures_clearTrucks hp (fun truck htruck ↦ Store.mem_values.mp htruck)
      Store.nodup_values (fun _ _ ↦ List.not_mem_nil) (hnothing rfl rfl)).mono
      (fun _ s1 h ↦ ?_) fun _ s1 h ↦ ?_
    · obtain ⟨hclears, ids, hids, hcleared⟩ := h
      refine (VehicleManager.ensures_bindTrucks hcleared).mono
        (fun _ _ hbinds ↦ ⟨hreplaces, hclears, hbinds⟩) fun _ s2 h ↦ ?_
      obtain ⟨⟨binding, hbinding, hfail⟩, hcleared⟩ := h
      refine ⟨fun h ↦ hfail (h.binds binding hbinding), ids, fun t ↦ ?_, hcleared⟩
      simp [hids, SwapFaults.cleared, hreplaces]
    · obtain ⟨⟨truck, htruck, hfail⟩, ids, hids, hcleared⟩ := h
      refine ⟨fun h ↦ hfail (h.clears truck htruck), ids, fun t ↦ ?_, hcleared⟩
      simp [hids, SwapFaults.cleared, hreplaces]
  · exact hraised (fun h ↦ by simp [h.2.2] at h3) rfl rfl
  · exact hraised (fun h ↦ by simp [h.2.1] at h2) rfl rfl
  · exact hraised (fun h ↦ by simp [h.1] at h1) rfl rfl

/-- The routes of before are as before exactly when no cleared truck had a route. -/
theorem previousRoutes_eq_iff (hp : previous.RouteLinked) {trucks : List Truck}
    (hstored : ∀ truck ∈ trucks, previous.trucks.find? truck.vehicleId = some truck)
    {ids : List Int} (hids : ∀ t, t ∈ ids ↔ ∃ truck ∈ trucks, truck.vehicleId = t)
    (h : s.Cleared previous ids) :
    s.previousRoutes = previous.routes ↔ ∀ truck ∈ trucks, truck.route = none := by
  constructor
  · intro hsame truck htruck
    by_contra hroute
    obtain ⟨r, hr⟩ := Option.ne_none_iff_exists'.mp hroute
    obtain ⟨route, hfind, hlink⟩ := hp.route_of_truck (hstored truck htruck) hr
    have hlost := h.routes r
    have hmem : truck.vehicleId ∈ ids := (hids _).mpr ⟨truck, htruck, rfl⟩
    rw [hsame, hfind, Option.map_some, Option.some.injEq, DeliveryRoute.unlinkedFrom, hlink,
      Option.any_some, decide_eq_true hmem, if_pos rfl] at hlost
    have hnone := congrArg DeliveryRoute.truck hlost
    rw [hlink] at hnone
    cases hnone
  · intro hfree
    ext r route
    rw [h.routes]
    cases hfind : previous.routes.find? r with
    | none => rfl
    | some before =>
      have hkept : before.unlinkedFrom ids = before := by
        unfold DeliveryRoute.unlinkedFrom
        refine if_neg fun hany ↦ ?_
        obtain ⟨t, hlink, hmem⟩ := (Option.any_eq_true _ _).mp hany
        obtain ⟨truck, htruck, rfl⟩ := (hids t).mp (of_decide_eq_true hmem)
        obtain ⟨truck', ht', hr⟩ := hp.truck_of_route hfind hlink
        obtain rfl := Option.some.inj ((hstored truck htruck).symm.trans ht')
        rw [hfree truck htruck] at hr
        cases hr
      rw [Option.map_some, hkept]

/-- A replacement that raises leaves the world of before exactly when no truck that it cleared
had a route; one that completes raises nothing. -/
theorem failed_swap_restores_iff (hp : previous.RouteLinked) (hindexed : previous.Indexed) :
    Ensures (replaceWorldState faults world) previous (fun _ _ ↦ True)
        (fun e w' ↦ e.kind = .worldStateRuntimeSwap ∧ w' = previous) ↔
      faults.Completes previous world ∨ ∀ truck ∈ faults.cleared previous, truck.route = none := by
  have hstored : ∀ truck ∈ faults.cleared previous,
      previous.trucks.find? truck.vehicleId = some truck := by
    intro truck htruck
    unfold SwapFaults.cleared at htruck
    split at htruck
    · exact Store.mem_values.mp (SwapFaults.mem_of_mem_clearedOf htruck)
    · cases htruck
  have hrun : Ensures (replaceWorldState faults world) previous
      (fun _ _ ↦ faults.Completes previous world)
      (fun e w' ↦ e.kind = .worldStateRuntimeSwap ∧ ¬ faults.Completes previous world ∧
        (w' = previous ↔ ∀ truck ∈ faults.cleared previous, truck.route = none)) := by
    unfold replaceWorldState
    simp only [ensures_zoom, ensures_bind, ensures_get, ensures_tryCatch, ensures_throw]
    refine (ensures_swap hp).mono (fun _ _ h ↦ h) fun _ s h ↦ ?_
    obtain ⟨hfails, ids, hids, hcleared⟩ := h
    refine (ensures_rollBack hindexed hcleared.trucks).mono (fun _ s' hs' ↦ ?_) fun _ _ hf ↦ hf.elim
    refine ⟨trivial, hfails, ?_⟩
    rw [hs', ← previousRoutes_eq_iff hp hstored hids hcleared]
    constructor
    · exact fun h ↦ congrArg World.routes h
    · intro h
      rw [h]
  constructor
  · intro h
    by_contra hno
    rw [not_or] at hno
    have hboth := h.and hrun
    rw [ensures_iff] at hboth
    cases hend : replaceWorldState faults world previous with
    | ok a w' =>
      rw [hend] at hboth
      exact hno.1 hboth.2
    | error e w' =>
      rw [hend] at hboth
      exact hno.2 (hboth.2.2.2.mp hboth.1.2)
  · intro h
    refine hrun.mono (fun _ _ _ ↦ trivial) fun e w' hw' ↦ ⟨hw'.1, hw'.2.2.mpr ?_⟩
    exact h.resolve_left hw'.2.1

end InMemoryWorldStateRuntime

/-- A sound world has exact indexes. -/
theorem World.Sound.indexed {u : UnicodeTables} {allowed : Option LocationCode → Prop}
    {clock : Option Datetime} (h : w.Sound u allowed clock) : w.Indexed where
  email _ _ := h.registered.email
  phone _ _ := h.registered.phone

namespace Scenario

/-- The fleet raises when the truck is cleared. -/
def clearingFault : SwapFaults where
  raises s := if s = .clearTruck 1001 then some ⟨.runtimeError, "truck update failed"⟩ else none

/-- A prepared world without anything. -/
def nothingPrepared : ReconciledWorld where
  customers := .empty
  packages := .empty
  routes := .empty
  counters := ⟨1, 1, 1⟩
  truckBindings := []

/-- The world whose one route has the truck. -/
def boundWorld : World := performAll .asciiOnly (.initial fleet) (steps.take 3)

/-- It is reachable. -/
theorem reachable_bound : Reachable .asciiOnly fleet (some (hour 2)) boundWorld := by
  have hsorted : ([] ++ (steps.take 3).map Prod.fst).Pairwise (· ≤ ·) := by decide
  exact Reachable.performAll .start hsorted

/-- Its route loses the truck in a replacement that raises and is rolled back. -/
theorem not_restored_bound : Reachable .asciiOnly fleet (some (hour 2)) boundWorld ∧
    ¬ Ensures (InMemoryWorldStateRuntime.replaceWorldState clearingFault nothingPrepared)
      boundWorld (fun _ _ ↦ True)
      (fun e w' ↦ e.kind = .worldStateRuntimeSwap ∧ w' = boundWorld) := by
  refine ⟨reachable_bound, fun h ↦ ?_⟩
  have hraises : raisesIn (InMemoryWorldStateRuntime.replaceWorldState clearingFault
      nothingPrepared) boundWorld (fun w' ↦ (w'.routes.find? 1).any fun route ↦
        decide (route.truck = none)) = true := by
    decide +kernel
  have hbound : (boundWorld.routes.find? 1).all (fun route ↦
      decide (route.truck = some 1001)) = true := by
    decide +kernel
  obtain ⟨e, w', ⟨-, hw⟩, hlost⟩ := h.not_of_raisesIn hraises
  obtain ⟨route, hfind, hnone⟩ := (Option.any_eq_true _ _).mp hlost
  rw [hw] at hfind
  have hlink := of_decide_eq_true ((Option.all_eq_true _ _).mp hbound route hfind)
  rw [of_decide_eq_true hnone] at hlink
  cases hlink

/-- The same fault on the world with the truck on a route, through the exact condition. -/
theorem failed_swap_restores_iff_bound :
    Ensures (InMemoryWorldStateRuntime.replaceWorldState clearingFault nothingPrepared)
        boundWorld (fun _ _ ↦ True)
        (fun e w' ↦ e.kind = .worldStateRuntimeSwap ∧ w' = boundWorld) ↔
      clearingFault.Completes boundWorld nothingPrepared ∨
        ∀ truck ∈ clearingFault.cleared boundWorld, truck.route = none :=
  have hsound := reachable_bound.sound (fun _ _ ↦ trivial) fleet_idle_anywhere
  InMemoryWorldStateRuntime.failed_swap_restores_iff hsound.linked.toRouteLinked hsound.indexed

end Scenario
end FleetFlow
