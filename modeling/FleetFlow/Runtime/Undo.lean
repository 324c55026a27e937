import FleetFlow.Runtime.Run

/-!
# Undoing a failed operation

An operation that fails after it has changed entities puts every one of them back. What the
handlers rely on is that an operation keeps identities, paths and shipments, only appends
events and touches no entity outside the captured ones.
-/

namespace FleetFlow

open Program

/-- At most the listed entities of a world have changed, packages as `changed` allows. -/
structure World.Dirty (changed : DeliveryPackage → DeliveryPackage → Prop) (before : World)
    (routes : List DeliveryRoute) (packages : List DeliveryPackage) (trucks : List Truck)
    (after : World) : Prop where
  routes : before.routes.Differs DeliveryRoute.Evolves routes after.routes
  packages : before.packages.Differs changed packages after.packages
  trucks : before.trucks.Differs Truck.SameVehicle trucks after.trucks
  frame : after = { before with
    routes := after.routes, packages := after.packages, trucks := after.trucks }

/-- What assignments and detachments keep of a package. -/
structure DeliveryPackage.Reassigned (before after : DeliveryPackage) : Prop where
  same : before.SameShipment after
  events : after.pendingEvents = before.pendingEvents

theorem DeliveryPackage.Reassigned.refl (p : DeliveryPackage) : p.Reassigned p := ⟨.refl p, rfl⟩

theorem DeliveryPackage.Reassigned.trans {a b c : DeliveryPackage} (h1 : a.Reassigned b)
    (h2 : b.Reassigned c) : a.Reassigned c :=
  ⟨h1.same.trans h2.same, h2.events.trans h1.events⟩

/-- Detaching resets the package and keeps the truck of the route. -/
theorem DeliveryRoute.evolves_detachPackage {route route' : DeliveryRoute}
    {package package' : DeliveryPackage} {reason : PackageDetachmentReason} {t : Datetime}
    (h : route.detachPackage package reason t = .ok (route', package')) :
    route.Evolves route' ∧ route'.truck = route.truck ∧ package.Reassigned package' := by
  unfold DeliveryRoute.detachPackage at h
  split at h
  · split at h
    · cases h
    · rw [Except.ok.injEq, Prod.mk.injEq] at h
      obtain ⟨rfl, rfl⟩ := h
      exact ⟨⟨rfl, rfl, List.prefix_append _ _⟩, rfl, ⟨rfl, rfl, rfl, rfl, rfl⟩, rfl⟩
  · cases h

/-- A program that changes nothing when it raises. -/
abbrev Action.RollsBack {α : Type} (program : Action α) (w : World) : Prop :=
  Ensures program w (fun _ _ ↦ True) (fun _ w' ↦ w' = w)

variable {changed : DeliveryPackage → DeliveryPackage → Prop} {before w : World}
  {routes : List DeliveryRoute} {packages : List DeliveryPackage} {trucks : List Truck}
  {route : DeliveryRoute} {package : DeliveryPackage} {truck : Truck} {uow : UnitOfWork}

/-- A persistence call changes nothing in memory and raises what the backend raises. -/
theorem Action.ensures_call_iff {c : UnitOfWorkCall} {ok : PUnit → World → Prop}
    {fail : PyError → World → Prop} : Ensures (Action.call uow c) w ok fail ↔
      (uow.raises c = none → ok ⟨⟩ w) ∧ ∀ e, uow.raises c = some e → fail e w := by
  unfold Action.call
  cases uow.raises c <;> simp

/-- A persistence call changes nothing in memory. -/
theorem Action.ensures_call {c : UnitOfWorkCall} :
    Ensures (Action.call uow c) w (fun _ w' ↦ w' = w) (fun _ w' ↦ w' = w) :=
  Action.ensures_call_iff.mpr ⟨fun _ ↦ rfl, fun _ _ ↦ rfl⟩

/-- Persistence calls change nothing in memory. -/
theorem Action.ensures_forM_call {α : Type} {xs : List α} {f : α → UnitOfWorkCall} :
    Ensures (forM xs fun x ↦ Action.call uow (f x)) w (fun _ w' ↦ w' = w)
      (fun _ w' ↦ w' = w) := by
  refine ensures_forM (fun x _ w' hw' ↦ ?_) rfl
  rw [hw']
  exact Action.ensures_call

namespace World.Dirty

/-- Before any change. -/
theorem refl (hchanged : ∀ p, changed p p)
    (hroutes : ∀ r ∈ routes, before.routes.find? r.routeId = some r)
    (hpackages : ∀ p ∈ packages, before.packages.find? p.packageId = some p)
    (htrucks : ∀ t ∈ trucks, before.trucks.find? t.vehicleId = some t) :
    Dirty changed before routes packages trucks before :=
  ⟨.refl .refl hroutes, .refl hchanged hpackages, .refl .refl htrucks, rfl⟩

/-- A world in which nothing has changed. -/
theorem eq (h : Dirty changed before [] [] [] w) : w = before := by
  rw [h.frame, h.routes.eq, h.packages.eq, h.trucks.eq]

/-- A listed route has evolved into the stored one. -/
theorem evolves (h : Dirty changed before routes packages trucks w) (hr : route ∈ routes)
    {route' : DeliveryRoute} (hfind : w.routes.find? route.routeId = some route') :
    route.Evolves route' := by
  obtain ⟨-, b, hb, he⟩ := h.routes.listed route hr
  obtain rfl : b = route' := Option.some.inj (hb.symm.trans hfind)
  exact he

/-- Changing a listed route. -/
theorem putRoute (h : Dirty changed before routes packages trucks w) (hr : route ∈ routes)
    {route' : DeliveryRoute} (he : route.Evolves route') :
    Dirty changed before routes packages trucks (w.putRoute route') := by
  refine ⟨h.routes.put hr he.routeId he, h.packages, h.trucks, ?_⟩
  rw [h.frame]

/-- Changing a listed package. -/
theorem putPackage (h : Dirty changed before routes packages trucks w) (hp : package ∈ packages)
    {package' : DeliveryPackage} (hid : package'.packageId = package.packageId)
    (hc : changed package package') :
    Dirty changed before routes packages trucks (w.putPackage package') := by
  refine ⟨h.routes, h.packages.put hp hid hc, h.trucks, ?_⟩
  rw [h.frame]

/-- Changing a listed truck. -/
theorem putTruck (h : Dirty changed before routes packages trucks w) (ht : truck ∈ trucks)
    {truck' : Truck} (hs : truck.SameVehicle truck') :
    Dirty changed before routes packages trucks (w.putTruck truck') := by
  refine ⟨h.routes, h.packages, h.trucks.put ht hs.vehicleId.symm hs, ?_⟩
  rw [h.frame]

/-- Restoring a listed route. -/
theorem ensures_restoreRoute (h : Dirty changed before (route :: routes) packages trucks w) :
    Ensures (Action.restoreRoute route.routeId route.snapshotState
        (eventCheckpoint route.pendingEvents)) w
      (fun _ w' ↦ Dirty changed before routes packages trucks w') (fun _ _ ↦ False) := by
  obtain ⟨-, route', hfind, he⟩ := h.routes.listed route (by simp)
  unfold Action.restoreRoute
  simp only [ensures_bind, ensures_get, hfind, DeliveryRoute.restoreState_eq he.routeId he.path,
    ensures_lift_ok, Reconciler.restoreEventCheckpoint_of_prefix he.events, ensures_modify]
  refine ⟨h.routes.restore .refl, h.packages, h.trucks, ?_⟩
  rw [h.frame]

/-- Restoring a listed truck. -/
theorem ensures_restoreTruck (h : Dirty changed before routes packages (truck :: trucks) w) :
    Ensures (Action.restoreTruck truck.vehicleId truck.snapshotState) w
      (fun _ w' ↦ Dirty changed before routes packages trucks w') (fun _ _ ↦ False) := by
  obtain ⟨-, truck', hfind, hs⟩ := h.trucks.listed truck (by simp)
  unfold Action.restoreTruck
  simp only [ensures_bind, ensures_get, hfind, ensures_modify, Truck.restoreState_eq_of_same hs]
  refine ⟨h.routes, h.packages, h.trucks.restore .refl, ?_⟩
  rw [h.frame]

/-- Restoring a listed package with its events. -/
theorem ensures_restorePackage
    (h : Dirty DeliveryPackage.Evolves before routes (package :: packages) trucks w) :
    Ensures (Action.restorePackage package.packageId package.snapshotState
        (some (eventCheckpoint package.pendingEvents))) w
      (fun _ w' ↦ Dirty DeliveryPackage.Evolves before routes packages trucks w')
      (fun _ _ ↦ False) := by
  obtain ⟨-, package', hfind, he⟩ := h.packages.listed package (by simp)
  have hevents : restoreEventCheckpoint (package'.restoreState package.snapshotState).pendingEvents
      (eventCheckpoint package.pendingEvents) = .ok package.pendingEvents :=
    Reconciler.restoreEventCheckpoint_of_prefix he.events
  unfold Action.restorePackage
  simp only [ensures_bind, ensures_get, hfind, hevents, ensures_lift_ok, ensures_modify,
    DeliveryPackage.restoreState_eq_of_same he.same]
  refine ⟨h.routes, h.packages.restore .refl, h.trucks, ?_⟩
  rw [h.frame]

/-- Restoring a listed package that has kept its events. -/
theorem ensures_restoreReassigned
    (h : Dirty DeliveryPackage.Reassigned before routes (package :: packages) trucks w) :
    Ensures (Action.restorePackage package.packageId package.snapshotState none) w
      (fun _ w' ↦ Dirty DeliveryPackage.Reassigned before routes packages trucks w')
      (fun _ _ ↦ False) := by
  obtain ⟨-, package', hfind, he⟩ := h.packages.listed package (by simp)
  have hrestored : package'.restoreState package.snapshotState = package :=
    DeliveryPackage.restoreState_eq_of_same he.same he.events
  unfold Action.restorePackage
  simp only [ensures_bind, ensures_get, hfind, ensures_modify, hrestored]
  refine ⟨h.routes, h.packages.restore .refl, h.trucks, ?_⟩
  rw [h.frame]

/-- Restoring all listed entities of one kind, where each step takes one off the list. -/
theorem ensures_restoreAll {α : Type} {step : α → Action PUnit} (dirty : List α → World → Prop)
    (hstep : ∀ x xs w, dirty (x :: xs) w → Ensures (step x) w (fun _ w' ↦ dirty xs w')
      (fun _ _ ↦ False)) {xs : List α} (h : dirty xs w) :
    Ensures (forM xs step) w (fun _ w' ↦ dirty [] w') (fun _ _ ↦ False) := by
  induction xs generalizing w with
  | nil => exact ensures_pure.mpr h
  | cons x xs ih =>
    rw [List.forM_cons, ensures_bind]
    exact (hstep x xs w h).mono (fun _ _ hw ↦ ih hw) fun _ _ hf ↦ hf

end World.Dirty

/-! ### Assigning a truck -/

namespace AssignTruckToRouteUseCase

variable {now : Datetime}

/-- Scheduling and linking change the route and the truck only. -/
theorem dirty_assignInMemory (hr : w.routes.find? route.routeId = some route)
    (ht : w.trucks.find? truck.vehicleId = some truck) :
    Ensures (assignInMemory route truck now) w
      (fun _ w' ↦ World.Dirty DeliveryPackage.Reassigned w [route] [] [truck] w')
      (fun _ w' ↦ World.Dirty DeliveryPackage.Reassigned w [route] [] [truck] w') := by
  have hclean : World.Dirty DeliveryPackage.Reassigned w [route] [] [truck] w :=
    .refl .refl (by simp [hr]) (by simp) (by simp [ht])
  unfold assignInMemory
  rw [ensures_bind]
  refine (ensures_scheduleIfNeeded hr).mono ?_ fun _ w' hw' ↦ hw' ▸ hclean
  rintro scheduled _ ⟨rfl, hs⟩
  have hscheduled := hclean.putRoute (by simp) hs.evolves
  simp only [ensures_bind, ensures_modify]
  rw [ensures_lift]
  refine ⟨?_, fun _ _ ↦ hscheduled⟩
  rintro ⟨linked, assigned⟩ hlink
  obtain ⟨-, -, rfl, events, rfl⟩ := DeliveryRoute.assignTruck_eq_ok hlink
  have hlinked : scheduled.Evolves { scheduled with
      truck := some truck.vehicleId
      pendingEvents := scheduled.pendingEvents ++ events } :=
    ⟨rfl, rfl, List.prefix_append _ _⟩
  have hsame : truck.SameVehicle (truck.assign scheduled) := ⟨rfl, rfl, rfl, rfl⟩
  exact (hscheduled.putRoute (List.mem_singleton_self _) (hs.evolves.trans hlinked)).putTruck
    (List.mem_singleton_self _) hsame

/-- A failed assignment changes nothing. -/
theorem rollsBack_execute {truckId routeId : Int} :
    (execute uow truckId routeId now).RollsBack w := by
  unfold execute
  simp only [Action.RollsBack, ensures_bind, ensures_get]
  cases hr : w.routes.find? routeId with
  | none => exact ensures_throw.mpr rfl
  | some route =>
    cases ht : w.trucks.find? truckId with
    | none => exact ensures_throw.mpr rfl
    | some truck =>
      obtain rfl : route.routeId = routeId := Store.key_of_find? hr
      obtain rfl : truck.vehicleId = truckId := Store.key_of_find? ht
      simp only [ensures_bind, ensures_lift_require]
      refine ⟨fun _ ↦ ?_, fun _ ↦ trivial⟩
      rw [ensures_lift]
      refine ⟨fun view _ ↦ ?_, fun _ _ ↦ rfl⟩
      cases TruckAssignmentPolicy.evaluate truck (w.routeOf truck) view with
      | reject _ reason => exact ensures_throw.mpr rfl
      | accept =>
        have hrestore : ∀ e w', World.Dirty DeliveryPackage.Reassigned w [route] [] [truck] w' →
            Ensures (do
              Action.restoreRoute route.routeId route.snapshotState
                (eventCheckpoint route.pendingEvents)
              Action.restoreTruck truck.vehicleId truck.snapshotState
              throw e : Action (List EventRecorder)) w' (fun _ _ ↦ True) (fun _ w' ↦ w' = w) := by
          intro e w' hdirty
          simp only [ensures_bind, ensures_throw]
          refine hdirty.ensures_restoreRoute.mono (fun _ _ h1 ↦ ?_) fun _ _ hf ↦ hf.elim
          exact h1.ensures_restoreTruck.mono (fun _ _ h2 ↦ h2.eq) fun _ _ hf ↦ hf.elim
        simp only [ensures_tryCatch]
        refine Ensures.mono ?_ (fun _ _ h ↦ h) hrestore
        simp only [ensures_bind, ensures_pure]
        refine (dirty_assignInMemory hr ht).mono (fun _ w1 h1 ↦ ?_) fun _ _ h ↦ h
        refine Action.ensures_call.mono ?_ fun _ _ hw ↦ hw ▸ h1
        rintro _ _ rfl
        refine Action.ensures_call.mono ?_ fun _ _ hw ↦ hw ▸ h1
        rintro _ _ rfl
        exact Action.ensures_call.mono (fun _ _ _ ↦ trivial) fun _ _ hw ↦ hw ▸ h1

end AssignTruckToRouteUseCase

/-! ### Assigning a package -/

namespace AssignPackagesToRouteUseCase

variable {now : Datetime} {routeId : Int}

/-- Linking a package keeps its shipment and its events. -/
theorem reassigned_of_assignPackage {routePackages : List DeliveryPackage} {truck : Option Truck}
    {t : Datetime} {route' : DeliveryRoute} {package' : DeliveryPackage}
    (h : route.assignPackage routePackages truck package now t = .ok (route', package')) :
    route.Evolves route' ∧ package.Reassigned package' := by
  by_cases hmem : package.packageId ∈ route.packages
  · have hhas : route.hasPackage package.packageId = true := decide_eq_true hmem
    simp only [DeliveryRoute.assignPackage, hhas, if_true, Except.ok.injEq, Prod.mk.injEq] at h
    obtain ⟨rfl, rfl⟩ := h
    exact ⟨.refl _, .refl _⟩
  · obtain ⟨-, ⟨arrival, rfl⟩, events, rfl⟩ := DeliveryRoute.assignPackage_eq_ok hmem h
    exact ⟨⟨rfl, rfl, List.prefix_append _ _⟩, ⟨rfl, rfl, rfl, rfl, rfl⟩, rfl⟩

/-- An assignment that fails with a database error changes nothing. -/
theorem restores_assignPackage (hp : w.packages.find? package.packageId = some package) :
    Ensures (assignPackage uow routeId package now) w (fun _ _ ↦ True)
      (fun e w' ↦ e.kind = .database → w' = w) := by
  unfold assignPackage
  simp only [ensures_bind, ensures_get]
  cases hr : w.routes.find? routeId with
  | none => exact ensures_pure.mpr trivial
  | some route =>
    obtain rfl : route.routeId = routeId := Store.key_of_find? hr
    have hclean : World.Dirty DeliveryPackage.Reassigned w [route] [package] [] w :=
      .refl .refl (by simp [hr]) (by simp [hp]) (by simp)
    have hrestore : ∀ e w', World.Dirty DeliveryPackage.Reassigned w [route] [package] [] w' →
        Ensures (if e.kind = .database then do
            Action.restoreRoute route.routeId route.snapshotState
              (eventCheckpoint route.pendingEvents)
            Action.restorePackage package.packageId package.snapshotState none
            throw e
          else throw e : Action (Option PackageAssignmentSuccess)) w' (fun _ _ ↦ True)
          (fun e w' ↦ e.kind = .database → w' = w) := by
      intro e w' hdirty
      split
      · simp only [ensures_bind, ensures_throw]
        refine hdirty.ensures_restoreRoute.mono (fun _ _ h1 ↦ ?_) fun _ _ hf ↦ hf.elim
        exact h1.ensures_restoreReassigned.mono (fun _ _ h2 _ ↦ h2.eq) fun _ _ hf ↦ hf.elim
      · next hkind => exact ensures_throw.mpr fun h ↦ absurd h hkind
    simp only [ensures_tryCatch]
    refine Ensures.mono ?_ (fun _ _ h ↦ h) hrestore
    simp only [ensures_bind, ensures_modify, ensures_pure]
    rw [ensures_lift]
    refine ⟨?_, fun _ _ ↦ hclean⟩
    rintro ⟨linkedRoute, linked⟩ hlink
    obtain ⟨he, hre⟩ := reassigned_of_assignPackage hlink
    have hdirty := (hclean.putRoute (by simp) he).putPackage (by simp) hre.same.packageId.symm hre
    exact Action.ensures_call.mono (fun _ _ _ ↦ trivial) fun _ _ hw ↦ hw ▸ hdirty

end AssignPackagesToRouteUseCase

/-! ### Removing a route -/

namespace RemoveRouteUseCase

variable {now : Datetime}

/-- What detaching, releasing and recording leave of a world: at most the route, its packages and
its truck have changed, and the route has kept its truck. -/
def Undoable (before : World) (route : DeliveryRoute) (w : World) : Prop :=
  World.Dirty DeliveryPackage.Reassigned before [route] (before.packagesOf route)
      (before.truckOf route).toList w ∧
    ∃ route', w.routes.find? route.routeId = some route' ∧ route'.truck = route.truck

/-- Nothing has changed yet. -/
theorem undoable_refl (hr : w.routes.find? route.routeId = some route) : Undoable w route w := by
  refine ⟨.refl .refl (by simp [hr]) (fun p hp ↦ (World.mem_packagesOf.mp hp).2) ?_, route, hr, rfl⟩
  intro truck ht
  have hmem : w.truckOf route = some truck := Option.mem_toList.mp ht
  obtain ⟨t, -, hfind⟩ := Option.bind_eq_some_iff.mp hmem
  rw [Store.key_of_find? hfind, hfind]

/-- Detaching listed packages can be undone at any point. -/
theorem undoable_detachPackages {ids : List Int} (hids : ∀ p ∈ ids, p ∈ route.packages)
    (h : Undoable before route w) :
    Ensures (detachPackages route.routeId now ids) w (fun _ w' ↦ Undoable before route w')
      (fun _ w' ↦ Undoable before route w') := by
  induction ids generalizing w with
  | nil => exact ensures_pure.mpr h
  | cons p rest ih =>
    have hrest : ∀ q ∈ rest, q ∈ route.packages := fun q hq ↦ hids q (by simp [hq])
    unfold detachPackages
    simp only [ensures_bind, ensures_get]
    split
    · next route' package' hr hp =>
      obtain ⟨hdirty, stored, hstored, htruck⟩ := h
      obtain rfl : stored = route' := Option.some.inj (hstored.symm.trans hr)
      simp only [ensures_bind, ensures_set]
      rw [ensures_lift]
      refine ⟨?_, fun _ _ ↦ ⟨hdirty, stored, hstored, htruck⟩⟩
      rintro ⟨detached, reset⟩ hdetach
      obtain ⟨he, hkept, hreset⟩ := DeliveryRoute.evolves_detachPackage hdetach
      obtain ⟨package, hmem, hid, hchanged⟩ := hdirty.packages.exists_of_find?
        (fun x hx ↦ List.mem_filterMap.mpr ⟨p, hids p (by simp), hx⟩) hp
      have hroute := (hdirty.evolves (by simp) hstored).trans he
      have hpackage := hchanged.trans hreset
      refine ih hrest ⟨(hdirty.putRoute (by simp) hroute).putPackage hmem
        hpackage.same.packageId.symm hpackage, detached, ?_, hkept.trans htruck⟩
      rw [Store.find?_put, if_pos hroute.routeId]
    · exact ih hrest h

/-- Releasing the truck can be undone. -/
theorem undoable_releaseTruck (h : Undoable before route w) :
    Ensures (releaseTruck route.routeId now) w
      (fun _ w' ↦ World.Dirty DeliveryPackage.Reassigned before [route]
        (before.packagesOf route) (before.truckOf route).toList w')
      (fun _ w' ↦ World.Dirty DeliveryPackage.Reassigned before [route]
        (before.packagesOf route) (before.truckOf route).toList w') := by
  obtain ⟨hdirty, stored, hstored, htruck⟩ := h
  unfold releaseTruck
  simp only [ensures_bind, ensures_get, hstored, ensures_set]
  rw [ensures_lift]
  refine ⟨?_, fun _ _ ↦ hdirty⟩
  rintro ⟨freed, truck', released⟩ hrelease
  obtain ⟨he, hsame⟩ := Reconciler.evolves_releaseTruck hrelease
  have hroute := hdirty.putRoute (by simp) ((hdirty.evolves (by simp) hstored).trans he)
  cases hof : w.truckOf stored with
  | none =>
    rw [hof] at hsame
    cases hsame
    exact hroute
  | some truck =>
    rw [hof] at hsame
    obtain ⟨t, ht, hfind⟩ := Option.bind_eq_some_iff.mp hof
    rw [htruck] at ht
    have hall : ∀ x, before.trucks.find? t = some x → x ∈ (before.truckOf route).toList := by
      intro x hx
      rw [Option.mem_toList, World.truckOf, ht, Option.bind_some]
      exact hx
    obtain ⟨captured, hmem, -, hcaptured⟩ := hdirty.trucks.exists_of_find? hall hfind
    cases hsame with
    | @some _ after hsame =>
      exact hroute.putTruck hmem (hcaptured.trans hsame)

/-- The handler puts everything back. -/
theorem ensures_restore (h : World.Dirty DeliveryPackage.Reassigned before [route]
    (before.packagesOf route) (before.truckOf route).toList w) :
    Ensures (restore before route) w (fun _ w' ↦ w' = before) (fun _ _ ↦ False) := by
  unfold restore
  simp only [ensures_bind]
  refine h.ensures_restoreRoute.mono (fun _ w1 h1 ↦ ?_) fun _ _ hf ↦ hf
  refine (World.Dirty.ensures_restoreAll
    (fun packages w ↦ World.Dirty _ before [] packages (before.truckOf route).toList w)
    (fun _ _ _ hd ↦ hd.ensures_restoreReassigned) h1).mono (fun _ w2 h2 ↦ ?_) fun _ _ hf ↦ hf
  exact (World.Dirty.ensures_restoreAll (fun trucks w ↦ World.Dirty _ before [] [] trucks w)
    (fun _ _ _ hd ↦ hd.ensures_restoreTruck) h2).mono (fun _ _ h3 ↦ h3.eq) fun _ _ hf ↦ hf

/-- Persisting a removal changes nothing in memory unless it succeeds. -/
theorem unchanged_persistRemoval :
    Ensures (persistRemoval uow route) w (fun _ _ ↦ True) (fun _ w' ↦ w' = w) := by
  unfold persistRemoval
  simp only [ensures_bind, ensures_modify]
  refine Action.ensures_forM_call.mono ?_ fun _ _ hw ↦ hw
  rintro _ _ rfl
  refine Action.ensures_forM_call.mono ?_ fun _ _ hw ↦ hw
  rintro _ _ rfl
  refine Action.ensures_call.mono ?_ fun _ _ hw ↦ hw
  rintro _ _ rfl
  exact Action.ensures_call.mono (fun _ _ _ ↦ trivial) fun _ _ hw ↦ hw

/-- A failed removal changes nothing. -/
theorem rollsBack_execute {routeId : Int} : (execute uow now routeId).RollsBack w := by
  unfold execute
  simp only [Action.RollsBack, ensures_bind, ensures_get]
  cases hr : w.routes.find? routeId with
  | none => exact ensures_throw.mpr rfl
  | some route =>
    obtain rfl : route.routeId = routeId := Store.key_of_find? hr
    simp only [ensures_tryCatch, ensures_bind]
    have hrestore : ∀ e w', World.Dirty DeliveryPackage.Reassigned w [route] (w.packagesOf route)
        (w.truckOf route).toList w' → Ensures (restore w route) w'
          (fun _ w' ↦ Ensures (throw e : Action (List EventRecorder)) w' (fun _ _ ↦ True)
            fun _ w' ↦ w' = w) (fun _ w' ↦ w' = w) := fun e w' hdirty ↦
      (ensures_restore hdirty).mono (fun _ _ hw ↦ ensures_throw.mpr hw) fun _ _ hf ↦ hf.elim
    refine (undoable_detachPackages (fun _ hp ↦ hp) (undoable_refl hr)).mono (fun _ w1 h1 ↦ ?_)
      fun e w1 h1 ↦ hrestore e w1 h1.1
    refine (undoable_releaseTruck h1).mono (fun _ w2 h2 ↦ ?_) fun e w2 h2 ↦ hrestore e w2 h2
    simp only [ensures_get, ensures_set, ensures_pure]
    obtain ⟨-, route', hfind, he⟩ := h2.routes.listed route (by simp)
    rw [hfind, Option.getD_some]
    have hrecorded : route'.Evolves (route'.recordRemoval route.packages route.truck now) :=
      ⟨rfl, rfl, List.prefix_append _ _⟩
    exact unchanged_persistRemoval.mono (fun _ _ _ ↦ trivial) fun e _ hw ↦
      hrestore e _ (hw ▸ h2.putRoute (by simp) (he.trans hrecorded))

end RemoveRouteUseCase

/-! ### The heartbeat -/

/-- Whatever happens in a pass, the cell has only evolved. -/
theorem Reconciler.evolves_reconcileRoute (c : RouteCell) (now : Datetime) :
    Ensures (reconcileRoute now true) c (fun _ d ↦ c.Evolves d) (fun _ _ ↦ False) := by
  unfold reconcileRoute
  simp only [ensures_bind, ensures_get, ensures_tryCatch, ensures_map, ensures_pure]
  refine (frames_reconcileBody now true c).mono (fun _ _ h ↦ h) fun e d hd ↦ ?_
  exact (ensures_restoreCell hd).mono (fun _ _ heq ↦ heq ▸ .refl c) fun _ _ hf ↦ hf

/-- A cell that evolved refers to the same objects. -/
theorem RouteCell.Evolves.sameIds {c d : RouteCell} (h : c.Evolves d) : c.SameIds d := by
  obtain ⟨hroute, htruck, hpackages⟩ := h
  obtain ⟨_, t, ps⟩ := c
  obtain ⟨_, t', ps'⟩ := d
  refine ⟨hroute.routeId, ?_, ?_⟩
  · dsimp only at htruck ⊢
    cases htruck with
    | none => rfl
    | some hsame => exact congrArg some hsame.vehicleId.symm
  · dsimp only at hpackages ⊢
    clear htruck hroute
    induction hpackages with
    | nil => rfl
    | cons hp _ ih => rw [List.map_cons, List.map_cons, ih, hp.same.packageId]

namespace HeartbeatService

/-- The heartbeat captures every entity that its passes change. -/
theorem dirty_of_swept {α : Type} {passes : List (Int × α)} (hl : before.RouteLinked)
    (hids : passes.map Prod.fst = before.routes.values.map DeliveryRoute.routeId)
    (h : World.Swept (fun c _ d ↦ c.Evolves d) before passes w) :
    World.Dirty DeliveryPackage.Evolves before before.routes.values
      (before.routes.values.flatMap before.packagesOf)
      (before.routes.values.filterMap before.truckOf) w := by
  have hvisited : ∀ route ∈ before.routes.values, ∃ c, (before.cell route).Evolves c ∧
      w.routes.find? route.routeId = some c.route ∧ route.truck.bind w.trucks.find? = c.truck ∧
      route.packages.filterMap w.packages.find? = c.packages := by
    intro route hroute
    have hmem : route.routeId ∈ passes.map Prod.fst := hids ▸ List.mem_map_of_mem hroute
    obtain ⟨⟨r, a⟩, hpass, hr⟩ := List.mem_map.mp hmem
    obtain rfl : r = route.routeId := hr
    obtain ⟨c, he, -, hrest⟩ := h.visited _ a hpass route (Store.mem_values.mp hroute)
    exact ⟨c, he, hrest⟩
  have hvalues : ∀ r route, before.routes.find? r = some route → route ∈ before.routes.values :=
    fun r route hr ↦ Store.mem_values_of_find? hr
  refine ⟨⟨fun route hroute ↦ ?_, fun r hr ↦ ?_⟩, ⟨fun package hpackage ↦ ?_, fun p hp ↦ ?_⟩,
    ⟨fun truck htruck ↦ ?_, fun t ht ↦ ?_⟩, h.frame⟩
  · obtain ⟨c, he, hc, -⟩ := hvisited route hroute
    exact ⟨Store.mem_values.mp hroute, c.route, hc, he.route⟩
  · exact h.route_kept r (hids ▸ hr)
  · obtain ⟨route, hroute, hlisted⟩ := List.mem_flatMap.mp hpackage
    obtain ⟨c, he, -, -, hpackages⟩ := hvisited route hroute
    obtain ⟨package', hmem, hp⟩ := exists_mem_of_forall₂ he.packages hlisted
    rw [← hpackages, List.mem_filterMap] at hmem
    obtain ⟨p, -, hfind⟩ := hmem
    refine ⟨(World.mem_packagesOf.mp hlisted).2, package', ?_, hp⟩
    rw [hp.same.packageId, Store.key_of_find? hfind, hfind]
  · refine h.package_kept p fun r _ route hr hlisted ↦ hp ?_
    obtain ⟨package, hfind, -⟩ := hl.package_of_route hr hlisted
    refine List.mem_map.mpr ⟨package, ?_, Store.key_of_find? hfind⟩
    exact List.mem_flatMap.mpr ⟨route, hvalues r route hr, List.mem_filterMap.mpr ⟨p, hlisted, hfind⟩⟩
  · obtain ⟨route, hroute, hof⟩ := List.mem_filterMap.mp htruck
    obtain ⟨c, he, -, htrucks, -⟩ := hvisited route hroute
    obtain ⟨t, ht, hfind⟩ := Option.bind_eq_some_iff.mp hof
    have hrel := he.truck
    rw [show (before.cell route).truck = some truck from hof, ← htrucks, ht, Option.bind_some]
      at hrel
    rw [Store.key_of_find? hfind]
    refine ⟨hfind, ?_⟩
    cases hb : w.trucks.find? t with
    | none =>
      rw [hb] at hrel
      cases hrel
    | some truck' =>
      rw [hb] at hrel
      cases hrel with
      | some hsame => exact ⟨truck', rfl, hsame⟩
  · refine h.truck_kept t fun r _ route hr hlink ↦ ht ?_
    obtain ⟨truck, hfind, -⟩ := hl.truck_of_route hr hlink
    refine List.mem_map.mpr ⟨truck, ?_, Store.key_of_find? hfind⟩
    refine List.mem_filterMap.mpr ⟨route, hvalues r route hr, ?_⟩
    rw [World.truckOf, hlink, Option.bind_some, hfind]

/-- The handler puts everything back. -/
theorem ensures_restore (h : World.Dirty DeliveryPackage.Evolves before before.routes.values
    (before.routes.values.flatMap before.packagesOf)
    (before.routes.values.filterMap before.truckOf) w) :
    Ensures (restore before) w (fun _ w' ↦ w' = before) (fun _ _ ↦ False) := by
  unfold restore
  simp only [ensures_bind]
  refine (World.Dirty.ensures_restoreAll (fun routes w ↦ World.Dirty _ before routes _ _ w)
    (fun _ _ _ hd ↦ hd.ensures_restoreRoute) h).mono (fun _ w1 h1 ↦ ?_) fun _ _ hf ↦ hf
  refine (World.Dirty.ensures_restoreAll (fun packages w ↦ World.Dirty _ before [] packages _ w)
    (fun _ _ _ hd ↦ hd.ensures_restorePackage) h1).mono (fun _ w2 h2 ↦ ?_) fun _ _ hf ↦ hf
  exact (World.Dirty.ensures_restoreAll (fun trucks w ↦ World.Dirty _ before [] [] trucks w)
    (fun _ _ _ hd ↦ hd.ensures_restoreTruck) h2).mono (fun _ _ h3 ↦ h3.eq) fun _ _ hf ↦ hf

/-- Persisting a summary changes nothing in memory. -/
theorem unchanged_persist {summary : HeartbeatSummary} :
    Ensures (persist uow summary) w (fun _ w' ↦ w' = w) (fun _ w' ↦ w' = w) := by
  unfold persist
  simp only [ensures_bind]
  refine Action.ensures_forM_call.mono ?_ fun _ _ hw ↦ hw
  rintro _ _ rfl
  refine Action.ensures_forM_call.mono ?_ fun _ _ hw ↦ hw
  rintro _ _ rfl
  refine Action.ensures_forM_call.mono ?_ fun _ _ hw ↦ hw
  rintro _ _ rfl
  exact Action.ensures_call

/-- A failed heartbeat over consistent links changes nothing. -/
theorem rollsBack_advance {now : Datetime} (hl : w.RouteLinked) :
    (advance uow now).RollsBack w := by
  have hids : ∀ r ∈ w.routes.values.map DeliveryRoute.routeId,
      ∃ route, w.routes.find? r = some route := by
    intro r hr
    obtain ⟨route, hroute, rfl⟩ := List.mem_map.mp hr
    exact ⟨route, Store.mem_values.mp hroute⟩
  have hswept := World.ensures_sweep (fun c _ d ↦ RouteCell.Evolves c d) hl
    (fun r route hr ↦ (Reconciler.evolves_reconcileRoute (w.cell route) now).mono
      (fun _ _ he ↦ ⟨he, he.sameIds⟩) fun _ _ hf ↦ hf) .nil hids Store.nodup_values
  unfold advance
  simp only [Action.RollsBack, ensures_bind, ensures_get, ensures_tryCatch]
  unfold Reconciler.reconcileRoutes
  rw [ensures_map]
  refine hswept.mono (fun passes w1 h1 ↦ ?_) fun _ _ hf ↦ hf.elim
  have hdirty := dirty_of_swept hl h1.1 h1.2
  split
  · simp only [ensures_bind, ensures_pure]
    refine unchanged_persist.mono (fun _ _ _ ↦ trivial) fun e w2 hw2 ↦ ?_
    rw [hw2]
    exact (ensures_restore hdirty).mono (fun _ _ hw ↦ ensures_throw.mpr hw) fun _ _ hf ↦ hf.elim
  · simp only [ensures_pure]

end HeartbeatService

/-! ### All operations -/

/-- Whichever persistence calls raise, an operation that fails leaves the world as it was. -/
theorem Reachable.failures_roll_back {u : UnicodeTables} {fleet : Fleet} {clock : Option Datetime}
    (hidle : fleet.All (Truck.Idle fun _ ↦ True)) (h : Reachable u fleet clock w)
    (uow : UnitOfWork) (now : Datetime) :
    (∀ truckId routeId,
      (AssignTruckToRouteUseCase.execute uow truckId routeId now).RollsBack w) ∧
    (∀ routeId, (RemoveRouteUseCase.execute uow now routeId).RollsBack w) ∧
    (HeartbeatService.advance uow now).RollsBack w ∧
    ∀ routeId package, w.packages.find? package.packageId = some package →
      Ensures (AssignPackagesToRouteUseCase.assignPackage uow routeId package now) w
        (fun _ _ ↦ True) (fun e w' ↦ e.kind = .database → w' = w) := by
  have hl : w.RouteLinked := (h.sound (fun _ _ ↦ trivial) hidle).linked.toRouteLinked
  refine ⟨fun truckId routeId ↦ ?_, fun routeId ↦ ?_, ?_, fun routeId package hp ↦ ?_⟩
  · exact AssignTruckToRouteUseCase.rollsBack_execute
  · exact RemoveRouteUseCase.rollsBack_execute
  · exact HeartbeatService.rollsBack_advance hl
  · exact AssignPackagesToRouteUseCase.restores_assignPackage hp

namespace Scenario

/-- A backend that raises a database error on one call. -/
def failingOn (call : UnitOfWorkCall) : UnitOfWork where
  raises c := if c = call then some ⟨.database, "connection lost"⟩ else none

/-- On the way, nothing that fails in its commit changes anything. -/
theorem failures_roll_back_steps :
    (∀ truckId routeId, (AssignTruckToRouteUseCase.execute (failingOn .commit) truckId routeId
      (hour 13)).RollsBack (performAll .asciiOnly (.initial fleet) steps)) ∧
    (∀ routeId, (RemoveRouteUseCase.execute (failingOn .commit) (hour 13) routeId).RollsBack
      (performAll .asciiOnly (.initial fleet) steps)) ∧
    (HeartbeatService.advance (failingOn .commit) (hour 13)).RollsBack
      (performAll .asciiOnly (.initial fleet) steps) ∧
    ∀ routeId package,
      (performAll .asciiOnly (.initial fleet) steps).packages.find? package.packageId =
        some package →
      Ensures (AssignPackagesToRouteUseCase.assignPackage (failingOn .commit) routeId package
          (hour 13)) (performAll .asciiOnly (.initial fleet) steps)
        (fun _ _ ↦ True)
        (fun e w' ↦ e.kind = .database → w' = performAll .asciiOnly (.initial fleet) steps) :=
  Reachable.failures_roll_back fleet_idle_anywhere reachable_steps (failingOn .commit) (hour 13)

end Scenario
end FleetFlow
