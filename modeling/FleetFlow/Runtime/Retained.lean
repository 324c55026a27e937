import FleetFlow.Runtime.Punctual

/-!
# What commands leave alone

Only the two commands that create something add to the world or move its counters. Routes are
scheduled when they are created, and otherwise only when a truck is assigned to them, which leaves
all packages alone. This holds also where a command raises and undoes its writes.
-/

namespace FleetFlow

open Program

namespace World

/-- Everything stored was stored before, the routes with the departures that they have, and the
counters are where they were. -/
structure Retains (w w' : World) : Prop where
  routes : ∀ r b, w'.routes.find? r = some b →
    ∃ a, w.routes.find? r = some a ∧ b.departureTime = a.departureTime
  packages : ∀ p b, w'.packages.find? p = some b → ∃ a, w.packages.find? p = some a
  customers : ∀ c b, w'.customers.find? c = some b → ∃ a, w.customers.find? c = some a
  counters : w'.nextCustomerId = w.nextCustomerId ∧ w'.nextPackageId = w.nextPackageId ∧
    w'.nextRouteId = w.nextRouteId

namespace Retains

variable {w w1 w' : World}

theorem refl (w : World) : w.Retains w :=
  ⟨fun _ b hb ↦ ⟨b, hb, rfl⟩, fun _ b hb ↦ ⟨b, hb⟩, fun _ b hb ↦ ⟨b, hb⟩, rfl, rfl, rfl⟩

theorem trans (h : w.Retains w1) (h' : w1.Retains w') : w.Retains w' := by
  refine ⟨fun r c hc ↦ ?_, fun p c hc ↦ ?_, fun k c hc ↦ ?_, ?_, ?_, ?_⟩
  · obtain ⟨b, hb, hbc⟩ := h'.routes r c hc
    obtain ⟨a, ha, hab⟩ := h.routes r b hb
    exact ⟨a, ha, hbc.trans hab⟩
  · obtain ⟨b, hb⟩ := h'.packages p c hc
    exact h.packages p b hb
  · obtain ⟨b, hb⟩ := h'.customers k c hc
    exact h.customers k b hb
  · exact h'.counters.1.trans h.counters.1
  · exact h'.counters.2.1.trans h.counters.2.1
  · exact h'.counters.2.2.trans h.counters.2.2

/-- A stored route is replaced by one that departs as it does. -/
theorem putRoute (h : w.Retains w1) {route route' : DeliveryRoute} {r : Int}
    (hr : w1.routes.find? r = some route) (hid : route'.routeId = route.routeId)
    (hdeparture : route'.departureTime = route.departureTime) :
    w.Retains (w1.putRoute route') := by
  obtain rfl : route.routeId = r := Store.key_of_find? hr
  refine ⟨fun r b hb ↦ ?_, h.packages, h.customers, h.counters⟩
  rw [Store.find?_put] at hb
  split at hb
  · next hkey =>
    obtain rfl := Option.some.inj hb
    rw [hid] at hkey
    obtain ⟨a, ha, hab⟩ := h.routes _ _ hr
    exact ⟨a, hkey ▸ ha, hdeparture.trans hab⟩
  · exact h.routes r b hb

/-- A stored package is replaced. -/
theorem putPackage (h : w.Retains w1) {package : DeliveryPackage}
    (hp : (w1.packages.find? package.packageId).isSome) : w.Retains (w1.putPackage package) := by
  refine ⟨h.routes, fun p b hb ↦ ?_, h.customers, h.counters⟩
  rw [Store.find?_put] at hb
  split at hb
  · next hkey =>
    obtain ⟨a, ha⟩ := Option.isSome_iff_exists.mp hp
    exact h.packages p a (hkey ▸ ha)
  · exact h.packages p b hb

/-- A stored customer is replaced. -/
theorem putCustomer (h : w.Retains w1) {customer : Customer}
    (hc : (w1.customers.find? customer.customerId).isSome) :
    w.Retains (w1.putCustomer customer) := by
  refine ⟨h.routes, h.packages, fun c b hb ↦ ?_, h.counters⟩
  rw [Store.find?_put] at hb
  split at hb
  · next hkey =>
    obtain ⟨a, ha⟩ := Option.isSome_iff_exists.mp hc
    exact h.customers c a (hkey ▸ ha)
  · exact h.customers c b hb

/-- Trucks are replaced. -/
theorem setTrucks (h : w.Retains w1) (trucks : Fleet) : w.Retains { w1 with trucks := trucks } :=
  ⟨h.routes, h.packages, h.customers, h.counters⟩

/-- A route is removed. -/
theorem removeRoute (h : w.Retains w1) (r : Int) :
    w.Retains { w1 with routes := w1.routes.remove r } := by
  refine ⟨fun r' b hb ↦ ?_, h.packages, h.customers, h.counters⟩
  rw [Store.find?_remove] at hb
  split at hb
  · cases hb
  · exact h.routes r' b hb

/-- A package is removed. -/
theorem removePackage (h : w.Retains w1) (p : Int) :
    w.Retains { w1 with packages := w1.packages.remove p } := by
  refine ⟨h.routes, fun p' b hb ↦ ?_, h.customers, h.counters⟩
  rw [Store.find?_remove] at hb
  split at hb
  · cases hb
  · exact h.packages p' b hb

end Retains
end World

/-! ### Domain calls on a route -/

namespace DeliveryRoute

variable {route route' : DeliveryRoute}

/-- A cached arrival is refreshed in place. -/
private theorem packageId_updateExpectedArrival {package package' : DeliveryPackage}
    (h : route.updateExpectedArrival package = .ok package') :
    package'.packageId = package.packageId := by
  unfold updateExpectedArrival at h
  split at h
  · exact Except.ok.inj h ▸ rfl
  · simp only [except_bind_eq_ok_iff, Except.ok.injEq] at h
    obtain ⟨arrival, -, rfl⟩ := h
    rfl

/-- The same route with the same departure, and the same package. -/
structure SamePair (route : DeliveryRoute) (package : DeliveryPackage) (route' : DeliveryRoute)
    (package' : DeliveryPackage) : Prop where
  routeId : route'.routeId = route.routeId
  departureTime : route'.departureTime = route.departureTime
  packageId : package'.packageId = package.packageId

/-- Assigning a package changes one route and one package in place. -/
theorem samePair_assignPackage {routePackages : List DeliveryPackage} {truck : Option Truck}
    {package package' : DeliveryPackage} {now t : Datetime}
    (h : route.assignPackage routePackages truck package now t = .ok (route', package')) :
    route.SamePair package route' package' := by
  unfold assignPackage at h
  split at h
  · obtain ⟨rfl, rfl⟩ := Prod.mk.inj (Except.ok.inj h)
    exact ⟨rfl, rfl, rfl⟩
  · rw [except_bind_eq_ok_iff] at h
    obtain ⟨message, -, h⟩ := h
    cases message with
    | some message => cases h
    | none =>
      simp only [except_bind_eq_ok_iff, Except.ok.injEq, Prod.mk.injEq] at h
      obtain ⟨linked, hlinked, rfl, rfl⟩ := h
      exact ⟨rfl, rfl, (packageId_updateExpectedArrival hlinked).trans rfl⟩

/-- Detaching a package changes one route and one package in place. -/
theorem samePair_detachPackage {package package' : DeliveryPackage}
    {reason : PackageDetachmentReason} {t : Datetime}
    (h : route.detachPackage package reason t = .ok (route', package')) :
    route.SamePair package route' package' := by
  unfold detachPackage at h
  split at h
  · split at h
    · cases h
    · obtain ⟨rfl, rfl⟩ := Prod.mk.inj (Except.ok.inj h)
      exact ⟨rfl, rfl, rfl⟩
  · cases h

/-- Relinking a package changes one route and one package in place. -/
theorem samePair_restorePackageLink {package package' : DeliveryPackage}
    (h : route.restorePackageLink package = .ok (route', package')) :
    route.SamePair package route' package' := by
  unfold restorePackageLink at h
  split at h
  · obtain ⟨rfl, rfl⟩ := Prod.mk.inj (Except.ok.inj h)
    exact ⟨rfl, rfl, rfl⟩
  · simp only [except_bind_eq_ok_iff, Except.ok.injEq, Prod.mk.injEq] at h
    obtain ⟨linked, hlinked, rfl, rfl⟩ := h
    exact ⟨rfl, rfl, (packageId_updateExpectedArrival hlinked).trans rfl⟩

/-- Releasing a truck keeps the departure. -/
theorem departureTime_releaseTruck {truck truck' : Option Truck} {assigned : Option DeliveryRoute}
    {now t : Datetime} {force released : Bool} {reason : TruckReleaseReason}
    (h : route.releaseTruck truck assigned now force reason t = .ok (route', truck', released)) :
    route'.routeId = route.routeId ∧ route'.departureTime = route.departureTime := by
  unfold releaseTruck at h
  repeat' split at h
  all_goals cases h <;> exact ⟨rfl, rfl⟩

/-- A restored route departs as its snapshot says. -/
theorem departureTime_restoreState {snapshot : RouteStateSnapshot}
    (h : route.restoreState snapshot = .ok route') :
    route'.routeId = route.routeId ∧ route'.departureTime = snapshot.departureTime := by
  simp only [restoreState, except_bind_eq_ok_iff, RoutePlan.create_eq_ok_iff, Except.ok.injEq] at h
  obtain ⟨plan, ⟨-, hdeparture⟩, rfl⟩ := h
  exact ⟨rfl, hdeparture⟩

end DeliveryRoute

/-- A route and a package are changed in place. -/
theorem World.Retains.putPair {w w1 : World} (h : w.Retains w1) {route route' : DeliveryRoute}
    {package package' : DeliveryPackage} {r p : Int} (hr : w1.routes.find? r = some route)
    (hp : w1.packages.find? p = some package) (hpair : route.SamePair package route' package') :
    w.Retains ((w1.putRoute route').putPackage package') := by
  refine (h.putRoute hr hpair.routeId hpair.departureTime).putPackage ?_
  obtain rfl : package.packageId = p := Store.key_of_find? hp
  rw [hpair.packageId, hp]
  rfl

/-! ### Undoing writes -/

namespace Action

variable {w w1 : World}

/-- A route gets back the departure that it had. -/
theorem retains_restoreRoute (h : w.Retains w1) {route : DeliveryRoute} {r : Int}
    (hr : w.routes.find? r = some route) (checkpoint : Nat) :
    (restoreRoute r route.snapshotState checkpoint).Keeps w1 w.Retains := by
  unfold restoreRoute
  simp only [Action.Keeps, ensures_bind, ensures_get]
  cases hr1 : w1.routes.find? r with
  | none => exact ensures_pure.mpr h
  | some current =>
    simp only [ensures_bind, ensures_modify, ensures_lift]
    refine ⟨fun restored hrestored ↦ ⟨fun pendingEvents _ ↦ ?_, fun _ _ ↦ h⟩, fun _ _ ↦ h⟩
    obtain ⟨hid, hdeparture⟩ := DeliveryRoute.departureTime_restoreState hrestored
    obtain ⟨a, ha, hab⟩ := h.routes r current hr1
    obtain rfl := Option.some.inj (hr.symm.trans ha)
    refine h.putRoute hr1 ?_ ?_
    · exact hid
    · exact hdeparture.trans hab.symm

/-- Restoring a package adds nothing. -/
theorem retains_restorePackage (h : w.Retains w1) (p : Int)
    (snapshot : DeliveryPackageStateSnapshot) (checkpoint : Option Nat) :
    (restorePackage p snapshot checkpoint).Keeps w1 w.Retains := by
  unfold restorePackage
  simp only [Action.Keeps, ensures_bind, ensures_get]
  cases hp : w1.packages.find? p with
  | none => exact ensures_pure.mpr h
  | some package =>
    have hput : ∀ restored : DeliveryPackage, restored.packageId = package.packageId →
        w.Retains (w1.putPackage restored) := by
      intro restored hid
      refine h.putPackage ?_
      obtain rfl : package.packageId = p := Store.key_of_find? hp
      rw [hid, hp]
      rfl
    cases checkpoint with
    | none => exact ensures_modify.mpr (hput _ rfl)
    | some checkpoint =>
      simp only [ensures_bind, ensures_modify, ensures_lift]
      exact ⟨fun _ _ ↦ hput _ rfl, fun _ _ ↦ h⟩

/-- Restoring a truck adds nothing. -/
theorem retains_restoreTruck (h : w.Retains w1) (t : Int) (snapshot : TruckStateSnapshot) :
    (restoreTruck t snapshot).Keeps w1 w.Retains := by
  unfold restoreTruck
  simp only [Action.Keeps, ensures_bind, ensures_get]
  cases w1.trucks.find? t with
  | none => exact ensures_pure.mpr h
  | some truck => exact ensures_modify.mpr (h.setTrucks _)

/-- What undoing keeps is kept when the error is raised again. -/
theorem keeps_rethrow {α : Type} {undo : Action PUnit} {inv : World → Prop}
    (h : undo.Keeps w1 inv) (e : PyError) :
    Ensures undo w1 (fun _ w' ↦ Ensures (throw e : Action α) w' (fun _ w' ↦ inv w')
      (fun _ w' ↦ inv w')) (fun _ w' ↦ inv w') :=
  h.mono (fun _ _ hw ↦ ensures_throw.mpr hw) fun _ _ hw ↦ hw

end Action

/-! ### Commands that create nothing -/

namespace AssignPackagesToRouteUseCase

variable {w : World} {routeId : Int} {now : Datetime}

/-- Assigning one package adds nothing. -/
private theorem retains_assignPackage {package : DeliveryPackage}
    (hp : w.packages.find? package.packageId = some package) :
    (assignPackage .inMemory routeId package now).Keeps w w.Retains := by
  have hrefl := World.Retains.refl w
  unfold assignPackage
  simp only [Action.Keeps, ensures_bind, ensures_get]
  cases hr : w.routes.find? routeId with
  | none => exact ensures_pure.mpr hrefl
  | some route =>
    simp only [ensures_tryCatch, ensures_bind, ensures_modify, Action.call_inMemory, ensures_pure,
      ensures_lift]
    refine ⟨fun x hx ↦ hrefl.putPair hr hp (DeliveryRoute.samePair_assignPackage hx),
      fun e _ ↦ ?_⟩
    split
    · rw [ensures_bind]
      refine (Action.retains_restoreRoute hrefl hr _).mono (fun _ w1 h1 ↦ ?_) fun _ _ h1 ↦ h1
      rw [ensures_bind]
      exact (Action.retains_restorePackage h1 _ _ _).mono
        (fun _ _ h2 ↦ ensures_throw.mpr h2) fun _ _ h2 ↦ h2
    · exact ensures_throw.mpr hrefl

/-- Assigning packages in turn adds nothing. -/
private theorem retains_assignAll {result : AssignPackagesToRouteResult}
    {packageIds : List Int} :
    (assignAll .inMemory routeId now result packageIds).Keeps w w.Retains := by
  induction packageIds generalizing w result with
  | nil => exact ensures_pure.mpr (.refl w)
  | cons p rest ih =>
    have hrest : ∀ {result : AssignPackagesToRouteResult} {w1 : World}, w.Retains w1 →
        (assignAll .inMemory routeId now result rest).Keeps w1 w.Retains :=
      fun h1 ↦ ih.mono (fun _ _ h2 ↦ h1.trans h2) fun _ _ h2 ↦ h1.trans h2
    unfold assignAll
    simp only [Action.Keeps, ensures_bind, ensures_get]
    cases hp : w.packages.find? p with
    | none => exact ih
    | some package =>
      obtain rfl : package.packageId = p := Store.key_of_find? hp
      dsimp only
      cases assignedPackageError package with
      | some error => exact ih
      | none =>
        simp only [ensures_bind, ensures_tryCatch, ensures_pure]
        refine (retains_assignPackage hp).mono (fun _ _ h1 ↦ hrest h1) fun e _ h1 ↦ ?_
        split
        · exact ensures_pure.mpr (hrest h1)
        · exact ensures_throw.mpr h1

/-- Assigning packages adds nothing. -/
theorem retains_execute {packageIds : List Int} :
    (execute .inMemory now routeId packageIds).Keeps w w.Retains := by
  unfold execute
  simp only [Action.Keeps, ensures_bind, ensures_get]
  cases w.routes.find? routeId with
  | none => exact ensures_throw.mpr (.refl w)
  | some route =>
    simp only [ensures_bind, ensures_pure]
    exact retains_assignAll

end AssignPackagesToRouteUseCase

namespace RemovePackageUseCase

variable {w w1 : World} {now : Datetime} {package : DeliveryPackage}

/-- Detaching a package adds nothing. -/
private theorem retains_detachFromRoute
    (hp : w.packages.find? package.packageId = some package) :
    (detachFromRoute package now).Keeps w w.Retains := by
  have hrefl := World.Retains.refl w
  unfold detachFromRoute
  simp only [Action.Keeps, ensures_bind, ensures_get]
  split
  · exact ensures_pure.mpr hrefl
  · exact ensures_throw.mpr hrefl
  · next _ r _ _ =>
    cases hr : w.routes.find? r with
    | none => exact ensures_pure.mpr hrefl
    | some route =>
      simp only [ensures_bind, ensures_set, ensures_lift]
      refine ⟨fun x hx ↦ ?_, fun _ _ ↦ hrefl⟩
      cases hdetach : route.detachPackage package .packageRemoved now with
      | error e =>
        rw [hdetach] at hx
        cases hx
      | ok y =>
        rw [hdetach] at hx
        obtain rfl : y = x := Except.ok.inj hx
        exact hrefl.putPair hr hp (DeliveryRoute.samePair_detachPackage hdetach)

/-- Unlinking the customer adds nothing. -/
private theorem retains_removeFromCustomer (h : w.Retains w1) :
    (removeFromCustomer package).Keeps w1 w.Retains := by
  unfold removeFromCustomer
  simp only [Action.Keeps, ensures_bind, ensures_get]
  cases hc : w1.customers.find? package.customer with
  | none => exact ensures_pure.mpr h
  | some customer =>
    simp only [ensures_bind, ensures_modify, ensures_lift]
    refine ⟨fun x hx ↦ ?_, fun _ _ ↦ h⟩
    cases hremove : customer.removePackage package.packageId with
    | error e =>
      rw [hremove] at hx
      cases hx
    | ok y =>
      rw [hremove] at hx
      obtain rfl : y = x := Except.ok.inj hx
      simp only [Customer.removePackage] at hremove
      split at hremove
      · obtain rfl := Except.ok.inj hremove
        refine h.putCustomer ?_
        rw [show ({ customer with deliveryPackages := _ } : Customer).customerId =
          package.customer from Store.key_of_find? hc, hc]
        rfl
      · cases hremove

/-- Undoing a removal adds nothing. -/
private theorem retains_restore (h : w.Retains w1) :
    (restore w package).Keeps w1 w.Retains := by
  unfold restore
  simp only [Action.Keeps, ensures_bind]
  refine (Action.retains_restorePackage h _ _ _).mono (fun _ w2 h2 ↦ ?_) fun _ _ h2 ↦ h2
  have hcustomer : ∀ {w3 : World} {customer : Customer}, w.Retains w3 →
      w3.customers.find? package.customer = some customer →
      w.Retains (w3.putCustomer (customer.restorePackageLink package.packageId)) := by
    intro w3 customer h3 hc
    refine h3.putCustomer ?_
    have hid : (customer.restorePackageLink package.packageId).customerId = package.customer := by
      have hkey : customer.customerId = package.customer := Store.key_of_find? hc
      unfold Customer.restorePackageLink
      split <;> exact hkey
    rw [hid, hc]
    rfl
  simp only [ensures_get]
  split
  · next oldRoute route linked _ hroute hp =>
    obtain ⟨r, -, hr⟩ := Option.bind_eq_some_iff.mp hroute
    simp only [ensures_bind, ensures_lift, ensures_modify, ensures_get]
    refine ⟨fun x hx ↦ ⟨fun pendingEvents _ ↦ ?_, fun _ _ ↦ h2⟩, fun _ _ ↦ h2⟩
    have hpair := DeliveryRoute.samePair_restorePackageLink hx
    have h3 : w.Retains ((w2.putRoute { x.1 with pendingEvents }).putPackage x.2) :=
      h2.putPair hr hp ⟨hpair.routeId, hpair.departureTime, hpair.packageId⟩
    split
    · exact ensures_pure.mpr h3
    · next hc => exact ensures_modify.mpr (hcustomer h3 hc)
  · simp only [ensures_bind, ensures_get]
    split
    · exact ensures_pure.mpr h2
    · next hc => exact ensures_modify.mpr (hcustomer h2 hc)

/-- Removing a package adds nothing. -/
theorem retains_execute {packageId : Int} :
    (execute .inMemory now packageId).Keeps w w.Retains := by
  unfold execute
  simp only [Action.Keeps, ensures_bind, ensures_get]
  cases hp : w.packages.find? packageId with
  | none => exact ensures_throw.mpr (.refl w)
  | some package =>
    obtain rfl : package.packageId = packageId := Store.key_of_find? hp
    simp only [ensures_tryCatch, ensures_bind]
    refine (retains_detachFromRoute hp).mono (fun _ w1 h1 ↦ ?_)
      fun e _ h1 ↦ Action.keeps_rethrow (retains_restore h1) e
    refine (retains_removeFromCustomer h1).mono (fun _ w2 h2 ↦ ?_)
      fun e _ h2 ↦ Action.keeps_rethrow (retains_restore h2) e
    simp only [ensures_get, ensures_set, Action.call_inMemory, ensures_pure, ensures_modify]
    have hid : ((w2.packages.find? package.packageId).getD package).packageId =
        package.packageId := by
      cases hp2 : w2.packages.find? package.packageId with
      | none => rfl
      | some package2 => exact Store.key_of_find? hp2
    rw [Store.remove_put (show (DeliveryPackage.recordRemoval _ _ _ _ _ _).packageId = _ from hid)]
    exact h2.removePackage _

end RemovePackageUseCase

namespace RemoveRouteUseCase

variable {w w1 : World} {now : Datetime} {routeId : Int}

/-- Detaching packages adds nothing. -/
private theorem retains_detachPackages {packageIds : List Int} :
    (detachPackages routeId now packageIds).Keeps w w.Retains := by
  induction packageIds generalizing w with
  | nil => exact ensures_pure.mpr (.refl w)
  | cons p rest ih =>
    unfold detachPackages
    simp only [Action.Keeps, ensures_bind, ensures_get]
    split
    · next route package hr hp =>
      simp only [ensures_bind, ensures_lift, ensures_set]
      refine ⟨fun x hx ↦ ?_, fun _ _ ↦ .refl w⟩
      have h1 : w.Retains ((w.putRoute x.1).putPackage x.2) :=
        (World.Retains.refl w).putPair hr hp (DeliveryRoute.samePair_detachPackage hx)
      exact ih.mono (fun _ _ h2 ↦ h1.trans h2) fun _ _ h2 ↦ h1.trans h2
    · exact ih

/-- Releasing the truck adds nothing. -/
private theorem retains_releaseTruck :
    (releaseTruck routeId now).Keeps w w.Retains := by
  unfold releaseTruck
  simp only [Action.Keeps, ensures_bind, ensures_get]
  cases hr : w.routes.find? routeId with
  | none => exact ensures_pure.mpr (.refl w)
  | some route =>
    simp only [ensures_bind, ensures_lift, ensures_set]
    refine ⟨fun x hx ↦ ?_, fun _ _ ↦ .refl w⟩
    obtain ⟨hid, hdeparture⟩ := DeliveryRoute.departureTime_releaseTruck hx
    exact ((World.Retains.refl w).putRoute hr hid hdeparture).setTrucks _

/-- Undoing a removal adds nothing. -/
private theorem retains_restore (h : w.Retains w1) {route : DeliveryRoute}
    (hr : w.routes.find? routeId = some route) : (restore w route).Keeps w1 w.Retains := by
  obtain rfl : route.routeId = routeId := Store.key_of_find? hr
  unfold restore
  simp only [Action.Keeps, ensures_bind]
  refine (Action.retains_restoreRoute h hr _).mono (fun _ w2 h2 ↦ ?_) fun _ _ h2 ↦ h2
  have hpackages : (forM (w.packagesOf route) fun package ↦
      Action.restorePackage package.packageId package.snapshotState none).Keeps w2
      w.Retains :=
    ensures_forM (fun package _ w3 h3 ↦ Action.retains_restorePackage h3 _ _ _) h2
  refine hpackages.mono (fun _ w3 h3 ↦ ?_) fun _ _ h3 ↦ h3
  exact ensures_forM (fun truck _ w4 h4 ↦ Action.retains_restoreTruck h4 _ _) h3

/-- Removing a route adds nothing. -/
theorem retains_execute :
    (execute .inMemory now routeId).Keeps w w.Retains := by
  unfold execute
  simp only [Action.Keeps, ensures_bind, ensures_get]
  cases hr : w.routes.find? routeId with
  | none => exact ensures_throw.mpr (.refl w)
  | some route =>
    simp only [ensures_tryCatch, ensures_bind]
    refine retains_detachPackages.mono (fun _ w1 h1 ↦ ?_)
      fun e _ h1 ↦ Action.keeps_rethrow (retains_restore h1 hr) e
    refine retains_releaseTruck.mono (fun _ w2 h2 ↦ ?_)
      fun e _ h2 ↦ Action.keeps_rethrow (retains_restore (h1.trans h2) hr) e
    have hid : ((w2.routes.find? routeId).getD route).routeId = route.routeId := by
      cases hr2 : w2.routes.find? routeId with
      | none => rfl
      | some route2 => exact (Store.key_of_find? hr2).trans (Store.key_of_find? hr).symm
    unfold persistRemoval
    simp only [ensures_get, ensures_set, ensures_bind]
    refine Action.ensures_calls.mono ?_ fun _ _ hf ↦ hf.elim
    rintro _ _ rfl
    refine Action.ensures_calls.mono ?_ fun _ _ hf ↦ hf.elim
    rintro _ _ rfl
    simp only [Action.call_inMemory, ensures_pure, ensures_modify]
    rw [Store.remove_put (show (DeliveryRoute.recordRemoval _ _ _ _).routeId = _ from hid)]
    exact (h1.trans h2).removeRoute _

end RemoveRouteUseCase

/-! ### Assigning a truck -/

/-- At most one stored route and the trucks changed. -/
structure World.OnlyRoute (routeId : Int) (w w' : World) : Prop where
  frame : w' = { w with routes := w'.routes, trucks := w'.trucks }
  routes : ∀ r, r ≠ routeId → w'.routes.find? r = w.routes.find? r
  stored : (w'.routes.find? routeId).isSome → (w.routes.find? routeId).isSome

namespace World.OnlyRoute

variable {routeId : Int} {w w1 : World}

theorem refl (w : World) : w.OnlyRoute routeId w := ⟨rfl, fun _ _ ↦ rfl, id⟩

/-- The route is replaced. -/
theorem putRoute (h : w.OnlyRoute routeId w1) {route : DeliveryRoute}
    (hstored : (w.routes.find? routeId).isSome) (hid : route.routeId = routeId) :
    w.OnlyRoute routeId (w1.putRoute route) := by
  refine ⟨?_, fun r hr ↦ ?_, fun _ ↦ hstored⟩
  · rw [World.putRoute, h.frame]
  · rw [Store.find?_put, if_neg fun hkey ↦ hr (hkey.symm.trans hid)]
    exact h.routes r hr

/-- Trucks are replaced. -/
theorem setTrucks (h : w.OnlyRoute routeId w1) (trucks : Fleet) :
    w.OnlyRoute routeId { w1 with trucks := trucks } := by
  refine ⟨?_, h.routes, h.stored⟩
  rw [h.frame]

end World.OnlyRoute

namespace AssignTruckToRouteUseCase

variable {w w1 : World} {truckId routeId : Int} {now : Datetime}

/-- Restoring a route changes no other one. -/
private theorem onlyRoute_restoreRoute (h : w.OnlyRoute routeId w1) (snapshot : RouteStateSnapshot)
    (checkpoint : Nat) :
    (Action.restoreRoute routeId snapshot checkpoint).Keeps w1 (w.OnlyRoute routeId) := by
  unfold Action.restoreRoute
  simp only [Action.Keeps, ensures_bind, ensures_get]
  cases hr : w1.routes.find? routeId with
  | none => exact ensures_pure.mpr h
  | some route =>
    simp only [ensures_bind, ensures_modify, ensures_lift]
    refine ⟨fun restored hrestored ↦ ⟨fun _ _ ↦ ?_, fun _ _ ↦ h⟩, fun _ _ ↦ h⟩
    refine h.putRoute (h.stored (by simp [hr])) ?_
    exact (DeliveryRoute.departureTime_restoreState hrestored).1.trans (Store.key_of_find? hr)

/-- Restoring a truck changes no route. -/
private theorem onlyRoute_restoreTruck (h : w.OnlyRoute routeId w1) (snapshot : TruckStateSnapshot) :
    (Action.restoreTruck truckId snapshot).Keeps w1 (w.OnlyRoute routeId) := by
  unfold Action.restoreTruck
  simp only [Action.Keeps, ensures_bind, ensures_get]
  cases w1.trucks.find? truckId with
  | none => exact ensures_pure.mpr h
  | some truck => exact ensures_modify.mpr (h.setTrucks _)

/-- Linking in memory changes no other route. -/
private theorem onlyRoute_assignInMemory {route : DeliveryRoute} {truck : Truck}
    (hr : w.routes.find? routeId = some route) :
    (assignInMemory route truck now).Keeps w (w.OnlyRoute routeId) := by
  obtain rfl : route.routeId = routeId := Store.key_of_find? hr
  unfold assignInMemory
  rw [Action.Keeps, ensures_bind]
  have hrefl := @World.OnlyRoute.refl route.routeId w
  have hstored : (w.routes.find? route.routeId).isSome := by simp [hr]
  refine (ensures_scheduleIfNeeded hr).mono ?_ fun _ w1 h1 ↦ h1 ▸ hrefl
  rintro scheduled _ ⟨rfl, hscheduled⟩
  have h1 : w.OnlyRoute route.routeId (w.putRoute scheduled) :=
    hrefl.putRoute hstored hscheduled.evolves.routeId
  simp only [ensures_bind, ensures_modify, ensures_lift]
  refine ⟨fun x hx ↦ ?_, fun _ _ ↦ h1⟩
  obtain ⟨-, -, -, events, hx⟩ := DeliveryRoute.assignTruck_eq_ok hx
  have hid : x.1.routeId = route.routeId := by
    rw [hx]
    exact hscheduled.evolves.routeId
  exact (h1.putRoute hstored hid).setTrucks _

/-- Assigning a truck leaves everything alone but the route and the trucks. -/
theorem onlyRoute_execute :
    (execute .inMemory truckId routeId now).Keeps w (w.OnlyRoute routeId) := by
  have hrefl := @World.OnlyRoute.refl routeId w
  unfold execute
  simp only [Action.Keeps, ensures_bind, ensures_get]
  cases hr : w.routes.find? routeId with
  | none => exact ensures_throw.mpr hrefl
  | some route =>
    cases ht : w.trucks.find? truckId with
    | none => exact ensures_throw.mpr hrefl
    | some truck =>
      simp only [ensures_bind, ensures_lift]
      refine ⟨fun _ _ ↦ ⟨fun view _ ↦ ?_, fun _ _ ↦ hrefl⟩, fun _ _ ↦ hrefl⟩
      split
      · exact ensures_throw.mpr hrefl
      · simp only [ensures_tryCatch, Action.call_inMemory, ensures_bind, ensures_pure]
        refine (onlyRoute_assignInMemory hr).mono (fun _ _ h1 ↦ h1) fun e _ h1 ↦ ?_
        refine (onlyRoute_restoreRoute h1 _ _).mono (fun _ _ h2 ↦ ?_) fun _ _ h2 ↦ h2
        exact Action.keeps_rethrow (onlyRoute_restoreTruck h2 _) e

end AssignTruckToRouteUseCase

/-! ### Commands that create -/

/-- What is new has an id that the counter had not passed, and counters only advance. -/
structure World.Grows (w w' : World) : Prop where
  customers : ∀ c b, w'.customers.find? c = some b →
    (w.customers.find? c).isSome ∨ w.nextCustomerId ≤ c
  packages : ∀ p b, w'.packages.find? p = some b →
    (w.packages.find? p).isSome ∨ w.nextPackageId ≤ p
  routes : ∀ r b, w'.routes.find? r = some b → (w.routes.find? r).isSome ∨ w.nextRouteId ≤ r
  nextCustomerId : w.nextCustomerId ≤ w'.nextCustomerId
  nextPackageId : w.nextPackageId ≤ w'.nextPackageId
  nextRouteId : w.nextRouteId ≤ w'.nextRouteId

namespace World.Grows

variable {w w1 w' : World}

theorem refl (w : World) : w.Grows w := by
  refine ⟨fun c b hb ↦ .inl ?_, fun p b hb ↦ .inl ?_, fun r b hb ↦ .inl ?_, le_rfl, le_rfl, le_rfl⟩
  all_goals simp [hb]

theorem trans (h : w.Grows w1) (h' : w1.Grows w') : w.Grows w' := by
  refine ⟨fun c b hb ↦ ?_, fun p b hb ↦ ?_, fun r b hb ↦ ?_,
    h.nextCustomerId.trans h'.nextCustomerId, h.nextPackageId.trans h'.nextPackageId,
    h.nextRouteId.trans h'.nextRouteId⟩
  · rcases h'.customers c b hb with hold | hnew
    · obtain ⟨a, ha⟩ := Option.isSome_iff_exists.mp hold
      exact h.customers c a ha
    · exact .inr (h.nextCustomerId.trans hnew)
  · rcases h'.packages p b hb with hold | hnew
    · obtain ⟨a, ha⟩ := Option.isSome_iff_exists.mp hold
      exact h.packages p a ha
    · exact .inr (h.nextPackageId.trans hnew)
  · rcases h'.routes r b hb with hold | hnew
    · obtain ⟨a, ha⟩ := Option.isSome_iff_exists.mp hold
      exact h.routes r a ha
    · exact .inr (h.nextRouteId.trans hnew)

/-- A world with nothing new has grown by nothing. -/
theorem of_retains (h : w.Retains w') : w.Grows w' := by
  refine ⟨fun c b hb ↦ .inl ?_, fun p b hb ↦ .inl ?_, fun r b hb ↦ .inl ?_, h.counters.1.ge,
    h.counters.2.1.ge, h.counters.2.2.ge⟩
  · obtain ⟨a, ha⟩ := h.customers c b hb
    simp [ha]
  · obtain ⟨a, ha⟩ := h.packages p b hb
    simp [ha]
  · obtain ⟨a, ha, -⟩ := h.routes r b hb
    simp [ha]

theorem of_onlyRoute {routeId : Int} (h : w.OnlyRoute routeId w') : w.Grows w' := by
  have hrefl := refl w
  rw [h.frame]
  refine ⟨hrefl.customers, hrefl.packages, fun r b hb ↦ .inl ?_, le_rfl, le_rfl, le_rfl⟩
  by_cases heq : r = routeId
  · exact heq ▸ h.stored (by simp [← heq, hb])
  · rw [← h.routes r heq, hb]
    rfl

end World.Grows

namespace CreatePackageUseCase

variable {u : UnicodeTables} {w w1 : World} {now : Datetime}

/-- Nothing but customers and packages has been added. -/
def Adds (w w' : World) : Prop := w'.routes = w.routes ∧ w.Grows w'

private theorem Adds.putCustomer (h : Adds w w1) {customer : Customer}
    (hc : (w1.customers.find? customer.customerId).isSome) :
    Adds w (w1.putCustomer customer) :=
  ⟨h.1, h.2.trans (.of_retains ((World.Retains.refl w1).putCustomer hc))⟩

private theorem Adds.putPackage (h : Adds w w1) {package : DeliveryPackage}
    (hp : (w1.packages.find? package.packageId).isSome) : Adds w (w1.putPackage package) :=
  ⟨h.1, h.2.trans (.of_retains ((World.Retains.refl w1).putPackage hp))⟩

/-- Creating a customer adds one under the next id. -/
private theorem adds_createCustomer {name email phone : String} :
    (CustomerService.create u name email phone now).Keeps w (Adds w) := by
  have hrefl : Adds w w := ⟨rfl, .refl w⟩
  unfold CustomerService.create CustomerRepository.create CustomerRepository.add
  simp only [Action.Keeps, ensures_bind, ensures_get, ensures_set, ensures_lift, ensures_pure]
  refine ⟨fun contact _ ↦ ⟨fun customer hcustomer ↦ ⟨fun _ _ ↦ ⟨rfl, ?_⟩, fun _ _ ↦ hrefl⟩,
    fun _ _ ↦ hrefl⟩, fun _ _ ↦ hrefl⟩
  simp only [Customer.create, except_bind_eq_ok_iff, Customer.new_eq_ok_iff, Except.ok.injEq]
    at hcustomer
  obtain ⟨c, ⟨hid, -⟩, rfl⟩ := hcustomer
  refine ⟨fun k b hb ↦ ?_, hrefl.2.packages, hrefl.2.routes, le_max_left _ _, le_rfl, le_rfl⟩
  rw [Store.find?_put] at hb
  split at hb
  · next hkey => exact .inr (hkey ▸ hid.ge)
  · exact hrefl.2.customers k b hb

/-- Finding or creating the customer adds at most a customer. -/
private theorem adds_findOrCreateCustomer {command : CreatePackageCommand} :
    (findOrCreateCustomer u now command).Keeps w (Adds w) := by
  unfold findOrCreateCustomer
  simp only [Action.Keeps, ensures_bind, ensures_get, ensures_lift]
  refine ⟨fun existing _ ↦ ?_, fun _ _ ↦ ⟨rfl, .refl w⟩⟩
  cases existing with
  | none => exact adds_createCustomer
  | some customer => exact ensures_pure.mpr ⟨rfl, .refl w⟩

/-- Linking a stored package with a customer adds nothing. -/
private theorem adds_addPackage (h : Adds w w1) {customerId : Int} {package : DeliveryPackage}
    (hp : (w1.packages.find? package.packageId).isSome) :
    (Customer.addPackage customerId package).Keeps w1 (Adds w) := by
  unfold Customer.addPackage
  simp only [Action.Keeps, ensures_bind, ensures_get]
  cases hc : w1.customers.find? customerId with
  | none => exact ensures_pure.mpr h
  | some customer =>
    have hid : customer.customerId = customerId := Store.key_of_find? hc
    dsimp only
    split
    · simp only [ensures_bind, ensures_lift_require, ensures_set]
      refine ⟨fun _ ↦ ?_, fun _ ↦ h⟩
      have h1 : Adds w (w1.putPackage { package with customer := customerId }) := h.putPackage hp
      refine Adds.putCustomer h1 ?_
      show (w1.customers.find? customer.customerId).isSome
      simp [hid, hc]
    · cases ho : w1.customers.find? package.customer with
      | none => exact ensures_pure.mpr h
      | some old =>
        simp only [ensures_bind, ensures_lift, ensures_set]
        refine ⟨fun old' hold ↦ ?_, fun _ _ ↦ h⟩
        have hold' : old'.customerId = package.customer := by
          simp only [Customer.removePackage] at hold
          split at hold
          · obtain rfl := Except.ok.inj hold
            have hkey : old.customerId = package.customer := Store.key_of_find? ho
            exact hkey
          · cases hold
        have h1 : Adds w (w1.putCustomer old') := h.putCustomer (by simp [hold', ho])
        have h2 : Adds w ((w1.putCustomer old').putPackage { package with customer := customerId }) :=
          h1.putPackage hp
        refine Adds.putCustomer h2 ?_
        show ((w1.customers.put old').find? customer.customerId).isSome
        rw [Store.find?_put]
        split
        · rfl
        · simp [hid, hc]

/-- Creating a package adds it under the next id, and maybe a customer. -/
theorem adds_execute {command : CreatePackageCommand} :
    (execute u now command).Keeps w (Adds w) := by
  have hrefl : Adds w w := ⟨rfl, .refl w⟩
  unfold execute
  simp only [Action.Keeps, ensures_bind, ensures_lift]
  refine ⟨fun startCode _ ↦ ⟨fun endCode _ ↦ ?_, fun _ _ ↦ hrefl⟩, fun _ _ ↦ hrefl⟩
  refine adds_findOrCreateCustomer.mono (fun customer w1 h1 ↦ ?_) fun _ _ h1 ↦ h1
  unfold PackageRepository.create PackageRepository.add
  simp only [ensures_bind, ensures_get, ensures_lift_require, ensures_set, ensures_pure]
  rw [ensures_lift]
  refine ⟨fun package hpackage ↦ ⟨fun hnew ↦ ?_, fun _ ↦ h1⟩, fun _ _ ↦ h1⟩
  have hid : package.packageId = w1.nextPackageId := by
    simp only [DeliveryPackage.create, except_bind_eq_ok_iff, Except.ok.injEq] at hpackage
    obtain ⟨p, hp, rfl⟩ := hpackage
    exact (DeliveryPackage.new_eq_ok hp).1
  have hgrown := World.Grows.refl w1
  have h2 : Adds w { w1 with
      packages := w1.packages.put package
      nextPackageId := max w1.nextPackageId (package.packageId + 1) } := by
    refine ⟨h1.1, h1.2.trans ⟨hgrown.customers, fun p b hb ↦ ?_, hgrown.routes, le_rfl,
      le_max_left _ _, le_rfl⟩⟩
    rw [Store.find?_put] at hb
    split at hb
    · next hkey => exact .inr (hkey ▸ hid.ge)
    · exact hgrown.packages p b hb
  refine (adds_addPackage h2 ?_).mono (fun _ _ h3 ↦ h3) fun _ _ h3 ↦ h3
  simp [Store.find?_put]

end CreatePackageUseCase

namespace CreateRouteUseCase

variable {u : UnicodeTables} {w : World} {now : Datetime}

/-- Creating a route adds it under the next id. -/
theorem execute_adds {locations : List String} {departureTime : Option Datetime} :
    (execute u now locations departureTime).Keeps w fun w' ↦
      w'.packages = w.packages ∧ w.Grows w' ∧
        ∀ r, (w.routes.find? r).isSome → w'.routes.find? r = w.routes.find? r := by
  have hrefl := World.Grows.refl w
  unfold execute RouteRepository.create RouteRepository.add
  simp only [Action.Keeps, ensures_bind, ensures_get, ensures_set, ensures_pure,
    ensures_lift_require]
  rw [ensures_lift]
  refine ⟨fun route hroute ↦ ⟨fun hnew ↦ ⟨rfl, ?_, fun r hr ↦ ?_⟩,
    fun _ ↦ ⟨rfl, hrefl, fun _ _ ↦ rfl⟩⟩, fun _ _ ↦ ⟨rfl, hrefl, fun _ _ ↦ rfl⟩⟩
  · have hid : route.routeId = w.nextRouteId := by
      simp only [DeliveryRoute.create, except_bind_eq_ok_iff, DeliveryRoute.new_eq_ok_iff,
        Except.ok.injEq] at hroute
      obtain ⟨-, -, -, -, r, ⟨hid, -⟩, rfl⟩ := hroute
      exact hid
    refine ⟨hrefl.customers, hrefl.packages, fun r b hb ↦ ?_, le_rfl, le_rfl, le_max_left _ _⟩
    rw [Store.find?_put] at hb
    split at hb
    · next hkey => exact .inr (hkey ▸ hid.ge)
    · exact hrefl.routes r b hb
  · rw [Store.find?_put, if_neg]
    rintro rfl
    rw [hnew] at hr
    cases hr

end CreateRouteUseCase

/-! ### All commands -/

namespace Operation

variable {operation : Operation} {w : World}

/-- A stored route departs as it did, or it is new or was being assigned a truck, and no package
changed then. -/
theorem departures_execute (u : UnicodeTables) (now : Datetime) (hne : operation ≠ .heartbeat)
    (w : World) :
    (operation.execute u now).Keeps w fun w' ↦ ∀ r b, w'.routes.find? r = some b →
      (∃ a, w.routes.find? r = some a ∧ b.departureTime = a.departureTime) ∨
        (w'.packages = w.packages ∧
          (w.routes.find? r = none ∨ ∃ truckId at_, operation = .assignTruck truckId r at_)) := by
  cases operation with
  | heartbeat => exact absurd rfl hne
  | createPackage command =>
    refine CreatePackageUseCase.adds_execute.mono (fun _ w' h r b hb ↦ ?_) fun _ w' h r b hb ↦ ?_
    all_goals exact .inl ⟨b, h.1 ▸ hb, rfl⟩
  | removePackage p =>
    refine RemovePackageUseCase.retains_execute.mono (fun _ w' h r b hb ↦ ?_)
      fun _ w' h r b hb ↦ ?_
    all_goals exact .inl (h.routes r b hb)
  | createRoute locations departureTime =>
    refine CreateRouteUseCase.execute_adds.mono (fun _ w' h r b hb ↦ ?_) fun _ w' h r b hb ↦ ?_
    all_goals
      cases hr : w.routes.find? r with
      | none => exact .inr ⟨h.1, .inl rfl⟩
      | some a =>
        rw [h.2.2 r (by simp [hr]), hr] at hb
        exact .inl ⟨a, rfl, congrArg DeliveryRoute.departureTime (Option.some.inj hb).symm⟩
  | assignTruck truckId routeId at_ =>
    have hcases : ∀ w', w.OnlyRoute routeId w' → ∀ r b, w'.routes.find? r = some b →
        (∃ a, w.routes.find? r = some a ∧ b.departureTime = a.departureTime) ∨
          (w'.packages = w.packages ∧ (w.routes.find? r = none ∨ ∃ truckId' at',
            Operation.assignTruck truckId routeId at_ = .assignTruck truckId' r at')) := by
      intro w' h r b hb
      by_cases hr : r = routeId
      · subst hr
        refine .inr ⟨?_, .inr ⟨_, _, rfl⟩⟩
        rw [h.frame]
      · exact .inl ⟨b, h.routes r hr ▸ hb, rfl⟩
    exact AssignTruckToRouteUseCase.onlyRoute_execute.mono (fun _ w' h ↦ hcases w' h)
      fun _ w' h ↦ hcases w' h
  | assignPackages routeId packageIds =>
    refine ensures_map.mpr (AssignPackagesToRouteUseCase.retains_execute.mono
      (fun _ w' h r b hb ↦ ?_) fun _ w' h r b hb ↦ ?_)
    all_goals exact .inl (h.routes r b hb)
  | removeRoute routeId =>
    refine RemoveRouteUseCase.retains_execute.mono (fun _ w' h r b hb ↦ ?_)
      fun _ w' h r b hb ↦ ?_
    all_goals exact .inl (h.routes r b hb)

/-- Whatever is executed, what is new has a new id. -/
theorem grows_execute {u : UnicodeTables} {allowed : Option LocationCode → Prop}
    {clock : Option Datetime} {now : Datetime} (h : w.Sound u allowed clock)
    (hnow : ∀ c ∈ clock, c ≤ now) : (operation.execute u now).Keeps w w.Grows := by
  cases operation with
  | createPackage command =>
    exact CreatePackageUseCase.adds_execute.mono (fun _ _ h ↦ h.2) fun _ _ h ↦ h.2
  | createRoute locations departureTime =>
    exact CreateRouteUseCase.execute_adds.mono (fun _ _ h ↦ h.2.1) fun _ _ h ↦ h.2.1
  | assignTruck truckId routeId at_ =>
    exact AssignTruckToRouteUseCase.onlyRoute_execute.mono (fun _ _ h ↦ .of_onlyRoute h)
      fun _ _ h ↦ .of_onlyRoute h
  | assignPackages routeId packageIds =>
    exact ensures_map.mpr (AssignPackagesToRouteUseCase.retains_execute.mono
      (fun _ _ h ↦ .of_retains h) fun _ _ h ↦ .of_retains h)
  | removePackage packageId =>
    exact RemovePackageUseCase.retains_execute.mono (fun _ _ h ↦ .of_retains h)
      fun _ _ h ↦ .of_retains h
  | removeRoute routeId =>
    exact RemoveRouteUseCase.retains_execute.mono (fun _ _ h ↦ .of_retains h)
      fun _ _ h ↦ .of_retains h
  | heartbeat =>
    refine ensures_map.mpr ((HeartbeatService.ensures_advance h hnow).mono (fun _ w' hadvances ↦ ?_)
      fun _ _ hf ↦ hf.elim)
    have hadvanced := hadvances.advanced
    have hrefl := World.Grows.refl w
    rw [hadvanced.frame]
    refine ⟨hrefl.customers, fun p b hb ↦ .inl ?_, fun r b hb ↦ .inl ?_, le_rfl, le_rfl, le_rfl⟩
    · obtain ⟨a, ha, -⟩ := hadvanced.packages.backward hb
      simp [ha]
    · obtain ⟨a, ha, -⟩ := hadvanced.routes.backward hb
      simp [ha]

end Operation

/-! ### Whole runs -/

/-- Draining a recorder adds nothing. -/
theorem EventCollector.retains_clearEvents (w : World) (recorder : EventRecorder) :
    w.Retains (clearEvents w recorder) := by
  have hrefl := World.Retains.refl w
  cases recorder with
  | customer c =>
    cases hc : w.customers.find? c with
    | none => simpa [clearEvents, hc] using hrefl
    | some customer =>
      obtain rfl : customer.customerId = c := Store.key_of_find? hc
      simp only [clearEvents, hc]
      exact hrefl.putCustomer (by simp [hc])
  | package p =>
    cases hp : w.packages.find? p with
    | none => simpa [clearEvents, hp] using hrefl
    | some package =>
      obtain rfl : package.packageId = p := Store.key_of_find? hp
      simp only [clearEvents, hp]
      exact hrefl.putPackage (by simp [hp])
  | route r =>
    cases hr : w.routes.find? r with
    | none => simpa [clearEvents, hr] using hrefl
    | some route =>
      simp only [clearEvents, hr]
      exact hrefl.putRoute hr rfl rfl
  | removed events => exact hrefl

namespace EventCollector

/-- Draining adds nothing. -/
theorem retains_drain (w : World) (recorders : List EventRecorder) :
    (drain recorders).Keeps w w.Retains := by
  have hall : ∀ w1, w.Retains w1 → w.Retains (recorders.foldl clearEvents w1) := by
    induction recorders with
    | nil => exact fun _ h1 ↦ h1
    | cons recorder rest ih => exact fun w1 h1 ↦ ih _ (h1.trans (retains_clearEvents w1 recorder))
  unfold drain
  simp only [Action.Keeps, ensures_bind, ensures_lift_require, ensures_get, ensures_set,
    ensures_pure]
  exact ⟨fun _ ↦ hall w (.refl w), fun _ ↦ .refl w⟩

end EventCollector

namespace Reachable

variable {u : UnicodeTables} {fleet : Fleet} {allowed : Option LocationCode → Prop}
  {clock : Option Datetime} {w : World}

/-- One step gives what is new a new id. -/
theorem grows_perform (hmap : ∀ l ∈ Map.locations, allowed (some l))
    (hidle : fleet.All (Truck.Idle allowed)) (h : Reachable u fleet clock w) {now : Datetime}
    (hnow : ∀ c ∈ clock, c ≤ now) (operation : Operation) :
    w.Grows ((operation.perform u now).finalState w) := by
  have hkeeps : (operation.perform u now).Keeps w w.Grows := by
    unfold Operation.perform
    rw [Action.Keeps, ensures_bind]
    refine (Operation.grows_execute (h.sound hmap hidle) hnow).mono (fun recorders w1 h1 ↦ ?_)
      fun _ _ h1 ↦ h1
    exact (EventCollector.retains_drain w1 recorders).mono (fun _ _ h2 ↦ h1.trans (.of_retains h2))
      fun _ _ h2 ↦ h1.trans (.of_retains h2)
  exact hkeeps.finalState

end Reachable

section Runs

variable {u : UnicodeTables} {fleet : Fleet} {allowed : Option LocationCode → Prop}
  {clock : Option Datetime} {w : World}

/-- A run gives what is new a new id. -/
theorem grows_performAll (hmap : ∀ l ∈ Map.locations, allowed (some l))
    (hidle : fleet.All (Truck.Idle allowed)) (h : Reachable u fleet clock w)
    {steps : List (Datetime × Operation)}
    (hsorted : (clock.toList ++ steps.map Prod.fst).Pairwise (· ≤ ·)) :
    w.Grows (performAll u w steps) := by
  induction steps generalizing clock w with
  | nil => exact .refl w
  | cons step rest ih =>
    obtain ⟨now, operation⟩ := step
    have hnow : ∀ c ∈ clock, c ≤ now := fun c hc ↦
      (List.pairwise_append.mp hsorted).2.2 c (Option.mem_toList.mpr hc) now List.mem_cons_self
    refine (h.grows_perform hmap hidle hnow operation).trans (ih (h.step hnow operation) ?_)
    exact (List.pairwise_append.mp hsorted).2.1

/-- A package or route that was removed never comes back, and nothing else gets its id, whatever is
executed in between. -/
theorem never_reissued (hmap : ∀ l ∈ Map.locations, allowed (some l))
    (hidle : fleet.All (Truck.Idle allowed)) (h : Reachable u fleet clock w)
    {steps later : List (Datetime × Operation)}
    (hsorted : (clock.toList ++ (steps ++ later).map Prod.fst).Pairwise (· ≤ ·)) :
    (∀ p, (w.packages.find? p).isSome → (performAll u w steps).packages.find? p = none →
      (performAll u w (steps ++ later)).packages.find? p = none) ∧
    ∀ r, (w.routes.find? r).isSome → (performAll u w steps).routes.find? r = none →
      (performAll u w (steps ++ later)).routes.find? r = none := by
  have hcounted := (h.sound hmap hidle).counted
  rw [List.map_append, ← List.append_assoc] at hsorted
  have hfirst := grows_performAll hmap hidle h (List.pairwise_append.mp hsorted).1
  have hlater : (performAll u w steps).Grows (performAll u w (steps ++ later)) := by
    rw [show performAll u w (steps ++ later) = performAll u (performAll u w steps) later from
      List.foldl_append]
    refine grows_performAll hmap hidle (h.performAll (List.pairwise_append.mp hsorted).1) ?_
    refine List.pairwise_append.mpr ⟨?_, (List.pairwise_append.mp hsorted).2.1, ?_⟩
    · cases (steps.map Prod.fst).getLast?.or clock <;> simp
    · intro c hc t ht
      refine (List.pairwise_append.mp hsorted).2.2 c ?_ t ht
      rw [Option.mem_toList, Option.or_eq_some_iff] at hc
      rcases hc with hlast | ⟨-, hclock⟩
      · exact List.mem_append_right _ (List.mem_of_getLast? hlast)
      · exact List.mem_append_left _ (Option.mem_toList.mpr hclock)
  constructor
  · intro p hp hremoved
    obtain ⟨package, hpackage⟩ := Option.isSome_iff_exists.mp hp
    have hlt := hcounted.packages hpackage
    cases hback : (performAll u w (steps ++ later)).packages.find? p with
    | none => rfl
    | some b =>
      rcases hlater.packages p b hback with hold | hnew
      · rw [hremoved] at hold
        cases hold
      · have := hfirst.nextPackageId
        omega
  · intro r hr hremoved
    obtain ⟨route, hroute⟩ := Option.isSome_iff_exists.mp hr
    have hlt := hcounted.routes hroute
    cases hback : (performAll u w (steps ++ later)).routes.find? r with
    | none => rfl
    | some b =>
      rcases hlater.routes r b hback with hold | hnew
      · rw [hremoved] at hold
        cases hold
      · have := hfirst.nextRouteId
        omega

end Runs

namespace Scenario

/-- A package is created and removed, and another one is created. -/
def reorders : List (Datetime × Operation) :=
  [(hour 1, .createPackage package), (hour 2, .removePackage 1), (hour 3, .createPackage package)]

theorem never_reissued_reorders :
    (performAll .asciiOnly (.initial fleet) (reorders.take 2)).packages.find? 1 = none ∧
      (performAll .asciiOnly (.initial fleet) reorders).packages.find? 1 = none := by
  have hremoved : (performAll .asciiOnly (performAll .asciiOnly (.initial fleet) (reorders.take 1))
      [(hour 2, .removePackage 1)]).packages.find? 1 = none := by decide +kernel
  refine ⟨hremoved, ?_⟩
  have hreachable : Reachable .asciiOnly fleet (some (hour 1))
      (performAll .asciiOnly (.initial fleet) (reorders.take 1)) :=
    @Reachable.performAll _ _ _ _ _ .start (reorders.take 1) (by decide)
  have hsorted : ((some (hour 1)).toList ++ (([(hour 2, Operation.removePackage 1)] ++
      [(hour 3, Operation.createPackage package)]).map Prod.fst)).Pairwise (· ≤ ·) := by
    decide
  exact (never_reissued (fun _ _ ↦ trivial) fleet_idle_anywhere hreachable hsorted).1 1
    (by decide +kernel) hremoved

end Scenario
end FleetFlow
