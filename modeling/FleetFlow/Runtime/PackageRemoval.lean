import FleetFlow.Runtime.Undo
import FleetFlow.Snapshot.Linked

/-!
# Undoing a package removal

The handler of a failed removal links the package again through helpers that append to the lists
of the route and the customer and refresh the cached arrival. It gives back what the removal undid
exactly when the package was last in both lists and its cached arrival was that of the schedule.
-/

namespace FleetFlow

open Program

variable {u : UnicodeTables} {allowed : Option LocationCode → Prop} {clock : Option Datetime}
  {w : World} {package : DeliveryPackage} {customer : Customer} {route : DeliveryRoute}
  {uow : UnitOfWork} {now : Datetime}

/-- Moving a listed element to the end changes a list without duplicates unless the element was
the last one. -/
theorem erase_append_eq_self_iff {xs : List Int} {x : Int} (hnd : xs.Nodup) (hx : x ∈ xs) :
    xs.erase x ++ [x] = xs ↔ xs.getLast? = some x := by
  constructor
  · intro h
    rw [← h, List.getLast?_concat]
  · intro h
    obtain ⟨ys, rfl⟩ := List.getLast?_eq_some_iff.mp h
    have hnot : x ∉ ys := fun hmem ↦ by
      exact (List.nodup_append.mp hnd).2.2 x hmem x (by simp) rfl
    rw [List.erase_append_right _ hnot, List.erase_cons_head, List.append_nil]

/-- Storing a value changes nothing exactly when it is there already. -/
theorem Store.put_eq_self_iff {α : Type} {key : α → Int} {s : Store key} {a : α} :
    s.put a = s ↔ s.find? (key a) = some a := by
  constructor
  · intro h
    rw [← h, find?_put, if_pos rfl]
  · exact put_eq_self

/-- A package whose drop-off is on the route can be linked to it. -/
theorem DeliveryRoute.exists_links
    (h : route.includesInOrder package.startLocation package.endLocation = true) :
    ∃ linked, route.Links package linked := by
  unfold Links updateExpectedArrival
  cases hs : route.plan.schedule? with
  | none => exact ⟨_, rfl⟩
  | some s =>
    obtain ⟨i, j, -, hj, -⟩ := RoutePath.includesInOrder_iff.mp h
    obtain ⟨t, ht⟩ := DeliveryRoute.exists_arrival hs hj
    have harrival : s.arrivalTimeAt (package.setRoute (some route.routeId)).endLocation = .ok t :=
      RouteSchedule.arrivalTimeAt_eq_ok_iff.mpr (RouteSchedule.arrival?_of_getElem? ht)
    refine ⟨{ package.setRoute (some route.routeId) with expectedArrival := some t }, ?_⟩
    simp only [harrival, ok_bind]

namespace RemovePackageUseCase

/-- The package stands last on its route, with the arrival that the schedule gives, if any. -/
structure LastOn (route : DeliveryRoute) (package : DeliveryPackage) : Prop where
  last : route.packages.getLast? = some package.packageId
  arrival : ∀ s, route.plan.schedule? = some s →
    package.expectedArrival = s.arrival? package.endLocation

/-- The package stands last wherever it is listed, and its cached arrival is current. -/
structure Relinkable (w : World) (package : DeliveryPackage) : Prop where
  route : ∀ r ∈ package.route, ∀ route, w.routes.find? r = some route → LastOn route package
  customer : ∀ customer, w.customers.find? package.customer = some customer →
    customer.deliveryPackages.getLast? = some package.packageId

/-- Where a stored package is listed. -/
structure Listing (w : World) (package : DeliveryPackage) (customer : Customer)
    (listed : Option DeliveryRoute) : Prop where
  found : w.packages.find? package.packageId = some package
  owned : w.customers.find? package.customer = some customer
  mem_customer : package.packageId ∈ customer.deliveryPackages
  nodup_customer : customer.deliveryPackages.Nodup
  route : package.route = listed.map DeliveryRoute.routeId
  routeId : package.routeId = package.route
  stored : ∀ r ∈ listed, w.routes.find? r.routeId = some r
  mem_route : ∀ r ∈ listed, package.packageId ∈ r.packages
  nodup_route : ∀ r ∈ listed, r.packages.Nodup
  includes : ∀ r ∈ listed, r.includesInOrder package.startLocation package.endLocation = true

/-- In a sound world a package is listed by its customer and by the route it refers to. -/
theorem exists_listing (h : w.Sound u allowed clock)
    (hp : w.packages.find? package.packageId = some package) :
    ∃ customer listed, Listing w package customer listed := by
  obtain ⟨customer, hc, hmem⟩ := h.linked.customer_of_package hp
  have hnd := h.linked.nodup_customer _ _ hc
  have hid := h.linked.routeId hp
  cases hr : package.route with
  | none => exact ⟨customer, none, hp, hc, hmem, hnd, hr, hid, by simp, by simp, by simp, by simp⟩
  | some r =>
    obtain ⟨route, hroute, hlisted⟩ := h.linked.route_of_package hp hr
    obtain rfl : route.routeId = r := Store.key_of_find? hroute
    have hnodup := h.linked.nodup hroute
    have hin := h.onPath hroute hlisted hp
    exact ⟨customer, some route, hp, hc, hmem, hnd, hr, hid, by simpa, by simpa, by simpa, by simpa⟩

/-- The route after a package was detached. -/
def withoutPackage (package : DeliveryPackage) (events : List DomainEvent) (route : DeliveryRoute) :
    DeliveryRoute :=
  { route with
    packages := route.packages.erase package.packageId
    pendingEvents := route.pendingEvents ++ events }

/-- A world in which a removal has changed the package, its customer and the route it is on. -/
def unlinked (w : World) (package : DeliveryPackage) (customer : Customer)
    (route : Option DeliveryRoute) : World :=
  { w with
    packages := w.packages.put package
    customers := w.customers.put customer
    routes := w.routes.putAll route.toList }

variable {listed : Option DeliveryRoute}

/-- Detaching the package from the route that lists it. -/
theorem ensures_detach (h : Listing w package customer listed) :
    Ensures (detachFromRoute package now) w
      (fun _ w' ↦ ∃ package' events, package.Evolves package' ∧ w' = { w with
        packages := w.packages.put package'
        routes := w.routes.putAll (listed.map (withoutPackage package events)).toList })
      (fun _ _ ↦ False) := by
  unfold detachFromRoute
  simp only [ensures_bind, ensures_get]
  rw [h.routeId, h.route]
  cases listed with
  | none =>
    refine ensures_pure.mpr ⟨package, [], .refl package, ?_⟩
    rw [Option.map_none, Option.toList_none, Store.putAll_nil, Store.put_eq_self h.found]
  | some route =>
    have hroute := h.stored route rfl
    obtain ⟨events, hdetach⟩ := DeliveryRoute.detachPackage_eq_ok (h.mem_route route rfl) h.route
      .packageRemoved now
    simp only [Option.map_some, hroute, hdetach, asConflict, ensures_bind, ensures_lift_ok,
      ensures_set]
    exact ⟨package.resetAssignmentState, events, ⟨⟨rfl, rfl, rfl, rfl, rfl⟩, List.prefix_refl _⟩, rfl⟩

/-- Up to the persistence call that raises, a removal changes the package and takes it off both
lists. -/
theorem ensures_body (h : Listing w package customer listed)
    (hraises : (uow.raises (.removePackage package.packageId)).isSome ∨
      (uow.raises .commit).isSome) :
    Ensures (do
        detachFromRoute package now
        removeFromCustomer package
        let w ← get
        let removed := ((w.packages.find? package.packageId).getD package).recordRemoval
          package.routeId package.status package.currentLocation package.expectedArrival now
        set (w.putPackage removed)
        Action.call uow (.removePackage package.packageId)
        Action.call uow .commit
        modify fun w ↦ { w with packages := w.packages.remove package.packageId }
        pure ([.removed removed.pendingEvents, .customer package.customer] ++
          package.route.toList.map EventRecorder.route) : Action (List EventRecorder)) w
      (fun _ _ ↦ False)
      (fun _ w' ↦ ∃ package' events, package.Evolves package' ∧ w' = unlinked w package'
        { customer with deliveryPackages := customer.deliveryPackages.erase package.packageId }
        (listed.map (withoutPackage package events))) := by
  rw [ensures_bind]
  refine (ensures_detach h).mono ?_ fun _ _ hf ↦ hf.elim
  rintro _ _ ⟨detached, events, he, rfl⟩
  unfold removeFromCustomer Customer.removePackage
  simp only [ensures_bind, ensures_get, h.owned, if_pos h.mem_customer, asConflict,
    ensures_lift_ok, ensures_modify, ensures_set]
  have hfind : (w.packages.put detached).find? package.packageId = some detached := by
    rw [Store.find?_put, if_pos he.same.packageId.symm]
  have hremoved : ∀ removed : DeliveryPackage, package.Evolves removed →
      removed.packageId = detached.packageId →
      ∃ package' events', package.Evolves package' ∧ ({ w with
          packages := (w.packages.put detached).put removed
          customers := w.customers.put { customer with
            deliveryPackages := customer.deliveryPackages.erase package.packageId }
          routes := w.routes.putAll (listed.map (withoutPackage package events)).toList } : World) =
        unlinked w package' { customer with
          deliveryPackages := customer.deliveryPackages.erase package.packageId }
          (listed.map (withoutPackage package events')) := by
    intro removed hevolves hid
    refine ⟨removed, events, hevolves, ?_⟩
    rw [Store.put_put hid.symm]
    rfl
  simp only [hfind, Option.getD_some]
  have hrecorded : detached.Evolves (detached.recordRemoval package.routeId package.status
      package.currentLocation package.expectedArrival now) :=
    ⟨⟨rfl, rfl, rfl, rfl, rfl⟩, List.prefix_append _ _⟩
  have hevolves := he.trans hrecorded
  refine Action.ensures_call_iff.mpr ⟨fun hnone ↦ Action.ensures_call_iff.mpr ⟨fun hnone' ↦ ?_,
    fun e he ↦ ?_⟩, fun e he ↦ ?_⟩
  · simp [hnone, hnone'] at hraises
  · exact hremoved _ hevolves rfl
  · exact hremoved _ hevolves rfl

/-- Linking a detached package again appends it. -/
theorem restorePackageLink_withoutPackage {relinked : DeliveryPackage} (hnd : route.packages.Nodup)
    (h : route.Links package relinked) (events : List DomainEvent) :
    (withoutPackage package events route).restorePackageLink package = .ok ({ route with
      packages := route.packages.erase package.packageId ++ [package.packageId]
      pendingEvents := route.pendingEvents ++ events }, relinked) := by
  have hlinked : (withoutPackage package events route).updateExpectedArrival
      (package.setRoute (some (withoutPackage package events route).routeId)) = .ok relinked := h
  have hnew : ¬ (withoutPackage package events route).hasPackage package.packageId = true := by
    rw [DeliveryRoute.hasPackage, decide_eq_true_eq]
    exact hnd.not_mem_erase
  rw [DeliveryRoute.restorePackageLink, if_neg hnew, hlinked]
  rfl

/-- The handler appends the package to both lists and refreshes its arrival. -/
theorem ensures_restore (h : Listing w package customer listed) {package' : DeliveryPackage}
    {events : List DomainEvent} (he : package.Evolves package') :
    Ensures (restore w package) (unlinked w package' { customer with
        deliveryPackages := customer.deliveryPackages.erase package.packageId }
        (listed.map (withoutPackage package events)))
      (fun _ w' ↦ ∃ relinked, (listed = none → relinked = package) ∧
        (∀ route ∈ listed, route.Links package relinked) ∧ w' = unlinked w relinked { customer with
          deliveryPackages := customer.deliveryPackages.erase package.packageId ++
            [package.packageId] }
          (listed.map fun route ↦ { route with
            packages := route.packages.erase package.packageId ++ [package.packageId] }))
      (fun _ _ ↦ False) := by
  have hfind : (w.packages.put package').find? package.packageId = some package' := by
    rw [Store.find?_put, if_pos he.same.packageId.symm]
  have hevents : restoreEventCheckpoint (package'.restoreState package.snapshotState).pendingEvents
      (eventCheckpoint package.pendingEvents) = .ok package.pendingEvents :=
    Reconciler.restoreEventCheckpoint_of_prefix he.events
  have hback : (w.packages.put package').put package = w.packages := by
    rw [Store.put_put he.same.packageId.symm, Store.put_eq_self h.found]
  have hid : customer.customerId = package.customer := Store.key_of_find? h.owned
  have hnew : package.packageId ∉ customer.deliveryPackages.erase package.packageId :=
    h.nodup_customer.not_mem_erase
  have hcustomer : ∀ c : Customer, c.customerId = customer.customerId →
      (w.customers.put c).find? package.customer = some c := by
    intro c hc
    rw [Store.find?_put, if_pos (hc.trans hid)]
  have hrelink : ({ customer with
        deliveryPackages := customer.deliveryPackages.erase package.packageId } :
      Customer).restorePackageLink package.packageId = { customer with
        deliveryPackages := customer.deliveryPackages.erase package.packageId ++
          [package.packageId] } := if_neg hnew
  unfold restore Action.restorePackage
  simp only [ensures_bind, ensures_get, unlinked, hfind, hevents, ensures_lift_ok, ensures_modify,
    DeliveryPackage.restoreState_eq_of_same he.same, World.putPackage, hback, World.putCustomer]
  cases listed with
  | none =>
    simp only [h.route, Option.map_none, Option.bind_none, ensures_bind, ensures_get,
      hcustomer { customer with
        deliveryPackages := customer.deliveryPackages.erase package.packageId } rfl,
      ensures_modify, hrelink]
    refine ⟨package, fun _ ↦ rfl, by simp, ?_⟩
    rw [Store.put_put (by rfl), Store.put_eq_self h.found]
  | some route =>
    have hroute := h.stored route rfl
    have hdetached : (w.routes.put (withoutPackage package events route)).find? route.routeId =
        some (withoutPackage package events route) :=
      Store.find?_put.trans (if_pos rfl)
    obtain ⟨relinked, hlinks⟩ := DeliveryRoute.exists_links (h.includes route rfl)
    have hlink := restorePackageLink_withoutPackage (h.nodup_route route rfl) hlinks events
    have hcut : restoreEventCheckpoint (route.pendingEvents ++ events)
        (eventCheckpoint route.pendingEvents) = .ok route.pendingEvents :=
      restoreEventCheckpoint_append _ _
    simp only [h.route, Option.map_some, Option.bind_some, Option.toList_some, Store.putAll_cons,
      Store.putAll_nil, hroute, hdetached, h.found, hlink, hcut, ensures_bind, ensures_get,
      ensures_lift_ok, ensures_modify, hcustomer { customer with
        deliveryPackages := customer.deliveryPackages.erase package.packageId } rfl, hrelink]
    refine ⟨relinked, by simp, by simpa using hlinks, ?_⟩
    rw [Store.put_put (by rfl), Store.put_put (by rfl)]

/-- An unlinked world is the world before exactly when it holds what was stored before. -/
theorem unlinked_eq_iff {package' : DeliveryPackage} {customer' : Customer} :
    unlinked w package' customer' listed = w ↔
      w.packages.find? package'.packageId = some package' ∧
        w.customers.find? customer'.customerId = some customer' ∧
        ∀ route ∈ listed, w.routes.find? route.routeId = some route := by
  have hroutes : w.routes.putAll listed.toList = w.routes ↔
      ∀ route ∈ listed, w.routes.find? route.routeId = some route := by
    cases listed with
    | none => simp
    | some route =>
      rw [Option.toList_some, Store.putAll_cons, Store.putAll_nil, Store.put_eq_self_iff]
      simp
  rw [← hroutes, ← Store.put_eq_self_iff, ← Store.put_eq_self_iff]
  constructor
  · intro h
    exact ⟨congrArg World.packages h, congrArg World.customers h, congrArg World.routes h⟩
  · rintro ⟨h1, h2, h3⟩
    unfold unlinked
    rw [h1, h2, h3]

/-- Linking again changes nothing in the package exactly when its arrival was current. -/
theorem links_eq_self_iff {relinked : DeliveryPackage} (h : route.Links package relinked)
    (hr : package.route = some route.routeId) (hid : package.routeId = package.route) :
    relinked = package ↔ ∀ s, route.plan.schedule? = some s →
      package.expectedArrival = s.arrival? package.endLocation := by
  obtain ⟨heq, hnone, hsome⟩ := h.eq
  constructor
  · intro hsame s hs
    rw [← hsome s hs, hsame]
  · intro hcurrent
    have harrival : relinked.expectedArrival = package.expectedArrival := by
      cases hs : route.plan.schedule? with
      | none => exact hnone hs
      | some s => rw [hsome s hs, hcurrent s hs]
    rw [heq, harrival]
    have hid' : package.routeId = some route.routeId := hid.trans hr
    cases package
    dsimp only at hr hid' ⊢
    rw [hr, hid']

/-- The handler's result is the world before exactly when the package is relinkable. -/
theorem restored_eq_iff {relinked : DeliveryPackage} (h : Listing w package customer listed)
    (hnone : listed = none → relinked = package)
    (hlinks : ∀ route ∈ listed, route.Links package relinked) :
    unlinked w relinked { customer with
        deliveryPackages := customer.deliveryPackages.erase package.packageId ++
          [package.packageId] }
        (listed.map fun route ↦ { route with
          packages := route.packages.erase package.packageId ++ [package.packageId] }) = w ↔
      Relinkable w package := by
  have hid : relinked.packageId = package.packageId := by
    cases listed with
    | none => rw [hnone rfl]
    | some route => rw [(hlinks route rfl).eq.1]
  have hpackage : w.packages.find? relinked.packageId = some relinked ↔ relinked = package := by
    rw [hid, h.found, Option.some.injEq, eq_comm]
  have hcustomer : w.customers.find? customer.customerId = some { customer with
      deliveryPackages := customer.deliveryPackages.erase package.packageId ++
        [package.packageId] } ↔ ∀ c, w.customers.find? package.customer = some c →
          c.deliveryPackages.getLast? = some package.packageId := by
    have hfind : w.customers.find? customer.customerId = some customer :=
      (Store.key_of_find? h.owned).symm ▸ h.owned
    rw [hfind, Option.some.injEq]
    simp only [h.owned, Option.some.injEq, forall_eq']
    rw [← erase_append_eq_self_iff h.nodup_customer h.mem_customer]
    constructor
    · intro hsame
      exact (congrArg Customer.deliveryPackages hsame).symm
    · intro hsame
      rw [hsame]
  rw [unlinked_eq_iff, hpackage, hcustomer]
  constructor
  · rintro ⟨hsame, hlast, hroutes⟩
    refine ⟨fun r hr route hroute ↦ ?_, hlast⟩
    cases listed with
    | none => cases h.route.symm.trans hr
    | some route' =>
      obtain rfl : route'.routeId = r := Option.some.inj (h.route.symm.trans hr)
      obtain rfl : route' = route := Option.some.inj ((h.stored route' rfl).symm.trans hroute)
      have hlist := hroutes _ rfl
      rw [show w.routes.find? _ = _ from hroute, Option.some.injEq] at hlist
      refine ⟨(erase_append_eq_self_iff (h.nodup_route route' rfl) (h.mem_route route' rfl)).mp
        (congrArg DeliveryRoute.packages hlist).symm, ?_⟩
      exact (links_eq_self_iff (hlinks route' rfl) h.route h.routeId).mp hsame
  · rintro ⟨hroutes, hlast⟩
    cases listed with
    | none => exact ⟨hnone rfl, hlast, by simp⟩
    | some route =>
      have hroute := h.stored route rfl
      obtain ⟨hend, harrival⟩ := hroutes route.routeId h.route route hroute
      refine ⟨(links_eq_self_iff (hlinks route rfl) h.route h.routeId).mpr harrival, hlast, ?_⟩
      rintro _ ⟨⟩
      dsimp only
      rw [(erase_append_eq_self_iff (h.nodup_route route rfl) (h.mem_route route rfl)).mpr hend]
      exact hroute

/-- When persistence raises, a removal leaves the world as it was exactly for a relinkable
package. -/
theorem ensures_execute_of_raises (h : w.Sound u allowed clock)
    (hp : w.packages.find? package.packageId = some package)
    (hraises : (uow.raises (.removePackage package.packageId)).isSome ∨
      (uow.raises .commit).isSome) :
    Ensures (execute uow now package.packageId) w (fun _ _ ↦ False)
      (fun _ w' ↦ w' = w ↔ Relinkable w package) := by
  obtain ⟨customer, listed, hlisting⟩ := exists_listing h hp
  unfold execute
  rw [ensures_bind, ensures_get]
  simp only [hp, ensures_tryCatch]
  refine (ensures_body hlisting hraises).mono (fun _ _ hf ↦ hf) ?_
  rintro e _ ⟨package', events, he, rfl⟩
  rw [ensures_bind]
  refine (ensures_restore hlisting he).mono ?_ fun _ _ hf ↦ hf.elim
  rintro _ _ ⟨relinked, hnone, hlinks, rfl⟩
  exact ensures_throw.mpr (restored_eq_iff hlisting hnone hlinks)

end RemovePackageUseCase

/-- A removal whose persistence raises changes nothing exactly when the package was last on its
route and with its customer and its cached arrival was the scheduled one. -/
theorem Reachable.removal_undone_iff {fleet : Fleet} (hidle : fleet.All (Truck.Idle fun _ ↦ True))
    (h : Reachable u fleet clock w) {p : Int} (hp : w.packages.find? p = some package)
    (hraises : (uow.raises (.removePackage p)).isSome ∨ (uow.raises .commit).isSome) :
    Ensures (RemovePackageUseCase.execute uow now p) w (fun _ _ ↦ False)
      (fun _ w' ↦ w' = w ↔ RemovePackageUseCase.Relinkable w package) := by
  obtain rfl : package.packageId = p := Store.key_of_find? hp
  exact RemovePackageUseCase.ensures_execute_of_raises (h.sound (fun _ _ ↦ trivial) hidle) hp hraises

namespace Scenario

/-- Two packages of one customer on one route. -/
def sharedSteps : List (Datetime × Operation) :=
  [(hour 0, .createRoute ["SYD", "MEL"] (some (hour 8))),
    (hour 1, .createPackage Scenario.package),
    (hour 1, .createPackage Scenario.package),
    (hour 2, .assignPackages 1 [1, 2])]

/-- The world after these steps. -/
def sharedWorld : World := performAll .asciiOnly (.initial fleet) sharedSteps

/-- It is reachable. -/
theorem reachable_shared : Reachable .asciiOnly fleet (some (hour 2)) sharedWorld := by
  have hsorted : ([] ++ sharedSteps.map Prod.fst).Pairwise (· ≤ ·) := by decide
  exact Reachable.performAll .start hsorted

/-- A removal of the first package that fails in its commit swaps the two packages. -/
theorem not_removal_undone_shared : Reachable .asciiOnly fleet (some (hour 2)) sharedWorld ∧
    ¬ Ensures (RemovePackageUseCase.execute (failingOn .commit) (hour 3) 1) sharedWorld
      (fun _ _ ↦ True) (fun _ w' ↦ w' = sharedWorld) := by
  refine ⟨reachable_shared, fun h ↦ ?_⟩
  have hraises : raisesIn (RemovePackageUseCase.execute (failingOn .commit) (hour 3) 1)
      sharedWorld (fun w' ↦ (w'.routes.find? 1).any fun route ↦ decide (route.packages = [2, 1])) =
        true := by
    decide +kernel
  have hlist : (sharedWorld.routes.find? 1).all (fun route ↦ decide (route.packages = [1, 2])) =
      true := by
    decide +kernel
  obtain ⟨e, w', hw, hswapped⟩ := h.not_of_raisesIn hraises
  obtain ⟨route, hfind, hpackages⟩ := (Option.any_eq_true _ _).mp hswapped
  rw [hw] at hfind
  have hsame := (Option.all_eq_true _ _).mp hlist route hfind
  rw [of_decide_eq_true hpackages] at hsame
  cases of_decide_eq_true hsame

/-- The second package is put back where it was. -/
theorem removal_undone_iff_shared : ∃ package, sharedWorld.packages.find? 2 = some package ∧
    Ensures (RemovePackageUseCase.execute (failingOn .commit) (hour 3) 2) sharedWorld
      (fun _ _ ↦ False)
      (fun _ w' ↦ w' = sharedWorld ↔ RemovePackageUseCase.Relinkable sharedWorld package) := by
  have hstored : (sharedWorld.packages.find? 2).isSome = true := by decide +kernel
  obtain ⟨package, hp⟩ := Option.isSome_iff_exists.mp hstored
  exact ⟨package, hp, Reachable.removal_undone_iff fleet_idle_anywhere reachable_shared hp
    (.inr rfl)⟩

end Scenario
end FleetFlow
