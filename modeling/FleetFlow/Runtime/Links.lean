import FleetFlow.Runtime.Invariant

/-!
# Linking and unlinking keep the world sound

One lemma for each way in which the operations set or clear a reference between two objects or
drop an object that nothing refers to. Both sides of a link change together.
-/

namespace FleetFlow.World

variable {u : UnicodeTables} {allowed : Option LocationCode → Prop} {clock : Option Datetime} {w : World}

/-! ### Trucks -/

/-- A free truck takes a route without one, within its limits. -/
theorem Sound.linkTruck (h : w.Sound u allowed clock) {route route' : DeliveryRoute}
    {truck truck' : Truck} (hr : w.routes.find? route.routeId = some route)
    (ht : w.trucks.find? truck.vehicleId = some truck) (hpath : SamePath route route')
    (hlist : route'.packages = route.packages) (hnone : route.truck = none)
    (hfree : truck.route = none) (htruck : route'.truck = some truck.vehicleId)
    (hroute : truck'.route = some route.routeId) (hsame : truck.SameVehicle truck')
    (hstate : truck'.LinkState) (hlocated : truck'.Located allowed)
    (hwindow : truck'.busyFrom = route'.departureTime ∧ truck'.busyUntil = route'.etaFinal)
    (htimely : route'.Timely clock)
    (hlimits : route.WithinLimits (w.packagesOf route) truck.capacity truck.maxRange) :
    ((w.putRoute route').putTruck truck').Sound u allowed clock := by
  obtain ⟨⟨⟨r1, r2, r3, r4, r5, r6⟩, h1, h2, h3, h4, h5, h6⟩, t1, p1, l1, lim1,
    ⟨c1, c2, c3, c4⟩, ⟨g1, g2, g3⟩⟩ := h
  have hid := hpath.routeId
  have hv := hsame.vehicleId
  refine ⟨⟨⟨?_, ?_, ?_, ?_, ?_, r6⟩, ?_, h2, h3, h4, h5.put hstate, h6⟩, t1.put htimely, ?_,
    l1.put hlocated, ?_, ⟨c1, c2, ?_, c4⟩, ⟨g1, g2, g3⟩⟩
  · clear * - r1 hr ht hid hv hfree htruck hroute
    grind
  · clear * - r2 hr ht hid hv hnone htruck hroute
    grind
  · clear * - r3 hr hid hlist
    grind
  · clear * - r4 hr hid hlist
    grind
  · clear * - r5 hr hid hlist
    grind
  · clear * - h1 r2 hr ht hid hv hnone hroute hwindow
    grind
  · have hin := hpath.includesInOrder
    clear * - p1 hr hid hlist hin
    unfold OnPath at *
    grind
  · intro r t x y hx ht' hy
    rw [Store.find?_put] at hx hy
    split at hx
    · next heq =>
      rw [Option.some.injEq] at hx
      subst hx
      rw [htruck, Option.some.injEq] at ht'
      rw [if_pos (hv ▸ ht'), Option.some.injEq] at hy
      subst hy
      rw [← hsame.capacity, ← hsame.maxRange]
      exact hpath.withinLimits (map_load_packagesOf hlist fun _ _ ↦ rfl) hlimits
    · split at hy
      · next heq =>
        obtain ⟨z, hz, hzr⟩ := r1 hx ht'
        rw [← heq, ← hv, ht, Option.some.injEq] at hz
        rw [← hz, hfree] at hzr
        cases hzr
      · exact lim1 hx ht' hy
  · clear * - c3 hr hid
    grind

/-- A route and its truck let go of each other. -/
theorem Sound.unlinkTruck (h : w.Sound u allowed clock) {route route' : DeliveryRoute}
    {truck truck' : Truck} (hr : w.routes.find? route.routeId = some route)
    (hpath : SamePath route route') (hlist : route'.packages = route.packages)
    (hlink : route.truck = some truck.vehicleId) (htruck : route'.truck = none)
    (hroute : truck'.route = none)
    (hsame : truck.SameVehicle truck') (hstate : truck'.LinkState)
    (hlocated : truck'.Located allowed) (htimely : route'.Timely clock) :
    ((w.putRoute route').putTruck truck').Sound u allowed clock := by
  have hone : ∀ {r : Int} {x : DeliveryRoute}, w.routes.find? r = some x →
      x.truck = some truck.vehicleId → r = route.routeId :=
    fun hx hxt ↦ h.linked.eq_of_truck hx hr hxt hlink
  obtain ⟨⟨⟨r1, r2, r3, r4, r5, r6⟩, h1, h2, h3, h4, h5, h6⟩, t1, p1, l1, lim1,
    ⟨c1, c2, c3, c4⟩, ⟨g1, g2, g3⟩⟩ := h
  have hid := hpath.routeId
  have hv := hsame.vehicleId
  refine ⟨⟨⟨?_, ?_, ?_, ?_, ?_, r6⟩, ?_, h2, h3, h4, h5.put hstate, h6⟩, t1.put htimely, ?_,
    l1.put hlocated, ?_, ⟨c1, c2, ?_, c4⟩, ⟨g1, g2, g3⟩⟩
  · clear * - r1 hr hid hv hlink htruck hone
    grind
  · clear * - r1 r2 hr hid hv hlink hroute
    grind
  · clear * - r3 hr hid hlist
    grind
  · clear * - r4 hr hid hlist
    grind
  · clear * - r5 hr hid hlist
    grind
  · clear * - r2 h1 hr hid hv hlink hroute
    grind
  · have hin := hpath.includesInOrder
    clear * - p1 hr hid hlist hin
    unfold OnPath at *
    grind
  · intro r t x y hx ht' hy
    rw [Store.find?_put] at hx hy
    split at hx
    · rw [Option.some.injEq] at hx
      rw [← hx, htruck] at ht'
      cases ht'
    · next hne =>
      split at hy
      · next heq =>
        refine absurd (hid.trans (hone hx ?_).symm) hne
        rw [ht', ← heq, hv]
      · exact lim1 hx ht' hy
  · clear * - c3 hr hid
    grind

/-! ### Packages -/

/-- A waiting package is added to a route, within the limits of the route's truck. -/
theorem Sound.linkPackage (h : w.Sound u allowed clock) {route route' : DeliveryRoute}
    {package package' : DeliveryPackage} (hr : w.routes.find? route.routeId = some route)
    (hp : w.packages.find? package.packageId = some package)
    (hid : route'.routeId = route.routeId) (hplan : route'.plan = route.plan)
    (htruck : route'.truck = route.truck)
    (hlist : route'.packages = route.packages ++ [package.packageId])
    (hnone : package.route = none) (hsame : package.SameShipment package')
    (hroute : package'.route = some route.routeId)
    (hrouteId : package'.routeId = some route.routeId) (htimely : route'.Timely clock)
    (hin : route.includesInOrder package.startLocation package.endLocation = true)
    (hlimits : ∀ truck ∈ w.truckOf route,
      route.WithinLimits (w.packagesOf route ++ [package]) truck.capacity truck.maxRange) :
    ((w.putRoute route').putPackage package').Sound u allowed clock := by
  obtain ⟨⟨⟨r1, r2, r3, r4, r5, r6⟩, h1, h2, h3, h4, h5, h6⟩, t1, p1, l1, lim1,
    ⟨c1, c2, c3, c4⟩, ⟨g1, g2, g3⟩⟩ := h
  obtain ⟨s1, s2, s3, s4, s5⟩ := hsame
  have hpath : SamePath route route' := ⟨hid, congrArg RoutePlan.path hplan⟩
  have hdep : route'.departureTime = route.departureTime ∧ route'.etaFinal = route.etaFinal := by
    unfold DeliveryRoute.departureTime DeliveryRoute.etaFinal
    rw [hplan]
    exact ⟨rfl, rfl⟩
  have hfresh : ∀ {r : Int} {x : DeliveryRoute}, w.routes.find? r = some x →
      package.packageId ∉ x.packages := fun hx hmem ↦ by
    obtain ⟨y, hy, hyr⟩ := r3 hx hmem
    rw [hp, Option.some.injEq] at hy
    rw [← hy, hnone] at hyr
    cases hyr
  have hload : package'.load = package.load := by
    unfold DeliveryPackage.load
    rw [s2, s3, s4]
  refine ⟨⟨⟨?_, ?_, ?_, ?_, ?_, ?_⟩, ?_, ?_, ?_, h4, h5, h6.put fun hn ↦ ?_⟩, t1.put htimely, ?_, l1,
    ?_, ⟨c1, ?_, ?_, c4⟩, ⟨g1, g2, g3⟩⟩
  · clear * - r1 hr hid htruck
    grind
  · clear * - r2 hr hid htruck
    grind
  · clear * - r3 hr hp hid hlist hroute s1 hfresh
    grind
  · clear * - r4 hr hp hid hlist hroute s1 hnone
    grind
  · intro r x hx
    rw [Store.find?_put] at hx
    split at hx
    · rw [Option.some.injEq] at hx
      rw [← hx, hlist, List.nodup_append]
      refine ⟨r5 hr, List.nodup_singleton _, fun a ha b hb heq ↦ hfresh hr ?_⟩
      rw [← List.mem_singleton.mp hb, ← heq]
      exact ha
    · exact r5 hx
  · clear * - r6 hroute hrouteId
    grind
  · clear * - h1 r2 hr hid hdep
    grind
  · clear * - h2 hp s1 s5
    grind
  · clear * - h3 hp s1 s5
    grind
  · rw [hroute] at hn
    cases hn
  · have hsameOrder := hpath.includesInOrder
    clear * - p1 hr hp hid hlist hin hfresh hsameOrder s1 s2 s3
    unfold OnPath at *
    grind
  · have hput : ∀ {r : Int} {x : DeliveryRoute}, w.routes.find? r = some x → ∀ p ∈ x.packages,
        (w.putPackage package').packages.find? p = w.packages.find? p := fun hx p hmem ↦ by
      rw [Store.find?_put, if_neg]
      rintro rfl
      exact hfresh hx (s1 ▸ hmem)
    intro r t x truck hx ht htr
    rw [Store.find?_put] at hx
    split at hx
    · rw [Option.some.injEq] at hx
      subst hx
      have hw := hlimits truck (by
        rw [htruck] at ht
        unfold truckOf
        rw [ht]
        exact htr)
      refine hpath.withinLimits ?_ hw
      unfold packagesOf
      rw [hlist, List.filterMap_append, List.filterMap_congr (hput hr)]
      simp [s1, hload]
    · obtain ⟨hl, hd⟩ := lim1 hx ht htr
      refine ⟨fun k hk ↦ ?_, hd⟩
      unfold packagesOf
      rw [List.filterMap_congr (hput hx)]
      exact hl k hk
  · clear * - c2 hp s1
    grind
  · clear * - c3 hr hid
    grind

/-- A route and one of its packages let go of each other. -/
theorem Sound.unlinkPackage (h : w.Sound u allowed clock) {route route' : DeliveryRoute}
    {package package' : DeliveryPackage} (hr : w.routes.find? route.routeId = some route)
    (hp : w.packages.find? package.packageId = some package)
    (hid : route'.routeId = route.routeId) (hplan : route'.plan = route.plan)
    (htruck : route'.truck = route.truck)
    (hlist : route'.packages = route.packages.erase package.packageId)
    (hlink : package.route = some route.routeId) (hsame : package.SameShipment package')
    (hroute : package'.route = none) (hrouteId : package'.routeId = none)
    (hwaiting : package'.Waiting) (htimely : route'.Timely clock) :
    ((w.putRoute route').putPackage package').Sound u allowed clock := by
  have hone : ∀ {r p : Int} {x : DeliveryRoute}, w.routes.find? r = some x → p ∈ x.packages →
      p ∈ route.packages → r = route.routeId :=
    fun hx hmem hmem' ↦ h.linked.eq_of_package hx hr hmem hmem'
  obtain ⟨⟨⟨r1, r2, r3, r4, r5, r6⟩, h1, h2, h3, h4, h5, h6⟩, t1, p1, l1, lim1,
    ⟨c1, c2, c3, c4⟩, ⟨g1, g2, g3⟩⟩ := h
  obtain ⟨s1, s2, s3, s4, s5⟩ := hsame
  have hpath : SamePath route route' := ⟨hid, congrArg RoutePlan.path hplan⟩
  have hdep : route'.departureTime = route.departureTime ∧ route'.etaFinal = route.etaFinal := by
    unfold DeliveryRoute.departureTime DeliveryRoute.etaFinal
    rw [hplan]
    exact ⟨rfl, rfl⟩
  have hmem : package.packageId ∈ route.packages := by
    obtain ⟨x, hx, hmem⟩ := r4 hp hlink
    rw [hr, Option.some.injEq] at hx
    exact hx ▸ hmem
  have hkept : ∀ p, p ∈ route'.packages ↔ p ≠ package.packageId ∧ p ∈ route.packages := fun p ↦ by
    rw [hlist, (r5 hr).mem_erase_iff]
  refine ⟨⟨⟨?_, ?_, ?_, ?_, ?_, ?_⟩, ?_, ?_, ?_, h4, h5, h6.put fun _ ↦ hwaiting⟩, t1.put htimely,
    ?_, l1, ?_, ⟨c1, ?_, ?_, c4⟩, ⟨g1, g2, g3⟩⟩
  · clear * - r1 hr hid htruck
    grind
  · clear * - r2 hr hid htruck
    grind
  · clear * - r3 hr hp hid hkept s1 hone hmem
    grind
  · clear * - r4 hr hp hid hkept s1 hroute
    grind
  · intro r x hx
    rw [Store.find?_put] at hx
    split at hx
    · rw [Option.some.injEq] at hx
      rw [← hx, hlist]
      exact (r5 hr).erase _
    · exact r5 hx
  · clear * - r6 hroute hrouteId
    grind
  · clear * - h1 r2 hr hid hdep
    grind
  · clear * - h2 hp s1 s5
    grind
  · clear * - h3 hp s1 s5
    grind
  · have hsameOrder := hpath.includesInOrder
    clear * - p1 hr hp hid hkept hsameOrder s1 s2 s3
    unfold OnPath at *
    grind
  · have hput : ∀ p, p ≠ package.packageId →
        (w.putPackage package').packages.find? p = w.packages.find? p := fun p hne ↦ by
      rw [Store.find?_put, if_neg]
      rintro rfl
      exact hne s1.symm
    intro r t x truck hx ht htr
    rw [Store.find?_put] at hx
    split at hx
    · rw [Option.some.injEq] at hx
      subst hx
      obtain ⟨hl, hd⟩ := hpath.withinLimits rfl (lim1 hr (htruck ▸ ht) htr)
      refine ⟨fun k hk ↦ le_trans ?_ (hl k hk), hd⟩
      refine RouteLoadCalculator.legLoad_le_of_sublist (List.Sublist.map _ ?_) (fun q hq ↦ ?_) k
      · unfold packagesOf
        rw [List.filterMap_congr fun p hmem ↦ hput p ((hkept p).mp hmem).1, hlist]
        exact List.Sublist.filterMap _ List.erase_sublist
      · obtain ⟨x, -, rfl⟩ := List.mem_map.mp hq
        exact x.weight_pos.le
    · next hne =>
      obtain ⟨hl, hd⟩ := lim1 hx ht htr
      refine ⟨fun k hk ↦ ?_, hd⟩
      unfold packagesOf
      rw [List.filterMap_congr fun p hmem' ↦ hput p ?_]
      · exact hl k hk
      · rintro rfl
        exact hne (hid.trans (hone hx hmem' hmem).symm)
  · clear * - c2 hp s1
    grind
  · clear * - c3 hr hid
    grind

/-! ### Dropping objects -/

/-- A package without a route is dropped together with its customer's reference. -/
theorem Sound.dropPackage (h : w.Sound u allowed clock) {package : DeliveryPackage}
    {customer : Customer} (hp : w.packages.find? package.packageId = some package)
    (hc : w.customers.find? package.customer = some customer) (hnone : package.route = none) :
    World.Sound u allowed clock { w with
      packages := w.packages.remove package.packageId
      customers := w.customers.put
        { customer with
          deliveryPackages := customer.deliveryPackages.erase package.packageId } } := by
  obtain ⟨⟨⟨r1, r2, r3, r4, r5, r6⟩, h1, h2, h3, h4, h5, h6⟩, t1, p1, l1, lim1,
    ⟨c1, c2, c3, c4⟩, ⟨g1, g2, g3⟩⟩ := h
  have hid : customer.customerId = package.customer := Store.key_of_find? hc
  have hkept : ∀ p, p ∈ customer.deliveryPackages.erase package.packageId ↔
      p ≠ package.packageId ∧ p ∈ customer.deliveryPackages := fun p ↦
    (h4 _ _ hc).mem_erase_iff
  refine ⟨⟨⟨r1, r2, ?_, ?_, r5, ?_⟩, h1, ?_, ?_, ?_, h5, h6.remove⟩, t1, ?_, l1, ?_,
    ⟨?_, ?_, c3, c4⟩, ⟨?_, ?_, ?_⟩⟩
  · clear * - r3 hp hnone
    grind
  · clear * - r4
    grind
  · clear * - r6
    grind
  · clear * - h2 hp hc hid hkept
    grind
  · clear * - h3 hp hc hid hkept
    grind
  · exact h4.put ((h4 _ _ hc).erase _)
  · clear * - p1
    unfold OnPath at *
    grind
  · intro r t route truck hr ht htruck
    obtain ⟨hl, hd⟩ := lim1 hr ht htruck
    refine ⟨fun k hk ↦ ?_, hd⟩
    unfold packagesOf
    rw [List.filterMap_congr fun p hmem ↦ ?_]
    · exact hl k hk
    · rw [Store.find?_remove, if_neg]
      rintro rfl
      obtain ⟨x, hx, hxr⟩ := r3 hr hmem
      rw [hp, Option.some.injEq] at hx
      rw [← hx, hnone] at hxr
      cases hxr
  · clear * - c1 hc
    grind
  · clear * - c2
    grind
  · exact g1.put (show customer.contact.Clean u from g1 _ _ hc)
  · clear * - g2 hc hid
    grind
  · clear * - g3 hc hid
    grind

/-- A route that nothing refers to is dropped. -/
theorem Sound.dropRoute (h : w.Sound u allowed clock) {r : Int} {route : DeliveryRoute}
    (hr : w.routes.find? r = some route) (ht : route.truck = none) (hp : route.packages = []) :
    World.Sound u allowed clock { w with routes := w.routes.remove r } := by
  obtain ⟨⟨⟨r1, r2, r3, r4, r5, r6⟩, h1, h2, h3, h4, h5, h6⟩, t1, p1, l1, lim1,
    ⟨c1, c2, c3, c4⟩, ⟨g1, g2, g3⟩⟩ := h
  refine ⟨⟨⟨?_, ?_, ?_, ?_, ?_, r6⟩, ?_, h2, h3, h4, h5, h6⟩, t1.remove, ?_, l1, ?_,
    ⟨c1, c2, ?_, c4⟩, ⟨g1, g2, g3⟩⟩
  · clear * - r1
    grind
  · clear * - r2 hr ht
    grind
  · clear * - r3
    grind
  · clear * - r4 hr hp
    grind
  · clear * - r5
    grind
  · clear * - h1
    grind
  · clear * - p1
    unfold OnPath at *
    grind
  · clear * - lim1
    unfold WithinLimits packagesOf at *
    grind
  · clear * - c3
    grind

end FleetFlow.World
