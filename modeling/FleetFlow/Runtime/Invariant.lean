import FleetFlow.Base.Index
import FleetFlow.Runtime.UseCases

/-!
# The invariant of the runtime world

Every operation keeps six groups of facts: links agree in both directions, statuses are ones
that the clock has justified, assigned packages lie on their routes, trucks have locations,
loads and distances stay within the limits of the trucks, and ids, indexes and contacts are
registered consistently. Each edit of the world keeps all of them.
-/

namespace FleetFlow

/-- A truck is under way exactly when it has a route, and idle otherwise. -/
structure Truck.LinkState (truck : Truck) : Prop where
  onTheWay : truck.status = .onTheWay ↔ truck.route.isSome
  idle : truck.route = none →
    truck.busyFrom = none ∧ truck.busyUntil = none ∧ truck.inTransitTo = none

/-- A truck has an allowed location, and it has one on a route; what it drives to is a hub. -/
structure Truck.Located (allowed : Option LocationCode → Prop) (truck : Truck) : Prop where
  place : allowed truck.currentLocation
  onRoute : truck.route.isSome → truck.currentLocation.isSome
  destination : ∀ l ∈ truck.inTransitTo, l ∈ Map.locations

/-- A status that a clock value has justified. -/
structure DeliveryRoute.Timely (clock : Option Datetime) (route : DeliveryRoute) : Prop where
  planned : route.status = .planned ↔ route.plan.schedule? = none
  started : route.status = .inProgress →
    ∃ now ∈ clock, ∃ t, route.departureTime = some t ∧ t ≤ now
  completed : route.status = .completed → ∃ now ∈ clock, route.Finished now
  truck_scheduled : route.truck.isSome → route.departureTime.isSome

namespace World

/-- Objects of a world refer to each other consistently. -/
structure Linked (w : World) : Prop extends w.RouteLinked where
  window : ∀ {t r : Int} {truck route}, w.trucks.find? t = some truck → truck.route = some r →
    w.routes.find? r = some route →
    truck.busyFrom = route.departureTime ∧ truck.busyUntil = route.etaFinal
  customer_of_package : ∀ {p : Int} {package}, w.packages.find? p = some package →
    ∃ customer, w.customers.find? package.customer = some customer ∧ p ∈ customer.deliveryPackages
  package_of_customer : ∀ {c p : Int} {customer}, w.customers.find? c = some customer →
    p ∈ customer.deliveryPackages →
    ∃ package, w.packages.find? p = some package ∧ package.customer = c
  nodup_customer : w.customers.All fun customer ↦ customer.deliveryPackages.Nodup
  linkState : w.trucks.All Truck.LinkState
  waiting : w.packages.All fun package ↦ package.route = none → package.Waiting

/-- Assigned packages lie on their routes. -/
def OnPath (w : World) : Prop :=
  ∀ {r p : Int} {route : DeliveryRoute} {package : DeliveryPackage},
    w.routes.find? r = some route → p ∈ route.packages → w.packages.find? p = some package →
    route.includesInOrder package.startLocation package.endLocation = true

/-- Every route with a truck stays within the truck's limits. -/
def WithinLimits (w : World) : Prop :=
  ∀ {r t : Int} {route : DeliveryRoute} {truck : Truck}, w.routes.find? r = some route →
    route.truck = some t → w.trucks.find? t = some truck →
    route.WithinLimits (w.packagesOf route) truck.capacity truck.maxRange

/-- Ids stay below the counters. -/
structure Counted (w : World) : Prop where
  customers : ∀ {c : Int} {customer}, w.customers.find? c = some customer → c < w.nextCustomerId
  packages : ∀ {p : Int} {package}, w.packages.find? p = some package → p < w.nextPackageId
  routes : ∀ {r : Int} {route}, w.routes.find? r = some route → r < w.nextRouteId
  pos : 0 < w.nextCustomerId ∧ 0 < w.nextPackageId ∧ 0 < w.nextRouteId

/-- Contacts are clean and found through their indexes. -/
structure Registered (u : UnicodeTables) (w : World) : Prop where
  clean : w.customers.All fun customer ↦ customer.contact.Clean u
  email : ∀ {text : String} {c : Int}, w.idByEmail[text]? = some c ↔
    text ≠ "" ∧ ∃ customer, w.customers.find? c = some customer ∧ customer.contact.email = text
  phone : ∀ {text : String} {c : Int}, w.idByPhone[text]? = some c ↔ text ≠ "" ∧
    ∃ customer, w.customers.find? c = some customer ∧ customer.contact.phoneNumber = text

/-- What every operation keeps. -/
structure Sound (u : UnicodeTables) (allowed : Option LocationCode → Prop) (clock : Option Datetime)
    (w : World) : Prop where
  linked : w.Linked
  timely : w.routes.All (DeliveryRoute.Timely clock)
  onPath : w.OnPath
  located : w.trucks.All (Truck.Located allowed)
  limits : w.WithinLimits
  counted : w.Counted
  registered : w.Registered u

variable {u : UnicodeTables} {allowed : Option LocationCode → Prop} {clock : Option Datetime}
  {w : World}

/-- An empty world over an idle fleet is sound. -/
theorem sound_initial {fleet : Fleet} (hstate : fleet.All Truck.LinkState)
    (hfree : fleet.All fun truck ↦ truck.route = none)
    (hlocated : fleet.All (Truck.Located allowed)) : (initial fleet).Sound u allowed clock := by
  unfold Store.All at hfree
  unfold initial
  refine ⟨⟨⟨?_, ?_, ?_, ?_, ?_, ?_⟩, ?_, ?_, ?_, Store.all_empty, hstate, Store.all_empty⟩,
    Store.all_empty, fun h ↦ absurd h (by simp), hlocated, fun h ↦ absurd h (by simp),
    ⟨?_, ?_, ?_, ?_⟩, ⟨Store.all_empty, ?_, ?_⟩⟩
  all_goals grind

/-! ### Adding objects -/

/-- An index over a text of the customers stays one when a customer with a free text is added. -/
theorem indexed_put {index : Std.ExtTreeMap String Int}
    {customers : Store Customer.customerId} {field : Customer → String}
    (h : Indexes index "" field customers) {customer : Customer}
    (hnew : customers.find? customer.customerId = none)
    (hfree : field customer = "" ∨ (index[field customer]?).all (· = customer.customerId)) :
    Indexes (CustomerRepository.indexed index (field customer) customer.customerId) "" field
      (customers.put customer) := by
  refine h.put hnew (hfree.imp_right fun hall ↦ ?_)
  cases hi : index[field customer]? with
  | none => rfl
  | some c =>
    obtain ⟨-, x, hx, -⟩ := (h _ _).mp hi
    rw [hi, Option.all_some, decide_eq_true_eq] at hall
    rw [hall, hnew] at hx
    cases hx

/-- A new customer without packages. -/
theorem Sound.addCustomer (h : w.Sound u allowed clock) {customer : Customer}
    (hcheck : CustomerRepository.checkNew w customer = .ok ())
    (hclean : customer.contact.Clean u) (hp : customer.deliveryPackages = []) :
    World.Sound u allowed clock { w with
      customers := w.customers.put customer
      idByEmail := CustomerRepository.indexed w.idByEmail customer.contact.email customer.customerId
      idByPhone :=
        CustomerRepository.indexed w.idByPhone customer.contact.phoneNumber customer.customerId
      nextCustomerId := max w.nextCustomerId (customer.customerId + 1) } := by
  simp only [CustomerRepository.checkNew, require_bind_eq_ok_iff, require_eq_ok_iff] at hcheck
  obtain ⟨hnew, hemail, hphone⟩ := hcheck
  obtain ⟨⟨⟨r1, r2, r3, r4, r5, r6⟩, h1, h2, h3, h4, h5, h6⟩, htimely, hpath, hlocated, hlimits,
    ⟨c1, c2, c3, c4⟩, ⟨g1, g2, g3⟩⟩ := h
  refine ⟨⟨⟨r1, r2, r3, r4, r5, r6⟩, h1, ?_, ?_, h4.put (by simp [hp]), h5, h6⟩, htimely, hpath,
    hlocated, hlimits, ⟨?_, c2, c3, ?_⟩, ⟨g1.put hclean, ?_, ?_⟩⟩
  · clear * - h2 hnew
    grind
  · clear * - h3 hp hnew
    grind
  · clear * - c1
    grind
  · clear * - c4
    grind
  · exact indexed_put (fun _ _ ↦ g2) hnew (by simpa using hemail) _ _
  · exact indexed_put (fun _ _ ↦ g3) hnew (by simpa using hphone) _ _

/-- A new route without truck and packages. -/
theorem Sound.addRoute (h : w.Sound u allowed clock) {route : DeliveryRoute}
    (hnew : w.routes.find? route.routeId = none) (ht : route.truck = none)
    (hp : route.packages = [])
    (hs : route.status = if route.departureTime.isSome then .scheduled else .planned) :
    World.Sound u allowed clock { w with
      routes := w.routes.put route
      nextRouteId := max w.nextRouteId (route.routeId + 1) } := by
  have htimely : route.Timely clock := by
    rw [DeliveryRoute.departureTime, RoutePlan.departureTime] at hs
    refine ⟨?_, ?_, ?_, by simp [ht]⟩
    all_goals rw [hs]; cases route.plan.schedule? <;> simp
  obtain ⟨⟨⟨r1, r2, r3, r4, r5, r6⟩, h1, h2, h3, h4, h5, h6⟩, t1, hpath, hlocated, hlimits,
    ⟨c1, c2, c3, c4⟩, ⟨g1, g2, g3⟩⟩ := h
  refine ⟨⟨⟨?_, ?_, ?_, ?_, ?_, r6⟩, ?_, h2, h3, h4, h5, h6⟩, t1.put htimely, ?_, hlocated,
    ?_, ⟨c1, c2, ?_, ?_⟩, ⟨g1, g2, g3⟩⟩
  · clear * - r1 ht
    grind
  · clear * - r2 hnew
    grind
  · clear * - r3 hp
    grind
  · clear * - r4 hnew
    grind
  · clear * - r5 hp
    grind
  · clear * - h1 r2 hnew
    grind
  · clear * - hpath hp
    unfold OnPath at *
    grind
  · clear * - hlimits ht
    unfold WithinLimits packagesOf at *
    grind
  · clear * - c3
    grind
  · clear * - c4
    grind

/-- Loads of the listed packages depend on the loads of the stored ones. -/
theorem map_load_packagesOf {w w' : World} {route route' : DeliveryRoute}
    (hlist : route'.packages = route.packages)
    (h : ∀ p ∈ route.packages, (w'.packages.find? p).map DeliveryPackage.load =
      (w.packages.find? p).map DeliveryPackage.load) :
    (w'.packagesOf route').map DeliveryPackage.load =
      (w.packagesOf route).map DeliveryPackage.load := by
  unfold packagesOf
  rw [List.map_filterMap, List.map_filterMap, hlist]
  exact List.filterMap_congr h

/-- A new package that its customer lists. -/
theorem Sound.addPackage (h : w.Sound u allowed clock) {package : DeliveryPackage}
    {customer : Customer} (hnew : w.packages.find? package.packageId = none)
    (hc : w.customers.find? package.customer = some customer) (hroute : package.route = none)
    (hrouteId : package.routeId = none) (hwaiting : package.Waiting) :
    World.Sound u allowed clock { w with
      packages := w.packages.put package
      nextPackageId := max w.nextPackageId (package.packageId + 1)
      customers := w.customers.put
        { customer with deliveryPackages := customer.deliveryPackages ++ [package.packageId] } } := by
  obtain ⟨⟨⟨r1, r2, r3, r4, r5, r6⟩, h1, h2, h3, h4, h5, h6⟩, t1, hpath, hlocated, hlimits,
    ⟨c1, c2, c3, c4⟩, ⟨g1, g2, g3⟩⟩ := h
  have hid : customer.customerId = package.customer := Store.key_of_find? hc
  have hfresh : package.packageId ∉ customer.deliveryPackages := fun hmem ↦ by
    obtain ⟨_, hfind, -⟩ := h3 hc hmem
    rw [hnew] at hfind
    cases hfind
  refine ⟨⟨⟨r1, r2, ?_, ?_, r5, ?_⟩, h1, ?_, ?_, ?_, h5, h6.put fun _ ↦ hwaiting⟩, t1, ?_, hlocated,
    ?_, ⟨?_, ?_, c3, ?_⟩, ⟨?_, ?_, ?_⟩⟩
  · clear * - r3 hnew
    grind
  · clear * - r4 hroute
    grind
  · clear * - r6 hroute hrouteId
    grind
  · clear * - h2 hc hid
    grind
  · clear * - h3 hc hid hnew
    grind
  · exact h4.put (by simpa [List.nodup_append] using ⟨h4 _ _ hc, fun a ha heq ↦ hfresh (heq ▸ ha)⟩)
  · clear * - hpath hnew r3
    unfold OnPath at *
    grind
  · intro r t route truck hr ht htruck
    have hsame := @map_load_packagesOf w { w with packages := w.packages.put package } route route
      rfl fun p hp ↦ by
        rw [Store.find?_put, if_neg]
        rintro rfl
        obtain ⟨_, hfind, -⟩ := r3 hr hp
        rw [hnew] at hfind
        cases hfind
    obtain ⟨hload, hdistance⟩ := hlimits hr ht htruck
    exact ⟨fun k hk ↦ hsame ▸ hload k hk, hdistance⟩
  · clear * - c1 hc
    grind
  · clear * - c2
    grind
  · clear * - c4
    grind
  · exact g1.put (show customer.contact.Clean u from g1 _ _ hc)
  · clear * - g2 hc hid
    grind
  · clear * - g3 hc hid
    grind

/-! ### Changing one object -/

/-- Both routes have one id and one path. -/
structure SamePath (before after : DeliveryRoute) : Prop where
  routeId : after.routeId = before.routeId
  path : after.plan.path = before.plan.path

/-- Routes over one path have one total distance and one order of stops. -/
theorem SamePath.withinLimits {before after : DeliveryRoute} (h : SamePath before after)
    {packages packages' : List DeliveryPackage} {capacity maxRange : Int}
    (hload : packages'.map DeliveryPackage.load = packages.map DeliveryPackage.load)
    (hw : before.WithinLimits packages capacity maxRange) :
    after.WithinLimits packages' capacity maxRange := by
  have hloc : after.locations = before.locations := congrArg RoutePath.locations h.path
  refine ⟨fun k hk ↦ ?_, ?_⟩
  · rw [hload, hloc]
    exact hw.load k (hloc ▸ hk)
  · rw [DeliveryRoute.totalDistanceKm_eq, hloc, ← DeliveryRoute.totalDistanceKm_eq]
    exact hw.distance

/-- Order on a path. -/
theorem SamePath.includesInOrder {before after : DeliveryRoute} (h : SamePath before after)
    (a b : LocationCode) : after.includesInOrder a b = before.includesInOrder a b := by
  unfold DeliveryRoute.includesInOrder
  rw [h.path]

/-- A route changes what no link reads; its plan changes only without a truck. -/
theorem Sound.editRoute (h : w.Sound u allowed clock) {route route' : DeliveryRoute}
    (hr : w.routes.find? route.routeId = some route) (hpath : SamePath route route')
    (htruck : route'.truck = route.truck) (hlist : route'.packages = route.packages)
    (hplan : route'.plan = route.plan ∨ route.truck = none) (htimely : route'.Timely clock) :
    (w.putRoute route').Sound u allowed clock := by
  obtain ⟨⟨⟨r1, r2, r3, r4, r5, r6⟩, h1, h2, h3, h4, h5, h6⟩, t1, p1, l1, lim1,
    ⟨c1, c2, c3, c4⟩, ⟨g1, g2, g3⟩⟩ := h
  have hid := hpath.routeId
  have hdep : route'.departureTime = route.departureTime ∧ route'.etaFinal = route.etaFinal ∨
      route.truck = none :=
    hplan.imp_left fun hp ↦ by
      unfold DeliveryRoute.departureTime DeliveryRoute.etaFinal
      rw [hp]
      exact ⟨rfl, rfl⟩
  refine ⟨⟨⟨?_, ?_, ?_, ?_, ?_, r6⟩, ?_, h2, h3, h4, h5, h6⟩, t1.put htimely, ?_, l1, ?_,
    ⟨c1, c2, ?_, c4⟩, ⟨g1, g2, g3⟩⟩
  · clear * - r1 hr hid htruck
    grind
  · clear * - r2 hr hid htruck
    grind
  · clear * - r3 hr hid hlist
    grind
  · clear * - r4 hr hid hlist
    grind
  · clear * - r5 hr hid hlist
    grind
  · clear * - h1 r2 hr hid hdep
    grind
  · have hin := hpath.includesInOrder
    clear * - p1 hr hid hlist hin
    unfold OnPath at *
    grind
  · intro r t x truck hx ht htr
    rw [Store.find?_put] at hx
    split at hx
    · rw [Option.some.injEq] at hx
      subst hx
      exact hpath.withinLimits (map_load_packagesOf hlist fun _ _ ↦ rfl)
        (lim1 hr (htruck ▸ ht) htr)
    · exact lim1 hx ht htr
  · clear * - c3 hr hid
    grind

/-- A package keeps its shipment and its route. -/
theorem Sound.editPackage (h : w.Sound u allowed clock) {package package' : DeliveryPackage}
    (hp : w.packages.find? package.packageId = some package)
    (hsame : package.SameShipment package') (hroute : package'.route = package.route)
    (hrouteId : package'.routeId = package.routeId)
    (hwaiting : package.route = none → package'.Waiting) :
    (w.putPackage package').Sound u allowed clock := by
  obtain ⟨⟨⟨r1, r2, r3, r4, r5, r6⟩, h1, h2, h3, h4, h5, h6⟩, t1, p1, l1, lim1,
    ⟨c1, c2, c3, c4⟩, ⟨g1, g2, g3⟩⟩ := h
  obtain ⟨s1, s2, s3, s4, s5⟩ := hsame
  refine ⟨⟨⟨r1, r2, ?_, ?_, r5, ?_⟩, h1, ?_, ?_, h4, h5, h6.put fun hn ↦
    hwaiting (hroute ▸ hn)⟩, t1, ?_, l1, ?_, ⟨c1, ?_, c3, c4⟩, ⟨g1, g2, g3⟩⟩
  · clear * - r3 hp s1 hroute
    grind
  · clear * - r4 hp s1 hroute
    grind
  · clear * - r6 hp hroute hrouteId
    grind
  · clear * - h2 hp s1 s5
    grind
  · clear * - h3 hp s1 s5
    grind
  · clear * - p1 hp s1 s2 s3
    unfold OnPath at *
    grind
  · intro r t route truck hr ht htruck
    have hsame := @map_load_packagesOf w (w.putPackage package') route route rfl fun p _ ↦ by
        rw [Store.find?_put]
        split
        · next heq =>
          rw [← heq, ← s1, hp, Option.map_some, Option.map_some, DeliveryPackage.load,
            DeliveryPackage.load, s2, s3, s4]
        · rfl
    obtain ⟨hload, hdistance⟩ := lim1 hr ht htruck
    exact ⟨fun k hk ↦ hsame ▸ hload k hk, hdistance⟩
  · clear * - c2 hp s1
    grind

/-- A customer keeps its contact and its packages. -/
theorem Sound.editCustomer (h : w.Sound u allowed clock) {customer customer' : Customer}
    (hc : w.customers.find? customer.customerId = some customer)
    (hid : customer'.customerId = customer.customerId)
    (hcontact : customer'.contact = customer.contact)
    (hlist : customer'.deliveryPackages = customer.deliveryPackages) :
    (w.putCustomer customer').Sound u allowed clock := by
  obtain ⟨⟨⟨r1, r2, r3, r4, r5, r6⟩, h1, h2, h3, h4, h5, h6⟩, t1, p1, l1, lim1,
    ⟨c1, c2, c3, c4⟩, ⟨g1, g2, g3⟩⟩ := h
  refine ⟨⟨⟨r1, r2, r3, r4, r5, r6⟩, h1, ?_, ?_, h4.put (hlist ▸ h4 _ _ hc), h5, h6⟩, t1, p1, l1,
    lim1,
    ⟨?_, c2, c3, c4⟩, ⟨g1.put (hcontact ▸ g1 _ _ hc), ?_, ?_⟩⟩
  · clear * - h2 hc hid hlist
    grind
  · clear * - h3 hc hid hlist
    grind
  · clear * - c1 hc hid
    grind
  · clear * - g2 hc hid hcontact
    grind
  · clear * - g3 hc hid hcontact
    grind

end World
end FleetFlow
