import FleetFlow.Runtime.TimePaths
import FleetFlow.Snapshot.Loaded
import FleetFlow.Snapshot.SavedSchedules

/-!
# Loading a saved world against staying in it

The load path drops statuses, arrivals and truck positions and recomputes them from the stops.
What it joins from the file of a world is that world up to these, and a pass over all routes
determines them, so that a load at an instant and a heartbeat at that instant agree.
-/

namespace FleetFlow

open Program Reconciler

variable {u : UnicodeTables} {allowed : Option LocationCode → Prop} {clock : Option Datetime}
  {now : Datetime} {w v j x : World}

/-! ### What a file keeps -/

/-- The same stops, departure, truck and set of packages. -/
structure DeliveryRoute.SameTour (a b : DeliveryRoute) : Prop where
  routeId : b.routeId = a.routeId
  plan : b.plan = a.plan
  packages : b.packages.Perm a.packages
  truck : b.truck = a.truck

/-- The same contact and set of packages. -/
structure Customer.SameRecord (a b : Customer) : Prop where
  contact : b.contact = a.contact
  deliveryPackages : b.deliveryPackages.Perm a.deliveryPackages

/-- The same truck with the same assignment; on a route it may drive elsewhere. -/
structure Truck.SameAssignment (a b : Truck) : Prop where
  same : a.SameVehicle b
  status : b.status = a.status
  route : b.route = a.route
  busyFrom : b.busyFrom = a.busyFrom
  busyUntil : b.busyUntil = a.busyUntil
  currentLocation : b.currentLocation = a.currentLocation
  idle : a.route = none → b = a

/-- The same shipment on the same route. -/
structure DeliveryPackage.SameOrder (a b : DeliveryPackage) : Prop where
  same : a.SameShipment b
  route : b.route = a.route
  waiting : a.route = none → b.view = a.view

namespace World

/-- The next ids are the same. -/
def SameCounters (w v : World) : Prop :=
  v.nextCustomerId = w.nextCustomerId ∧ v.nextPackageId = w.nextPackageId ∧
    v.nextRouteId = w.nextRouteId

/-- A world that is another one up to what the schedules determine. -/
structure Resumes (w j : World) : Prop where
  customers : Store.Related Customer.SameRecord w.customers j.customers
  packages : Store.Related DeliveryPackage.SameOrder w.packages j.packages
  routes : Store.Related DeliveryRoute.SameTour w.routes j.routes
  trucks : Store.Related Truck.SameAssignment w.trucks j.trucks
  counters : w.SameCounters j

/-- Two worlds that differ in the order of lists and in pending events only. -/
structure Agrees (v x : World) : Prop where
  customers : Store.Related Customer.SameRecord v.customers x.customers
  packages : Store.Related (fun a b ↦ a.SameShipment b ∧ b.view = a.view) v.packages x.packages
  routes : Store.Related (fun a b ↦ a.SameTour b ∧ b.status = a.status) v.routes x.routes
  trucks : x.trucks = v.trucks
  counters : v.SameCounters x

/-! ### A pass over all routes determines the rest -/

/-- Passes over two routes of one tour. -/
private theorem sameTour_of_settledFrom {a b c d : DeliveryRoute} (h : a.SameTour b)
    (hac : a.SettledFrom now c) (hbd : b.SettledFrom now d) :
    c.SameTour d ∧ d.status = c.status := by
  have hstatus : b.statusAt now = a.statusAt now := by
    unfold DeliveryRoute.statusAt
    rw [h.plan]
  have hfinished : b.Finished now ↔ a.Finished now := by
    unfold DeliveryRoute.Finished DeliveryRoute.etaFinal
    rw [h.plan]
  constructor
  · constructor
    · rw [hbd.routeId, hac.routeId, h.routeId]
    · rw [hbd.plan, hac.plan, h.plan]
    · rw [hbd.packages, hac.packages]
      exact h.packages
    · rw [hbd.truck, hac.truck, h.truck]
      by_cases hfin : a.Finished now
      · rw [if_pos (hfinished.mpr hfin), if_pos hfin]
      · rw [if_neg (mt hfinished.mp hfin), if_neg hfin]
  · rw [hbd.status, hac.status, hstatus]

/-- Passes over two trucks with one assignment. -/
private theorem eq_of_truckPass {route : DeliveryRoute} {a b c d : Truck} (h : a.SameAssignment b)
    (hac : TruckPass route now a c) (hbd : TruckPass route now b d)
    (hscheduled : route.plan.schedule?.isSome) : d = c := by
  refine truckPass_unique hac ⟨h.same.trans hbd.same, hbd.released, fun hopen ↦ ?_, fun hs ↦ ?_,
    hbd.onSchedule⟩
  · obtain ⟨k1, k2, k3, k4⟩ := hbd.kept hopen
    exact ⟨k1.trans h.status, k2.trans h.route, k3.trans h.busyFrom, k4.trans h.busyUntil⟩
  · rw [hs] at hscheduled
    cases hscheduled

/-- Passes over a world and over one that resumes it agree. -/
theorem Resumes.agrees (h : w.Resumes j) (hw : w.Sound u allowed clock) (hj : j.Linked)
    (hwv : w.Advanced now [] v) (hjx : j.Advanced now [] x) : v.Agrees x := by
  have hv := hwv.timed hw.linked
  have hx := hjx.timed hj
  have hpackage : ∀ {p : Int} {a b c d : DeliveryPackage}, w.packages.find? p = some a →
      j.packages.find? p = some b → a.SameOrder b → PackageTimed w now a c →
      PackageTimed j now b d → c.SameShipment d ∧ d.view = c.view := by
    intro p a b c d ha hb hab hac hbd
    have hsame : c.SameShipment d := (hac.same.symm.trans hab.same).trans hbd.same
    refine ⟨hsame, ?_⟩
    cases hn : a.route with
    | none =>
      exact (hbd.waiting (hab.route.trans hn)).trans ((hab.waiting hn).trans (hac.waiting hn).symm)
    | some r =>
      obtain ⟨route, hr, hmem⟩ := hw.linked.route_of_package ha hn
      obtain ⟨route', hr', hplan⟩ := h.routes.forward hr
      have hin := hw.onPath hr hmem ha
      have hsettled := (hbd.settled r (hab.route.trans hn) route' hr').of_plan hplan.plan.symm
      have hobserved := hsettled.observed_eq (hac.settled r hn route hr)
        hsame.startLocation.symm hsame.endLocation.symm
        (by rwa [← hsame.startLocation, ← hsame.endLocation, ← hac.same.startLocation,
          ← hac.same.endLocation])
      have hroute' : d.route = c.route := by rw [hbd.route, hac.route, hab.route]
      simp only [DeliveryPackage.observed, Prod.mk.injEq] at hobserved
      simp only [DeliveryPackage.view, hroute', hobserved]
  have htruck : ∀ {t : Int} {a b c d : Truck}, w.trucks.find? t = some a →
      j.trucks.find? t = some b → a.SameAssignment b → TruckMoved w now [] a c →
      TruckMoved j now [] b d → d = c := by
    intro t a b c d ha hb hab hac hbd
    cases hn : a.route with
    | none =>
      rw [hac.idle hn, hbd.idle (hab.route.trans hn), hab.idle hn]
    | some r =>
      obtain ⟨route, hr, hlink⟩ := hw.linked.route_of_truck ha hn
      obtain ⟨route', hr', hplan⟩ := h.routes.forward hr
      have hscheduled := (hw.timely _ _ hr).truck_scheduled (by simp [hlink])
      unfold DeliveryRoute.departureTime RoutePlan.departureTime at hscheduled
      rw [Option.isSome_map] at hscheduled
      exact eq_of_truckPass hab (hac.passed r hn route hr List.not_mem_nil)
        ((hbd.passed r (hab.route.trans hn) route' hr' List.not_mem_nil).of_plan hplan.plan.symm)
        hscheduled
  have hcustomers : v.customers = w.customers ∧ x.customers = j.customers := by
    rw [hwv.frame, hjx.frame]
    exact ⟨rfl, rfl⟩
  have hcounters : v.SameCounters x ↔ w.SameCounters j := by
    rw [hwv.frame, hjx.frame]
    rfl
  refine ⟨?_, ?_, ?_, ?_, hcounters.mpr h.counters⟩
  · rw [hcustomers.1, hcustomers.2]
    exact h.customers
  · exact h.packages.square hv.packages hx.packages hpackage
  · exact h.routes.square hv.routes hx.routes fun _ _ ↦ sameTour_of_settledFrom
  · exact (h.trucks.square hv.trucks hx.trucks htruck).eq

/-! ### What is joined from the file of a world -/

/-- Every route departs at a whole second of a year of four digits. -/
def WholeDepartures (w : World) : Prop :=
  w.routes.All fun route ↦ ∀ t ∈ route.departureTime, t.WholeSecond ∧ t.FourDigitYear

/-- The departures are decided on the stored routes. -/
theorem wholeDepartures_of_all
    (h : (w.routes.values.all fun route ↦ route.departureTime.all fun t ↦
      decide (t.WholeSecond ∧ t.FourDigitYear)) = true) : w.WholeDepartures := by
  intro r route hr t ht
  have hroute := List.all_eq_true.mp h route (Store.mem_values_of_find? hr)
  exact of_decide_eq_true ((Option.all_eq_true _ _).mp hroute t ht)

/-- The last arrival is in a year of four digits too. -/
theorem WholeDepartures.fourDigitYears (h : w.WholeDepartures) : w.FourDigitYears := by
  intro r route hr s hs
  have hdeparture : route.departureTime = some s.departureTime := by
    have hs' : route.plan.schedule? = some s := hs
    simp [DeliveryRoute.departureTime, RoutePlan.departureTime, hs']
  have hyear := (h r route hr s.departureTime hdeparture).2
  exact ⟨hyear, hyear.mono (le_of_lt s.departureTime_lt_etaFinal)⟩

end World

/-- The records of a store relate it to what is made of them. -/
theorem Store.Lists.related {α β : Type} {key : α → Int} {id : β → Int} {transform : α → β}
    {rel : β → α → Prop} {rel' : α → α → Prop} {s t : Store key}
    (h : t.Lists id rel (sortedSnapshots key transform s.values))
    (hid : ∀ a, id (transform a) = key a)
    (hrel : ∀ {k a b}, s.find? k = some a → t.find? k = some b → rel (transform a) b →
      rel' a b) : Store.Related rel' s t := by
  constructor
  · intro k a ha
    have hkey : id (transform a) = k := (hid a).trans (Store.key_of_find? ha)
    obtain ⟨b, hb, hab⟩ := h.forward (mem_record ha)
    rw [hkey] at hb
    exact ⟨b, hb, hrel ha hb hab⟩
  · intro k b hb
    obtain ⟨record, hrecord, hk, hab⟩ := h.backward hb
    obtain ⟨a, ha, rfl⟩ := exists_of_mem_record hrecord
    rw [hid] at hk
    exact ⟨a, hk ▸ ha, hrel (hk ▸ ha) hb hab⟩

/-- A route with a whole departure is rebuilt with its plan. -/
theorem DeliveryRoute.plan_eq_of_rebuilds {route rebuilt : DeliveryRoute}
    (hwhole : ∀ t ∈ route.departureTime, t.WholeSecond ∧ t.FourDigitYear)
    (h : (RouteSnapshot.ofRoute route).Rebuilds u rebuilt) : rebuilt.plan = route.plan := by
  obtain ⟨hread, -, hlocations, -⟩ := WorldStateSnapshotRebuilder.rebuildRoute_eq_ok_iff.mp h
  have hpath : rebuilt.plan.path = route.plan.path :=
    Except.ok.inj ((RoutePath.ofLocations_eq_ok_iff.mpr hlocations).symm.trans
      (RoutePath.ofLocations_eq_ok_iff.mpr rfl))
  have htext : (RouteSnapshot.ofRoute route).departureTime = dtToStr route.departureTime := rfl
  have hdeparture : rebuilt.departureTime = route.departureTime := by
    rw [htext] at hread
    cases ht : route.departureTime with
    | none =>
      rw [ht, dtFromStr_dtToStr_none] at hread
      exact (Except.ok.inj hread).symm
    | some t =>
      obtain ⟨hsecond, hyear⟩ := hwhole t ht
      rw [ht, dtFromStr_dtToStr u hyear, Datetime.truncate_eq_self_iff.mpr hsecond] at hread
      exact (Except.ok.inj hread).symm
  have hrebuilt : RoutePlan.create route.plan.path route.departureTime = .ok rebuilt.plan :=
    RoutePlan.create_eq_ok_iff.mpr ⟨hpath, hdeparture⟩
  have hroute : RoutePlan.create route.plan.path route.departureTime = .ok route.plan :=
    RoutePlan.create_eq_ok_iff.mpr ⟨rfl, rfl⟩
  exact Except.ok.inj (hrebuilt.symm.trans hroute)

namespace World.Sound

variable (hw : w.Sound u allowed clock) (hwhole : w.WholeDepartures)
  (h : w.buildSnapshot.world.Linked u w.trucks j)
include hw h

/-- The customers are rebuilt with their packages. -/
theorem related_customers :
    Store.Related Customer.SameRecord w.customers j.customers := by
  refine h.customers.related (fun _ ↦ rfl) fun {c a b} ha hb hrebuilds ↦ ⟨?_, ?_⟩
  · have hclean := hw.registered.clean c a ha
    exact Except.ok.inj (hrebuilds.contact.symm.trans hclean)
  · have hnd := hw.linked.nodup_customer c a ha
    have hkey : a.customerId = c := Store.key_of_find? ha
    rw [hrebuilds.deliveryPackages]
    apply (List.perm_ext_iff_of_nodup ?_ hnd).mpr
    · intro p
      rw [List.mem_map]
      constructor
      · rintro ⟨record, hrecord, rfl⟩
        obtain ⟨hrecord, hcustomer⟩ := List.mem_filter.mp hrecord
        obtain ⟨package, hfind, rfl⟩ := exists_of_mem_record hrecord
        obtain ⟨customer, hcustomer', hmem⟩ := hw.linked.customer_of_package hfind
        have hid : package.customer = c := (of_decide_eq_true hcustomer).trans hkey
        rw [hid, ha, Option.some.injEq] at hcustomer'
        exact hcustomer' ▸ hmem
      · intro hp
        obtain ⟨package, hfind, hcustomer⟩ := hw.linked.package_of_customer ha hp
        have hid : package.packageId = p := Store.key_of_find? hfind
        exact ⟨.ofPackage package, List.mem_filter.mpr
          ⟨mem_record hfind, decide_eq_true (hcustomer.trans hkey.symm)⟩, hid⟩
    · exact (List.filter_sublist.map _).nodup w.distinctIds_packages.nodup

/-- The packages are rebuilt on their routes. -/
theorem related_packages :
    Store.Related DeliveryPackage.SameOrder w.packages j.packages := by
  refine h.packages.related (fun _ ↦ rfl) fun {p a b} ha hb _ ↦ ?_
  obtain ⟨record, hrecord, hid, hstart, hend, hweight, hcustomer, hroute, -, hstatus, hplace, -,
    harrival⟩ := h.package_record hb
  obtain ⟨a', ha', rfl⟩ := exists_of_mem_record hrecord
  have hid' : a'.packageId = p := hid
  obtain rfl := Option.some.inj (ha.symm.trans (hid' ▸ ha'))
  have hlink : (PackageSnapshot.ofPackage a).routeId = a.route := hw.linked.routeId ha
  rw [hlink] at hroute harrival
  refine ⟨⟨hid'.trans (Store.key_of_find? hb).symm, hstart.symm, hend.symm, hweight.symm,
    hcustomer.symm⟩, hroute, fun hn ↦ ?_⟩
  have hwaiting := hw.linked.waiting p a ha hn
  have hlocation : b.currentLocation = a.startLocation := by
    unfold DeliveryPackage.currentLocation
    rw [hplace]
    rfl
  unfold DeliveryPackage.view
  rw [hroute, hstatus, hlocation, harrival hn, hwaiting.status, hwaiting.currentLocation,
    hwaiting.expectedArrival]

omit hw in
include hwhole in
/-- The routes are rebuilt with their plans. -/
theorem related_routes : Store.Related DeliveryRoute.SameTour w.routes j.routes := by
  refine h.routes.related (fun _ ↦ rfl) fun {r a b} ha hb hjoins ↦ ?_
  obtain ⟨base, hbase, rfl⟩ := hjoins
  have hid : base.routeId = a.routeId :=
    (WorldStateSnapshotRebuilder.rebuildRoute_eq_ok_iff.mp hbase).2.1
  have hplan := DeliveryRoute.plan_eq_of_rebuilds (hwhole r a ha) hbase
  exact ⟨hid, hplan, List.mergeSort_perm _ _, rfl⟩

include hwhole in
/-- The trucks are bound to their routes. -/
theorem related_trucks : Store.Related Truck.SameAssignment w.trucks j.trucks := by
  apply Store.related_of_forward
  · intro t a ha
    have hid : a.vehicleId = t := Store.key_of_find? ha
    have hget : w.trucks.getItem a.vehicleId = .ok a := Store.getItem_eq_ok_iff.mpr (hid ▸ ha)
    have hstate := hw.linked.linkState t a ha
    cases hr : a.route with
    | none =>
      obtain ⟨hfrom, huntil, -⟩ := hstate.idle hr
      have hfree : t ∉ w.buildSnapshot.world.routes.filterMap RouteSnapshot.truckVehicleId := by
        intro hmem
        obtain ⟨record, hrecord, hname⟩ := List.mem_filterMap.mp hmem
        obtain ⟨route, hroute, rfl⟩ := exists_of_mem_record hrecord
        obtain ⟨other, hother, hback⟩ := hw.linked.truck_of_route hroute hname
        obtain rfl := Option.some.inj (ha.symm.trans hother)
        rw [hr] at hback
        cases hback
      have hbuild : WorldStateSnapshotLinker.buildCandidateTruck u w.trucks (.ofTruck a) =
          .ok a := by
        refine except_bind_eq_ok_iff.mpr ⟨a, hget, except_bind_eq_ok_iff.mpr ⟨a.busyFrom, ?_,
          except_bind_eq_ok_iff.mpr ⟨a.busyUntil, ?_, ?_⟩⟩⟩
        · rw [hfrom]
          exact congrArg (dtFromStr u ∘ dtToStr) hfrom
        · rw [huntil]
          exact congrArg (dtFromStr u ∘ dtToStr) huntil
        · exact congrArg (fun route ↦ Except.ok { a with route := route }) hr.symm
      exact ⟨a, (h.unassigned t hfree a).mpr ⟨_, mem_record ha, hid, hbuild⟩, .refl a, rfl, rfl,
        rfl, rfl, rfl, fun _ ↦ rfl⟩
    | some r =>
      obtain ⟨route, hroute, hlink⟩ := hw.linked.route_of_truck ha hr
      obtain ⟨joined, candidate, hjoined, hcandidate, hassigned⟩ :=
        h.assigned _ (mem_record hroute) t hlink
      have hkey : route.routeId = r := Store.key_of_find? hroute
      obtain ⟨route', hroute', hsame⟩ := (related_routes hwhole h).forward hroute
      obtain rfl := Option.some.inj (hjoined.symm.trans ((congrArg _ hkey).trans hroute'))
      obtain ⟨hfrom, huntil⟩ := hw.linked.window ha hr hroute
      have hschedule : joined.departureTime = route.departureTime ∧
          joined.etaFinal = route.etaFinal := by
        unfold DeliveryRoute.departureTime DeliveryRoute.etaFinal
        rw [hsame.plan]
        exact ⟨rfl, rfl⟩
      have hvehicle : a.SameVehicle candidate ∧ candidate.currentLocation = a.currentLocation := by
        obtain ⟨record, hrecord, hid', hbuild⟩ | ⟨hmissing, -⟩ := hcandidate
        · obtain ⟨other, hother, rfl⟩ := exists_of_mem_record hrecord
          have hkey' : other.vehicleId = t := hid'
          obtain rfl := Option.some.inj (ha.symm.trans (hkey' ▸ hother))
          simp only [WorldStateSnapshotLinker.buildCandidateTruck, except_bind_eq_ok_iff,
            Except.ok.injEq] at hbuild
          obtain ⟨real, hreal, -, -, -, -, rfl⟩ := hbuild
          obtain rfl := Except.ok.inj (hget.symm.trans hreal)
          exact ⟨⟨rfl, rfl, rfl, rfl⟩, rfl⟩
        · exact absurd (List.mem_map.mpr ⟨_, mem_record ha, hid⟩) hmissing
      obtain ⟨hvehicle, hlocation⟩ := hvehicle
      have hassign : a.SameVehicle (candidate.assign joined) :=
        ⟨hvehicle.vehicleId, hvehicle.name, hvehicle.capacity, hvehicle.maxRange⟩
      refine ⟨candidate.assign joined, hassigned, hassign, ?_, ?_, ?_, ?_, hlocation, fun hn ↦ ?_⟩
      · exact (hstate.onTheWay.mpr (by simp [hr])).symm
      · exact congrArg some (hsame.routeId.trans hkey) |>.trans hr.symm
      · exact hschedule.1.trans hfrom.symm
      · exact hschedule.2.trans huntil.symm
      · rw [hr] at hn
        cases hn
  · intro t hnone
    rw [Option.eq_none_iff_forall_ne_some]
    intro truck ht
    obtain ⟨real, hreal, -⟩ := h.sameVehicle ht
    rw [hnone] at hreal
    cases hreal

include hwhole in
/-- The joined world resumes the saved one. -/
theorem resumes : w.Resumes j where
  customers := hw.related_customers h
  packages := hw.related_packages h
  routes := related_routes hwhole h
  trucks := hw.related_trucks hwhole h
  counters := by
    rw [h.frame]
    exact ⟨rfl, rfl, rfl⟩

end World.Sound

/-- A world that has been loaded agrees with whatever the prepared one agrees with. -/
theorem World.Loaded.agrees (h : w.Loaded j x) (hv : v.Agrees j)
    (htrucks : ∀ t, w.trucks.find? t = none ↔ j.trucks.find? t = none) : v.Agrees x := by
  have heq : x.trucks = j.trucks := by
    apply Store.ext
    intro t
    rw [h.trucks t]
    cases ht : j.trucks.find? t with
    | none =>
      rw [(htrucks t).mpr ht]
      rfl
    | some truck => rfl
  obtain ⟨h1, h2, h3⟩ := h.counters
  obtain ⟨k1, k2, k3⟩ := hv.counters
  constructor
  · rw [h.customers]
    exact hv.customers
  · rw [h.packages]
    exact hv.packages
  · rw [h.routes]
    exact hv.routes
  · rw [heq]
    exact hv.trucks
  · exact ⟨h1.trans k1, h2.trans k2, h3.trans k3⟩

/-- With exact weights the file of a world is loaded as the world that a heartbeat makes of it. -/
theorem Reachable.load_agrees_with_heartbeat {fleet : Fleet}
    (hidle : fleet.All (Truck.Idle Supported)) (h : Reachable u fleet clock w)
    (hwhole : w.WholeDepartures) (hnow : ∀ c ∈ clock, c ≤ now) :
    Ensures (WorldStateSnapshotService.applySnapshot u .none now w.buildSnapshot) w
      (fun _ loaded ↦ Ensures (HeartbeatService.advance .inMemory now) w
        (fun _ moved ↦ moved.Agrees loaded) (fun _ _ ↦ False)) (fun _ _ ↦ False) := by
  have hw := h.sound supported_of_mem hidle
  apply (WorldStateSnapshotService.ensures_applySnapshot hw.linked.toRouteLinked).mono
  · rintro _ loaded ⟨world, skipped, joined, prepared, -, hprepared, hloaded⟩
    have hj := hprepared.linked.linked hprepared.valid
    have hresumes := hw.resumes hwhole hprepared.linked
    obtain rfl : skipped = [] := by
      rw [List.eq_nil_iff_forall_not_mem]
      intro r hr
      obtain ⟨route, t, truck, hroute, hlink, ht, hnone, -⟩ := hprepared.advanced.stuck r hr
      obtain ⟨real, hreal, hsame⟩ := hresumes.trucks.backward ht
      obtain ⟨other, hother, hback⟩ := hj.truck_of_route hroute hlink
      obtain rfl := Option.some.inj (ht.symm.trans hother)
      have hlocated := (hw.located t real hreal).onRoute (by simp [← hsame.route, hback])
      rw [← hsame.currentLocation, hnone] at hlocated
      cases hlocated
    apply (HeartbeatService.ensures_advance hw hnow).mono _ fun _ _ hf ↦ hf
    intro summary moved hmoved
    refine hloaded.agrees (hresumes.agrees hw hj hmoved.advanced hprepared.advanced) fun t ↦ ?_
    exact (hresumes.trucks.find?_eq_none_iff).trans
      (hprepared.advanced.trucks.find?_eq_none_iff)
  · rintro e _ ⟨-, herror⟩
    have hversion : w.buildSnapshot.schemaVersion ∈ supportedSchemaVersions :=
      List.mem_cons_of_mem _ List.mem_cons_self
    have hvalid := hw.valid_buildSnapshot (fun _ hplace ↦ hplace)
      (Store.related_refl Truck.SameVehicle.refl)
    obtain ⟨world, hprepare⟩ := WorldStateSnapshotPreparer.exists_prepare_iff.mpr
      ⟨hversion, hvalid, hw.restorable_buildSnapshot hwhole.fourDigitYears⟩
    rw [hprepare] at herror
    cases herror

namespace Scenario

/-- A route under way with a package, loaded after its end. -/
theorem load_agrees_with_heartbeat_steps :
    Ensures (WorldStateSnapshotService.applySnapshot .asciiOnly .none (hour 20)
        (performAll .asciiOnly (.initial Scenario.fleet) Scenario.steps).buildSnapshot)
      (performAll .asciiOnly (.initial Scenario.fleet) Scenario.steps)
      (fun _ loaded ↦ Ensures (HeartbeatService.advance .inMemory (hour 20))
        (performAll .asciiOnly (.initial Scenario.fleet) Scenario.steps)
        (fun _ moved ↦ moved.Agrees loaded) (fun _ _ ↦ False)) (fun _ _ ↦ False) :=
  Reachable.load_agrees_with_heartbeat fleet_idle_supported reachable_steps
    (World.wholeDepartures_of_all (by decide +kernel)) (by decide)

/-! ### Weights that are rounded

A file lists the packages of a route by id, so its validator adds their weights in another order
than the assignments did. -/

/-- A package of the Python float closest to a weight. -/
def packageOf (weight : Rat) : CreatePackageCommand :=
  { package with weight := .finite (PyFloat.nearest weight) }

/-- Packages of 16736.65, 22633.2 and 2630.15 kg fill a truck of 42000 kg, the second one last. -/
def fullLoad : List (Datetime × Operation) :=
  [(hour 0, .createRoute ["SYD", "MEL"] (some (hour 8))),
    (hour 1, .createPackage (packageOf (1673665 / 100))),
    (hour 1, .createPackage (packageOf (226332 / 10))),
    (hour 1, .createPackage (packageOf (263015 / 100))),
    (hour 2, .assignTruck 1001 1 (hour 2)),
    (hour 3, .assignPackages 1 [1, 3, 2])]

/-- The world after these steps. -/
def fullWorld : World := @performAll .binary64 .asciiOnly (.initial fleet) fullLoad

/-- It is reachable. -/
theorem reachable_fullWorld :
    @Reachable .binary64 .asciiOnly fleet (some (hour 3)) fullWorld := by
  have hsorted : ([] ++ fullLoad.map Prod.fst).Pairwise (· ≤ ·) := by decide
  exact @Reachable.performAll .binary64 _ _ none _ (@Reachable.start .binary64 _ _) _ hsorted

/-- Its file. -/
def fullFile : WorldStateSnapshot where
  schemaVersion := 2
  world := {
    counters := fullWorld.buildCountersSnapshot
    customers := fullWorld.customers.values.map .ofCustomer
    packages := fullWorld.packages.values.map .ofPackage
    routes := fullWorld.routes.values.map fun route ↦ {
      routeId := route.routeId
      locations := route.locations
      departureTime := dtToStr route.departureTime
      truckVehicleId := route.truck
      packageIds := [1, 2, 3] }
    trucks := fullWorld.trucks.values.map .ofTruck }

/-- All three packages were accepted, and the builder lists them by id. -/
theorem buildSnapshot_fullWorld : fullWorld.buildSnapshot = fullFile := by
  have hcustomers : (fullWorld.customers.values.map Customer.customerId).Pairwise (· < ·) := by
    decide +kernel
  have hpackages : (fullWorld.packages.values.map DeliveryPackage.packageId).Pairwise (· < ·) := by
    decide +kernel
  have hroutes : (fullWorld.routes.values.map DeliveryRoute.routeId).Pairwise (· < ·) := by
    decide +kernel
  have htrucks : (fullWorld.trucks.values.map Truck.vehicleId).Pairwise (· < ·) := by
    decide +kernel
  have hassigned : ∀ route ∈ fullWorld.routes.values, route.packages = [1, 3, 2] := by
    decide +kernel
  have hlisted : fullWorld.routes.values.map RouteSnapshot.ofRoute = fullFile.world.routes := by
    apply List.map_congr_left
    intro route hmem
    have hsorted : [1, 3, 2].mergeSort (fun a b ↦ decide (a ≤ b)) = [(1 : Int), 2, 3] :=
      mergeSort_eq_of_perm (by decide) (by decide)
    unfold RouteSnapshot.ofRoute
    rw [hassigned route hmem, hsorted]
  unfold World.buildSnapshot buildWorldStateSnapshot
  rw [sortedSnapshots_eq_map hcustomers, sortedSnapshots_eq_map hpackages,
    sortedSnapshots_eq_map hroutes, sortedSnapshots_eq_map htrucks, hlisted]
  rfl

/-- In the order of the ids the weights add up to more than the truck can carry, so the file of
this world is refused. -/
theorem not_load_agrees_of_rounding :
    fleet.All (Truck.Idle Supported) ∧
      @Reachable .binary64 .asciiOnly fleet (some (hour 3)) fullWorld ∧
      fullWorld.WholeDepartures ∧ (∀ c ∈ some (hour 3), c ≤ hour 4) ∧
      ¬ Ensures (@WorldStateSnapshotService.applySnapshot .binary64 .asciiOnly .none (hour 4)
          fullWorld.buildSnapshot) fullWorld
        (fun _ loaded ↦ Ensures (HeartbeatService.advance .inMemory (hour 4)) fullWorld
          (fun _ moved ↦ moved.Agrees loaded) (fun _ _ ↦ False)) (fun _ _ ↦ False) := by
  refine ⟨fleet_idle_supported, reachable_fullWorld,
    World.wholeDepartures_of_all (by decide +kernel), by decide, fun h ↦ ?_⟩
  have hrefused : (@WorldStateSnapshotPreparer.prepare .asciiOnly .binary64 fullWorld.trucks
      (hour 4) fullFile supportedSchemaVersions).isOk = false := by decide +kernel
  rw [buildSnapshot_fullWorld] at h
  unfold WorldStateSnapshotService.applySnapshot at h
  rw [ensures_bind, ensures_get, ensures_bind, ensures_lift] at h
  cases hprepare : @WorldStateSnapshotPreparer.prepare .asciiOnly .binary64 fullWorld.trucks
      (hour 4) fullFile supportedSchemaVersions with
  | ok world =>
    rw [hprepare] at hrefused
    cases hrefused
  | error e => exact h.2 e hprepare

end Scenario
end FleetFlow
