import FleetFlow.Runtime.Links
import FleetFlow.Runtime.Stamps

/-!
# Commands keep the world sound

With the in-memory unit of work a command on a sound world leaves a sound world, whether it
returns or raises, and its effect is made of elementary changes.
-/

namespace FleetFlow

open Program World

variable {u : UnicodeTables} {allowed : Option LocationCode → Prop} {clock : Option Datetime}
  {links : TruckAssignedToRoute → Prop} {w : World}

/-- Both ends of a run of an action. -/
abbrev Action.Keeps {α : Type} (program : Action α) (w : World) (inv : World → Prop) : Prop :=
  Ensures program w (fun _ w' ↦ inv w') (fun _ w' ↦ inv w')

/-- A command keeps the world sound and has an effect made of elementary changes. -/
abbrev Action.Effects (program : Action (List EventRecorder)) (u : UnicodeTables)
    (allowed : Option LocationCode → Prop) (clock : Option Datetime) (w : World)
    (gone : Option Focus) : Prop :=
  Ensures program w
    (fun recorders w' ↦ w'.Sound u allowed clock ∧ w.Effect u gone recorders w')
    (fun _ w' ↦ w'.Sound u allowed clock ∧ w.Effect u none [] w')

/-- A command keeps the world sound and has an effect at its instant. -/
abbrev Action.EffectsAt (program : Action (List EventRecorder)) (u : UnicodeTables)
    (allowed : Option LocationCode → Prop) (clock : Option Datetime) (now : Datetime)
    (links : TruckAssignedToRoute → Prop) (w : World) (gone : Option Focus) : Prop :=
  Ensures program w
    (fun recorders w' ↦ w'.Sound u allowed clock ∧ w.EffectAt u now links gone recorders w')
    (fun _ w' ↦ w'.Sound u allowed clock ∧ w.EffectAt u now links none [] w')

/-- The effect of a command, whenever it occurred. -/
theorem Action.EffectsAt.effects {program : Action (List EventRecorder)} {now : Datetime}
    {gone : Option Focus} (h : program.EffectsAt u allowed clock now links w gone) :
    program.Effects u allowed clock w gone :=
  h.mono (fun _ _ hw ↦ ⟨hw.1, hw.2.effect⟩) fun _ _ hw ↦ ⟨hw.1, hw.2.effect⟩

/-- A command with an effect keeps the world sound. -/
theorem Action.Effects.keeps {program : Action (List EventRecorder)} {gone : Option Focus}
    (h : program.Effects u allowed clock w gone) : program.Keeps w (World.Sound u allowed clock) :=
  h.mono (fun _ _ hw ↦ hw.1) fun _ _ hw ↦ hw.1

/-- Only customers differ. -/
structure World.SameFleet (w w' : World) : Prop where
  routes : w'.routes = w.routes
  packages : w'.packages = w.packages
  trucks : w'.trucks = w.trucks
  nextPackageId : w'.nextPackageId = w.nextPackageId

/-- A change of customers is an effect. -/
theorem World.SameFleet.effectAt {w' : World} (h : World.SameFleet w w') (now : Datetime) :
    w.EffectAt u now links none [] w' :=
  .updates ((@Update.contacts u (.route 0) w w' h.routes h.packages h.trucks).updatesAt
    eventsAt_nil) rfl

/-- The in-memory backend accepts a loop of calls. -/
theorem Action.ensures_calls {α : Type} {xs : List α} {f : α → UnitOfWorkCall} :
    Ensures (forM xs fun x ↦ Action.call .inMemory (f x)) w (fun _ w' ↦ w' = w)
      (fun _ _ ↦ False) :=
  ensures_forM (fun _ _ _ hs ↦ ensures_pure.mpr hs) rfl

/-! ### Creating packages and customers -/

namespace CustomerRepository

/-- An indexed customer is stored. -/
theorem find?_of_getIndexed {index : Std.ExtTreeMap String Int} {text : String}
    {customer : Customer} (h : getIndexed w index text = .ok (some customer)) :
    w.customers.find? customer.customerId = some customer := by
  unfold getIndexed at h
  split at h
  · cases h
  · split at h
    · next c hc =>
      obtain rfl : c = customer := by simpa using h
      rw [Store.key_of_find? hc, hc]
    · cases h

end CustomerRepository

namespace CustomerService

/-- Both possible customers are stored. -/
private theorem find?_of_getIfGiven {index : Std.ExtTreeMap String Int} {text : String}
    {customer : Customer} (h : getIfGiven w index text = .ok (some customer)) :
    w.customers.find? customer.customerId = some customer := by
  unfold getIfGiven at h
  split at h
  · cases h
  · exact CustomerRepository.find?_of_getIndexed h

private theorem eq_of_unlessNamed {name message : String} {a b : Customer}
    (h : unlessNamed u name a message = .ok (some b)) : a = b := by
  simp only [unlessNamed, require_bind_eq_ok_iff, Except.ok.injEq, Option.some.injEq] at h
  exact h.2

private theorem of_resolveEmailAndPhone {name : String} {byEmail byPhone : Option Customer}
    {customer : Customer}
    (h : resolveEmailAndPhone u name byEmail byPhone = .ok (some customer)) :
    byEmail = some customer ∨ byPhone = some customer := by
  unfold resolveEmailAndPhone at h
  split at h
  · simp only [require_bind_eq_ok_iff] at h
    exact .inl (congrArg some (eq_of_unlessNamed h.2))
  · exact .inl (congrArg some (eq_of_unlessNamed h))
  · exact .inr (congrArg some (eq_of_unlessNamed h))
  · cases h

private theorem find?_of_resolveNameOnly {name email phone : String} {customer : Customer}
    (h : resolveNameOnly u w name email phone = some customer) :
    w.customers.find? customer.customerId = some customer := by
  unfold resolveNameOnly at h
  split at h
  · cases h
  · dsimp only at h
    split at h
    · have hmem := List.mem_of_mem_filter (List.mem_of_mem_head? h)
      exact Store.mem_values.mp (List.mem_of_mem_filter hmem)
    · cases h

/-- A customer that is found is stored. -/
theorem find?_of_findExistingCustomer {name email phone : String} {customer : Customer}
    (h : findExistingCustomer u w name email phone = .ok (some customer)) :
    w.customers.find? customer.customerId = some customer := by
  simp only [findExistingCustomer, except_bind_eq_ok_iff] at h
  obtain ⟨byEmail, he, byPhone, hp, h⟩ := h
  split at h
  · rcases of_resolveEmailAndPhone h with h | h
    · exact find?_of_getIfGiven (h ▸ he)
    · exact find?_of_getIfGiven (h ▸ hp)
  · split at h
    · exact find?_of_getIfGiven (eq_of_unlessNamed h ▸ he)
    · exact find?_of_getIfGiven (eq_of_unlessNamed h ▸ hp)
    · exact find?_of_resolveNameOnly (Except.ok.inj h)

/-- Creating a customer. -/
theorem ensures_create {name email phone : String} {now : Datetime} (h : w.Sound u allowed clock) :
    Ensures (create u name email phone now) w
      (fun customer w' ↦ (w'.Sound u allowed clock ∧
        w'.customers.find? customer.customerId = some customer) ∧ World.SameFleet w w')
      (fun _ w' ↦ w' = w) := by
  unfold create CustomerRepository.create CustomerRepository.add
  simp only [ensures_bind, ensures_get, ensures_pure, ensures_set, ensures_lift]
  refine ⟨fun contact hcontact ↦ ⟨fun customer hcustomer ↦ ⟨fun _ hcheck ↦
    ⟨⟨?_, ?_⟩, ⟨rfl, rfl, rfl, rfl⟩⟩, fun _ _ ↦ trivial⟩, fun _ _ ↦ trivial⟩,
    fun _ _ ↦ trivial⟩
  · simp only [Customer.create, except_bind_eq_ok_iff, Customer.new_eq_ok_iff, Except.ok.injEq]
      at hcustomer
    obtain ⟨c, ⟨-, hc, hp, -⟩, rfl⟩ := hcustomer
    refine h.addCustomer hcheck ?_ hp
    show c.contact.Clean u
    rw [hc]
    exact ContactInfo.clean_of_new hcontact
  · rw [Store.find?_put, if_pos rfl]

end CustomerService

namespace CreatePackageUseCase

/-- Finding or creating the customer of a command. -/
theorem ensures_findOrCreateCustomer {now : Datetime} {command : CreatePackageCommand}
    (h : w.Sound u allowed clock) :
    Ensures (findOrCreateCustomer u now command) w
      (fun customer w' ↦ (w'.Sound u allowed clock ∧
        w'.customers.find? customer.customerId = some customer) ∧ World.SameFleet w w')
      (fun _ w' ↦ w' = w) := by
  unfold findOrCreateCustomer
  simp only [ensures_bind, ensures_get, ensures_lift]
  refine ⟨fun existing hexisting ↦ ?_, fun _ _ ↦ trivial⟩
  cases existing with
  | none => exact CustomerService.ensures_create h
  | some customer =>
    exact ensures_pure.mpr ⟨⟨h, CustomerService.find?_of_findExistingCustomer hexisting⟩,
      ⟨rfl, rfl, rfl, rfl⟩⟩

/-- A new package waits without a route. -/
private theorem of_create {startLocation endLocation : LocationCode} {weight : PyFloat}
    {customer packageId : Int} {now : Datetime} {package : DeliveryPackage}
    (h : DeliveryPackage.create startLocation endLocation weight customer packageId now =
      .ok package) :
    package.packageId = packageId ∧ package.customer = customer ∧ package.route = none ∧
      package.routeId = none ∧ package.Waiting := by
  simp only [DeliveryPackage.create, except_bind_eq_ok_iff, Except.ok.injEq] at h
  obtain ⟨p, hp, rfl⟩ := h
  obtain ⟨h1, h2, -, -, h3, h4, h5, h6, h7, h8, -⟩ := DeliveryPackage.new_eq_ok hp
  refine ⟨h1, h3, h4, h5, ⟨h8, ?_, h7⟩⟩
  show p.storedLocation.getD p.startLocation = p.startLocation
  rw [h6, h2]
  rfl

/-- Creating a package. -/
theorem effectsAt_execute {now : Datetime} {command : CreatePackageCommand}
    (h : w.Sound u allowed clock) :
    (execute u now command).EffectsAt u allowed clock now links w none := by
  unfold execute
  simp only [Action.EffectsAt, ensures_bind, ensures_lift, ensures_pure]
  refine ⟨fun startCode _ ↦ ⟨fun endCode _ ↦ ?_, fun _ _ ↦ ⟨h, .refl⟩⟩, fun _ _ ↦ ⟨h, .refl⟩⟩
  refine (ensures_findOrCreateCustomer h).mono (fun customer w1 h1 ↦ ?_)
    fun _ _ hw ↦ by subst hw; exact ⟨h, .refl⟩
  obtain ⟨⟨h1, hc⟩, hsame⟩ := h1
  unfold PackageRepository.create PackageRepository.add
  simp only [ensures_bind, ensures_get, ensures_lift_require, ensures_set, ensures_pure]
  rw [ensures_lift]
  refine ⟨fun package hpackage ↦ ⟨fun hnew ↦ ?_, fun _ ↦ ⟨h1, hsame.effectAt now⟩⟩,
    fun _ _ ↦ ⟨h1, hsame.effectAt now⟩⟩
  obtain ⟨hid, hcustomer, hroute, hrouteId, hwaiting⟩ := of_create hpackage
  have hc' : w1.customers.find? package.customer = some customer := by rw [hcustomer, hc]
  have hsound := h1.addPackage hnew hc' hroute hrouteId hwaiting
  have hself : ({ package with customer := customer.customerId } : DeliveryPackage) = package := by
    rw [← hcustomer]
  have hfresh : package.packageId ∉ customer.deliveryPackages := fun hmem ↦ by
    obtain ⟨_, hfind, -⟩ := h1.linked.package_of_customer hc' hmem
    rw [hnew] at hfind
    cases hfind
  unfold Customer.addPackage
  simp only [ensures_bind, ensures_get, hc, if_pos hcustomer, ensures_lift_require, ensures_set,
    hself]
  refine ⟨fun _ ↦ ?_, fun hmem ↦ absurd hfresh hmem⟩
  simp only [putCustomer, Store.put_put]
  rw [hsame.nextPackageId] at hpackage
  have hcreated : Update u (.package package.packageId) w package.pendingEvents { w1 with
      customers := w1.customers.put { customer with
        deliveryPackages := customer.deliveryPackages ++ [package.packageId] }
      packages := w1.packages.put package
      nextPackageId := max w1.nextPackageId (package.packageId + 1) } :=
    .createPackage hpackage (hsame.packages ▸ hnew) hsame.routes
      (congrArg (Store.put · package) hsame.packages) hsame.trucks
  obtain ⟨e, hevents, he⟩ := DeliveryPackage.create_events hpackage
  have hstamp : EventsAt now links package.pendingEvents :=
      hevents ▸ eventsAt_singleton.mpr ⟨he, fun _ hassigned ↦ by cases hassigned⟩
  exact ⟨hsound, .updates (hcreated.updatesAt hstamp) rfl⟩

/-- Creating a package, whenever it occurred. -/
theorem effects_execute {now : Datetime} {command : CreatePackageCommand}
    (h : w.Sound u allowed clock) :
    (execute u now command).Effects u allowed clock w none :=
  have heffects : (execute u now command).EffectsAt u allowed clock now (fun _ ↦ True) w none :=
    effectsAt_execute h
  heffects.effects

/-- Creating a package keeps the world sound. -/
theorem keeps_execute {now : Datetime} {command : CreatePackageCommand}
    (h : w.Sound u allowed clock) :
    (execute u now command).Keeps w (World.Sound u allowed clock) :=
  (effects_execute h).keeps

end CreatePackageUseCase

/-! ### Creating routes -/

/-- Creating a route. -/
theorem CreateRouteUseCase.effectsAt_execute {now : Datetime} {locations : List String}
    {departureTime : Option Datetime} (h : w.Sound u allowed clock) :
    (execute u now locations departureTime).EffectsAt u allowed clock now links w none := by
  unfold execute RouteRepository.create RouteRepository.add
  simp only [Action.EffectsAt, ensures_bind, ensures_get, ensures_set, ensures_pure,
    ensures_lift_require]
  rw [ensures_lift]
  refine ⟨fun route hroute ↦ ⟨fun hnew ↦ ⟨?_, ?_⟩, fun _ ↦ ⟨h, .refl⟩⟩, fun _ _ ↦ ⟨h, .refl⟩⟩
  rotate_left
  · obtain ⟨e, hevents, he⟩ := DeliveryRoute.create_events hroute
    have hstamp : EventsAt now links route.pendingEvents :=
      hevents ▸ eventsAt_singleton.mpr ⟨he, fun _ hassigned ↦ by cases hassigned⟩
    exact .updates ((Update.createRoute hroute hnew).updatesAt hstamp) rfl
  simp only [DeliveryRoute.create, except_bind_eq_ok_iff, DeliveryRoute.new_eq_ok_iff,
    Except.ok.injEq] at hroute
  obtain ⟨-, -, -, -, r, ⟨-, -, hd, ht, hp, hs, -⟩, rfl⟩ := hroute
  exact h.addRoute hnew ht hp (by rw [← hd] at hs; exact hs)

/-- Creating a route, whenever it occurred. -/
theorem CreateRouteUseCase.effects_execute {now : Datetime} {locations : List String}
    {departureTime : Option Datetime} (h : w.Sound u allowed clock) :
    (execute u now locations departureTime).Effects u allowed clock w none :=
  have heffects : (execute u now locations departureTime).EffectsAt u allowed clock now
      (fun _ ↦ True) w none := effectsAt_execute h
  heffects.effects

/-- Creating a route keeps the world sound. -/
theorem CreateRouteUseCase.keeps_execute {now : Datetime} {locations : List String}
    {departureTime : Option Datetime} (h : w.Sound u allowed clock) :
    (execute u now locations departureTime).Keeps w (World.Sound u allowed clock) :=
  (effects_execute h).keeps

/-! ### Assigning trucks -/

/-- Restoring a route that evolved from the stored one. -/
theorem Action.ensures_restoreRoute {route route' : DeliveryRoute}
    (hr : w.routes.find? route.routeId = some route) (h : route.Evolves route') :
    Ensures (restoreRoute route.routeId route.snapshotState (eventCheckpoint route.pendingEvents))
      (w.putRoute route') (fun _ w' ↦ w' = w) (fun _ _ ↦ False) := by
  unfold restoreRoute
  have hfind : (w.routes.put route').find? route.routeId = some route' := by
    rw [Store.find?_put, if_pos h.routeId]
  simp only [ensures_bind, ensures_get, hfind, DeliveryRoute.restoreState_eq h.routeId h.path,
    ensures_lift_ok, Reconciler.restoreEventCheckpoint_of_prefix h.events, ensures_modify, putRoute]
  rw [Store.put_put h.routeId, Store.put_eq_self hr]

/-- Restoring a truck that is as it was. -/
theorem Action.ensures_restoreTruck {truck : Truck}
    (ht : w.trucks.find? truck.vehicleId = some truck) :
    Ensures (restoreTruck truck.vehicleId truck.snapshotState) w (fun _ w' ↦ w' = w)
      (fun _ _ ↦ False) := by
  unfold restoreTruck
  simp only [ensures_bind, ensures_get, ht, ensures_modify, putTruck,
    Truck.restoreState_eq_of_same (Truck.SameVehicle.refl truck)]
  rw [Store.put_eq_self ht]

namespace AssignTruckToRouteUseCase

variable {route : DeliveryRoute} {truck : Truck} {now : Datetime}

/-- Trucks are assigned until the final ETA that the route has, or that it gets by being scheduled
now. -/
def Links (w : World) (routeId : Int) (now : Datetime) (e : TruckAssignedToRoute) : Prop :=
  ∀ eta ∈ e.newBusyUntil, now ≤ eta ∨ ∃ route ∈ w.routes.find? routeId, route.etaFinal = some eta

/-- The route after `scheduleIfNeeded`. -/
structure ScheduledFrom (now : Datetime) (route scheduled : DeliveryRoute) : Prop where
  eq_or_schedule : scheduled = route ∨ route.schedule now now = .ok scheduled
  evolves : route.Evolves scheduled
  truck : scheduled.truck = route.truck
  packages : scheduled.packages = route.packages
  departureTime : scheduled.departureTime.isSome
  timely : ∀ clock, route.Timely clock → route.truck = none → scheduled.Timely clock

private theorem scheduledFrom_of_schedule {scheduled : DeliveryRoute}
    (h : route.schedule now now = .ok scheduled) : ScheduledFrom now route scheduled := by
  obtain ⟨-, plan, s, hpath, hs, -, rfl⟩ := DeliveryRoute.schedule_eq_ok_iff.mp h
  refine ⟨.inr h, ⟨rfl, hpath, List.prefix_append _ _⟩, rfl, rfl, ?_, fun clock ht hn ↦ ?_⟩
  · simp [DeliveryRoute.departureTime, RoutePlan.departureTime, hs]
  · exact ⟨by simp [hs], by simp, by simp, by simp [hn]⟩

/-- The final ETA is that of the stored route, or of a departure now. -/
private theorem ScheduledFrom.eta {scheduled : DeliveryRoute} (h : ScheduledFrom now route scheduled)
    (hr : w.routes.find? route.routeId = some route) {eta : Datetime}
    (heta : eta ∈ scheduled.etaFinal) :
    now ≤ eta ∨ ∃ x ∈ w.routes.find? route.routeId, x.etaFinal = some eta := by
  rcases h.eq_or_schedule with rfl | hschedule
  · exact .inr ⟨_, hr, heta⟩
  · obtain ⟨-, plan, s, -, hs, ht, rfl⟩ := DeliveryRoute.schedule_eq_ok_iff.mp hschedule
    left
    have heta' : some s.etaFinal = some eta := by
      simpa [DeliveryRoute.etaFinal, hs] using heta
    rw [← ht, ← Option.some.inj heta']
    exact s.departureTime_lt_etaFinal.le

/-- Scheduling where needed. -/
theorem ensures_scheduleIfNeeded (hr : w.routes.find? route.routeId = some route) :
    Ensures (scheduleIfNeeded route now) w
      (fun scheduled w' ↦ w' = w.putRoute scheduled ∧ ScheduledFrom now route scheduled)
      (fun _ w' ↦ w' = w) := by
  unfold scheduleIfNeeded
  cases hd : route.departureTime with
  | some t =>
    rw [ensures_pure]
    refine ⟨?_, ⟨.inl rfl, .refl _, rfl, rfl, by simp [hd], fun _ ht _ ↦ ht⟩⟩
    rw [putRoute, Store.put_eq_self hr]
  | none =>
    simp only [ensures_bind, ensures_modify, ensures_pure]
    rw [ensures_lift]
    exact ⟨fun scheduled hs ↦ ⟨rfl, scheduledFrom_of_schedule hs⟩, fun _ _ ↦ rfl⟩

/-- Linking in memory, or a world in which at most the route has been scheduled. -/
theorem ensures_assignInMemory (h : w.Sound u allowed clock)
    (hr : w.routes.find? route.routeId = some route)
    (ht : w.trucks.find? truck.vehicleId = some truck) (hnone : route.truck = none)
    (hlimits : route.WithinLimits (w.packagesOf route) truck.capacity truck.maxRange) :
    Ensures (assignInMemory route truck now) w
      (fun _ w' ↦ w'.Sound u allowed clock ∧ ∃ es, UpdatesAt u now
        (Links w route.routeId now) (.route route.routeId) w es w')
      (fun _ w' ↦ ∃ route', route.Evolves route' ∧ w' = w.putRoute route') := by
  unfold assignInMemory
  rw [ensures_bind]
  refine (ensures_scheduleIfNeeded hr).mono ?_ fun _ w' hw' ↦ ⟨route, .refl _, ?_⟩
  · rintro scheduled _ ⟨rfl, hs⟩
    simp only [ensures_bind, ensures_modify]
    rw [ensures_lift]
    refine ⟨?_, fun _ _ ↦ ⟨scheduled, hs.evolves, rfl⟩⟩
    rintro ⟨linked, assigned⟩ hlink
    obtain ⟨hfree, hloc, rfl, events, rfl⟩ := DeliveryRoute.assignTruck_eq_ok hlink
    have hpath : SamePath route scheduled := ⟨hs.evolves.routeId, hs.evolves.path⟩
    have htimely := hs.timely clock (h.timely _ _ hr) hnone
    have hsound := h.editRoute hr hpath hs.truck hs.packages (.inr hnone) htimely
    have hfind : (w.putRoute scheduled).routes.find? scheduled.routeId = some scheduled := by simp
    have hscheduled : ∃ es, UpdatesAt u now (Links w route.routeId now) (.route route.routeId) w es
        (w.putRoute scheduled) := by
      rcases hs.eq_or_schedule with rfl | hschedule
      · rw [putRoute, Store.put_eq_self hr]
        exact ⟨[], .refl⟩
      · obtain ⟨es, hes⟩ := hs.evolves.events
        obtain ⟨e, hevents, he⟩ := DeliveryRoute.schedule_events hschedule hes.symm
        have hstamp : EventsAt now (Links w route.routeId now) es :=
      hevents ▸ eventsAt_singleton.mpr ⟨he, fun _ hassigned ↦ by cases hassigned⟩
        exact ⟨es, (Update.scheduleRoute hr hnone hschedule hes.symm).updatesAt hstamp⟩
    have hlinked := @Update.linkTruck u (w.putRoute scheduled) _ _ _ _ _ events hfind ht
      ((h.linked.linkState _ _ ht).idle hfree).2.2 hlink rfl
    obtain ⟨e, hevents, -, -, huntil, he⟩ := DeliveryRoute.assignTruck_events hlink rfl
    have hstamp : EventsAt now (Links w route.routeId now) events := by
      rw [hevents, eventsAt_singleton]
      refine ⟨he, fun assigned hassigned ↦ ?_⟩
      obtain rfl := DomainEvent.truckAssignedToRoute.inj hassigned
      intro eta heta
      rw [huntil] at heta
      exact hs.eta hr heta
    obtain ⟨es, hscheduled⟩ := hscheduled
    rw [← hpath.routeId] at hscheduled hstamp ⊢
    refine ⟨?_, es ++ events, hscheduled.trans (hlinked.updatesAt hstamp)⟩
    refine hsound.linkTruck hfind ht ⟨rfl, rfl⟩ rfl (hs.truck.trans hnone) hfree rfl rfl
      ⟨rfl, rfl, rfl, rfl⟩ ⟨by simp [Truck.assign], by simp [Truck.assign]⟩
      ⟨(h.located _ _ ht).place, fun _ ↦ hloc, by simp [Truck.assign]⟩ ⟨rfl, rfl⟩ ?_ ?_
    · obtain ⟨t1, t2, t3, -⟩ := htimely
      exact ⟨t1, t2, t3, fun _ ↦ hs.departureTime⟩
    · exact hpath.withinLimits (map_load_packagesOf hs.packages fun _ _ ↦ rfl) hlimits
  · rw [hw', putRoute, Store.put_eq_self hr]

/-- An accepted truck can carry the route. -/
private theorem withinLimits_of_accept {view : RouteSuitabilityView} {current : Option DeliveryRoute}
    (hview : routeForSuitability w route now = .ok view)
    (h : TruckAssignmentPolicy.evaluate truck current view = .accept) :
    route.WithinLimits (w.packagesOf route) truck.capacity truck.maxRange := by
  simp only [routeForSuitability, except_bind_eq_ok_iff, Except.ok.injEq] at hview
  obtain ⟨d, hd, rfl⟩ := hview
  obtain ⟨hrange, hload, -⟩ := TruckAssignmentPolicy.of_evaluate_eq_accept h
  refine ⟨fun k hk ↦ ?_, d, hd, hrange⟩
  have hall := (RouteLoadCalculator.maximumSegmentLoad_le_iff
    route.two_le_length_locations).mp hload k hk
  simpa using hall

/-- Assigning a truck. -/
theorem effectsAt_execute {truckId routeId : Int} (h : w.Sound u allowed clock) :
    (execute .inMemory truckId routeId now).EffectsAt u allowed clock now (Links w routeId now) w
      none := by
  unfold execute
  simp only [Action.EffectsAt, ensures_bind, ensures_get]
  cases hr : w.routes.find? routeId with
  | none => exact ensures_throw.mpr ⟨h, .refl⟩
  | some route =>
    cases ht : w.trucks.find? truckId with
    | none => exact ensures_throw.mpr ⟨h, .refl⟩
    | some truck =>
      obtain rfl : route.routeId = routeId := Store.key_of_find? hr
      obtain rfl : truck.vehicleId = truckId := Store.key_of_find? ht
      simp only [ensures_bind, ensures_lift_require]
      refine ⟨fun hnone ↦ ?_, fun _ ↦ ⟨h, .refl⟩⟩
      rw [ensures_lift]
      refine ⟨fun view hview ↦ ?_, fun _ _ ↦ ⟨h, .refl⟩⟩
      cases haccept : TruckAssignmentPolicy.evaluate truck (w.routeOf truck) view with
      | reject _ reason => exact ensures_throw.mpr ⟨h, .refl⟩
      | accept =>
        have hlimits := withinLimits_of_accept hview haccept
        simp only [ensures_tryCatch, Action.call_inMemory, ensures_bind, ensures_pure]
        refine (ensures_assignInMemory h hr ht hnone hlimits).mono
          (fun _ _ hw ↦ ⟨hw.1, hw.2.elim fun _ hes ↦ .updates hes rfl⟩) ?_
        rintro e _ ⟨route', hevolves, rfl⟩
        refine (Action.ensures_restoreRoute hr hevolves).mono ?_ fun _ _ hf ↦ hf.elim
        rintro _ _ rfl
        refine (Action.ensures_restoreTruck ht).mono ?_ fun _ _ hf ↦ hf.elim
        rintro _ _ rfl
        exact ensures_throw.mpr ⟨h, .refl⟩

/-- Assigning a truck, whenever it occurred. -/
theorem effects_execute {truckId routeId : Int} (h : w.Sound u allowed clock) :
    (execute .inMemory truckId routeId now).Effects u allowed clock w none :=
  (effectsAt_execute h).effects

/-- Assigning a truck keeps the world sound. -/
theorem keeps_execute {truckId routeId : Int} (h : w.Sound u allowed clock) :
    (execute .inMemory truckId routeId now).Keeps w (World.Sound u allowed clock) :=
  (effects_execute h).keeps

end AssignTruckToRouteUseCase

/-! ### Assigning packages -/

/-- Restoring a package that is as it was. -/
theorem Action.ensures_restorePackage {package : DeliveryPackage}
    (hp : w.packages.find? package.packageId = some package) :
    Ensures (restorePackage package.packageId package.snapshotState none) w
      (fun _ w' ↦ w' = w) (fun _ _ ↦ False) := by
  unfold restorePackage
  simp only [ensures_bind, ensures_get, hp, ensures_modify, putPackage]
  rw [show package.restoreState package.snapshotState = package from
    DeliveryPackage.restoreState_eq_of_same (.refl package) rfl, Store.put_eq_self hp]

namespace AssignPackagesToRouteUseCase

variable {routeId : Int} {package : DeliveryPackage} {now : Datetime}

/-- An accepted package keeps the route within the limits of its truck. -/
private theorem withinLimits_of_accept {route : DeliveryRoute}
    (h : PackageAssignmentPolicy.evaluate route (w.packagesOf route) (w.truckOf route) package now =
      .ok .accept) :
    route.includesInOrder package.startLocation package.endLocation = true ∧
      ∀ truck ∈ w.truckOf route, route.WithinLimits (w.packagesOf route ++ [package])
        truck.capacity truck.maxRange := by
  obtain ⟨hin, htruck⟩ := PackageAssignmentPolicy.of_evaluate_eq_accept h
  refine ⟨hin, fun truck ht ↦ ?_⟩
  obtain ⟨hload, hdistance⟩ := htruck truck ht
  refine ⟨fun k hk ↦ ?_, hdistance⟩
  have hall := (RouteLoadCalculator.maximumSegmentLoad_le_iff
    route.two_le_length_locations).mp hload k hk
  simpa using hall

/-- Assigning one waiting package. -/
theorem ensures_assignPackage (h : w.Sound u allowed clock)
    (hp : w.packages.find? package.packageId = some package) (hnone : package.route = none) :
    (assignPackage .inMemory routeId package now).Keeps w fun w' ↦
      w'.Sound u allowed clock ∧ ∃ es, UpdatesAt u now links (.route routeId) w es w' := by
  unfold assignPackage
  simp only [Action.Keeps, ensures_bind, ensures_get]
  cases hr : w.routes.find? routeId with
  | none => exact ensures_pure.mpr ⟨h, [], .refl⟩
  | some route =>
    obtain rfl : route.routeId = routeId := Store.key_of_find? hr
    have hnew : package.packageId ∉ route.packages := fun hmem ↦ by
      obtain ⟨x, hx, hxr⟩ := h.linked.package_of_route hr hmem
      rw [hp, Option.some.injEq] at hx
      rw [← hx, hnone] at hxr
      cases hxr
    simp only [ensures_tryCatch, ensures_bind, ensures_modify, Action.call_inMemory, ensures_pure]
    rw [ensures_lift]
    refine ⟨?_, fun e _ ↦ ?_⟩
    · rintro ⟨linkedRoute, linked⟩ hlink
      obtain ⟨haccept, ⟨arrival, rfl⟩, events, rfl⟩ := DeliveryRoute.assignPackage_eq_ok hnew hlink
      obtain ⟨hin, hlimits⟩ := withinLimits_of_accept haccept
      obtain ⟨t1, t2, t3, t4⟩ := h.timely _ _ hr
      obtain ⟨e, hevents, -, -, he⟩ := DeliveryRoute.assignPackage_events hnew hlink rfl
      have hstamp : EventsAt now links events :=
      hevents ▸ eventsAt_singleton.mpr ⟨he, fun _ hassigned ↦ by cases hassigned⟩
      exact ⟨h.linkPackage hr hp rfl rfl rfl rfl hnone ⟨rfl, rfl, rfl, rfl, rfl⟩ rfl rfl
        ⟨t1, t2, t3, t4⟩ hin hlimits, events,
        (Update.linkPackage hr hp hnone hnew hlink rfl).updatesAt hstamp⟩
    · split
      · rw [ensures_bind]
        have hrestore := Action.ensures_restoreRoute hr (DeliveryRoute.Evolves.refl route)
        rw [putRoute, Store.put_eq_self hr] at hrestore
        refine hrestore.mono ?_ fun _ _ hf ↦ hf.elim
        rintro _ _ rfl
        rw [ensures_bind]
        refine (Action.ensures_restorePackage hp).mono ?_ fun _ _ hf ↦ hf.elim
        rintro _ _ rfl
        exact ensures_throw.mpr ⟨h, [], .refl⟩
      · exact ensures_throw.mpr ⟨h, [], .refl⟩

/-- The loop over the packages of the command. -/
theorem ensures_assignAll {result : AssignPackagesToRouteResult} {packageIds : List Int}
    (h : w.Sound u allowed clock) :
    (assignAll .inMemory routeId now result packageIds).Keeps w fun w' ↦
      w'.Sound u allowed clock ∧ ∃ es, UpdatesAt u now links (.route routeId) w es w' := by
  induction packageIds generalizing w result with
  | nil => exact ensures_pure.mpr ⟨h, [], .refl⟩
  | cons p rest ih =>
    unfold assignAll
    simp only [Action.Keeps, ensures_bind, ensures_get]
    cases hp : w.packages.find? p with
    | none => exact ih h
    | some package =>
      obtain rfl : package.packageId = p := Store.key_of_find? hp
      dsimp only
      cases herror : assignedPackageError package with
      | some error => exact ih h
      | none =>
        have hnone : package.route = none := by
          rw [← h.linked.routeId hp]
          cases hid : package.routeId with
          | none => rfl
          | some r =>
            unfold assignedPackageError at herror
            rw [hid] at herror
            cases hlink : package.route <;> simp [hlink] at herror
        simp only [ensures_bind, ensures_tryCatch, ensures_pure]
        have hrest : ∀ {result : AssignPackagesToRouteResult} {w1 : World},
            (w1.Sound u allowed clock ∧ ∃ es, UpdatesAt u now links (.route routeId) w es w1) →
            (assignAll .inMemory routeId now result rest).Keeps w1 fun w' ↦
              w'.Sound u allowed clock ∧ ∃ es, UpdatesAt u now links (.route routeId) w es w' := by
          rintro result w1 ⟨h1, es, hes⟩
          exact (ih h1).mono (fun _ _ hw ↦ ⟨hw.1, hw.2.elim fun _ hes' ↦ ⟨_, hes.trans hes'⟩⟩)
            fun _ _ hw ↦ ⟨hw.1, hw.2.elim fun _ hes' ↦ ⟨_, hes.trans hes'⟩⟩
        refine (ensures_assignPackage h hp hnone).mono (fun _ _ hw ↦ hrest hw) fun e _ hw ↦ ?_
        split
        · exact ensures_pure.mpr (hrest hw)
        · exact ensures_throw.mpr hw

/-- Assigning packages. -/
theorem effectsAt_execute {packageIds : List Int} (h : w.Sound u allowed clock) :
    Action.EffectsAt (Prod.snd <$> execute .inMemory now routeId packageIds) u allowed clock now
      links w none := by
  unfold execute
  simp only [Action.EffectsAt, ensures_map, ensures_bind, ensures_get]
  cases w.routes.find? routeId with
  | none => exact ensures_throw.mpr ⟨h, .refl⟩
  | some route =>
    simp only [ensures_bind, ensures_pure]
    refine (ensures_assignAll h).mono
      (fun result _ hw ↦ ⟨hw.1, hw.2.elim fun _ hes ↦ .updates hes ?_⟩)
      fun _ _ hw ↦ ⟨hw.1, hw.2.elim fun _ hes ↦ .updates hes rfl⟩
    split <;> rfl

/-- Assigning packages, whenever it occurred. -/
theorem effects_execute {packageIds : List Int} (h : w.Sound u allowed clock) :
    Action.Effects (Prod.snd <$> execute .inMemory now routeId packageIds) u allowed clock w none :=
  have heffects : Action.EffectsAt (Prod.snd <$> execute .inMemory now routeId packageIds) u allowed
      clock now (fun _ ↦ True) w none := effectsAt_execute h
  heffects.effects

/-- Assigning packages keeps the world sound. -/
theorem keeps_execute {packageIds : List Int} (h : w.Sound u allowed clock) :
    (execute .inMemory now routeId packageIds).Keeps w (World.Sound u allowed clock) := by
  have heffects : Action.Effects (Prod.snd <$> execute .inMemory now routeId packageIds) u allowed
      clock w none := effects_execute h
  rw [Action.Effects, ensures_map] at heffects
  exact heffects.mono (fun _ _ hw ↦ hw.1) fun _ _ hw ↦ hw.1

end AssignPackagesToRouteUseCase

/-! ### Removing packages -/

namespace RemovePackageUseCase

variable {package : DeliveryPackage} {now : Datetime}

/-- The world after the detachment of a package. -/
structure Detached (u : UnicodeTables) (now : Datetime) (links : TruckAssignedToRoute → Prop)
    (package : DeliveryPackage) (w w' : World) : Prop where
  customers : w'.customers = w.customers
  package : ∃ detached, w'.packages.find? package.packageId = some detached ∧
    detached.packageId = package.packageId ∧ detached.customer = package.customer ∧
    detached.route = none
  updates : ∃ r es, UpdatesAt u now links (.route r) w es w'

/-- Detaching a package from the route it has, if any. -/
theorem ensures_detachFromRoute (links : TruckAssignedToRoute → Prop) (h : w.Sound u allowed clock)
    (hp : w.packages.find? package.packageId = some package) :
    Ensures (detachFromRoute package now) w
      (fun _ w' ↦ w'.Sound u allowed clock ∧ Detached u now links package w w')
      (fun _ _ ↦ False) := by
  have hrouteId := h.linked.routeId hp
  unfold detachFromRoute
  simp only [ensures_bind, ensures_get]
  cases hr : package.route with
  | none =>
    rw [hrouteId, hr]
    exact ensures_pure.mpr ⟨h, rfl, ⟨package, hp, rfl, rfl, hr⟩, 0, [], .refl⟩
  | some r =>
    rw [hrouteId, hr]
    obtain ⟨route, hroute, hmem⟩ := h.linked.route_of_package hp hr
    obtain rfl : route.routeId = r := Store.key_of_find? hroute
    obtain ⟨events, hdetach⟩ := DeliveryRoute.detachPackage_eq_ok hmem hr .packageRemoved now
    simp only [hroute, hdetach, asConflict, ensures_bind, ensures_lift_ok, ensures_set]
    obtain ⟨e, hevents, -, he⟩ := DeliveryRoute.detachPackage_events hdetach rfl
    have hstamp : EventsAt now links events :=
      hevents ▸ eventsAt_singleton.mpr ⟨he, fun _ hassigned ↦ by cases hassigned⟩
    obtain ⟨t1, t2, t3, t4⟩ := h.timely _ _ hroute
    refine ⟨h.unlinkPackage hroute hp rfl rfl rfl rfl hr ⟨rfl, rfl, rfl, rfl, rfl⟩ rfl rfl
      ⟨rfl, rfl, rfl⟩ ⟨t1, t2, t3, t4⟩, rfl, ⟨package.resetAssignmentState, ?_, rfl, rfl, rfl⟩,
      route.routeId, events, (Update.unlinkPackage hroute hp hmem hr hdetach rfl).updatesAt hstamp⟩
    rw [Store.find?_put,
      if_pos (show package.resetAssignmentState.packageId = package.packageId from rfl)]

/-- Removing a package. -/
theorem effectsAt_execute {packageId : Int} (h : w.Sound u allowed clock) :
    (execute .inMemory now packageId).EffectsAt u allowed clock now links w (some (.package packageId)) := by
  unfold execute
  simp only [Action.EffectsAt, ensures_bind, ensures_get]
  cases hp : w.packages.find? packageId with
  | none => exact ensures_throw.mpr ⟨h, .refl⟩
  | some package =>
    obtain rfl : package.packageId = packageId := Store.key_of_find? hp
    simp only [ensures_tryCatch, ensures_bind]
    refine (ensures_detachFromRoute links h hp).mono ?_ fun _ _ hf ↦ hf.elim
    rintro _ w1 ⟨h1, hcustomers, ⟨detached, hdetached, hid, hcustomer, hnone⟩, r, es, hes⟩
    obtain ⟨customer, hc, hmem⟩ := h1.linked.customer_of_package hdetached
    unfold removeFromCustomer Customer.removePackage
    rw [hcustomer] at hc
    simp only [ensures_bind, ensures_get, hc, if_pos hmem, asConflict, ensures_lift_ok,
      ensures_modify, hdetached, ensures_set, Action.call_inMemory, ensures_pure, Option.getD_some]
    rw [Store.remove_put (show (detached.recordRemoval _ _ _ _ _).packageId = _ from hid), ← hid]
    rw [← hid] at hdetached
    have hbuffer : w1.buffer (.package detached.packageId) = detached.pendingEvents := by
      simp [buffer, hdetached]
    have hremoved : ∃ event : PackageRemoved, event.packageId = detached.packageId ∧
        event.occurredAt = now ∧ ([EventRecorder.removed (detached.recordRemoval package.routeId
          package.status package.currentLocation package.expectedArrival now).pendingEvents,
          EventRecorder.customer package.customer] ++
          package.route.toList.map EventRecorder.route).filterMap EventRecorder.removed? =
            [w1.buffer (.package detached.packageId) ++ [.packageRemoved event]] := by
      have hroutes : (package.route.toList.map EventRecorder.route).filterMap
          EventRecorder.removed? = [] := by cases package.route <;> rfl
      rw [hbuffer, List.filterMap_append, hroutes]
      refine ⟨?_, ?_, ?_, ?_⟩
      rotate_left 3
      · exact rfl
      · exact rfl
      · exact rfl
    obtain ⟨event, hevent, hstamp, hremoved⟩ := hremoved
    exact ⟨h1.dropPackage hdetached (hcustomer ▸ hc) hnone,
      .removal hes (Removal.package hdetached hnone hevent rfl rfl rfl) hstamp hremoved⟩

/-- Removing a package, whenever it occurred. -/
theorem effects_execute {packageId : Int} (h : w.Sound u allowed clock) :
    (execute .inMemory now packageId).Effects u allowed clock w (some (.package packageId)) :=
  have heffects : (execute .inMemory now packageId).EffectsAt u allowed clock now (fun _ ↦ True) w
      (some (.package packageId)) := effectsAt_execute h
  heffects.effects

/-- Removing a package keeps the world sound. -/
theorem keeps_execute {packageId : Int} (h : w.Sound u allowed clock) :
    (execute .inMemory now packageId).Keeps w (World.Sound u allowed clock) :=
  (effects_execute h).keeps

end RemovePackageUseCase

/-! ### Removing routes -/

namespace RemoveRouteUseCase

variable {routeId : Int} {now : Datetime}

/-- Detaching all packages of a route. -/
theorem ensures_detachPackages (links : TruckAssignedToRoute → Prop) {ids : List Int}
    {route : DeliveryRoute} (h : w.Sound u allowed clock) (hr : w.routes.find? routeId = some route)
    (hids : route.packages = ids) :
    Ensures (detachPackages routeId now ids) w
      (fun _ w' ↦ w'.Sound u allowed clock ∧ (∃ route', w'.routes.find? routeId = some route' ∧
        route'.packages = []) ∧ ∃ es, UpdatesAt u now links (.route routeId) w es w')
      (fun _ _ ↦ False) := by
  induction ids generalizing w route with
  | nil => exact ensures_pure.mpr ⟨h, ⟨route, hr, hids⟩, [], .refl⟩
  | cons p rest ih =>
    obtain rfl : route.routeId = routeId := Store.key_of_find? hr
    have hmem : p ∈ route.packages := by simp [hids]
    obtain ⟨package, hp, hlink⟩ := h.linked.package_of_route hr hmem
    obtain rfl : package.packageId = p := Store.key_of_find? hp
    obtain ⟨events, hdetach⟩ := DeliveryRoute.detachPackage_eq_ok hmem hlink .routeRemoved now
    unfold detachPackages
    simp only [ensures_bind, ensures_get, hr, hp, hdetach, ensures_lift_ok, ensures_set]
    obtain ⟨e, hevents, -, he⟩ := DeliveryRoute.detachPackage_events hdetach rfl
    have hstamp : EventsAt now links events :=
      hevents ▸ eventsAt_singleton.mpr ⟨he, fun _ hassigned ↦ by cases hassigned⟩
    obtain ⟨t1, t2, t3, t4⟩ := h.timely _ _ hr
    refine Ensures.mono (ih (h.unlinkPackage hr hp rfl rfl rfl rfl hlink ⟨rfl, rfl, rfl, rfl, rfl⟩
      rfl rfl ⟨rfl, rfl, rfl⟩ ⟨t1, t2, t3, t4⟩) (by rw [Store.find?_put, if_pos rfl]) ?_)
      (fun _ w' hw ↦ ⟨hw.1, hw.2.1, hw.2.2.elim fun es hes ↦ ⟨events ++ es, ?_⟩⟩) fun _ _ hf ↦ hf
    · simp [hids]
    · exact ((Update.unlinkPackage hr hp hmem hlink hdetach rfl).updatesAt hstamp).trans hes

/-- Releasing the truck of a route, if any. -/
theorem ensures_releaseTruck (links : TruckAssignedToRoute → Prop) {route : DeliveryRoute}
    (hmap : ∀ l ∈ Map.locations, allowed (some l)) (h : w.Sound u allowed clock)
    (hr : w.routes.find? routeId = some route) (hlist : route.packages = []) :
    Ensures (releaseTruck routeId now) w
      (fun _ w' ↦ w'.Sound u allowed clock ∧ (∃ route', w'.routes.find? routeId = some route' ∧
        route'.packages = [] ∧ route'.truck = none) ∧
          ∃ es, UpdatesAt u now links (.route routeId) w es w')
      (fun _ _ ↦ False) := by
  obtain rfl : route.routeId = routeId := Store.key_of_find? hr
  unfold releaseTruck
  simp only [ensures_bind, ensures_get, hr]
  cases ht : route.truck with
  | none =>
    simp only [truckOf, ht, Option.bind_none, DeliveryRoute.releaseTruck, ensures_lift_ok,
      ensures_set, Option.toList_none, Store.putAll_nil, Store.put_eq_self hr]
    exact ⟨h, ⟨route, hr, hlist, ht⟩, [], .refl⟩
  | some t =>
    obtain ⟨truck, htruck, hlink⟩ := h.linked.truck_of_route hr ht
    obtain rfl : truck.vehicleId = t := Store.key_of_find? htruck
    obtain ⟨location, hloc⟩ := Option.isSome_iff_exists.mp
      ((h.located _ _ htruck).onRoute (by simp [hlink]))
    obtain ⟨events, hrelease⟩ :=
      @DeliveryRoute.releaseTruck_eq_ok route truck route location hloc now .routeRemoved now
    have htruckOf : w.truckOf route = some truck := by
      unfold truckOf
      rw [ht]
      exact htruck
    have hrouteOf : w.routeOf truck = some route := by
      unfold routeOf
      rw [hlink]
      exact hr
    simp only [htruckOf, Option.bind_some, hrouteOf, hrelease, ensures_lift_ok, ensures_set,
      Option.toList_some, Store.putAll_cons, Store.putAll_nil]
    obtain ⟨e, hevents, -, -, he⟩ := DeliveryRoute.releaseTruck_events hloc hrelease rfl
    have hstamp : EventsAt now links events :=
      hevents ▸ eventsAt_singleton.mpr ⟨he, fun _ hassigned ↦ by cases hassigned⟩
    obtain ⟨t1, t2, t3, -⟩ := h.timely _ _ hr
    refine ⟨h.unlinkTruck hr ⟨rfl, rfl⟩ rfl ht rfl rfl ⟨rfl, rfl, rfl, rfl⟩
      ⟨by simp [Truck.free], fun _ ↦ ⟨rfl, rfl, rfl⟩⟩
      ⟨hmap _ ?_, by simp [Truck.free], by simp [Truck.free]⟩
      ⟨t1, t2, t3, by simp⟩, ⟨{ route with
        truck := none
        pendingEvents := route.pendingEvents ++ events }, ?_, hlist, rfl⟩, events, ?_⟩
    · exact route.plan.path.mem_map (List.getLast_mem _)
    · rw [Store.find?_put, if_pos rfl]
    · exact (Update.unlinkTruck hr htruck ht hloc hrelease rfl).updatesAt hstamp

/-- Removing a route. -/
theorem effectsAt_execute (hmap : ∀ l ∈ Map.locations, allowed (some l))
    (h : w.Sound u allowed clock) :
    (execute .inMemory now routeId).EffectsAt u allowed clock now links w (some (.route routeId)) := by
  unfold execute
  simp only [Action.EffectsAt, ensures_bind, ensures_get]
  cases hr : w.routes.find? routeId with
  | none => exact ensures_throw.mpr ⟨h, .refl⟩
  | some route =>
    obtain rfl : route.routeId = routeId := Store.key_of_find? hr
    simp only [ensures_tryCatch, ensures_bind]
    refine (ensures_detachPackages links h hr rfl).mono ?_ fun _ _ hf ↦ hf.elim
    rintro _ w1 ⟨h1, ⟨route1, hr1, hlist1⟩, es, hes⟩
    refine (ensures_releaseTruck links hmap h1 hr1 hlist1).mono ?_ fun _ _ hf ↦ hf.elim
    rintro _ w2 ⟨h2, ⟨route2, hr2, hlist2, htruck2⟩, es', hes'⟩
    unfold persistRemoval
    simp only [ensures_get, ensures_set, ensures_bind, hr2, Option.getD_some]
    refine Action.ensures_calls.mono ?_ fun _ _ hf ↦ hf.elim
    rintro _ _ rfl
    refine Action.ensures_calls.mono ?_ fun _ _ hf ↦ hf.elim
    rintro _ _ rfl
    simp only [Action.call_inMemory, ensures_pure, ensures_modify]
    have hid : route2.routeId = route.routeId := Store.key_of_find? hr2
    rw [Store.remove_put (show (route2.recordRemoval _ _ _).routeId = _ from hid), ← hid]
    rw [← hid] at hr2 hes hes'
    have hbuffer : w2.buffer (.route route2.routeId) = route2.pendingEvents := by
      simp [buffer, hr2]
    have hremoved : ∃ event : RouteRemoved, event.routeId = route2.routeId ∧
        event.occurredAt = now ∧ [EventRecorder.removed
          (route2.recordRemoval route.packages route.truck now).pendingEvents].filterMap EventRecorder.removed? =
            [w2.buffer (.route route2.routeId) ++ [.routeRemoved event]] := by
      rw [hbuffer]
      exact ⟨_, rfl, rfl, rfl⟩
    obtain ⟨event, hevent, hstamp, hremoved⟩ := hremoved
    exact ⟨h2.dropRoute hr2 htruck2 hlist2, .removal (hes.trans hes')
      (Removal.route hr2 htruck2 hlist2 hevent rfl rfl rfl) hstamp hremoved⟩

/-- Removing a route, whenever it occurred. -/
theorem effects_execute (hmap : ∀ l ∈ Map.locations, allowed (some l))
    (h : w.Sound u allowed clock) :
    (execute .inMemory now routeId).Effects u allowed clock w (some (.route routeId)) :=
  have heffects : (execute .inMemory now routeId).EffectsAt u allowed clock now (fun _ ↦ True) w
      (some (.route routeId)) := effectsAt_execute hmap h
  heffects.effects

/-- Removing a route keeps the world sound. -/
theorem keeps_execute (hmap : ∀ l ∈ Map.locations, allowed (some l)) (h : w.Sound u allowed clock) :
    (execute .inMemory now routeId).Keeps w (World.Sound u allowed clock) :=
  (effects_execute hmap h).keeps

end RemoveRouteUseCase
end FleetFlow
