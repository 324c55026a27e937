import FleetFlow.Snapshot.Swap
import FleetFlow.Snapshot.Prepared
import FleetFlow.Runtime.Guarantees

/-!
# The world after a load

Follows `application/services/world_state_snapshot_service.py`. A load that succeeds ends with the
prepared objects and with every truck of the fleet in the state of its binding, or free when
nothing binds it. Whatever the file was, this world is consistent.
-/

namespace FleetFlow

open Program

/-- No step of a replacement raises. -/
def SwapFaults.none : SwapFaults where
  raises _ := .none

/-- Prepare a snapshot and replace the world with it;
`application/services/world_state_snapshot_service.py:111–133`. -/
def WorldStateSnapshotService.applySnapshot [WeightArithmetic] (u : UnicodeTables)
    (faults : SwapFaults) (now : Datetime) (snapshot : WorldStateSnapshot) : Action PUnit := do
  let w ← get
  let world ← Program.lift
    (WorldStateSnapshotPreparer.prepare u w.trucks now snapshot supportedSchemaVersions)
  InMemoryWorldStateRuntime.replaceWorldState faults world

/-- A world with the objects and the trucks of a prepared one, in which the other trucks of the
fleet are free. -/
structure World.Loaded (previous prepared w : World) : Prop where
  customers : w.customers = prepared.customers
  packages : w.packages = prepared.packages
  routes : w.routes = prepared.routes
  counters : w.nextCustomerId = prepared.nextCustomerId ∧
    w.nextPackageId = prepared.nextPackageId ∧ w.nextRouteId = prepared.nextRouteId
  trucks : ∀ t, w.trucks.find? t =
    (prepared.trucks.find? t).or ((previous.trucks.find? t).map Truck.free)
  indexed : w.Indexed

variable {u : UnicodeTables} {faults : SwapFaults} {previous prepared w : World} {s : Swapping}
  {world : ReconciledWorld} {now : Datetime} {snapshot : WorldStateSnapshot}

/-! ### What a completed replacement leaves -/

namespace VehicleManager

/-- Cleared trucks are free. -/
theorem ensures_clearTrucks_world {trucks : List Truck} :
    Ensures (forM trucks (clearTruck faults)) s
      (fun _ s' ↦ s'.world =
        { s.world with trucks := s.world.trucks.putAll (trucks.map Truck.free) })
      (fun _ _ ↦ True) := by
  induction trucks generalizing s with
  | nil => exact ensures_pure.mpr rfl
  | cons truck rest ih =>
    have hone : Ensures (clearTruck faults truck) s
        (fun _ s' ↦ s'.world = s.world.putTruck truck.free) (fun _ _ ↦ True) := by
      unfold clearTruck
      simp only [ensures_bind, ensures_get]
      cases truck.route.bind s.previousRoutes.find? with
      | none =>
        simp only [ensures_bind, ensures_modify, ensures_step]
        exact ⟨fun _ ↦ trivial, fun _ _ ↦ trivial⟩
      | some route =>
        simp only [ensures_bind, ensures_lift, ensures_modify, ensures_step]
        exact ⟨fun _ _ ↦ ⟨fun _ ↦ trivial, fun _ _ ↦ trivial⟩, fun _ _ ↦ trivial⟩
    rw [List.forM_cons, ensures_bind]
    refine hone.mono (fun _ s1 h1 ↦ ih.mono (fun _ s2 h2 ↦ ?_) fun _ _ _ ↦ trivial)
      fun _ _ _ ↦ trivial
    rw [h2, h1]
    rfl

/-- Bindings are applied in turn. -/
theorem ensures_bindTrucks_world {bindings : List TruckBinding} :
    Ensures (forM bindings (bindTruck faults)) s
      (fun _ s' ↦ s'.world = bindings.foldl (fun w binding ↦ bound binding w) s.world)
      (fun _ _ ↦ True) := by
  induction bindings generalizing s with
  | nil => exact ensures_pure.mpr rfl
  | cons binding rest ih =>
    rw [List.forM_cons, ensures_bind]
    unfold bindTruck
    simp only [ensures_bind, ensures_modify, ensures_step]
    refine ⟨fun _ ↦ ih.mono (fun _ s' hs' ↦ ?_) fun _ _ _ ↦ trivial, fun _ _ ↦ trivial⟩
    rw [hs', List.foldl_cons]

/-- A binding of a prepared truck gives the fleet truck the prepared state. -/
theorem bound_bindingOf (hl : prepared.RouteLinked) (hroutes : w.routes = prepared.routes)
    {t : Int} {candidate truck : Truck} (hcandidate : prepared.trucks.find? t = some candidate)
    (ht : w.trucks.find? t = some truck) (hsame : truck.SameVehicle candidate) :
    bound (WorldStateSnapshotLinker.bindingOf candidate candidate.route) w =
      w.putTruck candidate := by
  have hkey : candidate.vehicleId = t := Store.key_of_find? hcandidate
  have hstate : truck.restoreState candidate.snapshotState = candidate :=
    Truck.restoreState_eq_of_same (b := truck) ⟨hsame.vehicleId.symm, hsame.name.symm,
      hsame.capacity.symm, hsame.maxRange.symm⟩
  unfold bound WorldStateSnapshotLinker.bindingOf
  rw [hkey, ht]
  dsimp only
  unfold Truck.restoreState Truck.snapshotState at hstate
  dsimp only at hstate
  rw [hstate]
  cases hroute : candidate.route with
  | none => rfl
  | some r =>
    obtain ⟨route, hr, hlink⟩ := hl.route_of_truck hcandidate hroute
    have hfind : (w.putTruck candidate).routes.find? r = some route := hroutes ▸ hr
    rw [Option.bind_some, hfind]
    have hself : (w.putTruck candidate).routes.put { route with truck := some t } =
        (w.putTruck candidate).routes := by
      have heq : { route with truck := some t } = route := by
        rw [← hlink]
      have hid : route.routeId = r := Store.key_of_find? hr
      rw [heq]
      exact Store.put_eq_self (hid ▸ hfind)
    unfold World.putRoute
    dsimp only
    rw [hself]

/-- The trucks of the bindings are in the prepared state, and nothing else changes. -/
theorem foldl_bound (hl : prepared.RouteLinked) {bindings : List TruckBinding}
    (hbindings : ∀ binding ∈ bindings, ∃ candidate,
      prepared.trucks.find? binding.vehicleId = some candidate ∧
        binding = WorldStateSnapshotLinker.bindingOf candidate candidate.route)
    (hroutes : w.routes = prepared.routes)
    (hfleet : ∀ t candidate, prepared.trucks.find? t = some candidate →
      ∃ truck, w.trucks.find? t = some truck ∧ truck.SameVehicle candidate) :
    ∃ trucks : Fleet, bindings.foldl (fun w binding ↦ bound binding w) w =
        { w with trucks := trucks } ∧
      ∀ t, trucks.find? t = if t ∈ bindings.map TruckBinding.vehicleId then
        prepared.trucks.find? t else w.trucks.find? t := by
  induction bindings generalizing w with
  | nil => exact ⟨w.trucks, rfl, fun t ↦ by simp⟩
  | cons binding rest ih =>
    obtain ⟨candidate, hcandidate, hbinding⟩ := hbindings binding (by simp)
    obtain ⟨truck, ht, hsame⟩ := hfleet _ _ hcandidate
    have hkey : candidate.vehicleId = binding.vehicleId := Store.key_of_find? hcandidate
    have hbound : bound binding w = w.putTruck candidate := by
      rw [hbinding]
      exact bound_bindingOf hl hroutes hcandidate ht hsame
    have hput : ∀ t, (w.putTruck candidate).trucks.find? t =
        if candidate.vehicleId = t then some candidate else w.trucks.find? t :=
      fun t ↦ Store.find?_put
    have hnext : ∀ t c, prepared.trucks.find? t = some c →
        ∃ truck, (w.putTruck candidate).trucks.find? t = some truck ∧ truck.SameVehicle c := by
      intro t c hc
      rw [hput]
      split
      · next hself =>
        obtain rfl : candidate = c := by
          rw [← hself, hkey, hcandidate] at hc
          exact Option.some.inj hc
        exact ⟨candidate, rfl, .refl _⟩
      · exact hfleet t c hc
    obtain ⟨trucks, hfold, hfind⟩ := ih (w := w.putTruck candidate)
      (fun b hb ↦ hbindings b (by simp [hb])) hroutes hnext
    refine ⟨trucks, ?_, fun t ↦ ?_⟩
    · rw [List.foldl_cons, hbound, hfold]
    · rw [hfind, hput, hkey]
      simp only [List.map_cons, List.mem_cons]
      by_cases hrest : t ∈ rest.map TruckBinding.vehicleId
      · rw [if_pos hrest, if_pos (.inr hrest)]
      · by_cases hself : binding.vehicleId = t
        · rw [if_neg hrest, if_pos hself, if_pos (.inl hself.symm), ← hself, hcandidate]
        · rw [if_neg hrest, if_neg hself, if_neg (not_or.mpr ⟨fun h ↦ hself h.symm, hrest⟩)]

end VehicleManager

/-! ### Contacts -/

/-- The name of a contact is stripped. -/
theorem ContactInfo.name_of_new {name email phoneNumber : String} {contact : ContactInfo}
    (h : ContactInfo.new u name email phoneNumber = .ok contact) :
    contact.name = PyStr.strip u name := by
  simp only [ContactInfo.new, except_bind_eq_ok_iff, Except.ok.injEq] at h
  obtain ⟨cleaned, hname, _, -, _, -, rfl⟩ := h
  simp only [cleanName, require_bind_eq_ok_iff, Except.ok.injEq] at hname
  exact hname.2.2.symm

/-- The texts of a contact are the ones that the validator compares. -/
theorem ContactInfo.keys_of_new {customer : CustomerSnapshot} {contact : ContactInfo}
    (h : ContactInfo.new u customer.name customer.email customer.phone = .ok contact) :
    contact.email = customer.emailKey u ∧ contact.phoneNumber = customer.phoneKey u := by
  simp only [ContactInfo.new, except_bind_eq_ok_iff, Except.ok.injEq] at h
  obtain ⟨name, -, email, hemail, phone, hphone, rfl⟩ := h
  constructor
  · unfold CustomerSnapshot.emailKey
    unfold cleanEmail at hemail
    dsimp only at hemail
    split at hemail
    · next hempty =>
      rw [hempty]
      exact (Except.ok.inj hemail).symm
    · simp only [except_bind_eq_ok_iff, Except.ok.injEq] at hemail
      obtain ⟨-, -, rfl⟩ := hemail
      rfl
  · unfold CustomerSnapshot.phoneKey
    unfold cleanPhone at hphone
    split at hphone
    · next hempty =>
      rw [hempty, PyStr.strip_eq_self fun c hc ↦ by simp at hc]
      exact (Except.ok.inj hphone).symm
    · simp only [require_bind_eq_ok_iff, Except.ok.injEq] at hphone
      exact hphone.2.2.2.symm

namespace WorldSnapshotData.Linked

variable {fleet : Fleet} {data : WorldSnapshotData} {version : Int}

/-- The prepared customers share no email and no phone number. -/
theorem uniqueContacts (h : data.Linked u fleet w) (hvalid : data.Valid u fleet version) :
    CustomerRepository.UniqueContacts w.customers.values := by
  have hrecord : ∀ {customer : Customer}, customer ∈ w.customers.values →
      ∃ record ∈ data.customers, record.customerId = customer.customerId ∧
        customer.contact.email = record.emailKey u ∧
        customer.contact.phoneNumber = record.phoneKey u := by
    intro customer hmem
    obtain ⟨record, hrecord, hid, hrebuilds⟩ := h.customers.backward (Store.mem_values.mp hmem)
    obtain ⟨hemail, hphone⟩ := ContactInfo.keys_of_new hrebuilds.contact
    exact ⟨record, hrecord, hid, hemail, hphone⟩
  have hapart : ∀ {field : CustomerSnapshot → String}, data.customers.Pairwise (Apart field) →
      ∀ {a b : CustomerSnapshot}, a ∈ data.customers → b ∈ data.customers →
        a.customerId ≠ b.customerId → field a = field b → field a = "" := by
    intro field hpairwise a b ha hb hne heq
    by_contra hempty
    have hsymm : Std.Symm (Apart field) := ⟨fun x y hxy hy hyx ↦ hxy (hyx ▸ hy) hyx.symm⟩
    exact hpairwise.forall ha hb (fun hab ↦ hne (congrArg _ hab)) hempty heq
  have hpairwise := List.pairwise_map.mp (Store.nodup_values (s := w.customers))
  refine ⟨Store.nodup_values, ?_, ?_⟩
  · refine hpairwise.imp_of_mem fun ha hb hne heq ↦ ?_
    obtain ⟨record, hr, hid, hemail, -⟩ := hrecord ha
    obtain ⟨record', hr', hid', hemail', -⟩ := hrecord hb
    rw [hemail, hemail'] at heq
    rw [hemail]
    rw [← hid, ← hid'] at hne
    exact hapart hvalid.emails hr hr' hne heq
  · refine hpairwise.imp_of_mem fun ha hb hne heq ↦ ?_
    obtain ⟨record, hr, hid, -, hphone⟩ := hrecord ha
    obtain ⟨record', hr', hid', -, hphone'⟩ := hrecord hb
    rw [hphone, hphone'] at heq
    rw [hphone]
    rw [← hid, ← hid'] at hne
    exact hapart hvalid.phones hr hr' hne heq

end WorldSnapshotData.Linked

/-! ### The loaded world -/

/-- The fleet with every truck freed. -/
theorem find?_freed (trucks : Fleet) (t : Int) :
    (trucks.putAll (trucks.values.map Truck.free)).find? t = (trucks.find? t).map Truck.free := by
  have hnd : ((trucks.values.map Truck.free).map (·.vehicleId)).Nodup := by
    rw [List.map_map]
    exact Store.nodup_values
  cases ht : trucks.find? t with
  | none =>
    rw [Store.find?_putAll_of_notMem, ht, Option.map_none]
    rw [List.map_map]
    intro hmem
    obtain ⟨truck, htruck, hid⟩ := List.mem_map.mp hmem
    rw [← hid] at ht
    exact absurd ((Store.mem_values.mp htruck).symm.trans ht) (by simp)
  | some truck =>
    have hid : truck.vehicleId = t := Store.key_of_find? ht
    have hkey : truck.free.vehicleId = t := hid
    rw [Option.map_some, ← hkey]
    exact Store.find?_putAll_of_mem hnd (List.mem_map_of_mem (Store.mem_values_of_find? ht))

namespace ReconciledWorld.PreparedFrom

variable {skipped : List Int} {joined : World}

/-- The reconciled world is linked. -/
theorem worldLinked {fleet : Fleet}
    (h : world.PreparedFrom u fleet now snapshot skipped joined prepared) : prepared.Linked :=
  h.advanced.linked (h.linked.linked h.valid)

/-- No two customers share a contact. -/
theorem uniqueContacts {fleet : Fleet}
    (h : world.PreparedFrom u fleet now snapshot skipped joined prepared) :
    CustomerRepository.UniqueContacts world.customers.values :=
  h.customers_joined ▸ h.linked.uniqueContacts h.valid

/-- A prepared truck is a truck of the fleet. -/
theorem sameVehicle {fleet : Fleet}
    (h : world.PreparedFrom u fleet now snapshot skipped joined prepared) {t : Int}
    {candidate : Truck} (ht : prepared.trucks.find? t = some candidate) :
    ∃ truck, fleet.find? t = some truck ∧ truck.SameVehicle candidate := by
  have hjoined := h.linked.linked h.valid
  obtain ⟨before, hbefore, hmoved⟩ := h.advanced.trucks.backward ht
  obtain ⟨truck, htruck, hsame⟩ := h.linked.sameVehicle hbefore
  have hmove := (hmoved.links hjoined.toRouteLinked hbefore (hjoined.linkState _ _ hbefore)).1
  exact ⟨truck, htruck, hsame.trans hmove⟩

/-- A replacement that completes leaves the prepared world. -/
theorem ensures_swap_loaded
    (h : world.PreparedFrom u previous.trucks now snapshot skipped joined prepared) :
    Ensures (InMemoryWorldStateRuntime.swap faults world) ⟨previous, previous.routes⟩
      (fun _ s' ↦ previous.Loaded prepared s'.world) (fun _ _ ↦ True) := by
  have hl := h.worldLinked.toRouteLinked
  have hcounters : prepared.nextCustomerId = world.counters.nextCustomerId ∧
      prepared.nextPackageId = world.counters.nextPackageId ∧
      prepared.nextRouteId = world.counters.nextRouteId := by
    rw [h.counters_eq]
    exact ⟨rfl, rfl, rfl⟩
  have hunique := h.uniqueContacts
  unfold InMemoryWorldStateRuntime.swap InMemoryWorldStateRuntime.onWorld
    CustomerRepository.replaceCustomers InMemoryWorldStateRuntime.replacePackages
    InMemoryWorldStateRuntime.replaceRoutes VehicleManager.replaceTruckBindings
  simp only [ensures_bind, ensures_get, ensures_zoom, ensures_set, ensures_modify,
    VehicleManager.ensures_step]
  refine ⟨fun _ ↦ ⟨fun _ ↦ ⟨fun _ ↦ ?_, fun _ _ ↦ trivial⟩, fun _ _ ↦ trivial⟩,
    fun _ _ ↦ trivial⟩
  refine VehicleManager.ensures_clearTrucks_world.mono (fun _ s1 h1 ↦ ?_) fun _ _ _ ↦ trivial
  refine VehicleManager.ensures_bindTrucks_world.mono (fun _ s2 h2 ↦ ?_) fun _ _ _ ↦ trivial
  dsimp only at h1
  have hroutes : s1.world.routes = prepared.routes := by
    rw [h1]
    exact h.routes
  have htrucks : ∀ t, s1.world.trucks.find? t = (previous.trucks.find? t).map Truck.free := by
    intro t
    rw [h1]
    exact find?_freed previous.trucks t
  have hfleet : ∀ t candidate, prepared.trucks.find? t = some candidate →
      ∃ truck, s1.world.trucks.find? t = some truck ∧ truck.SameVehicle candidate := by
    intro t candidate hcandidate
    obtain ⟨truck, ht, hsame⟩ := h.sameVehicle hcandidate
    refine ⟨truck.free, by rw [htrucks, ht, Option.map_some], ?_⟩
    exact ⟨hsame.vehicleId, hsame.name, hsame.capacity, hsame.maxRange⟩
  have hbindings : ∀ binding ∈ world.truckBindings, ∃ candidate,
      prepared.trucks.find? binding.vehicleId = some candidate ∧
        binding = WorldStateSnapshotLinker.bindingOf candidate candidate.route :=
    fun binding hmem ↦ (h.bindings binding).mp hmem
  obtain ⟨trucks, hfold, hfind⟩ := VehicleManager.foldl_bound hl hbindings hroutes hfleet
  rw [h2, hfold, h1]
  refine ⟨Store.ofList_values.trans h.customers, h.packages, h.routes, ?_, fun t ↦ ?_, ?_⟩
  · exact ⟨hcounters.1.symm, hcounters.2.1.symm, hcounters.2.2.symm⟩
  · dsimp only
    rw [hfind, htrucks]
    cases ht : prepared.trucks.find? t with
    | none =>
      rw [if_neg]
      · rfl
      · intro hmem
        obtain ⟨binding, hbinding, rfl⟩ := List.mem_map.mp hmem
        obtain ⟨candidate, hcandidate, -⟩ := hbindings binding hbinding
        rw [ht] at hcandidate
        cases hcandidate
    | some candidate =>
      rw [if_pos]
      · rfl
      · have hkey : candidate.vehicleId = t := Store.key_of_find? ht
        refine List.mem_map.mpr
          ⟨_, (h.bindings (WorldStateSnapshotLinker.bindingOf candidate candidate.route)).mpr
            ⟨candidate, ?_, rfl⟩, hkey⟩
        rw [← ht, ← hkey]
        rfl
  · exact ⟨indexes_ofList hunique.id hunique.email, indexes_ofList hunique.id hunique.phone⟩

end ReconciledWorld.PreparedFrom

/-! ### The loaded world is consistent -/

/-- What a load establishes. -/
structure World.Consistent (w : World) : Prop where
  links : w.LinkInvariant
  limits : w.WithinLimits
  counted : w.Counted
  contacts : CustomerRepository.UniqueContacts w.customers.values
  indexed : w.Indexed

namespace World.Loaded

/-- A truck of the loaded world is a prepared one or free. -/
theorem truck_cases (h : previous.Loaded prepared w) {t : Int} {truck : Truck}
    (ht : w.trucks.find? t = some truck) :
    prepared.trucks.find? t = some truck ∨ ∃ before, truck = Truck.free before := by
  rw [h.trucks] at ht
  cases hprepared : prepared.trucks.find? t with
  | none =>
    rw [hprepared, Option.none_or, Option.map_eq_some_iff] at ht
    obtain ⟨before, -, rfl⟩ := ht
    exact .inr ⟨before, rfl⟩
  | some candidate =>
    rw [hprepared, Option.some_or] at ht
    exact .inl ht

/-- A truck with a route is a prepared one. -/
theorem truck_of_route (h : previous.Loaded prepared w) {t r : Int} {truck : Truck}
    (ht : w.trucks.find? t = some truck) (hr : truck.route = some r) :
    prepared.trucks.find? t = some truck := by
  refine (h.truck_cases ht).resolve_right ?_
  rintro ⟨before, rfl⟩
  cases hr

/-- The prepared trucks are kept. -/
theorem find?_truck (h : previous.Loaded prepared w) {t : Int} {truck : Truck}
    (ht : prepared.trucks.find? t = some truck) : w.trucks.find? t = some truck := by
  rw [h.trucks, ht, Option.some_or]

/-- Links stay consistent. -/
theorem linked (h : previous.Loaded prepared w) (hl : prepared.Linked) : w.Linked where
  truck_of_route hr ht := by
    obtain ⟨truck, hfind, hback⟩ := hl.truck_of_route (h.routes ▸ hr) ht
    exact ⟨truck, h.find?_truck hfind, hback⟩
  route_of_truck ht hr := by
    rw [h.routes]
    exact hl.route_of_truck (h.truck_of_route ht hr) hr
  package_of_route hr hp := by
    rw [h.packages]
    exact hl.package_of_route (h.routes ▸ hr) hp
  route_of_package hp hr := by
    rw [h.routes]
    exact hl.route_of_package (h.packages ▸ hp) hr
  nodup hr := hl.nodup (h.routes ▸ hr)
  routeId hp := hl.routeId (h.packages ▸ hp)
  window ht hr hroute := hl.window (h.truck_of_route ht hr) hr (h.routes ▸ hroute)
  customer_of_package hp := by
    rw [h.customers]
    exact hl.customer_of_package (h.packages ▸ hp)
  package_of_customer hc hp := by
    rw [h.packages]
    exact hl.package_of_customer (h.customers ▸ hc) hp
  nodup_customer := h.customers ▸ hl.nodup_customer
  linkState t truck ht := by
    rcases h.truck_cases ht with hprepared | ⟨before, rfl⟩
    · exact hl.linkState _ _ hprepared
    · exact ⟨by simp [Truck.free], fun _ ↦ ⟨rfl, rfl, rfl⟩⟩
  waiting := h.packages ▸ hl.waiting

/-- Loads and distances are within the limits. -/
theorem withinLimits (h : previous.Loaded prepared w) (hl : prepared.RouteLinked)
    (hlimits : prepared.WithinLimits) : w.WithinLimits := by
  intro r t route truck hr hlink ht
  rw [h.routes] at hr
  obtain ⟨candidate, hcandidate, -⟩ := hl.truck_of_route hr hlink
  obtain rfl := Option.some.inj (ht.symm.trans (h.find?_truck hcandidate))
  have hpackages : w.packagesOf route = prepared.packagesOf route := by
    unfold World.packagesOf
    rw [h.packages]
  rw [hpackages]
  exact hlimits hr hlink hcandidate

/-- Ids are below the counters. -/
theorem counted (h : previous.Loaded prepared w) (hc : prepared.Counted) : w.Counted where
  customers hfind := by
    rw [h.counters.1]
    exact hc.customers (h.customers ▸ hfind)
  packages hfind := by
    rw [h.counters.2.1]
    exact hc.packages (h.packages ▸ hfind)
  routes hfind := by
    rw [h.counters.2.2]
    exact hc.routes (h.routes ▸ hfind)
  pos := by
    rw [h.counters.1, h.counters.2.1, h.counters.2.2]
    exact hc.pos

end World.Loaded

/-- A world loaded from a prepared one is consistent. -/
theorem ReconciledWorld.PreparedFrom.consistent {fleet : Fleet} {skipped : List Int}
    {joined : World} (h : world.PreparedFrom u fleet now snapshot skipped joined prepared)
    (hloaded : previous.Loaded prepared w) : w.Consistent where
  links := (hloaded.linked h.worldLinked).linkInvariant
  limits := by
    refine hloaded.withinLimits h.worldLinked.toRouteLinked ?_
    exact h.advanced.withinLimits (h.linked.linked h.valid) (h.linked.withinLimits h.valid)
  counted := hloaded.counted (h.advanced.counted (h.linked.counted h.valid))
  contacts := by
    rw [hloaded.customers, ← h.customers]
    exact h.uniqueContacts
  indexed := hloaded.indexed

namespace WorldStateSnapshotService

/-- Without faults the prepared world is in place. -/
theorem ensures_replaceWorldState {skipped : List Int} {joined : World} (hp : previous.RouteLinked)
    (h : world.PreparedFrom u previous.trucks now snapshot skipped joined prepared) :
    Ensures (InMemoryWorldStateRuntime.replaceWorldState .none world) previous
      (fun _ w ↦ previous.Loaded prepared w) (fun _ _ ↦ False) := by
  have hcompletes : SwapFaults.none.Completes previous world :=
    ⟨⟨rfl, rfl, rfl⟩, fun _ _ ↦ rfl, fun _ _ ↦ rfl⟩
  unfold InMemoryWorldStateRuntime.replaceWorldState
  simp only [ensures_zoom, ensures_bind, ensures_get, ensures_tryCatch]
  exact (h.ensures_swap_loaded.and (InMemoryWorldStateRuntime.ensures_swap hp)).mono
    (fun _ s hs ↦ hs.1) fun _ _ hs ↦ absurd hcompletes hs.2.1

/-- Without faults a snapshot that is prepared is loaded, and any other leaves the world. -/
theorem ensures_applySnapshot (hp : previous.RouteLinked) :
    Ensures (applySnapshot u .none now snapshot) previous
      (fun _ w ↦ ∃ world skipped joined prepared,
        WorldStateSnapshotPreparer.prepare u previous.trucks now snapshot supportedSchemaVersions =
          .ok world ∧
        world.PreparedFrom u previous.trucks now snapshot skipped joined prepared ∧
        previous.Loaded prepared w)
      (fun e w ↦ w = previous ∧ WorldStateSnapshotPreparer.prepare u previous.trucks now snapshot
        supportedSchemaVersions = .error e) := by
  unfold applySnapshot
  simp only [ensures_bind, ensures_get, ensures_lift]
  refine ⟨fun world hprepare ↦ ?_, fun e he ↦ ⟨trivial, he⟩⟩
  obtain ⟨skipped, joined, prepared, hfrom⟩ :=
    WorldStateSnapshotPreparer.preparedFrom_of_prepare hprepare
  refine (ensures_replaceWorldState hp hfrom).mono (fun _ s hs ↦ ?_) fun _ _ hs ↦ hs.elim
  exact ⟨world, skipped, joined, prepared, hprepare, hfrom, hs⟩

/-- Every accepted snapshot loads into a consistent world. -/
theorem load_establishes (hp : previous.RouteLinked) :
    Ensures (applySnapshot u .none now snapshot) previous (fun _ w ↦ w.Consistent)
      (fun e w ↦ w = previous ∧ WorldStateSnapshotPreparer.prepare u previous.trucks now snapshot
        supportedSchemaVersions = .error e) := by
  refine (ensures_applySnapshot hp).mono (fun _ w hw ↦ ?_) fun _ _ hw ↦ hw
  obtain ⟨world, skipped, joined, prepared, -, hfrom, hloaded⟩ := hw
  exact hfrom.consistent hloaded

end WorldStateSnapshotService

namespace Scenario

/-- A file with one route under way, whose truck is at some place or nowhere. -/
def routeFile (place : Option LocationCode) : WorldStateSnapshot where
  schemaVersion := 2
  world := {
    counters := ⟨1, 1, 2⟩
    customers := []
    packages := []
    routes := [{
      routeId := 1
      locations := Map.locations.take 2
      departureTime := some "2024-01-01T08:00:00"
      truckVehicleId := some 1001
      packageIds := [] }]
    trucks := [{
      vehicleId := 1001
      status := .onTheWay
      currentLocation := place
      routeId := some 1
      busyFrom := none
      busyUntil := none
      inTransitTo := none }] }

/-- The file is accepted and loads into a consistent world. -/
theorem load_establishes_bound :
    (WorldStateSnapshotPreparer.prepare .asciiOnly boundWorld.trucks (hour 3)
      (routeFile Map.locations.head?) supportedSchemaVersions).isOk = true ∧
    Ensures (WorldStateSnapshotService.applySnapshot .asciiOnly .none (hour 3)
        (routeFile Map.locations.head?)) boundWorld (fun _ w ↦ w.Consistent)
      (fun e w ↦ w = boundWorld ∧ WorldStateSnapshotPreparer.prepare .asciiOnly boundWorld.trucks
        (hour 3) (routeFile Map.locations.head?) supportedSchemaVersions = .error e) :=
  have hsound := reachable_bound.sound (fun _ _ ↦ trivial) fleet_idle_anywhere
  ⟨by decide +kernel,
    WorldStateSnapshotService.load_establishes hsound.linked.toRouteLinked⟩

end Scenario
end FleetFlow
