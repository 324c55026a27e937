import FleetFlow.Snapshot.Preparer

/-!
# What the rebuilder makes of a snapshot

One object for each record, with the fields that the record gives. Customers list the packages of
the snapshot that name them.
-/

namespace FleetFlow

variable {u : UnicodeTables}

/-- A body whose errors some handlers report succeeds as it does without them. -/
theorem catching_eq_ok_iff {handlers : ErrorKind → Option (CorruptionReason × (String → String))}
    {α : Type} {body : Except PyError α} {a : α} :
    catching handlers body = .ok a ↔ body = .ok a := by
  cases body with
  | ok b => rfl
  | error e =>
    unfold catching
    dsimp only
    cases handlers e.kind <;> simp

/-- A customer as it is rebuilt next to some packages. -/
structure CustomerSnapshot.Rebuilds (u : UnicodeTables) (packages : List PackageSnapshot)
    (snapshot : CustomerSnapshot) (customer : Customer) : Prop where
  customerId : customer.customerId = snapshot.customerId
  contact : ContactInfo.new u snapshot.name snapshot.email snapshot.phone = .ok customer.contact
  deliveryPackages : customer.deliveryPackages =
    (packages.filter fun package ↦ package.customerId = snapshot.customerId).map
      PackageSnapshot.packageId
  pendingEvents : customer.pendingEvents = []

/-- A package as it is rebuilt. -/
def PackageSnapshot.Rebuilds (snapshot : PackageSnapshot) (package : DeliveryPackage) : Prop :=
  DeliveryPackage.new snapshot.start snapshot.end_ (.finite snapshot.weight) snapshot.customerId
    snapshot.packageId = .ok package

/-- A route as it is rebuilt. -/
def RouteSnapshot.Rebuilds (u : UnicodeTables) (snapshot : RouteSnapshot)
    (route : DeliveryRoute) : Prop :=
  WorldStateSnapshotRebuilder.rebuildRoute u snapshot = .ok route

/-- The detached world before anything is linked. -/
structure WorldSnapshotData.Rebuilt (u : UnicodeTables) (data : WorldSnapshotData) (w : World) :
    Prop where
  frame : w = WorldStateSnapshotRebuilder.assemble data.counters w.customers w.packages w.routes
  customers : w.customers.Lists CustomerSnapshot.customerId (CustomerSnapshot.Rebuilds u data.packages)
    data.customers
  packages : w.packages.Lists PackageSnapshot.packageId PackageSnapshot.Rebuilds data.packages
  routes : w.routes.Lists RouteSnapshot.routeId (RouteSnapshot.Rebuilds u) data.routes

namespace WorldStateSnapshotRebuilder

theorem rebuildCustomer_eq_ok_iff {snapshot : CustomerSnapshot} {customer : Customer} :
    rebuildCustomer u snapshot = .ok customer ↔ snapshot.Rebuilds u [] customer := by
  simp only [rebuildCustomer, except_bind_eq_ok_iff, Customer.new_eq_ok_iff]
  constructor
  · rintro ⟨contact, hcontact, hid, rfl, hpackages, hevents⟩
    exact ⟨hid, hcontact, hpackages, hevents⟩
  · rintro ⟨hid, hcontact, hpackages, hevents⟩
    exact ⟨_, hcontact, hid, rfl, hpackages, hevents⟩

theorem rebuildRoute_eq_ok_iff {snapshot : RouteSnapshot} {route : DeliveryRoute} :
    snapshot.Rebuilds u route ↔
      dtFromStr u snapshot.departureTime = .ok route.departureTime ∧
        route.routeId = snapshot.routeId ∧ route.locations = snapshot.locations ∧
        route.truck = none ∧ route.packages = [] ∧ route.pendingEvents = [] ∧
        route.status = if route.departureTime.isSome then .scheduled else .planned := by
  simp only [RouteSnapshot.Rebuilds, rebuildRoute, requirePositiveInt]
  rw [except_bind_eq_ok_iff]
  simp only [require_bind_eq_ok_iff]
  simp only [except_bind_eq_ok_iff, RoutePath.ofLocations_eq_ok_iff, DeliveryRoute.new_eq_ok_iff]
  constructor
  · rintro ⟨t, ht, -, path, hpath, hid, rfl, rfl, htruck, hpackages, hstatus, hevents⟩
    exact ⟨ht, hid, hpath, htruck, hpackages, hevents, hstatus⟩
  · rintro ⟨ht, hid, hpath, htruck, hpackages, hevents, hstatus⟩
    have hpos := route.routeId_pos
    exact ⟨_, ht, by omega, _, hpath, hid, rfl, rfl, htruck, hpackages, hstatus, hevents⟩

/-- One more package is stored and listed by its customer. -/
theorem rebuildPackage_step {data : WorldSnapshotData} {done : List PackageSnapshot}
    {snapshot : PackageSnapshot}
    {rebuilt rebuilt' : Store Customer.customerId × Store DeliveryPackage.packageId}
    (hids : (data.customers.map CustomerSnapshot.customerId).Nodup)
    (hcustomers : rebuilt.1.Lists CustomerSnapshot.customerId (CustomerSnapshot.Rebuilds u done)
      data.customers)
    (hpackages : rebuilt.2.Lists PackageSnapshot.packageId PackageSnapshot.Rebuilds done)
    (hnew : snapshot.packageId ∉ done.map PackageSnapshot.packageId)
    (h : rebuildPackage rebuilt snapshot = .ok rebuilt') :
    rebuilt'.1.Lists CustomerSnapshot.customerId
        (CustomerSnapshot.Rebuilds u (done ++ [snapshot])) data.customers ∧
      rebuilt'.2.Lists PackageSnapshot.packageId PackageSnapshot.Rebuilds (done ++ [snapshot]) := by
  simp only [rebuildPackage, except_bind_eq_ok_iff, Store.getItem_eq_ok_iff,
    Except.ok.injEq] at h
  obtain ⟨customer, hcustomer, package, hpackage, rfl⟩ := h
  have hcid : customer.customerId = snapshot.customerId := Store.key_of_find? hcustomer
  obtain ⟨hpid, -⟩ := DeliveryPackage.new_eq_ok hpackage
  rw [hcid] at hpackage
  obtain ⟨owner, howner, hoid, -⟩ := hcustomers.backward hcustomer
  constructor
  · refine hcustomers.put hcid (List.mem_map.mpr ⟨owner, howner, hoid⟩) ?_ ?_
    · intro b hb hid
      have hrel := hcustomers.rel_of_find? hids hb (hid ▸ hcustomer)
      refine ⟨hrel.customerId, hrel.contact, ?_, hrel.pendingEvents⟩
      rw [List.filter_append, List.filter_cons_of_pos (by simpa using hid.symm)]
      simp [hrel.deliveryPackages, hpid]
    · intro b hb hid c hc
      refine ⟨hc.customerId, hc.contact, ?_, hc.pendingEvents⟩
      rw [List.filter_append, List.filter_cons_of_neg, hc.deliveryPackages]
      · simp
      · simpa using Ne.symm hid
  · exact hpackages.put_new hnew hpid hpackage

/-- What a successful rebuild gives for records with different ids. -/
theorem rebuilt_of_rebuild {snapshot : WorldStateSnapshot} {w : World}
    (hcustomers : (snapshot.world.customers.map CustomerSnapshot.customerId).Nodup)
    (hpackages : (snapshot.world.packages.map PackageSnapshot.packageId).Nodup)
    (hroutes : (snapshot.world.routes.map RouteSnapshot.routeId).Nodup)
    (h : rebuild u snapshot = .ok w) : snapshot.world.Rebuilt u w := by
  simp only [rebuild, catching_eq_ok_iff, except_bind_eq_ok_iff, mapM_eq_ok_iff,
    rebuildCustomer_eq_ok_iff, Except.ok.injEq] at h
  obtain ⟨customers, hc, ⟨customers', packages⟩, hp, routes, hr, rfl⟩ := h
  have hfold := foldlM_eq_ok
    (fun done (rebuilt : Store Customer.customerId × Store DeliveryPackage.packageId) ↦
      rebuilt.1.Lists CustomerSnapshot.customerId (CustomerSnapshot.Rebuilds u done)
          snapshot.world.customers ∧
        rebuilt.2.Lists PackageSnapshot.packageId PackageSnapshot.Rebuilds done)
    hp ⟨Store.lists_ofList hc hcustomers fun _ _ hrel ↦ hrel.customerId, Store.lists_empty⟩ ?_
  · refine ⟨rfl, hfold.1, hfold.2, Store.lists_ofList hr hroutes fun b a hrel ↦ ?_⟩
    exact (rebuildRoute_eq_ok_iff.mp hrel).2.1
  · rintro done package rest hxs ⟨cs, ps⟩ ⟨cs', ps'⟩ ⟨hcs, hps⟩ hstep
    have hnew : package.packageId ∉ done.map PackageSnapshot.packageId := by
      rw [hxs, List.map_append, List.map_cons, List.nodup_append] at hpackages
      exact fun hmem ↦ hpackages.2.2 _ hmem _ (by simp) rfl
    exact rebuildPackage_step hcustomers hcs hps hnew hstep

end WorldStateSnapshotRebuilder
end FleetFlow
