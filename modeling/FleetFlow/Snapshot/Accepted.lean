import FleetFlow.Snapshot.Prepared

/-!
# Which snapshots are accepted

A snapshot is prepared exactly when the validators accept it and its records are values that the
constructors accept. Once both hold no later stage raises, whatever the instant is.
-/

namespace FleetFlow

variable {u : UnicodeTables} {fleet : Fleet} {now : Datetime} {version : Int}

/-- Records that the constructors accept, with times that can be read. -/
structure WorldSnapshotData.Restorable (u : UnicodeTables) (data : WorldSnapshotData) : Prop where
  customers : ∀ record ∈ data.customers, ∃ contact,
    ContactInfo.new u record.name record.email record.phone = .ok contact
  packages : ∀ record ∈ data.packages, ∃ package, record.Rebuilds package
  routes : ∀ record ∈ data.routes, ∃ route, record.Rebuilds u route
  trucks : ∀ record ∈ data.trucks, (∃ t, dtFromStr u record.busyFrom = .ok t) ∧
    ∃ t, dtFromStr u record.busyUntil = .ok t

namespace WorldStateSnapshotRebuilder

/-- Records that the constructors accept are rebuilt. -/
theorem exists_rebuild {snapshot : WorldStateSnapshot}
    (hvalid : snapshot.world.Valid u fleet version) (h : snapshot.world.Restorable u) :
    ∃ w, rebuild u snapshot = .ok w := by
  have hcustomer : ∀ record ∈ snapshot.world.customers,
      ∃ customer, rebuildCustomer u record = .ok customer := by
    intro record hrecord
    obtain ⟨contact, hcontact⟩ := h.customers record hrecord
    have hpos : 0 < record.customerId :=
      hvalid.customerIds.pos record.customerId (List.mem_map_of_mem hrecord)
    refine ⟨⟨record.customerId, contact, [], [], hpos⟩, ?_⟩
    rw [rebuildCustomer, hcontact]
    exact Customer.new_eq_ok_iff.mpr ⟨rfl, rfl, rfl, rfl⟩
  obtain ⟨customers, hcustomers⟩ := exists_mapM_eq_ok hcustomer
  obtain ⟨routes, hroutes⟩ := exists_mapM_eq_ok h.routes
  have hlisted := Store.lists_ofList (mapM_eq_ok_iff.mp hcustomers) hvalid.customerIds.nodup
    fun _ _ hrel ↦ (rebuildCustomer_eq_ok_iff.mp hrel).customerId
  have hpackages : ∃ rebuilt, snapshot.world.packages.foldlM rebuildPackage
      ((.ofList customers, .empty) :
        Store Customer.customerId × Store DeliveryPackage.packageId) = .ok rebuilt := by
    -- Storing a package keeps every customer in place.
    refine exists_foldlM_eq_ok (fun _ rebuilt ↦
      ∀ c ∈ snapshot.world.customers.map CustomerSnapshot.customerId,
        (rebuilt.1.find? c).isSome) (fun c hc ↦ ?_) ?_
    · obtain ⟨record, hrecord, rfl⟩ := List.mem_map.mp hc
      obtain ⟨customer, hfind, -⟩ := hlisted.forward hrecord
      exact Option.isSome_iff_exists.mpr ⟨customer, hfind⟩
    · intro done record rest hxs rebuilt hinv
      have hrecord : record ∈ snapshot.world.packages := by simp [hxs]
      obtain ⟨customer, hcustomer⟩ := Option.isSome_iff_exists.mp
        (hinv record.customerId (hvalid.customer_of_package record hrecord))
      obtain ⟨package, hpackage⟩ := h.packages record hrecord
      have hid : customer.customerId = record.customerId := Store.key_of_find? hcustomer
      refine ⟨_, except_bind_eq_ok_iff.mpr ⟨customer, Store.getItem_eq_ok_iff.mpr hcustomer,
        except_bind_eq_ok_iff.mpr ⟨package, hid ▸ hpackage, rfl⟩⟩, fun c hc ↦ ?_⟩
      rw [Store.find?_put]
      split
      · rfl
      · exact hinv c hc
  obtain ⟨rebuilt, hpackages⟩ := hpackages
  exact ⟨_, catching_eq_ok_iff.mpr (except_bind_eq_ok_iff.mpr ⟨customers, hcustomers,
    except_bind_eq_ok_iff.mpr ⟨rebuilt, hpackages,
      except_bind_eq_ok_iff.mpr ⟨routes, hroutes, rfl⟩⟩⟩)⟩

end WorldStateSnapshotRebuilder

namespace WorldStateSnapshotLinker

/-- A route links packages that end on it. -/
theorem exists_links {route : DeliveryRoute} {package : DeliveryPackage}
    (h : package.endLocation ∈ route.locations) : ∃ linked, route.Links package linked := by
  unfold DeliveryRoute.Links DeliveryRoute.updateExpectedArrival
  cases hs : route.plan.schedule? with
  | none => exact ⟨_, rfl⟩
  | some s =>
    obtain ⟨i, hi⟩ := List.mem_iff_getElem?.mp h
    obtain ⟨t, ht⟩ := DeliveryRoute.exists_arrival hs hi
    have harrival : s.arrivalTimeAt package.endLocation = .ok t :=
      RouteSchedule.arrivalTimeAt_eq_ok_iff.mpr (RouteSchedule.arrival?_of_getElem? ht)
    exact ⟨_, except_bind_eq_ok_iff.mpr ⟨t, harrival, rfl⟩⟩

/-- The packages of one route are linked when each of them ends on it. -/
theorem exists_linkPackages {route : DeliveryRoute} {packageIds : List Int} {w : World}
    (hroute : w.routes.find? route.routeId = some route) (hempty : route.packages = [])
    (hnd : packageIds.Nodup) (h : ∀ p ∈ packageIds, ∃ before after,
      w.packages.find? p = some before ∧ route.Links before after) :
    ∃ w', packageIds.foldlM (linkPackage route.routeId) w = .ok w' := by
  refine exists_foldlM_eq_ok (fun done t ↦ PackagesLinked route done w t) ⟨?_, ?_, ?_⟩ ?_
  · have hself : { route with packages := [] } = route := by
      rw [← hempty]
    rw [hself, Store.put_eq_self hroute]
  · exact fun p _ ↦ rfl
  · intro p hp
    cases hp
  · intro done p rest hids t hdone
    rw [hids, List.nodup_append] at hnd
    have hnew : p ∉ done := fun hmem ↦ hnd.2.2 p hmem p (by simp) rfl
    obtain ⟨before, after, hbefore, hlinks⟩ := h p (by simp [hids])
    have hid : before.packageId = p := Store.key_of_find? hbefore
    have hfind : t.routes.find? route.routeId = some { route with packages := done } := by
      rw [hdone.frame, Store.find?_put, if_pos rfl]
    have hrestore : DeliveryRoute.restorePackageLink { route with packages := done } before =
        .ok ({ route with packages := done ++ [before.packageId] }, after) := by
      rw [DeliveryRoute.restorePackageLink,
        if_neg (by simpa [DeliveryRoute.hasPackage, hid] using hnew)]
      exact except_bind_eq_ok_iff.mpr ⟨after, hlinks, rfl⟩
    have hstep : ∃ t', linkPackage route.routeId t p = .ok t' := by
      refine ⟨_, except_bind_eq_ok_iff.mpr ⟨_, Store.getItem_eq_ok_iff.mpr hfind,
        except_bind_eq_ok_iff.mpr ⟨before, Store.getItem_eq_ok_iff.mpr ?_,
          except_bind_eq_ok_iff.mpr ⟨_, hrestore, rfl⟩⟩⟩⟩
      rw [hdone.kept p hnew, hbefore]
    obtain ⟨t', ht'⟩ := hstep
    exact ⟨t', ht', hdone.step hnew ht'⟩

/-- All packages are linked when each of them ends on its route. -/
theorem exists_linkPackagesToRoutes {snapshots : List RouteSnapshot} {w : World}
    (hids : (snapshots.map RouteSnapshot.routeId).Nodup)
    (hlisted : ∀ snapshot ∈ snapshots, snapshot.packageIds.Nodup)
    (hapart : snapshots.Pairwise fun a b ↦ ∀ p ∈ a.packageIds, p ∉ b.packageIds)
    (h : ∀ snapshot ∈ snapshots, ∃ route, w.routes.find? snapshot.routeId = some route ∧
      route.packages = [] ∧ ∀ p ∈ snapshot.packageIds, ∃ before after,
        w.packages.find? p = some before ∧ route.Links before after) :
    ∃ w', linkPackagesToRoutes w snapshots = .ok w' := by
  induction snapshots generalizing w with
  | nil => exact ⟨w, rfl⟩
  | cons snapshot rest ih =>
    rw [List.map_cons, List.nodup_cons] at hids
    rw [List.pairwise_cons] at hapart
    obtain ⟨route, hroute, hempty, hpackages⟩ := h snapshot (by simp)
    have hid : route.routeId = snapshot.routeId := Store.key_of_find? hroute
    have hfind : w.routes.find? route.routeId = some route := hid ▸ hroute
    obtain ⟨t, ht⟩ := exists_linkPackages hfind hempty (hlisted snapshot (by simp)) hpackages
    have hone := packagesLinked_of_foldlM hfind hempty (hlisted snapshot (by simp)) ht
    have hrest : ∃ w', linkPackagesToRoutes t rest = .ok w' := by
      refine ih hids.2 (fun other hother ↦ hlisted other (by simp [hother])) hapart.2 ?_
      intro other hother
      obtain ⟨route', hroute', hempty', hpackages'⟩ := h other (by simp [hother])
      refine ⟨route', ?_, hempty', fun p hp ↦ ?_⟩
      · rw [hone.frame, Store.find?_put, if_neg, hroute']
        intro heq
        exact hids.1 (List.mem_map.mpr ⟨other, hother, heq.symm.trans hid⟩)
      · obtain ⟨before, after, hbefore, hlinks⟩ := hpackages' p hp
        refine ⟨before, after, ?_, hlinks⟩
        rw [hone.kept p fun hmem ↦ hapart.1 other hother p hmem hp, hbefore]
    obtain ⟨w', hw'⟩ := hrest
    refine ⟨w', ?_⟩
    rw [linkPackagesToRoutes, List.foldlM_cons]
    refine except_bind_eq_ok_iff.mpr ⟨t, except_bind_eq_ok_iff.mpr ⟨route, ?_, hid ▸ ht⟩, hw'⟩
    exact Store.getItem_eq_ok_iff.mpr hroute

/-- Candidate trucks take their routes when the fleet has them. -/
theorem exists_linkTrucks {snapshots : List RouteSnapshot} {w : World}
    (hroutes : ∀ snapshot ∈ snapshots, (w.routes.find? snapshot.routeId).isSome)
    (hfleet : ∀ snapshot ∈ snapshots, ∀ t ∈ snapshot.truckVehicleId, (fleet.find? t).isSome) :
    ∃ w', snapshots.foldlM (linkCandidateTruck fleet) w = .ok w' := by
  refine exists_foldlM_eq_ok (fun _ t ↦ ∀ snapshot ∈ snapshots,
    (t.routes.find? snapshot.routeId).isSome) hroutes ?_
  intro done snapshot rest hxs w hinv
  have hmem : snapshot ∈ snapshots := by simp [hxs]
  unfold linkCandidateTruck
  cases ht : snapshot.truckVehicleId with
  | none => exact ⟨w, rfl, hinv⟩
  | some t =>
    obtain ⟨route, hroute⟩ := Option.isSome_iff_exists.mp (hinv snapshot hmem)
    obtain ⟨real, hreal⟩ := Option.isSome_iff_exists.mp (hfleet snapshot hmem t ht)
    have hcandidate : ∃ candidate, candidateTruck fleet w route t = .ok candidate := by
      unfold candidateTruck
      cases w.trucks.find? t with
      | some candidate => exact ⟨candidate, rfl⟩
      | none =>
        exact ⟨_, except_bind_eq_ok_iff.mpr ⟨real, Store.getItem_eq_ok_iff.mpr hreal, rfl⟩⟩
    obtain ⟨candidate, hcandidate⟩ := hcandidate
    refine ⟨_, except_bind_eq_ok_iff.mpr ⟨route, Store.getItem_eq_ok_iff.mpr hroute,
      except_bind_eq_ok_iff.mpr ⟨candidate, hcandidate, rfl⟩⟩, fun other hother ↦ ?_⟩
    rw [Store.find?_put]
    split
    · rfl
    · exact hinv other hother

/-- A valid rebuilt snapshot with readable times is linked. -/
theorem exists_link {snapshot : WorldStateSnapshot} {rebuilt : World}
    (hvalid : snapshot.world.Valid u fleet version) (h : snapshot.world.Restorable u)
    (hrebuilt : snapshot.world.Rebuilt u rebuilt) :
    ∃ w, link u fleet snapshot rebuilt = .ok w := by
  have hroute : ∀ record ∈ snapshot.world.routes, ∃ route,
      rebuilt.routes.find? record.routeId = some route ∧ record.Rebuilds u route :=
    fun record hrecord ↦ hrebuilt.routes.forward hrecord
  have hpackages : ∃ w1, linkPackagesToRoutes rebuilt snapshot.world.routes = .ok w1 := by
    refine exists_linkPackagesToRoutes hvalid.routeIds.nodup
      (fun record hrecord ↦ (hvalid.listed record hrecord).nodup) (pairwise_packageIds hvalid) ?_
    intro record hrecord
    obtain ⟨route, hfind, hrel⟩ := hroute record hrecord
    obtain ⟨-, hid, hlocations, -, hempty, -⟩ :=
      WorldStateSnapshotRebuilder.rebuildRoute_eq_ok_iff.mp hrel
    refine ⟨route, hfind, hempty, fun p hp ↦ ?_⟩
    obtain ⟨listed, hlisted, rfl, hroute⟩ := hvalid.package_of_route record hrecord p hp
    obtain ⟨package, hpackage, hrebuilds⟩ := hrebuilt.packages.forward hlisted
    obtain ⟨other, hother, hoid, -, hcarries⟩ :=
      hvalid.route_of_package listed hlisted record.routeId hroute
    obtain rfl := List.inj_on_of_nodup_map hvalid.routeIds.nodup hother hrecord hoid
    obtain ⟨-, -, hend, -⟩ := DeliveryPackage.new_eq_ok hrebuilds
    have hmem : package.endLocation ∈ route.locations := by
      rw [hlocations, hend]
      exact hcarries.end_mem
    obtain ⟨linked, hlinked⟩ := exists_links hmem
    exact ⟨package, linked, hpackage, hlinked⟩
  have htrucks : ∃ trucks, snapshot.world.trucks.mapM (buildCandidateTruck u fleet) =
      .ok trucks := by
    refine exists_mapM_eq_ok fun record hrecord ↦ ?_
    obtain ⟨real, hreal⟩ := Option.isSome_iff_exists.mp (hvalid.truckState record hrecord).1
    obtain ⟨⟨from_, hfrom⟩, until_, huntil⟩ := h.trucks record hrecord
    exact ⟨_, except_bind_eq_ok_iff.mpr ⟨real, Store.getItem_eq_ok_iff.mpr hreal,
      except_bind_eq_ok_iff.mpr ⟨from_, hfrom, except_bind_eq_ok_iff.mpr ⟨until_, huntil, rfl⟩⟩⟩⟩
  obtain ⟨w1, hw1⟩ := hpackages
  obtain ⟨trucks, htrucks⟩ := htrucks
  have hjoined := routesJoined_of_link (fun record hrecord route hfind ↦
      (WorldStateSnapshotRebuilder.rebuildRoute_eq_ok_iff.mp
        (hrebuilt.routes.rel_of_find? hvalid.routeIds.nodup hrecord hfind)).2.2.2.2.1)
    hvalid.routeIds.nodup (fun record hrecord ↦ (hvalid.listed record hrecord).nodup)
    (pairwise_packageIds hvalid) hw1
  have hlinked : ∃ w, snapshot.world.routes.foldlM (linkCandidateTruck fleet)
      { w1 with trucks := .ofList trucks } = .ok w := by
    refine exists_linkTrucks (fun record hrecord ↦ ?_) fun record hrecord t ht ↦ ?_
    · obtain ⟨route, -, hfind, -⟩ := hjoined.route record hrecord
      exact Option.isSome_iff_exists.mpr ⟨_, hfind⟩
    · obtain ⟨-, truck, htruck, -⟩ := hvalid.truck_of_route record hrecord t ht
      exact Option.isSome_iff_exists.mpr ⟨truck, htruck⟩
  obtain ⟨w, hw⟩ := hlinked
  exact ⟨w, except_bind_eq_ok_iff.mpr ⟨w1, catching_eq_ok_iff.mpr hw1,
    catching_eq_ok_iff.mpr (except_bind_eq_ok_iff.mpr ⟨trucks, htrucks, hw⟩)⟩⟩

/-- The bindings of a linked world are built. -/
theorem exists_buildTruckBindings {records : List RouteSnapshot} {w : World}
    (h : ∀ record ∈ records, ∀ t ∈ record.truckVehicleId,
      (w.trucks.find? t).isSome ∧ (w.routes.find? record.routeId).isSome) :
    ∃ bindings, buildTruckBindings records w = .ok bindings := by
  have hfold : ∃ bindings, records.foldlM (bindRoute w)
      (.ofList (w.trucks.values.map fun truck ↦ bindingOf truck truck.route)) = .ok bindings := by
    refine exists_foldlM_eq_ok (fun _ _ ↦ True) trivial ?_
    intro done record rest hxs bindings _
    unfold bindRoute
    cases ht : record.truckVehicleId with
    | none => exact ⟨bindings, rfl, trivial⟩
    | some t =>
      obtain ⟨htruck, hroute⟩ := h record (by simp [hxs]) t ht
      obtain ⟨candidate, hcandidate⟩ := Option.isSome_iff_exists.mp htruck
      obtain ⟨route, hroute⟩ := Option.isSome_iff_exists.mp hroute
      simp only [Store.getItem_eq_ok_iff.mpr hcandidate, Store.getItem_eq_ok_iff.mpr hroute,
        and_true]
      by_cases hskip : (if route.truck = some t then some route.routeId else none) = none ∧
          (bindings.find? t).isSome
      · exact ⟨bindings, if_pos hskip⟩
      · exact ⟨_, if_neg hskip⟩
  obtain ⟨bindings, hbindings⟩ := hfold
  exact ⟨_, except_bind_eq_ok_iff.mpr ⟨bindings, hbindings, rfl⟩⟩

end WorldStateSnapshotLinker

namespace WorldStateSnapshotPreparer

/-- The records of a prepared snapshot are values that the constructors accept. -/
theorem restorable_of_prepare {snapshot : WorldStateSnapshot} {supportedSchemaVersions : List Int}
    {world : ReconciledWorld}
    (h : prepare u fleet now snapshot supportedSchemaVersions = .ok world) :
    snapshot.world.Restorable u := by
  rw [prepare, check_bind_eq_ok_iff] at h
  simp only [except_bind_eq_ok_iff, catching_eq_ok_iff, Except.ok.injEq] at h
  obtain ⟨hvalidate, rebuilt, hrebuild, linked, hlink, -⟩ := h
  obtain ⟨-, hvalid⟩ := WorldStateSnapshotValidator.validateSnapshot_eq_ok_iff.mp hvalidate
  have hrebuilt := WorldStateSnapshotRebuilder.rebuilt_of_rebuild hvalid.customerIds.nodup
    hvalid.packageIds.nodup hvalid.routeIds.nodup hrebuild
  simp only [WorldStateSnapshotLinker.link, except_bind_eq_ok_iff, catching_eq_ok_iff] at hlink
  obtain ⟨-, -, trucks, htrucks, -⟩ := hlink
  refine ⟨fun record hrecord ↦ ?_, fun record hrecord ↦ ?_, fun record hrecord ↦ ?_,
    fun record hrecord ↦ ?_⟩
  · obtain ⟨customer, -, hrel⟩ := hrebuilt.customers.forward hrecord
    exact ⟨customer.contact, hrel.contact⟩
  · obtain ⟨package, -, hrel⟩ := hrebuilt.packages.forward hrecord
    exact ⟨package, hrel⟩
  · obtain ⟨route, -, hrel⟩ := hrebuilt.routes.forward hrecord
    exact ⟨route, hrel⟩
  · obtain ⟨truck, -, hbuild⟩ := exists_mem_of_forall₂ (mapM_eq_ok_iff.mp htrucks) hrecord
    simp only [WorldStateSnapshotLinker.buildCandidateTruck, except_bind_eq_ok_iff] at hbuild
    obtain ⟨-, -, from_, hfrom, until_, huntil, -⟩ := hbuild
    exact ⟨⟨from_, hfrom⟩, until_, huntil⟩

/-- A snapshot is prepared exactly when the validators and the constructors accept it. -/
theorem exists_prepare_iff {snapshot : WorldStateSnapshot} {supportedSchemaVersions : List Int} :
    (∃ world, prepare u fleet now snapshot supportedSchemaVersions = .ok world) ↔
      snapshot.schemaVersion ∈ supportedSchemaVersions ∧
        snapshot.world.Valid u fleet snapshot.schemaVersion ∧ snapshot.world.Restorable u := by
  constructor
  · rintro ⟨world, h⟩
    have hrestorable := restorable_of_prepare h
    rw [prepare, check_bind_eq_ok_iff] at h
    obtain ⟨hversion, hvalid⟩ :=
      WorldStateSnapshotValidator.validateSnapshot_eq_ok_iff.mp h.1
    exact ⟨hversion, hvalid, hrestorable⟩
  · rintro ⟨hversion, hvalid, hrestorable⟩
    obtain ⟨rebuilt, hrebuild⟩ :=
      WorldStateSnapshotRebuilder.exists_rebuild hvalid hrestorable
    have hrebuilt := WorldStateSnapshotRebuilder.rebuilt_of_rebuild hvalid.customerIds.nodup
      hvalid.packageIds.nodup hvalid.routeIds.nodup hrebuild
    obtain ⟨linked, hlink⟩ := WorldStateSnapshotLinker.exists_link hvalid hrestorable hrebuilt
    have hlinked := WorldStateSnapshotLinker.linked_of_link hvalid hrebuilt hlink
    obtain ⟨w, skipped, hreconcile, hadvanced⟩ := advanced_of_reconcile hlinked hvalid now
    have hbindings : ∃ bindings,
        WorldStateSnapshotLinker.buildTruckBindings snapshot.world.routes w = .ok bindings := by
      refine WorldStateSnapshotLinker.exists_buildTruckBindings fun record hrecord t ht ↦ ?_
      obtain ⟨route, candidate, hroute, -, htruck⟩ := hlinked.assigned record hrecord t ht
      obtain ⟨truck', htruck', -⟩ := hadvanced.trucks.forward htruck
      obtain ⟨route', hroute', -⟩ := hadvanced.routes.forward hroute
      exact ⟨Option.isSome_iff_exists.mpr ⟨truck', htruck'⟩,
        Option.isSome_iff_exists.mpr ⟨route', hroute'⟩⟩
    obtain ⟨bindings, hbindings⟩ := hbindings
    have hvalidate := WorldStateSnapshotValidator.validateSnapshot_eq_ok_iff.mpr
      ⟨hversion, hvalid⟩
    rw [prepare]
    simp only [except_bind_eq_ok_iff, catching_eq_ok_iff]
    exact ⟨_, ⟨⟩, hvalidate, rebuilt, hrebuild, linked, hlink, w, hreconcile, bindings, hbindings, rfl⟩

end WorldStateSnapshotPreparer
end FleetFlow
