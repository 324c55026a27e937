import FleetFlow.Runtime.Retained

/-!
# Expected arrivals

A package caches the arrival at its drop-off that the schedule of its route gives. The cache is
never wrong. It is missing only where the route was scheduled after the package had been assigned
to it, by the assignment of a truck, and no heartbeat has passed since.
-/

namespace FleetFlow

open Program

/-- The cached arrival is the one that the schedule of the route gives, if any. -/
def DeliveryPackage.ExpectedOn (package : DeliveryPackage) (route : DeliveryRoute) : Prop :=
  ∀ t, package.expectedArrival = some t ↔ route.arrivalTimeAt package.endLocation = .ok t

namespace DeliveryPackage.ExpectedOn

variable {package package' : DeliveryPackage} {route route' : DeliveryRoute}

/-- The cache depends on the plan of the route and on the drop-off of the package only. -/
theorem congr (h : package.ExpectedOn route) (hplan : route'.plan = route.plan)
    (hexpected : package'.expectedArrival = package.expectedArrival)
    (hend : package'.endLocation = package.endLocation) : package'.ExpectedOn route' := by
  intro t
  rw [hexpected, hend, h t, DeliveryRoute.arrivalTimeAt_eq_ok_iff,
    DeliveryRoute.arrivalTimeAt_eq_ok_iff, hplan]

/-- On an unscheduled route nothing is expected. -/
theorem of_unscheduled (hroute : route.departureTime = none)
    (hpackage : package.expectedArrival = none) : package.ExpectedOn route := by
  intro t
  have hplan : route.plan.schedule? = none := Option.map_eq_none_iff.mp hroute
  simp [hpackage, DeliveryRoute.arrivalTimeAt_eq_ok_iff, hplan]

/-- On an unscheduled route a correct cache is empty. -/
theorem eq_none (h : package.ExpectedOn route) (hroute : route.departureTime = none) :
    package.expectedArrival = none := by
  have hplan : route.plan.schedule? = none := Option.map_eq_none_iff.mp hroute
  refine Option.eq_none_iff_forall_ne_some.mpr fun t ht ↦ ?_
  simpa [DeliveryRoute.arrivalTimeAt_eq_ok_iff, hplan] using (h t).mp ht

/-- A settled package has a correct cache. -/
theorem of_settledOn {now : Datetime} (h : package.SettledOn route now) :
    package.ExpectedOn route := by
  unfold DeliveryPackage.SettledOn at h
  intro t
  rw [DeliveryRoute.arrivalTimeAt_eq_ok_iff]
  cases hs : route.plan.schedule? with
  | none =>
    rw [hs] at h
    simp [h.expectedArrival]
  | some s =>
    rw [hs] at h
    simp [h.expectedArrival]

/-- A newly assigned package has a correct cache. -/
theorem of_assignPackage {routePackages : List DeliveryPackage} {truck : Option Truck}
    {now t : Datetime} (hnew : package.packageId ∉ route.packages)
    (hnone : package.expectedArrival = none)
    (h : route.assignPackage routePackages truck package now t = .ok (route', package')) :
    package'.ExpectedOn route' := by
  unfold DeliveryRoute.assignPackage DeliveryRoute.hasPackage at h
  rw [if_neg (by simpa using hnew), except_bind_eq_ok_iff] at h
  obtain ⟨message, -, h⟩ := h
  cases message with
  | some message => cases h
  | none =>
    simp only [except_bind_eq_ok_iff, Except.ok.injEq, Prod.mk.injEq] at h
    obtain ⟨linked, hlinked, rfl, rfl⟩ := h
    have hon : linked.ExpectedOn route := by
      unfold DeliveryRoute.updateExpectedArrival at hlinked
      split at hlinked
      · next hplan =>
        obtain rfl := Except.ok.inj hlinked
        refine of_unscheduled ?_ hnone
        simp [DeliveryRoute.departureTime, RoutePlan.departureTime, hplan]
      · next s hplan =>
        simp only [except_bind_eq_ok_iff, Except.ok.injEq] at hlinked
        obtain ⟨arrival, harrival, rfl⟩ := hlinked
        rw [RouteSchedule.arrivalTimeAt_eq_ok_iff] at harrival
        intro t
        simp only [DeliveryRoute.arrivalTimeAt_eq_ok_iff, hplan, Option.some.injEq,
          exists_eq_left', DeliveryPackage.setRoute] at harrival ⊢
        rw [harrival, Option.some.injEq]
    exact hon.congr rfl rfl rfl

end DeliveryPackage.ExpectedOn

namespace World

variable {u : UnicodeTables} {allowed : Option LocationCode → Prop} {clock : Option Datetime}
  {w w1 w' : World} {focus : Focus} {es : List DomainEvent} {missing : Int → Int → Prop}

/-- Cached arrivals are correct, or they are missing where they may be. -/
structure Expects (missing : Int → Int → Prop) (w : World) : Prop where
  idle : w.packages.All fun package ↦ package.route = none → package.expectedArrival = none
  carried : ∀ {p r : Int} {package : DeliveryPackage}, w.packages.find? p = some package →
    package.route = some r → ∃ route, w.routes.find? r = some route ∧
      (package.ExpectedOn route ∨ (package.expectedArrival = none ∧ missing p r))

theorem Expects.mono {missing' : Int → Int → Prop} (h : w.Expects missing)
    (hmono : ∀ p r, missing p r → missing' p r) : w.Expects missing' := by
  refine ⟨h.idle, fun {p r package} hp hlink ↦ ?_⟩
  obtain ⟨route, hr, hcache⟩ := h.carried hp hlink
  exact ⟨route, hr, hcache.imp_right fun hmissing ↦ ⟨hmissing.1, hmono p r hmissing.2⟩⟩

/-- A route that has no departure where it is stored. -/
def Undeparted (w : World) (r : Int) : Prop :=
  ∀ route, w.routes.find? r = some route → route.departureTime = none

/-- A change keeps every stored route, and its plan once it has a departure. -/
theorem Update.plan_kept (h : Update u focus w es w') {r : Int} {a : DeliveryRoute}
    (ha : w.routes.find? r = some a) : ∃ b, w'.routes.find? r = some b ∧
      (b.plan = a.plan ∨ a.departureTime = none) := by
  have hput : ∀ {route route' : DeliveryRoute}, w.routes.find? route.routeId = some route →
      route'.routeId = route.routeId →
      (route'.plan = route.plan ∨ route.departureTime = none) →
      ∃ b, (w.routes.put route').find? r = some b ∧ (b.plan = a.plan ∨ a.departureTime = none) := by
    intro route route' hr hid hplan
    by_cases heq : route'.routeId = r
    · refine ⟨route', by rw [Store.find?_put, if_pos heq], ?_⟩
      rw [← hid, heq, ha, Option.some.injEq] at hr
      exact hr ▸ hplan
    · exact ⟨a, by rw [Store.find?_put, if_neg heq, ha], .inl rfl⟩
  cases h with
  | contacts hroutes hpackages htrucks => exact ⟨a, hroutes ▸ ha, .inl rfl⟩
  | createPackage hcreate hnew hroutes hpackages htrucks => exact ⟨a, hroutes ▸ ha, .inl rfl⟩
  | createRoute hcreate hnew =>
    refine ⟨a, ?_, .inl rfl⟩
    rw [Store.find?_put, if_neg fun heq ↦ ?_, ha]
    rw [heq, ha] at hnew
    cases hnew
  | scheduleRoute hr hnone hschedule hes =>
    obtain ⟨hplan, plan, s, -, -, -, rfl⟩ := DeliveryRoute.schedule_eq_ok_iff.mp hschedule
    refine hput hr ?_ (.inr ?_)
    · rfl
    · simp [DeliveryRoute.departureTime, RoutePlan.departureTime, hplan]
  | linkTruck hr ht hidle hassign hes =>
    obtain ⟨-, -, -, events, rfl⟩ := DeliveryRoute.assignTruck_eq_ok hassign
    exact hput hr (by rfl) (.inl rfl)
  | linkPackage hr hp hnone hnew hassign hes =>
    obtain ⟨-, -, events, rfl⟩ := DeliveryRoute.assignPackage_eq_ok hnew hassign
    exact hput hr (by rfl) (.inl rfl)
  | unlinkPackage hr hp hmem hlink hdetach hes =>
    rename_i reason t
    obtain ⟨events, hdetached⟩ := DeliveryRoute.detachPackage_eq_ok hmem hlink reason t
    rw [hdetach, Except.ok.injEq, Prod.mk.injEq] at hdetached
    obtain ⟨rfl, -⟩ := hdetached
    exact hput hr (by rfl) (.inl rfl)
  | unlinkTruck hr ht hlink hloc hrelease hes =>
    rename_i route route' truck truck' now t reason location
    obtain ⟨events, hreleased⟩ :=
      @DeliveryRoute.releaseTruck_eq_ok route truck route location hloc now reason t
    rw [hrelease, Except.ok.injEq, Prod.mk.injEq] at hreleased
    obtain ⟨rfl, -⟩ := hreleased
    exact hput hr (by rfl) (.inl rfl)

/-- A change keeps cached arrivals, but for those on a route that it may have scheduled. -/
theorem Update.expects (h : Update u focus w es w') (hw : w.Expects missing) :
    w'.Expects fun p r ↦ missing p r ∨ w.Undeparted r := by
  -- A package that the change keeps on its route.
  have hkept : ∀ {p r : Int} {a b : DeliveryPackage}, w.packages.find? p = some a →
      b.route = some r → b.route = a.route → b.expectedArrival = a.expectedArrival →
      b.endLocation = a.endLocation → ∃ route, w'.routes.find? r = some route ∧
        (b.ExpectedOn route ∨
          (b.expectedArrival = none ∧ (missing p r ∨ w.Undeparted r))) := by
    intro p r a b ha hlink hroute hexpected hend
    obtain ⟨x, hx, hcache⟩ := hw.carried ha (hroute ▸ hlink)
    obtain ⟨y, hy, hplan⟩ := h.plan_kept hx
    refine ⟨y, hy, ?_⟩
    rcases hcache with hcache | ⟨hnone, hmissing⟩
    · rcases hplan with hplan | hdeparture
      · exact .inl (hcache.congr hplan hexpected hend)
      · refine .inr ⟨hexpected.trans (hcache.eq_none hdeparture), .inr fun x' hx' ↦ ?_⟩
        rwa [Option.some.inj (hx'.symm.trans hx)]
    · exact .inr ⟨hexpected.trans hnone, .inl hmissing⟩
  have hsame : ∀ {p : Int} {b : DeliveryPackage}, w.packages.find? p = some b →
      (b.route = none → b.expectedArrival = none) ∧
      ∀ {r : Int}, b.route = some r → ∃ route, w'.routes.find? r = some route ∧
        (b.ExpectedOn route ∨
          (b.expectedArrival = none ∧ (missing p r ∨ w.Undeparted r))) :=
    fun hb ↦ ⟨hw.idle _ _ hb, fun hlink ↦ hkept hb hlink rfl rfl rfl⟩
  have hall : ∀ {p : Int} {b : DeliveryPackage}, w'.packages.find? p = some b →
      (b.route = none → b.expectedArrival = none) ∧
      ∀ {r : Int}, b.route = some r → ∃ route, w'.routes.find? r = some route ∧
        (b.ExpectedOn route ∨
          (b.expectedArrival = none ∧ (missing p r ∨ w.Undeparted r))) := by
    intro p b hb
    cases h with
    | contacts hroutes hpackages htrucks => exact hsame (hpackages ▸ hb)
    | createPackage hcreate hnew hroutes hpackages htrucks =>
      rename_i start end_ weight customer now package
      rw [hpackages, Store.find?_put] at hb
      split at hb
      · obtain rfl := Option.some.inj hb
        simp only [DeliveryPackage.create, except_bind_eq_ok_iff, Except.ok.injEq] at hcreate
        obtain ⟨q, hq, rfl⟩ := hcreate
        obtain ⟨-, -, -, -, -, hroute, -, -, hexpected, -, -⟩ := DeliveryPackage.new_eq_ok hq
        refine ⟨fun _ ↦ hexpected, fun hlink ↦ ?_⟩
        rw [show (q.recordEvent _).route = none from hroute] at hlink
        cases hlink
      · exact hsame hb
    | createRoute hcreate hnew => exact hsame hb
    | scheduleRoute hr hnone hschedule hes => exact hsame hb
    | linkTruck hr ht hidle hassign hes => exact hsame hb
    | linkPackage hr hp hnone hnew hassign hes =>
      rename_i route route' package package' t
      rw [Store.find?_put] at hb
      split at hb
      · next hpid =>
        obtain rfl := Option.some.inj hb
        have hexpected := DeliveryPackage.ExpectedOn.of_assignPackage hnew
          (hw.idle _ _ hp hnone) hassign
        obtain ⟨-, ⟨arrival, rfl⟩, events, rfl⟩ := DeliveryRoute.assignPackage_eq_ok hnew hassign
        refine ⟨fun hlink ↦ (by cases hlink), fun hlink ↦ ?_⟩
        obtain rfl := Option.some.inj hlink
        exact ⟨_, Store.find?_put.trans (if_pos rfl), .inl hexpected⟩
      · exact hsame hb
    | unlinkPackage hr hp hmem hlink hdetach hes =>
      rename_i route route' package package' reason t
      obtain ⟨events, hdetached⟩ := DeliveryRoute.detachPackage_eq_ok hmem hlink reason t
      rw [hdetach, Except.ok.injEq, Prod.mk.injEq] at hdetached
      obtain ⟨-, rfl⟩ := hdetached
      rw [Store.find?_put] at hb
      split at hb
      · obtain rfl := Option.some.inj hb
        exact ⟨fun _ ↦ rfl, fun hlink' ↦ by cases hlink'⟩
      · exact hsame hb
    | unlinkTruck hr ht hlink hloc hrelease hes => exact hsame hb
  exact ⟨fun p b hb ↦ (hall hb).1, fun hb hlink ↦ (hall hb).2 hlink⟩

/-- Changes keep the departure that a route has. -/
theorem Updates.undeparted (h : Updates u focus w es w') {r : Int} (hr : w'.Undeparted r) :
    w.Undeparted r := by
  induction h with
  | refl => exact hr
  | snoc _ hstep ih =>
    refine ih fun a ha ↦ ?_
    obtain ⟨b, hb, hplan⟩ := hstep.plan_kept ha
    rcases hplan with hplan | hdeparture
    · rw [DeliveryRoute.departureTime, ← hplan]
      exact hr b hb
    · exact hdeparture

/-- Changes keep cached arrivals, but for those on a route that they may have scheduled. -/
theorem Updates.expects (h : Updates u focus w es w') (hw : w.Expects missing) :
    w'.Expects fun p r ↦ missing p r ∨ w.Undeparted r := by
  induction h with
  | refl => exact hw.mono fun _ _ ↦ .inl
  | snoc hupdates hstep ih =>
    exact (hstep.expects ih).mono fun _ _ hmissing ↦ hmissing.elim id
      fun hr ↦ .inr (hupdates.undeparted hr)

/-- A removal adds no route. -/
theorem Removal.route_of_after {event : DomainEvent} (h : Removal w focus event w') {r : Int}
    {b : DeliveryRoute} (hb : w'.routes.find? r = some b) : w.routes.find? r = some b := by
  cases h with
  | package hp hnone hevent hroutes hpackages htrucks => exact hroutes ▸ hb
  | route hr ht hp hevent hroutes hpackages htrucks =>
    rw [hroutes, Store.find?_remove] at hb
    split at hb
    · cases hb
    · exact hb

/-- A removal that leaves the world sound keeps cached arrivals. -/
theorem Removal.expects {event : DomainEvent} (h : Removal w focus event w')
    (hw : w.Expects missing) (hsound : w'.Sound u allowed clock) : w'.Expects missing := by
  refine ⟨fun p b hb ↦ hw.idle p b (h.package_of_after hb), fun hb hlink ↦ ?_⟩
  obtain ⟨route, hr, -⟩ := hsound.linked.route_of_package hb hlink
  obtain ⟨route', hr', hcache⟩ := hw.carried (h.package_of_after hb) hlink
  obtain rfl := Option.some.inj ((h.route_of_after hr).symm.trans hr')
  exact ⟨route, hr, hcache⟩

/-- A command keeps cached arrivals, but for those on a route that it may have scheduled. -/
theorem Traced.expects (h : Traced u w es w') (hw : w.Expects missing)
    (hsound : w'.Sound u allowed clock) :
    w'.Expects fun p r ↦ missing p r ∨ w.Undeparted r := by
  cases h with
  | updates hupdates => exact hupdates.expects hw
  | removal hupdates hdrop => exact hdrop.expects (hupdates.expects hw) hsound

/-- In a settled world every cached arrival is correct. -/
theorem SettledAt.expects {now : Datetime} (h : w.SettledAt now) (hsound : w.Sound u allowed clock) :
    w.Expects fun _ _ ↦ False := by
  refine ⟨fun p b hb hnone ↦ (hsound.linked.waiting _ _ hb hnone).expectedArrival,
    fun hb hlink ↦ ?_⟩
  obtain ⟨route, hr, -⟩ := hsound.linked.route_of_package hb hlink
  exact ⟨route, hr, .inl (.of_settledOn (h.package hb hlink hr))⟩

/-- Emptying buffers keeps cached arrivals. -/
theorem Drained.expects (h : w.Drained w') (hw : w.Expects missing) : w'.Expects missing := by
  refine ⟨fun p b hb hnone ↦ ?_, fun hb hlink ↦ ?_⟩
  · obtain ⟨a, ha, hab⟩ := h.packages.backward hb
    rw [hab] at hnone ⊢
    exact hw.idle p a ha hnone
  · obtain ⟨a, ha, hab⟩ := h.packages.backward hb
    rw [hab] at hlink
    obtain ⟨route, hr, hcache⟩ := hw.carried ha hlink
    obtain ⟨route', hr', hrr⟩ := h.routes.forward hr
    refine ⟨route', hr', ?_⟩
    rcases hcache with hcache | ⟨hnone, hmissing⟩
    · refine .inl (hcache.congr ?_ ?_ ?_)
      · rw [hrr]
      · rw [hab]
      · rw [hab]
    · refine .inr ⟨?_, hmissing⟩
      rw [hab]
      exact hnone

/-- A package that waits on a route without a departure. -/
def OnUnscheduled (w : World) (p r : Int) : Prop :=
  ∃ package route, w.packages.find? p = some package ∧ package.route = some r ∧
    w.routes.find? r = some route ∧ route.departureTime = none

/-- Only the assignment of a truck schedules a route, with the packages that it has by then. -/
theorem Expects.of_departures {operation : Operation}
    (h : w'.Expects fun p r ↦ missing p r ∨ w.Undeparted r) (hsound : w.Sound u allowed clock)
    (hdepartures : ∀ r b, w'.routes.find? r = some b →
      (∃ a, w.routes.find? r = some a ∧ b.departureTime = a.departureTime) ∨
      (w'.packages = w.packages ∧ (w.routes.find? r = none ∨
        ∃ truckId at_, operation = .assignTruck truckId r at_))) :
    w'.Expects fun p r ↦ missing p r ∨
      ((∃ truckId at_, operation = .assignTruck truckId r at_) ∧ w.OnUnscheduled p r) := by
  refine ⟨h.idle, fun {p r package} hp hlink ↦ ?_⟩
  obtain ⟨route, hr, hcache⟩ := h.carried hp hlink
  refine ⟨route, hr, ?_⟩
  rcases hcache with hcache | ⟨hnone, hmissing | hundeparted⟩
  · exact .inl hcache
  · exact .inr ⟨hnone, .inl hmissing⟩
  by_cases hdeparture : route.departureTime = none
  · exact .inl (.of_unscheduled hdeparture hnone)
  rcases hdepartures r route hr with ⟨a, ha, hab⟩ | ⟨hpackages, hassigned⟩
  · exact absurd (hab.trans (hundeparted a ha)) hdeparture
  · rw [hpackages] at hp
    obtain ⟨a, ha, -⟩ := hsound.linked.route_of_package hp hlink
    rcases hassigned with hnew | hassigned
    · rw [ha] at hnew
      cases hnew
    · exact .inr ⟨hnone, .inr ⟨hassigned, package, a, hp, hlink, ha, hundeparted a ha⟩⟩

end World

/-! ### Runs -/

variable {u : UnicodeTables} {allowed : Option LocationCode → Prop} {fleet : Fleet}
  {clock : Option Datetime} {w : World} {now : Datetime} {missing : Int → Int → Prop}

/-- A command keeps cached arrivals, but for those of packages on a route that it schedules. -/
theorem Operation.expects_perform (hmap : ∀ l ∈ Map.locations, allowed (some l))
    (h : w.Sound u allowed clock) (hw : w.Expects missing) {operation : Operation}
    (hne : operation ≠ .heartbeat) : ((operation.perform u now).finalState w).Expects
      fun p r ↦ missing p r ∨
        ((∃ truckId at_, operation = .assignTruck truckId r at_) ∧ w.OnUnscheduled p r) := by
  apply Ensures.finalState
  unfold perform
  rw [ensures_bind]
  refine ((effects_execute hmap h hne).and (departures_execute u now hne w)).mono ?_ ?_
  · rintro recorders w1 ⟨⟨hsound, heffect⟩, hdepartures⟩
    have hw1 := (heffect.traced.expects hw hsound).of_departures h hdepartures
    exact (EventCollector.ensures_drain_drained w1 recorders).mono
      (fun _ _ hdrained ↦ hdrained.expects hw1) fun _ _ hdrained ↦ hdrained.expects hw1
  · rintro e w1 ⟨⟨hsound, heffect⟩, hdepartures⟩
    exact (heffect.traced.expects hw hsound).of_departures h hdepartures

/-- A heartbeat makes every cached arrival correct. -/
theorem Operation.expects_heartbeat (hmap : ∀ l ∈ Map.locations, allowed (some l))
    (h : w.Sound u allowed clock) (hnow : ∀ c ∈ clock, c ≤ now) :
    ((heartbeat.perform u now).finalState w).Expects fun _ _ ↦ False := by
  apply Ensures.finalState
  unfold perform execute
  rw [ensures_bind, ensures_map]
  refine (HeartbeatService.ensures_advance h hnow).mono ?_ fun _ _ hf ↦ hf.elim
  intro summary w1 hadvance
  have hw1 := (hadvance.advanced.settled h.linked).expects (hadvance.advanced.sound hmap h)
  exact (EventCollector.ensures_drain_drained w1 _).mono
    (fun _ _ hdrained ↦ hdrained.expects hw1) fun _ _ hdrained ↦ hdrained.expects hw1

/-- A truck was assigned to a route while a package waited on it without a departure, and no
heartbeat has passed since. -/
def TruckCameLater (u : UnicodeTables) (fleet : Fleet) (steps : List (Datetime × Operation))
    (p r : Int) : Prop :=
  ∃ earlier now truckId at_ later, steps = earlier ++ (now, .assignTruck truckId r at_) :: later ∧
    (∀ step ∈ later, step.2 ≠ .heartbeat) ∧
    (performAll u (.initial fleet) earlier).OnUnscheduled p r

theorem TruckCameLater.snoc {steps : List (Datetime × Operation)} {p r : Int}
    (h : TruckCameLater u fleet steps p r) {step : Datetime × Operation}
    (hne : step.2 ≠ .heartbeat) : TruckCameLater u fleet (steps ++ [step]) p r := by
  obtain ⟨earlier, now, truckId, at_, later, rfl, hlater, hon⟩ := h
  refine ⟨earlier, now, truckId, at_, later ++ [step], by simp, fun x hx ↦ ?_, hon⟩
  rcases List.mem_append.mp hx with hx | hx
  · exact hlater x hx
  · rwa [List.mem_singleton.mp hx]

/-- After any run of commands and heartbeats, a package on a route caches the arrival that the
schedule of the route gives for its drop-off, a package on no route caches none, and the cache is
missing only where the truck came after the package and no heartbeat has passed since. -/
theorem expectedArrivals_performAll (hidle : fleet.All (Truck.Idle fun _ ↦ True))
    {steps : List (Datetime × Operation)} (hsorted : (steps.map Prod.fst).Pairwise (· ≤ ·)) :
    (performAll u (.initial fleet) steps).Expects (TruckCameLater u fleet steps) := by
  induction steps using List.reverseRecOn with
  | nil => exact ⟨Store.all_empty, fun {p r package} hp ↦ by simp [performAll, World.initial] at hp⟩
  | append_singleton steps step ih =>
    obtain ⟨now, operation⟩ := step
    rw [List.map_append, List.pairwise_append] at hsorted
    have hw := ih hsorted.1
    have hreach := Reachable.performAll (.start : Reachable u fleet none _) hsorted.1
    have hsound := hreach.sound (fun _ _ ↦ trivial) hidle
    have hrun : performAll u (.initial fleet) (steps ++ [(now, operation)]) =
        (operation.perform u now).finalState (performAll u (.initial fleet) steps) := by
      simp [performAll]
    rw [hrun]
    by_cases hne : operation = .heartbeat
    · subst hne
      refine (Operation.expects_heartbeat (fun _ _ ↦ trivial) hsound fun c hc ↦ ?_).mono
        fun _ _ hf ↦ hf.elim
      rw [Option.or_none] at hc
      exact hsorted.2.2 c (List.mem_of_getLast? hc) now (by simp)
    · refine (Operation.expects_perform (fun _ _ ↦ trivial) hsound hw hne).mono fun p r hmissing ↦ ?_
      rcases hmissing with hmissing | ⟨⟨truckId, at_, rfl⟩, hon⟩
      · exact hmissing.snoc hne
      · exact ⟨steps, now, truckId, at_, [], rfl, by simp, hon⟩

namespace Scenario

/-- A truck comes to a planned route after a package, and then a heartbeat passes. -/
def lateTruckSteps (heartbeats : Nat) : List (Datetime × Operation) :=
  [(hour 0, .createRoute ["SYD", "MEL"] none),
    (hour 1, .createPackage package),
    (hour 2, .assignPackages 1 [1]),
    (hour 3, .assignTruck 1001 1 (hour 3))] ++ List.replicate heartbeats (hour 4, .heartbeat)

/-- Until the heartbeat the arrival of the package is missing. -/
theorem expectedArrivals_late_truck :
    (performAll .asciiOnly (.initial Scenario.fleet) (lateTruckSteps 0)).Expects
        (TruckCameLater .asciiOnly Scenario.fleet (lateTruckSteps 0)) ∧
      ((performAll .asciiOnly (.initial Scenario.fleet) (lateTruckSteps 0)).packages.find? 1).map
        (·.expectedArrival.isSome) = some false ∧
      ((performAll .asciiOnly (.initial Scenario.fleet) (lateTruckSteps 1)).packages.find? 1).map
        (·.expectedArrival.isSome) = some true := by
  have hsorted : ((lateTruckSteps 0).map Prod.fst).Pairwise (· ≤ ·) := by decide
  exact ⟨expectedArrivals_performAll fleet_idle_anywhere hsorted, by decide +kernel,
    by decide +kernel⟩

end Scenario
end FleetFlow
