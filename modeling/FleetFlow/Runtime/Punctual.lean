import FleetFlow.Runtime.EventRecord

/-!
# Packages move forward

A package is under way only if the clock has reached its pickup, and done only if the clock has
reached its drop-off. Every operation keeps this, so no heartbeat takes back a transition.
-/

namespace FleetFlow

open Program

/-- The clock justifies the status of a package on a route. -/
structure DeliveryPackage.Punctual (package : DeliveryPackage) (route : DeliveryRoute)
    (clock : Option Datetime) : Prop where
  pickup : package.status ≠ .todo →
    ∃ c ∈ clock, ∃ t, route.arrivalTimeAt package.startLocation = .ok t ∧ t ≤ c
  delivery : package.status = .done →
    ∃ c ∈ clock, ∃ t, route.arrivalTimeAt package.endLocation = .ok t ∧ t ≤ c

namespace World

variable {u : UnicodeTables} {allowed : Option LocationCode → Prop} {clock last : Option Datetime}
  {w w' : World} {now : Datetime} {focus : Focus} {es : List DomainEvent}

/-- The clock justifies the status of every package. -/
structure Punctual (clock : Option Datetime) (w : World) : Prop where
  waiting : w.packages.All fun package ↦ package.route = none → package.status = .todo
  carried : ∀ {p r : Int} {package : DeliveryPackage}, w.packages.find? p = some package →
    package.route = some r → ∃ route, w.routes.find? r = some route ∧ package.Punctual route clock

/-- What a clock value has justified stays justified. -/
theorem Punctual.later (h : w.Punctual clock) (hnow : ∀ c ∈ clock, c ≤ now) :
    w.Punctual (some now) := by
  refine ⟨h.waiting, fun {p r package} hp hr ↦ ?_⟩
  obtain ⟨route, hroute, hpunctual⟩ := h.carried hp hr
  refine ⟨route, hroute, fun hs ↦ ?_, fun hs ↦ ?_⟩
  · obtain ⟨c, hc, t, ht, hle⟩ := hpunctual.pickup hs
    exact ⟨now, rfl, t, ht, hle.trans (hnow c hc)⟩
  · obtain ⟨c, hc, t, ht, hle⟩ := hpunctual.delivery hs
    exact ⟨now, rfl, t, ht, hle.trans (hnow c hc)⟩

/-! ### What a change does to packages and schedules -/

/-- A stored package after a change: as it was, or unassigned, or newly assigned by an event. -/
inductive Carried (w : World) (es : List DomainEvent) (p : Int) (b : DeliveryPackage) : Prop
  | kept {a : DeliveryPackage} (ha : w.packages.find? p = some a) (hroute : b.route = a.route)
      (hstatus : b.status = a.status) (hstart : b.startLocation = a.startLocation)
      (hend : b.endLocation = a.endLocation)
  | idle (hroute : b.route = none) (hstatus : b.status = .todo)
  | linked {a : DeliveryPackage} {route : DeliveryRoute} {e : PackageAssignedToRoute}
      (ha : w.packages.find? p = some a) (hnone : a.route = none) (hstatus : b.status = a.status)
      (hr : w.routes.find? route.routeId = some route) (hroute : b.route = some route.routeId)
      (he : .packageAssignedToRoute e ∈ es) (hid : e.packageId = p)

/-- Assigning a package records its assignment. -/
theorem assigned_of_assignPackage {route route' : DeliveryRoute} {package package' : DeliveryPackage}
    {routePackages : List DeliveryPackage} {truck : Option Truck} {t : Datetime}
    (hnew : package.packageId ∉ route.packages)
    (hassign : route.assignPackage routePackages truck package t t = .ok (route', package'))
    (hes : route'.pendingEvents = route.pendingEvents ++ es) :
    ∃ e, es = [.packageAssignedToRoute e] ∧ e.packageId = package.packageId := by
  unfold DeliveryRoute.assignPackage DeliveryRoute.hasPackage at hassign
  rw [if_neg (by simpa using hnew), except_bind_eq_ok_iff] at hassign
  obtain ⟨message, -, hassign⟩ := hassign
  cases message with
  | some message => cases hassign
  | none =>
    simp only [except_bind_eq_ok_iff, Except.ok.injEq, Prod.mk.injEq] at hassign
    obtain ⟨linked, hlinked, rfl, rfl⟩ := hassign
    exact ⟨_, (List.append_cancel_left hes).symm, rfl⟩

/-- Every stored package comes from a stored one, unless it is new and unassigned. -/
theorem Update.carried (h : Update u focus w es w') {p : Int} {b : DeliveryPackage}
    (hb : w'.packages.find? p = some b) : Carried w es p b := by
  have hsame : w.packages.find? p = some b → Carried w es p b :=
    fun hb ↦ .kept hb rfl rfl rfl rfl
  cases h with
  | contacts hroutes hpackages htrucks => exact hsame (hpackages ▸ hb)
  | createPackage hcreate hnew hroutes hpackages htrucks =>
    rename_i start end_ weight customer now package
    rw [hpackages, Store.find?_put] at hb
    split at hb
    · obtain rfl := Option.some.inj hb
      simp only [DeliveryPackage.create, except_bind_eq_ok_iff, Except.ok.injEq] at hcreate
      obtain ⟨q, hq, rfl⟩ := hcreate
      obtain ⟨-, -, -, -, -, hroute, -, -, -, hstatus, -⟩ := DeliveryPackage.new_eq_ok hq
      exact .idle hroute hstatus
    · exact hsame hb
  | createRoute hcreate hnew => exact hsame hb
  | scheduleRoute hr hnone hschedule hes => exact hsame hb
  | linkTruck hr ht hidle hassign hes => exact hsame hb
  | linkPackage hr hp hnone hnew hassign hes =>
    rename_i route route' package package' t
    obtain ⟨e, rfl, hid⟩ := assigned_of_assignPackage hnew hassign hes
    obtain ⟨-, ⟨arrival, rfl⟩, events, -⟩ := DeliveryRoute.assignPackage_eq_ok hnew hassign
    rw [Store.find?_put] at hb
    split at hb
    · next hpid =>
      obtain rfl := Option.some.inj hb
      obtain rfl : package.packageId = p := hpid
      exact .linked hp hnone rfl hr rfl (List.mem_singleton_self _) hid
    · exact hsame hb
  | unlinkPackage hr hp hmem hlink hdetach hes =>
    rename_i route route' package package' reason t
    obtain ⟨events, hdetached⟩ := DeliveryRoute.detachPackage_eq_ok hmem hlink reason t
    rw [hdetach, Except.ok.injEq, Prod.mk.injEq] at hdetached
    obtain ⟨-, rfl⟩ := hdetached
    rw [Store.find?_put] at hb
    split at hb
    · obtain rfl := Option.some.inj hb
      exact .idle rfl rfl
    · exact hsame hb
  | unlinkTruck hr ht hlink hloc hrelease hes => exact hsame hb

/-- A change keeps every stored route and the arrival times that its schedule has. -/
theorem Update.arrivals (h : Update u focus w es w') {r : Int} {a : DeliveryRoute}
    (ha : w.routes.find? r = some a) : ∃ b, w'.routes.find? r = some b ∧
      ∀ l t, a.arrivalTimeAt l = .ok t → b.arrivalTimeAt l = .ok t := by
  have hput : ∀ {route route' : DeliveryRoute}, w.routes.find? route.routeId = some route →
      route'.routeId = route.routeId →
      (∀ l t, route.arrivalTimeAt l = .ok t → route'.arrivalTimeAt l = .ok t) →
      ∃ b, (w.routes.put route').find? r = some b ∧
        ∀ l t, a.arrivalTimeAt l = .ok t → b.arrivalTimeAt l = .ok t := by
    intro route route' hr hid harrivals
    by_cases heq : route'.routeId = r
    · refine ⟨route', by rw [Store.find?_put, if_pos heq], ?_⟩
      rw [← hid, heq, ha, Option.some.injEq] at hr
      exact hr ▸ harrivals
    · exact ⟨a, by rw [Store.find?_put, if_neg heq, ha], fun _ _ ht ↦ ht⟩
  cases h with
  | contacts hroutes hpackages htrucks => exact ⟨a, hroutes ▸ ha, fun _ _ ht ↦ ht⟩
  | createPackage hcreate hnew hroutes hpackages htrucks =>
    exact ⟨a, hroutes ▸ ha, fun _ _ ht ↦ ht⟩
  | createRoute hcreate hnew =>
    refine ⟨a, ?_, fun _ _ ht ↦ ht⟩
    rw [Store.find?_put, if_neg fun heq ↦ ?_, ha]
    rw [heq, ha] at hnew
    cases hnew
  | scheduleRoute hr hnone hschedule hes =>
    obtain ⟨hplan, plan, s, -, -, -, rfl⟩ := DeliveryRoute.schedule_eq_ok_iff.mp hschedule
    refine hput hr ?_ fun l t ht ↦ ?_
    · rfl
    obtain ⟨s, hs, -⟩ := DeliveryRoute.arrivalTimeAt_eq_ok_iff.mp ht
    rw [hplan] at hs
    cases hs
  | linkTruck hr ht hidle hassign hes =>
    obtain ⟨-, -, -, events, rfl⟩ := DeliveryRoute.assignTruck_eq_ok hassign
    exact hput hr (by rfl) fun _ _ ht ↦ ht
  | linkPackage hr hp hnone hnew hassign hes =>
    obtain ⟨-, -, events, rfl⟩ := DeliveryRoute.assignPackage_eq_ok hnew hassign
    exact hput hr (by rfl) fun _ _ ht ↦ ht
  | unlinkPackage hr hp hmem hlink hdetach hes =>
    rename_i reason t
    obtain ⟨events, hdetached⟩ := DeliveryRoute.detachPackage_eq_ok hmem hlink reason t
    rw [hdetach, Except.ok.injEq, Prod.mk.injEq] at hdetached
    obtain ⟨rfl, -⟩ := hdetached
    exact hput hr (by rfl) fun _ _ ht ↦ ht
  | unlinkTruck hr ht hlink hloc hrelease hes =>
    rename_i route route' truck truck' now t reason location
    obtain ⟨events, hreleased⟩ :=
      @DeliveryRoute.releaseTruck_eq_ok route truck route location hloc now reason t
    rw [hrelease, Except.ok.injEq, Prod.mk.injEq] at hreleased
    obtain ⟨rfl, -⟩ := hreleased
    exact hput hr (by rfl) fun _ _ ht ↦ ht

/-! ### Every operation keeps packages punctual -/

/-- An elementary change keeps packages punctual. -/
theorem Update.punctual (h : Update u focus w es w') (hw : w.Punctual clock) :
    w'.Punctual clock := by
  constructor
  · intro p b hb hnone
    cases h.carried hb with
    | kept ha hroute hstatus => exact hstatus.trans (hw.waiting _ _ ha (hroute ▸ hnone))
    | idle hroute hstatus => exact hstatus
    | linked ha hbefore hstatus hr hroute => rw [hroute] at hnone; cases hnone
  · intro p r b hb hlink
    cases h.carried hb with
    | kept ha hroute hstatus hstart hend =>
      obtain ⟨route, hr, hpunctual⟩ := hw.carried ha (hroute ▸ hlink)
      obtain ⟨route', hr', harrivals⟩ := h.arrivals hr
      refine ⟨route', hr', fun hs ↦ ?_, fun hs ↦ ?_⟩
      · obtain ⟨c, hc, t, ht, hle⟩ := hpunctual.pickup (hstatus ▸ hs)
        exact ⟨c, hc, t, harrivals _ _ (hstart ▸ ht), hle⟩
      · obtain ⟨c, hc, t, ht, hle⟩ := hpunctual.delivery (hstatus ▸ hs)
        exact ⟨c, hc, t, harrivals _ _ (hend ▸ ht), hle⟩
    | idle hroute hstatus => rw [hroute] at hlink; cases hlink
    | linked ha hbefore hstatus hr hroute =>
      obtain ⟨route', hr', -⟩ := h.arrivals hr
      rw [hroute, Option.some.injEq] at hlink
      have htodo : b.status = .todo := hstatus.trans (hw.waiting _ _ ha hbefore)
      exact ⟨route', hlink ▸ hr', by simp [htodo], by simp [htodo]⟩

theorem Updates.punctual (h : Updates u focus w es w') (hw : w.Punctual clock) :
    w'.Punctual clock := by
  induction h with
  | refl => exact hw
  | snoc _ hstep ih => exact hstep.punctual ih

/-- A removal adds no package. -/
theorem Removal.package_of_after {event : DomainEvent} (h : Removal w focus event w') {p : Int}
    {b : DeliveryPackage} (hb : w'.packages.find? p = some b) : w.packages.find? p = some b := by
  cases h with
  | package hp hnone hevent hroutes hpackages htrucks =>
    rw [hpackages, Store.find?_remove] at hb
    split at hb
    · cases hb
    · exact hb
  | route hr ht hp hevent hroutes hpackages htrucks => exact hpackages ▸ hb

/-- A removal that leaves the world sound keeps packages punctual. -/
theorem Removal.punctual {event : DomainEvent} (h : Removal w focus event w')
    (hw : w.Punctual clock) (hsound : w'.Sound u allowed last) : w'.Punctual clock := by
  have hroute : ∀ {r b}, w'.routes.find? r = some b → w.routes.find? r = some b := by
    intro r b hb
    cases h with
    | package hp hnone hevent hroutes hpackages htrucks => exact hroutes ▸ hb
    | route hr ht hp hevent hroutes hpackages htrucks =>
      rw [hroutes, Store.find?_remove] at hb
      split at hb
      · cases hb
      · exact hb
  constructor
  · exact fun p b hb ↦ hw.waiting p b (h.package_of_after hb)
  · intro p r b hb hlink
    obtain ⟨route, hr, -⟩ := hsound.linked.route_of_package hb hlink
    obtain ⟨route', hr', hpunctual⟩ := hw.carried (h.package_of_after hb) hlink
    obtain rfl := Option.some.inj ((hroute hr).symm.trans hr')
    exact ⟨route, hr, hpunctual⟩

/-- A command keeps packages punctual. -/
theorem Traced.punctual (h : Traced u w es w') (hw : w.Punctual clock)
    (hsound : w'.Sound u allowed last) : w'.Punctual clock := by
  cases h with
  | updates hupdates => exact hupdates.punctual hw
  | removal hupdates hdrop => exact hdrop.punctual (hupdates.punctual hw) hsound

/-- After a heartbeat packages are punctual. -/
theorem SettledAt.punctual (h : w.SettledAt now) (hsound : w.Sound u allowed last) :
    w.Punctual (some now) := by
  constructor
  · exact fun p b hb hnone ↦ (hsound.linked.waiting _ _ hb hnone).status
  · intro p r b hb hlink
    obtain ⟨route, hr, hmem⟩ := hsound.linked.route_of_package hb hlink
    refine ⟨route, hr, ?_⟩
    have hsettled := h.package hb hlink hr
    have hin := hsound.onPath hr hmem hb
    unfold DeliveryPackage.SettledOn at hsettled
    cases hs : route.plan.schedule? with
    | none =>
      rw [hs] at hsettled
      exact ⟨by simp [hsettled.status], by simp [hsettled.status]⟩
    | some s =>
      rw [hs] at hsettled
      obtain ⟨i, j, pickup, delivery, hvisit, -, -⟩ := Reconciler.exists_visitedInOrder hs hin
      have hpickup := hvisit.arrival_start
      have hdelivery := hvisit.arrival_end
      constructor
      · intro hstatus
        refine ⟨now, rfl, _, DeliveryRoute.arrivalTimeAt_eq_ok_iff.mpr ⟨s, hs, hpickup⟩, ?_⟩
        by_contra hlt
        exact hstatus (hsettled.todo _ hpickup (not_le.mp hlt)).1
      · intro hstatus
        refine ⟨now, rfl, _, DeliveryRoute.arrivalTimeAt_eq_ok_iff.mpr ⟨s, hs, hdelivery⟩, ?_⟩
        by_contra hlt
        rw [not_le] at hlt
        by_cases hle : pickup.arrivalAt ≤ now
        · rw [(hsettled.inProgress _ _ hpickup hdelivery hle hlt).1] at hstatus
          cases hstatus
        · rw [(hsettled.todo _ hpickup (not_le.mp hle)).1] at hstatus
          cases hstatus

/-! ### Draining -/

/-- The same world up to the buffers of routes, packages and customers. -/
structure Drained (w v : World) : Prop where
  routes : Store.Related (fun a b ↦ b = { a with pendingEvents := b.pendingEvents })
    w.routes v.routes
  packages : Store.Related (fun a b ↦ b = { a with pendingEvents := b.pendingEvents })
    w.packages v.packages
  trucks : v.trucks = w.trucks

theorem Drained.refl (w : World) : w.Drained w :=
  ⟨⟨fun ha ↦ ⟨_, ha, rfl⟩, fun hb ↦ ⟨_, hb, rfl⟩⟩, ⟨fun ha ↦ ⟨_, ha, rfl⟩, fun hb ↦ ⟨_, hb, rfl⟩⟩,
    rfl⟩

theorem Drained.trans {v x : World} (h : w.Drained v) (h' : v.Drained x) : w.Drained x := by
  refine ⟨⟨fun ha ↦ ?_, fun hc ↦ ?_⟩, ⟨fun ha ↦ ?_, fun hc ↦ ?_⟩, h'.trucks.trans h.trucks⟩
  · obtain ⟨b, hb, hab⟩ := h.routes.forward ha
    obtain ⟨c, hc, hbc⟩ := h'.routes.forward hb
    exact ⟨c, hc, by rw [hbc, hab]⟩
  · obtain ⟨b, hb, hbc⟩ := h'.routes.backward hc
    obtain ⟨a, ha, hab⟩ := h.routes.backward hb
    exact ⟨a, ha, by rw [hbc, hab]⟩
  · obtain ⟨b, hb, hab⟩ := h.packages.forward ha
    obtain ⟨c, hc, hbc⟩ := h'.packages.forward hb
    exact ⟨c, hc, by rw [hbc, hab]⟩
  · obtain ⟨b, hb, hbc⟩ := h'.packages.backward hc
    obtain ⟨a, ha, hab⟩ := h.packages.backward hb
    exact ⟨a, ha, by rw [hbc, hab]⟩

/-- Packages stay punctual while buffers are drained. -/
theorem Drained.punctual {v : World} (h : w.Drained v) (hw : w.Punctual clock) :
    v.Punctual clock := by
  constructor
  · intro p b hb hnone
    obtain ⟨a, ha, hab⟩ := h.packages.backward hb
    have hroute : b.route = a.route := by rw [hab]
    have hstatus : b.status = a.status := by rw [hab]
    exact hstatus.trans (hw.waiting _ _ ha (hroute ▸ hnone))
  · intro p r b hb hlink
    obtain ⟨a, ha, hab⟩ := h.packages.backward hb
    have hroute : b.route = a.route := by rw [hab]
    obtain ⟨route, hr, hpunctual⟩ := hw.carried ha (hroute ▸ hlink)
    obtain ⟨route', hr', hrr⟩ := h.routes.forward hr
    refine ⟨route', hr', ?_⟩
    rw [hrr, hab]
    exact ⟨hpunctual.pickup, hpunctual.delivery⟩

end World

namespace EventCollector

variable {w : World}

/-- Clearing a buffer leaves everything else alone. -/
theorem drained_clearEvents (w : World) (recorder : EventRecorder) :
    w.Drained (clearEvents w recorder) := by
  have hrefl := World.Drained.refl w
  cases recorder with
  | customer c =>
    unfold clearEvents
    dsimp only
    cases w.customers.find? c with
    | none => exact hrefl
    | some customer => exact ⟨hrefl.routes, hrefl.packages, rfl⟩
  | package p =>
    unfold clearEvents
    dsimp only
    cases hp : w.packages.find? p with
    | none => exact hrefl
    | some package =>
      refine ⟨hrefl.routes, Store.related_of_forward (fun q a ha ↦ ?_) (fun q hq ↦ ?_), rfl⟩
      · rw [Store.find?_put]
        split
        · next hid =>
          obtain rfl : package.packageId = p := Store.key_of_find? hp
          obtain rfl := Option.some.inj (hp.symm.trans (hid ▸ ha))
          exact ⟨_, rfl, rfl⟩
        · exact ⟨a, ha, rfl⟩
      · rw [Store.find?_put, if_neg fun hid ↦ ?_, hq]
        obtain rfl : package.packageId = p := Store.key_of_find? hp
        obtain rfl : package.packageId = q := hid
        rw [hq] at hp
        cases hp
  | route r =>
    unfold clearEvents
    dsimp only
    cases hr : w.routes.find? r with
    | none => exact hrefl
    | some route =>
      refine ⟨Store.related_of_forward (fun q a ha ↦ ?_) (fun q hq ↦ ?_), hrefl.packages, rfl⟩
      · rw [Store.find?_put]
        split
        · next hid =>
          obtain rfl : route.routeId = r := Store.key_of_find? hr
          obtain rfl := Option.some.inj (hr.symm.trans (hid ▸ ha))
          exact ⟨_, rfl, rfl⟩
        · exact ⟨a, ha, rfl⟩
      · rw [Store.find?_put, if_neg fun hid ↦ ?_, hq]
        obtain rfl : route.routeId = r := Store.key_of_find? hr
        obtain rfl : route.routeId = q := hid
        rw [hq] at hr
        cases hr
  | removed events => exact hrefl

/-- Draining leaves everything but buffers alone. -/
theorem ensures_drain_drained (w : World) (recorders : List EventRecorder) :
    (drain recorders).Keeps w fun v ↦ w.Drained v := by
  have hfold : ∀ (recorders : List EventRecorder) (v : World),
      v.Drained (recorders.foldl clearEvents v) := by
    intro recorders
    induction recorders with
    | nil => exact World.Drained.refl
    | cons recorder rest ih => exact fun v ↦ (drained_clearEvents v recorder).trans (ih _)
  unfold drain
  simp only [Action.Keeps, ensures_bind, ensures_lift_require, ensures_get, ensures_set,
    ensures_pure]
  exact ⟨fun _ ↦ hfold recorders w, fun _ ↦ World.Drained.refl w⟩

end EventCollector

/-! ### Runs -/

variable {u : UnicodeTables} {allowed : Option LocationCode → Prop} {fleet : Fleet}
  {clock : Option Datetime} {w : World} {now : Datetime}

/-- Executing an operation in a sound world keeps packages punctual. -/
theorem Operation.punctual_execute (hmap : ∀ l ∈ Map.locations, allowed (some l))
    (h : w.Sound u allowed clock) (hw : w.Punctual clock) (hnow : ∀ c ∈ clock, c ≤ now)
    (operation : Operation) :
    (operation.execute u now).Keeps w fun w' ↦ w'.Punctual (some now) := by
  by_cases hne : operation = .heartbeat
  · subst hne
    unfold execute
    apply ensures_map.mpr
    apply (HeartbeatService.ensures_advance h hnow).mono _ fun _ _ hf ↦ hf.elim
    intro summary w' hadvance
    exact (hadvance.advanced.settled h.linked).punctual (hadvance.advanced.sound hmap h)
  · have hlater := hw.later hnow
    exact (Operation.effects_execute hmap h hne).mono
      (fun _ _ heffect ↦ heffect.2.traced.punctual hlater heffect.1)
      fun _ _ heffect ↦ heffect.2.traced.punctual hlater heffect.1

/-- Performing an operation in a sound world keeps packages punctual. -/
theorem Operation.punctual_perform (hmap : ∀ l ∈ Map.locations, allowed (some l))
    (h : w.Sound u allowed clock) (hw : w.Punctual clock) (hnow : ∀ c ∈ clock, c ≤ now)
    (operation : Operation) :
    (operation.perform u now).Keeps w fun w' ↦ w'.Punctual (some now) := by
  unfold perform
  rw [Action.Keeps, ensures_bind]
  apply (operation.punctual_execute hmap h hw hnow).mono _ fun _ _ hw' ↦ hw'
  intro recorders w' hw'
  exact (EventCollector.ensures_drain_drained w' recorders).mono
    (fun _ _ hdrained ↦ hdrained.punctual hw') fun _ _ hdrained ↦ hdrained.punctual hw'

/-- In every reachable world packages are punctual. -/
theorem Reachable.punctual (hidle : fleet.All (Truck.Idle fun _ ↦ True))
    (h : Reachable u fleet clock w) : w.Punctual clock := by
  induction h with
  | start => exact ⟨Store.all_empty, fun {p r package} hp ↦ by simp [World.initial] at hp⟩
  | step h hnow operation ih =>
    have hsound := h.sound (fun _ _ ↦ trivial) hidle
    exact (operation.punctual_perform (fun _ _ ↦ trivial) hsound ih hnow).finalState

end FleetFlow
