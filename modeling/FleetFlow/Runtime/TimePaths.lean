import FleetFlow.Runtime.Punctual
import FleetFlow.Runtime.Quiet

/-!
# Reconciling in steps or at once

Two heartbeats in turn leave every route, package and truck as the second one alone would, and
record the same pickups, deliveries and releases.
-/

namespace FleetFlow

open Program Reconciler

/-- Only the schedule of the route matters. -/
theorem DeliveryPackage.SettledOn.of_plan {route route' : DeliveryRoute} {now : Datetime}
    {package : DeliveryPackage} (h : package.SettledOn route now)
    (hplan : route'.plan = route.plan) : package.SettledOn route' now := by
  unfold SettledOn at h ⊢
  rw [hplan]
  exact h

/-- Only what can be observed of the package matters. -/
theorem DeliveryPackage.SettledOn.of_view {route : DeliveryRoute} {now : Datetime}
    {p q : DeliveryPackage} (h : p.SettledOn route now) (hsame : p.SameShipment q)
    (hview : q.view = p.view) : q.SettledOn route now := by
  have hstatus : q.status = p.status := congrArg PackageView.status hview
  have hlocation : q.currentLocation = p.currentLocation := congrArg PackageView.location hview
  have harrival : q.expectedArrival = p.expectedArrival :=
    congrArg PackageView.expectedArrival hview
  unfold SettledOn at h ⊢
  cases hs : route.plan.schedule? with
  | none =>
    rw [hs] at h
    exact ⟨hstatus.trans h.status, hsame.startLocation ▸ hlocation.trans h.currentLocation,
      harrival.trans h.expectedArrival⟩
  | some s =>
    rw [hs] at h
    dsimp only at h ⊢
    constructor
    · rw [harrival, ← hsame.endLocation, h.expectedArrival]
    · rw [hstatus, hlocation, ← hsame.startLocation]
      exact h.todo
    · rw [hstatus, hlocation, ← hsame.endLocation]
      exact h.done
    · rw [hstatus, hlocation, ← hsame.startLocation, ← hsame.endLocation]
      exact h.inProgress

/-- The same routes, packages and trucks up to buffered events. -/
structure World.SameState (w v : World) : Prop where
  routes : Store.Related (fun a b ↦ b = { a with pendingEvents := b.pendingEvents })
    w.routes v.routes
  packages : Store.Related (fun a b ↦ a.SameShipment b ∧ b.view = a.view) w.packages v.packages
  trucks : v.trucks = w.trucks

namespace World

/-- A package after a heartbeat, up to buffered events. -/
structure PackageTimed (w : World) (now : Datetime) (before after : DeliveryPackage) : Prop where
  same : before.SameShipment after
  route : after.route = before.route
  waiting : before.route = none → after.view = before.view
  settled : ∀ r ∈ before.route, ∀ route, w.routes.find? r = some route → after.SettledOn route now

/-- A world after a heartbeat, up to buffered events. -/
structure Timed (now : Datetime) (w v : World) : Prop where
  routes : Store.Related (DeliveryRoute.SettledFrom now) w.routes v.routes
  trucks : Store.Related (TruckMoved w now []) w.trucks v.trucks
  packages : Store.Related (PackageTimed w now) w.packages v.packages

variable {u : UnicodeTables} {allowed : Option LocationCode → Prop} {clock : Option Datetime}
  {w v x : World} {now t1 t2 : Datetime}

/-- A heartbeat without skipped routes. -/
theorem Advanced.timed (h : Advanced now [] w v) (hl : w.Linked) : w.Timed now v := by
  have hrel : ∀ {a b : DeliveryPackage}, PackageMoved w now [] a b →
      (∃ p, w.packages.find? p = some a) → PackageTimed w now a b := by
    rintro a b hab ⟨p, hp⟩
    obtain ⟨hsame, hroute, -, hwaiting⟩ := hab.links hl.toRouteLinked hp
    refine ⟨hsame, hroute, fun hn ↦ by rw [hwaiting hn], fun r hr route hfind ↦ ?_⟩
    obtain ⟨_, hpass⟩ := hab.passed r hr route hfind List.not_mem_nil
    exact hpass.settled
  have hmoved : ∀ {a b : DeliveryRoute}, RouteMoved now [] a b → a.SettledFrom now b := by
    intro a b hab
    unfold RouteMoved at hab
    rwa [if_neg List.not_mem_nil] at hab
  refine ⟨⟨fun ha ↦ ?_, fun hb ↦ ?_⟩, h.trucks, ⟨fun ha ↦ ?_, fun hb ↦ ?_⟩⟩
  · obtain ⟨b, hb, hab⟩ := h.routes.forward ha
    exact ⟨b, hb, hmoved hab⟩
  · obtain ⟨a, ha, hab⟩ := h.routes.backward hb
    exact ⟨a, ha, hmoved hab⟩
  · obtain ⟨b, hb, hab⟩ := h.packages.forward ha
    exact ⟨b, hb, hrel hab ⟨_, ha⟩⟩
  · obtain ⟨a, ha, hab⟩ := h.packages.backward hb
    exact ⟨a, ha, hrel hab ⟨_, ha⟩⟩

/-- Draining makes no difference. -/
theorem Timed.drained (h : w.Timed now v) (hdrained : v.Drained x) : w.Timed now x := by
  have hroute : ∀ {a b c : DeliveryRoute}, a.SettledFrom now b →
      c = { b with pendingEvents := c.pendingEvents } → a.SettledFrom now c := by
    intro a b c hab hbc
    rw [hbc]
    exact ⟨hab.routeId, hab.plan, hab.packages, hab.status, hab.truck⟩
  have hpackage : ∀ {a b c : DeliveryPackage}, PackageTimed w now a b →
      c = { b with pendingEvents := c.pendingEvents } → PackageTimed w now a c := by
    intro a b c hab hbc
    have hsame : b.SameShipment c := by
      rw [hbc]
      exact ⟨rfl, rfl, rfl, rfl, rfl⟩
    have hview : c.view = b.view := by
      rw [hbc]
      rfl
    refine ⟨hab.same.trans hsame, ?_, fun hn ↦ hview.trans (hab.waiting hn),
      fun r hr route hfind ↦ (hab.settled r hr route hfind).of_view hsame hview⟩
    exact (congrArg PackageView.route hview).trans hab.route
  constructor
  · exact h.routes.comp hdrained.routes fun _ ↦ hroute
  · exact hdrained.trucks ▸ h.trucks
  · exact h.packages.comp hdrained.packages fun _ ↦ hpackage

/-- A settled world stays settled while buffers are drained. -/
theorem SettledAt.drained (h : w.SettledAt now) (hdrained : w.Drained v) : v.SettledAt now := by
  refine ⟨fun r b hb ↦ ?_, fun r b hb ↦ ?_, fun {p r package route} hp hlink hr ↦ ?_,
    fun {t r truck route s} ht hlink hr hs ↦ ?_⟩
  · obtain ⟨a, ha, hab⟩ := hdrained.routes.backward hb
    have hstatus : a.status = a.statusAt now := h.status _ _ ha
    rw [hab]
    exact hstatus
  · obtain ⟨a, ha, hab⟩ := hdrained.routes.backward hb
    have hunfinished : a.Finished now → a.truck = none := h.unfinished _ _ ha
    rw [hab]
    exact hunfinished
  · obtain ⟨a, ha, hab⟩ := hdrained.packages.backward hp
    obtain ⟨x, hx, hxr⟩ := hdrained.routes.backward hr
    have hsame : a.SameShipment package := by
      rw [hab]
      exact ⟨rfl, rfl, rfl, rfl, rfl⟩
    have hview : package.view = a.view := by
      rw [hab]
      rfl
    have hplan : route.plan = x.plan := by rw [hxr]
    have hroute : a.route = some r := (congrArg PackageView.route hview).symm.trans hlink
    exact ((h.package ha hroute hx).of_view hsame hview).of_plan hplan
  · obtain ⟨x, hx, hxr⟩ := hdrained.routes.backward hr
    have hplan : route.plan = x.plan := by rw [hxr]
    exact h.truck (hdrained.trucks ▸ ht) hlink hx (hplan ▸ hs)

/-- Settling a route twice. -/
theorem settledFrom_trans {a b c : DeliveryRoute} (h1 : a.SettledFrom t1 b)
    (h2 : b.SettledFrom t2 c) (hle : t1 ≤ t2) : a.SettledFrom t2 c := by
  have hfinished : b.Finished t2 ↔ a.Finished t2 := by
    unfold DeliveryRoute.Finished DeliveryRoute.etaFinal
    rw [h1.plan]
  refine ⟨h2.routeId.trans h1.routeId, h2.plan.trans h1.plan, h2.packages.trans h1.packages, ?_, ?_⟩
  · rw [h2.status]
    unfold DeliveryRoute.statusAt
    rw [h1.plan]
  · rw [h2.truck, h1.truck]
    by_cases hfin : a.Finished t2
    · rw [if_pos (hfinished.mpr hfin), if_pos hfin]
    · rw [if_neg (mt hfinished.mp hfin), if_neg hfin, if_neg fun h ↦ hfin (h.mono hle)]

/-- Passing over a truck twice. -/
theorem truckPass_trans {route : DeliveryRoute} {a b c : Truck} (h1 : TruckPass route t1 a b)
    (h2 : ¬ route.Finished t1 → TruckPass route t2 b c) (hkept : route.Finished t1 → c = b)
    (hle : t1 ≤ t2) : TruckPass route t2 a c := by
  by_cases hfin : route.Finished t1
  · obtain rfl := hkept hfin
    refine ⟨h1.same, fun _ ↦ h1.released hfin, fun hopen ↦ absurd (hfin.mono hle) hopen,
      fun hs ↦ absurd hfin (DeliveryRoute.not_finished_of_unscheduled hs), fun s hs hlt ↦ ?_⟩
    exact absurd ((DeliveryRoute.finished_iff hs).mp (hfin.mono hle)) (not_le.mpr hlt)
  · have h3 := h2 hfin
    obtain ⟨k1, k2, k3, k4⟩ := h1.kept hfin
    refine ⟨h1.same.trans h3.same, h3.released, fun hopen ↦ ?_, fun hs ↦ ?_, h3.onSchedule⟩
    · obtain ⟨l1, l2, l3, l4⟩ := h3.kept hopen
      exact ⟨l1.trans k1, l2.trans k2, l3.trans k3, l4.trans k4⟩
    · obtain ⟨k5, -⟩ := h1.unscheduled hs
      obtain ⟨l5, l6⟩ := h3.unscheduled hs
      exact ⟨l5.trans k5, l6⟩

/-- One heartbeat after another. -/
theorem Timed.trans (h1 : w.Timed t1 v) (h2 : v.Timed t2 x) (hle : t1 ≤ t2) :
    w.Timed t2 x := by
  have hplan : ∀ {r : Int} {route : DeliveryRoute}, w.routes.find? r = some route →
      ∃ route', v.routes.find? r = some route' ∧ route'.plan = route.plan := by
    intro r route hr
    obtain ⟨route', hr', hsettled⟩ := h1.routes.forward hr
    exact ⟨route', hr', hsettled.plan⟩
  have htruck : ∀ {a b c : Truck}, TruckMoved w t1 [] a b → TruckMoved v t2 [] b c →
      TruckMoved w t2 [] a c := by
    intro a b c hab hbc
    refine ⟨fun hn ↦ ?_, by simp, fun r hr route hroute _ ↦ ?_⟩
    · have hb := hab.idle hn
      rw [hb] at hbc
      exact hbc.idle hn
    · have hpass := hab.passed r hr route hroute List.not_mem_nil
      obtain ⟨route', hr', hplan⟩ := hplan hroute
      refine truckPass_trans hpass (fun hopen ↦ ?_) (fun hfin ↦ ?_) hle
      · have hlink : r ∈ b.route := (hpass.kept hopen).2.1 ▸ hr
        exact (hbc.passed r hlink route' hr' List.not_mem_nil).of_plan hplan.symm
      · exact hbc.idle (hpass.released hfin).2.1
  have hpackage : ∀ {a b c : DeliveryPackage}, PackageTimed w t1 a b → PackageTimed v t2 b c →
      PackageTimed w t2 a c := by
    intro a b c hab hbc
    refine ⟨hab.same.trans hbc.same, hbc.route.trans hab.route, fun hn ↦ ?_, fun r hr route hfind ↦ ?_⟩
    · exact (hbc.waiting (hab.route.trans hn)).trans (hab.waiting hn)
    · obtain ⟨route', hr', hplan⟩ := hplan hfind
      exact (hbc.settled r (hab.route ▸ hr) route' hr').of_plan hplan.symm
  constructor
  · exact h1.routes.comp h2.routes fun _ hab hbc ↦ settledFrom_trans hab hbc hle
  · exact h1.trucks.comp h2.trucks fun _ ↦ htruck
  · exact h1.packages.comp h2.packages fun _ ↦ hpackage

/-- A truck is where the schedule of its route determines. -/
theorem truckPass_unique {route : DeliveryRoute} {a b c : Truck} (h1 : TruckPass route now a b)
    (h2 : TruckPass route now a c) : c = b := by
  have hsame := h1.same.symm.trans h2.same
  have hstate : c.status = b.status ∧ c.route = b.route ∧ c.busyFrom = b.busyFrom ∧
      c.busyUntil = b.busyUntil ∧ c.currentLocation = b.currentLocation ∧
      c.inTransitTo = b.inTransitTo := by
    by_cases hfin : route.Finished now
    · obtain ⟨k1, k2, k3, k4, k5, k6⟩ := h1.released hfin
      obtain ⟨l1, l2, l3, l4, l5, l6⟩ := h2.released hfin
      simp [*]
    · obtain ⟨k1, k2, k3, k4⟩ := h1.kept hfin
      obtain ⟨l1, l2, l3, l4⟩ := h2.kept hfin
      have hposition : c.currentLocation = b.currentLocation ∧ c.inTransitTo = b.inTransitTo := by
        cases hs : route.plan.schedule? with
        | none =>
          obtain ⟨k5, k6⟩ := h1.unscheduled hs
          obtain ⟨l5, l6⟩ := h2.unscheduled hs
          exact ⟨l5.trans k5.symm, l6.trans k6.symm⟩
        | some s =>
          have hlt : now < s.etaFinal :=
            not_le.mp fun hle ↦ hfin ((DeliveryRoute.finished_iff hs).mpr hle)
          exact (h2.onSchedule s hs hlt).position_eq (h1.onSchedule s hs hlt) hlt
      exact ⟨l1.trans k1.symm, l2.trans k2.symm, l3.trans k3.symm, l4.trans k4.symm, hposition⟩
  obtain ⟨e1, e2, e3, e4, e5, e6⟩ := hstate
  obtain ⟨s1, s2, s3, s4⟩ := hsame
  cases b
  cases c
  simp_all

/-- What a heartbeat leaves is determined by the world before and the instant. -/
theorem Timed.sameState (hw : w.Sound u allowed clock) (h1 : w.Timed now v) (h2 : w.Timed now x) :
    v.SameState x := by
  have hroute : ∀ {a b c : DeliveryRoute}, a.SettledFrom now b → a.SettledFrom now c →
      c = { b with pendingEvents := c.pendingEvents } := by
    intro a b c hab hac
    obtain ⟨k1, k2, k3, k4, k5⟩ := hab
    obtain ⟨l1, l2, l3, l4, l5⟩ := hac
    cases b
    cases c
    simp_all
  have hpackage : ∀ {p : Int} {a b c : DeliveryPackage}, w.packages.find? p = some a →
      PackageTimed w now a b → PackageTimed w now a c → b.SameShipment c ∧ c.view = b.view := by
    intro p a b c ha hab hac
    refine ⟨hab.same.symm.trans hac.same, ?_⟩
    cases hn : a.route with
    | none => exact (hac.waiting hn).trans (hab.waiting hn).symm
    | some r =>
      obtain ⟨route, hr, hmem⟩ := hw.linked.route_of_package ha hn
      have hin := hw.onPath hr hmem ha
      have hobserved := (hac.settled r hn route hr).observed_eq (hab.settled r hn route hr)
        (hac.same.startLocation.symm.trans hab.same.startLocation)
        (hac.same.endLocation.symm.trans hab.same.endLocation)
        (hac.same.startLocation ▸ hac.same.endLocation ▸ hin)
      simp only [DeliveryPackage.observed, Prod.mk.injEq] at hobserved
      simp only [DeliveryPackage.view, hab.route, hac.route, hobserved]
  have htruck : ∀ {t : Int} {a b c : Truck}, w.trucks.find? t = some a →
      TruckMoved w now [] a b → TruckMoved w now [] a c → c = b := by
    intro t a b c ha hab hac
    cases hn : a.route with
    | none => rw [hab.idle hn, hac.idle hn]
    | some r =>
      obtain ⟨route, hr, -⟩ := hw.linked.route_of_truck ha hn
      exact truckPass_unique (hab.passed r hn route hr List.not_mem_nil)
        (hac.passed r hn route hr List.not_mem_nil)
  constructor
  · exact h1.routes.fork h2.routes fun _ ↦ hroute
  · exact h1.packages.fork h2.packages hpackage
  · exact (h1.trucks.fork h2.trucks htruck).eq

end World

/-! ### Movements -/

/-- Whether a transition is a pickup, a delivery or the release of a truck. -/
def LifecycleEvent.isMovement : LifecycleEvent → Bool
  | .packagePickedUp .. | .packageDelivered .. | .truckReleased .. => true
  | .routeStarted .. | .routeCompleted .. => false

/-- The pickups, deliveries and releases that entries record. -/
def movements (entries : List Entry) : List LifecycleEvent :=
  (entries.filterMap Entry.lifecycle?).filter LifecycleEvent.isMovement

theorem movements_append (entries entries' : List Entry) :
    movements (entries ++ entries') = movements entries ++ movements entries' := by
  simp [movements]

/-- The movements of a route, its truck and its packages up to an instant. -/
def World.movementsOn (w : World) (now : Datetime) (route : DeliveryRoute) : List LifecycleEvent :=
  route.releases (w.truckOf route) now ++
    (w.packagesOf route).flatMap (·.transitionsOn route now)

/-- Transitions of a package are movements. -/
private theorem filter_transitionsOn (package : DeliveryPackage) (route : DeliveryRoute)
    (now : Datetime) : (package.transitionsOn route now).filter LifecycleEvent.isMovement =
      package.transitionsOn route now := by
  unfold DeliveryPackage.transitionsOn
  cases route.plan.schedule? with
  | none => rfl
  | some s =>
    dsimp only
    cases s.arrival? package.startLocation with
    | none => rfl
    | some pickup =>
      cases s.arrival? package.endLocation with
      | none => rfl
      | some delivery =>
        unfold DeliveryPackage.transitions
        dsimp only
        by_cases h1 : package.status = .todo ∧ pickup ≤ now <;>
          by_cases h2 : package.status ≠ .done ∧ delivery ≤ now <;>
          simp [h1, h2, LifecycleEvent.isMovement]

/-- The movements among all that a pass over a route records. -/
theorem World.filter_transitions (w : World) (now : Datetime) (route : DeliveryRoute) :
    (route.transitions now ++ (route.releases (w.truckOf route) now ++
      (w.packagesOf route).flatMap (·.transitionsOn route now))).filter LifecycleEvent.isMovement =
      w.movementsOn now route := by
  have htransitions : (route.transitions now).filter LifecycleEvent.isMovement = [] := by
    unfold DeliveryRoute.transitions
    split
    · rfl
    · split <;> rfl
  have hreleases : (route.releases (w.truckOf route) now).filter LifecycleEvent.isMovement =
      route.releases (w.truckOf route) now := by
    unfold DeliveryRoute.releases
    split
    · split <;> rfl
    · rfl
  unfold movementsOn
  rw [List.filter_append, List.filter_append, htransitions, hreleases, List.nil_append,
    List.filter_flatMap]
  simp only [filter_transitionsOn]

namespace HeartbeatService

variable {u : UnicodeTables} {allowed : Option LocationCode → Prop} {clock : Option Datetime}
  {w w' : World} {now : Datetime} {summary : HeartbeatSummary} {entries : List Entry}

/-- The transitions that a heartbeat records, route by route. -/
theorem Journaled.transitions (h : Journaled now w summary entries w')
    (hw : w.Sound u allowed clock) : entries.filterMap Entry.lifecycle? =
      w.routes.values.flatMap fun route ↦ route.transitions now ++
        (route.releases (w.truckOf route) now ++
          (w.packagesOf route).flatMap (·.transitionsOn route now)) := by
  obtain ⟨passes, -, rfl, hids, hswept⟩ := h.passes
  let told : Int → List LifecycleEvent := fun r ↦ (w.routes.find? r).elim [] fun route ↦
    route.transitions now ++ (route.releases (w.truckOf route) now ++
      (w.packagesOf route).flatMap (·.transitionsOn route now))
  have htold : ∀ pass ∈ passes, pass.2.2.filterMap Entry.lifecycle? = told pass.1 := by
    rintro ⟨r, x⟩ hpass
    have hr : r ∈ routeIds w := hids ▸ List.mem_map_of_mem hpass
    obtain ⟨route, hroute, rfl⟩ := List.mem_map.mp hr
    rw [Store.mem_values] at hroute
    obtain ⟨c, ⟨hpassOf, hsome, -⟩, -⟩ := hswept.visited _ _ hpass _ hroute
    rcases hpassOf with ⟨ch, hch, -⟩ | ⟨-, -, truck, htruck, hnone, -⟩
    · rw [(hsome (by simp [hch])).transitions]
      simp only [told, hroute, Option.elim_some]
      rfl
    · -- A truck on a route has a location, so no pass is given up.
      have htruck' : route.truck.bind w.trucks.find? = some truck := htruck
      obtain ⟨t, hlink, ht⟩ := Option.bind_eq_some_iff.mp htruck'
      obtain ⟨truck', ht', hback⟩ := hw.linked.truck_of_route hroute hlink
      obtain rfl := Option.some.inj (ht.symm.trans ht')
      have hlocated := (hw.located _ _ ht).onRoute (by simp [hback])
      simp [hnone] at hlocated
  calc (passEntries passes).filterMap Entry.lifecycle?
      = passes.flatMap fun pass ↦ pass.2.2.filterMap Entry.lifecycle? := by
        rw [passEntries, List.filterMap_flatMap]
    _ = passes.flatMap fun pass ↦ told pass.1 := List.flatMap_congr htold
    _ = (passes.map Prod.fst).flatMap told := by rw [List.flatMap_map]
    _ = w.routes.values.flatMap fun route ↦ told route.routeId := by
        rw [hids, routeIds, List.flatMap_map]
    _ = _ := by
        apply List.flatMap_congr
        intro route hroute
        simp only [told, Store.mem_values.mp hroute, Option.elim_some]

/-- The movements that a heartbeat records, route by route. -/
theorem Journaled.movements_eq (h : Journaled now w summary entries w')
    (hw : w.Sound u allowed clock) :
    movements entries = w.routes.values.flatMap (w.movementsOn now) := by
  unfold movements
  rw [h.transitions hw, List.filter_flatMap]
  exact List.flatMap_congr fun route _ ↦ w.filter_transitions now route

end HeartbeatService

/-! ### Movements in steps or at once -/

/-- Contributions of related elements add up. -/
private theorem perm_flatMap_of_forall₂ {α β γ : Type} {rel : α → β → Prop} {f h : α → List γ}
    {g : β → List γ} {xs : List α} {ys : List β} (hrel : List.Forall₂ rel xs ys)
    (hstep : ∀ a b, rel a b → (f a ++ g b).Perm (h a)) :
    (xs.flatMap f ++ ys.flatMap g).Perm (xs.flatMap h) := by
  induction hrel with
  | nil => exact .refl _
  | @cons a b xs ys hab _ ih =>
    rw [List.flatMap_cons, List.flatMap_cons, List.flatMap_cons]
    calc f a ++ xs.flatMap f ++ (g b ++ ys.flatMap g)
        = f a ++ (xs.flatMap f ++ g b ++ ys.flatMap g) := by simp only [List.append_assoc]
    List.Perm _ (f a ++ (g b ++ xs.flatMap f ++ ys.flatMap g)) :=
        (List.perm_append_comm.append_right _).append_left _
    _ = f a ++ g b ++ (xs.flatMap f ++ ys.flatMap g) := by simp only [List.append_assoc]
    List.Perm _ (h a ++ xs.flatMap h) := (hstep a b hab).append ih

section Steps

variable {clock : Option Datetime} {t1 t2 : Datetime} {route route' : DeliveryRoute}

/-- Between two instants a package makes the transitions that it has not made before. -/
private theorem transitions_append {p q : DeliveryPackage} {r : Int} {pickup delivery : Datetime}
    (hid : q.packageId = p.packageId) (hlt : pickup < delivery) (hle : t1 ≤ t2)
    (hstarted : p.status ≠ .todo → pickup ≤ t1) (hdone : p.status = .done → delivery ≤ t1)
    (h1 : t1 < pickup → q.status = .todo) (h2 : delivery ≤ t1 → q.status = .done)
    (h3 : pickup ≤ t1 → t1 < delivery → q.status = .inProgress) :
    p.transitions r pickup delivery t1 ++ q.transitions r pickup delivery t2 =
      p.transitions r pickup delivery t2 := by
  unfold DeliveryPackage.transitions
  rw [hid]
  rcases lt_or_ge t1 pickup with hbefore | hpicked
  · -- Not picked up yet: nothing has been recorded.
    have htodo : p.status = .todo := by
      by_contra hne
      exact absurd (hstarted hne) (not_le.mpr hbefore)
    simp [h1 hbefore, htodo, not_le.mpr hbefore, not_le.mpr (hbefore.trans hlt)]
  · rcases lt_or_ge t1 delivery with hunder | hdelivered
    · have hne : p.status ≠ .done := fun hd ↦ absurd (hdone hd) (not_le.mpr hunder)
      simp [h3 hpicked hunder, hne, hpicked, hpicked.trans hle, not_le.mpr hunder]
    · simp [h2 hdelivered, hpicked, hdelivered, hpicked.trans hle, hdelivered.trans hle]

/-- What has been recorded of a punctual package has been reached. -/
theorem DeliveryPackage.Punctual.reached {p : DeliveryPackage} (h : p.Punctual route clock)
    {s : RouteSchedule} (hs : route.plan.schedule? = some s) {i j : Nat}
    {pickup delivery : ScheduledStop} (hvisit : VisitedInOrder s p i j pickup delivery)
    (hclock : ∀ c ∈ clock, c ≤ t1) :
    (p.status ≠ .todo → pickup.arrivalAt ≤ t1) ∧ (p.status = .done → delivery.arrivalAt ≤ t1) := by
  have harrived : ∀ {l t}, route.arrivalTimeAt l = .ok t → s.arrival? l = some t := by
    intro l t ht
    obtain ⟨s', hs', ht'⟩ := DeliveryRoute.arrivalTimeAt_eq_ok_iff.mp ht
    obtain rfl := Option.some.inj (hs.symm.trans hs')
    exact ht'
  constructor
  · intro hne
    obtain ⟨c, hc, t, ht, htc⟩ := h.pickup hne
    obtain rfl := Option.some.inj (hvisit.arrival_start.symm.trans (harrived ht))
    exact htc.trans (hclock c hc)
  · intro hdone
    obtain ⟨c, hc, t, ht, htc⟩ := h.delivery hdone
    obtain rfl := Option.some.inj (hvisit.arrival_end.symm.trans (harrived ht))
    exact htc.trans (hclock c hc)

/-- What is still open of a package on a schedule has not been reached. -/
theorem DeliveryPackage.OnSchedule.not_reached {q : DeliveryPackage} {s : RouteSchedule}
    (h : q.OnSchedule s t1) {i j : Nat} {pickup delivery : ScheduledStop}
    (hvisit : VisitedInOrder s q i j pickup delivery) :
    (q.status = .todo → t1 < pickup.arrivalAt) ∧ (q.status ≠ .done → t1 < delivery.arrivalAt) := by
  have hlast : q.status ≠ .done → t1 < delivery.arrivalAt := by
    intro hne
    by_contra hge
    exact hne (h.done _ hvisit.arrival_end (not_lt.mp hge)).1
  refine ⟨fun htodo ↦ ?_, hlast⟩
  by_contra hge
  have hstatus := (h.inProgress _ _ hvisit.arrival_start hvisit.arrival_end (not_lt.mp hge)
    (hlast (by simp [htodo]))).1
  rw [htodo] at hstatus
  cases hstatus

/-- A schedule visits a shipment whatever its state. -/
theorem visitedInOrder_of_same {p q : DeliveryPackage} {s : RouteSchedule} {i j : Nat}
    {pickup delivery : ScheduledStop} (h : VisitedInOrder s p i j pickup delivery)
    (hsame : p.SameShipment q) : VisitedInOrder s q i j pickup delivery :=
  ⟨h.getElem?_pickup, h.pickupLocation.trans hsame.startLocation, h.getElem?_delivery,
    h.deliveryLocation.trans hsame.endLocation, h.lt⟩

/-- A punctual package makes the same transitions in two steps as at once. -/
theorem DeliveryPackage.Punctual.transitionsOn_append {p q : DeliveryPackage}
    (h : p.Punctual route clock) (hclock : ∀ c ∈ clock, c ≤ t1) (hle : t1 ≤ t2)
    (hin : route.includesInOrder p.startLocation p.endLocation = true)
    (hsame : p.SameShipment q) (hq : q.SettledOn route t1) (hid : route'.routeId = route.routeId)
    (hplan : route'.plan = route.plan) :
    p.transitionsOn route t1 ++ q.transitionsOn route' t2 = p.transitionsOn route t2 := by
  unfold SettledOn at hq
  cases hs : route.plan.schedule? with
  | none =>
    unfold DeliveryPackage.transitionsOn
    rw [hplan, hs]
    rfl
  | some s =>
    rw [hs] at hq
    obtain ⟨i, j, pickup, delivery, hvisit, -, -⟩ := exists_visitedInOrder hs hin
    have hvisit' := visitedInOrder_of_same hvisit hsame
    rw [transitionsOn_eq hs hvisit, transitionsOn_eq hs hvisit,
      transitionsOn_eq (hplan.symm ▸ hs) hvisit', hid]
    obtain ⟨hstarted, hdone⟩ := h.reached hs hvisit hclock
    refine transitions_append hsame.packageId.symm hvisit.arrivalAt_lt hle hstarted hdone
      (fun hlt ↦ ?_) (fun hge ↦ ?_) fun hge hlt ↦ ?_
    · exact (hq.todo _ hvisit'.arrival_start hlt).1
    · exact (hq.done _ hvisit'.arrival_end hge).1
    · exact (hq.inProgress _ _ hvisit'.arrival_start hvisit'.arrival_end hge hlt).1

/-- The truck of a route is released once, in whichever step the route finishes. -/
theorem DeliveryRoute.releases_append {truck truck' : Option Truck} (hle : t1 ≤ t2)
    (h : route.SettledFrom t1 route')
    (hgone : route.Finished t1 → truck' = none)
    (hkept : ¬ route.Finished t1 → truck'.map Truck.vehicleId = truck.map Truck.vehicleId) :
    route.releases truck t1 ++ route'.releases truck' t2 = route.releases truck t2 := by
  have heta : route'.etaFinal = route.etaFinal := by
    unfold DeliveryRoute.etaFinal
    rw [h.plan]
  unfold releases
  rw [heta, h.routeId]
  by_cases hfin : route.Finished t1
  · rw [hgone hfin]
    obtain ⟨eta, heta, hfin⟩ := hfin
    cases truck <;> simp [heta, hfin, hfin.trans hle]
  · have hid := hkept hfin
    cases truck with
    | none =>
      have hnone : truck' = none := by simpa using hid
      rw [hnone]
      rfl
    | some t =>
      obtain ⟨t', rfl, ht'⟩ := Option.map_eq_some_iff.mp hid
      cases heta : route.etaFinal with
      | none => rfl
      | some eta =>
        have hopen : ¬ eta ≤ t1 := fun hle ↦ hfin ⟨eta, heta, hle⟩
        simp [hopen, ht']

end Steps

namespace World

variable {u : UnicodeTables} {allowed : Option LocationCode → Prop} {clock last : Option Datetime}
  {w v : World} {t1 t2 : Datetime}

/-- Looking up stored ids in two worlds gives related lists. -/
private theorem forall₂_filterMap {α β : Type} {rel : α → β → Prop} {f : Int → Option α}
    {g : Int → Option β} {ids : List Int}
    (h : ∀ k ∈ ids, ∃ a b, f k = some a ∧ g k = some b ∧ rel a b) :
    List.Forall₂ rel (ids.filterMap f) (ids.filterMap g) := by
  induction ids with
  | nil => exact .nil
  | cons k rest ih =>
    obtain ⟨a, b, ha, hb, hab⟩ := h k (by simp)
    rw [List.filterMap_cons_some ha, List.filterMap_cons_some hb]
    exact .cons hab (ih fun k' hk' ↦ h k' (by simp [hk']))

/-- A route makes the same movements in two steps as at once. -/
theorem movementsOn_append (hw : w.Sound u allowed clock) (hpunctual : w.Punctual clock)
    (hv : v.RouteLinked) (h : w.Timed t1 v) (hclock : ∀ c ∈ clock, c ≤ t1) (hle : t1 ≤ t2) {r : Int}
    {route route' : DeliveryRoute} (hr : w.routes.find? r = some route)
    (hr' : v.routes.find? r = some route') (hsettled : route.SettledFrom t1 route') :
    (w.movementsOn t1 route ++ v.movementsOn t2 route').Perm (w.movementsOn t2 route) := by
  have hl := hw.linked.toRouteLinked
  have hreleases : route.releases (w.truckOf route) t1 ++ route'.releases (v.truckOf route') t2 =
      route.releases (w.truckOf route) t2 := by
    refine DeliveryRoute.releases_append hle hsettled (fun hfin ↦ ?_) fun hopen ↦ ?_
    · have hnone : route'.truck = none := by rw [hsettled.truck, if_pos hfin]
      simp [truckOf, hnone]
    · rw [hl.map_truckOf hr, hv.map_truckOf hr', hsettled.truck, if_neg hopen]
  have hpackages : ((w.packagesOf route).flatMap (·.transitionsOn route t1) ++
      (v.packagesOf route').flatMap (·.transitionsOn route' t2)).Perm
      ((w.packagesOf route).flatMap (·.transitionsOn route t2)) := by
    have hrel : List.Forall₂ (fun p q ↦ p.transitionsOn route t1 ++ q.transitionsOn route' t2 =
        p.transitionsOn route t2) (w.packagesOf route) (v.packagesOf route') := by
      unfold packagesOf
      rw [hsettled.packages]
      apply forall₂_filterMap
      intro k hk
      obtain ⟨p, hp, hlink⟩ := hl.package_of_route hr hk
      obtain ⟨q, hq, hpq⟩ := h.packages.forward hp
      obtain ⟨x, hx, hcarried⟩ := hpunctual.carried hp hlink
      obtain rfl := Option.some.inj (hr.symm.trans hx)
      exact ⟨p, q, hp, hq, hcarried.transitionsOn_append hclock hle (hw.onPath hr hk hp) hpq.same
        (hpq.settled r hlink _ hr) hsettled.routeId hsettled.plan⟩
    exact perm_flatMap_of_forall₂ hrel fun p q hpq ↦ .of_eq hpq
  unfold movementsOn
  rw [← hreleases]
  calc
    route.releases (w.truckOf route) t1 ++ (w.packagesOf route).flatMap (·.transitionsOn route t1) ++
          (route'.releases (v.truckOf route') t2 ++
            (v.packagesOf route').flatMap (·.transitionsOn route' t2))
        = route.releases (w.truckOf route) t1 ++
            ((w.packagesOf route).flatMap (·.transitionsOn route t1) ++
              route'.releases (v.truckOf route') t2 ++
                (v.packagesOf route').flatMap (·.transitionsOn route' t2)) := by
          simp only [List.append_assoc]
    List.Perm _ (route.releases (w.truckOf route) t1 ++
            (route'.releases (v.truckOf route') t2 ++
              (w.packagesOf route).flatMap (·.transitionsOn route t1) ++
                (v.packagesOf route').flatMap (·.transitionsOn route' t2))) :=
          (List.perm_append_comm.append_right _).append_left _
    _ = route.releases (w.truckOf route) t1 ++ route'.releases (v.truckOf route') t2 ++
          ((w.packagesOf route).flatMap (·.transitionsOn route t1) ++
            (v.packagesOf route').flatMap (·.transitionsOn route' t2)) := by
          simp only [List.append_assoc]
    List.Perm _ (route.releases (w.truckOf route) t1 ++ route'.releases (v.truckOf route') t2 ++
          (w.packagesOf route).flatMap (·.transitionsOn route t2)) := hpackages.append_left _

/-- All routes together make the same movements in two steps as at once. -/
theorem movements_append (hw : w.Sound u allowed clock) (hpunctual : w.Punctual clock)
    (hv : v.RouteLinked) (h : w.Timed t1 v) (hclock : ∀ c ∈ clock, c ≤ t1) (hle : t1 ≤ t2) :
    (w.routes.values.flatMap (w.movementsOn t1) ++ v.routes.values.flatMap (v.movementsOn t2)).Perm
      (w.routes.values.flatMap (w.movementsOn t2)) :=
  perm_flatMap_of_forall₂ h.routes.forall₂_values fun _ _ ⟨hr, hr', hsettled⟩ ↦
    movementsOn_append hw hpunctual hv h hclock hle hr hr' hsettled

end World

/-! ### Heartbeats of the application -/

namespace World

variable (u : UnicodeTables) (now : Datetime) (w : World)

/-- The world after a heartbeat. -/
def heartbeatAt : World := (Operation.heartbeat.perform u now).finalState w

/-- What a heartbeat records. -/
def heartbeatRecord : List Entry := Operation.heartbeat.record u now w

end World

namespace HeartbeatService

variable {u : UnicodeTables} {allowed : Option LocationCode → Prop} {clock : Option Datetime}
  {w : World} {now : Datetime}

/-- Heartbeats record transitions only. -/
theorem Journaled.only {summary : HeartbeatSummary} {entries : List Entry} {w' : World}
    (h : Journaled now w summary entries w') : OnlyTransitions entries := by
  obtain ⟨passes, -, rfl, hids, hswept⟩ := h.passes
  intro e he
  obtain ⟨⟨r, x⟩, hpass, he⟩ := List.mem_flatMap.mp he
  have hr : r ∈ routeIds w := hids ▸ List.mem_map_of_mem hpass
  obtain ⟨route, hroute, rfl⟩ := List.mem_map.mp hr
  obtain ⟨c, ⟨-, hsome, hnone⟩, -⟩ :=
    hswept.visited _ _ hpass _ (Store.mem_values.mp hroute)
  cases hx : x.1 with
  | none => simp [hnone hx] at he
  | some ch => exact (hsome (by simp [hx])).only e he

/-- What a heartbeat of the application does. -/
structure Beat (u : UnicodeTables) (now : Datetime) (w : World) : Prop where
  timed : w.Timed now (w.heartbeatAt u now)
  settled : (w.heartbeatAt u now).SettledAt now
  only : OnlyTransitions (w.heartbeatRecord u now)
  movements : movements (w.heartbeatRecord u now) = w.routes.values.flatMap (w.movementsOn now)

/-- A heartbeat of a sound world. -/
theorem beat (h : w.Sound u allowed clock) (hnow : ∀ c ∈ clock, c ≤ now) : Beat u now w := by
  have hworld : (Operation.heartbeat.perform u now).Keeps w
      fun v ↦ w.Timed now v ∧ v.SettledAt now := by
    unfold Operation.perform Operation.execute
    rw [Action.Keeps, ensures_bind, ensures_map]
    apply (ensures_advance h hnow).mono _ fun _ _ hf ↦ hf.elim
    intro summary w' hadvance
    have htimed := hadvance.advanced.timed h.linked
    have hsettled := hadvance.advanced.settled h.linked
    exact (EventCollector.ensures_drain_drained w' summary.eventRecorders).mono
      (fun _ _ hd ↦ ⟨htimed.drained hd, hsettled.drained hd⟩)
      fun _ _ hd ↦ ⟨htimed.drained hd, hsettled.drained hd⟩
  have hrecord : ∃ summary w', Journaled now w summary (w.heartbeatRecord u now) w' := by
    have hjournal := ensures_journalAdvance h hnow
    rw [ensures_iff] at hjournal
    unfold World.heartbeatRecord Operation.record
    cases hrun : journalAdvance .inMemory now w with
    | ok x w' =>
      rw [hrun] at hjournal
      exact ⟨x.1, w', hjournal⟩
    | error e w' =>
      rw [hrun] at hjournal
      exact hjournal.elim
  obtain ⟨summary, w', hjournaled⟩ := hrecord
  exact ⟨hworld.finalState.1, hworld.finalState.2, hjournaled.only, hjournaled.movements_eq h⟩

end HeartbeatService
end FleetFlow
