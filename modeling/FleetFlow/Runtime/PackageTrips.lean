import FleetFlow.Runtime.Chronicle

/-!
# What becomes of a package

The assignments, pickups, deliveries and detachments of one package, in the order of their record.
Heartbeats record pickups and deliveries at the times of the schedule, however late they run; the
order of these times rests on the pickup check of the assignment policy and on the schedule that a
route gets after its packages were assigned.
-/

namespace FleetFlow

open Program

/-- An event of a package on a route; heartbeats note when they recorded it. -/
inductive PackageMoment where
  | assigned (routeId : Int) (occurredAt : Datetime)
  | pickedUp (routeId : Int) (occurredAt recordedAt : Datetime)
  | delivered (routeId : Int) (occurredAt recordedAt : Datetime)
  | detached
deriving DecidableEq, Repr

/-- A package is picked up once after an assignment and not before it, delivered once after the
pickup, and never at a time that is still to come. -/
def PackageMoment.Next : Option PackageMoment → PackageMoment → Prop
  | none, assigned _ _ | some detached, assigned _ _ => True
  | some (assigned r t), pickedUp r' t' recordedAt => r' = r ∧ t ≤ t' ∧ t' ≤ recordedAt
  | some (pickedUp r t _), delivered r' t' recordedAt => r' = r ∧ t < t' ∧ t' ≤ recordedAt
  | some (assigned _ _), detached | some (pickedUp _ _ _), detached
  | some (delivered _ _ _), detached => True
  | _, _ => False

/-- The moment of a package that an event records, if it records one. -/
def DomainEvent.packageMoment? (p : Int) (now : Datetime) : DomainEvent → Option PackageMoment
  | .packageAssignedToRoute e =>
    if e.packageId = p then some (.assigned e.newRouteId e.occurredAt) else none
  | .packagePickedUp e =>
    if e.packageId = p then some (.pickedUp e.routeId e.occurredAt now) else none
  | .packageDelivered e =>
    if e.packageId = p then some (.delivered e.routeId e.occurredAt now) else none
  | .packageDetachedFromRoute e => if e.packageId = p then some .detached else none
  | _ => none

/-- The moments of a package in a record. -/
def packageTrip (p : Int) (log : List Note) : List PackageMoment :=
  moments (DomainEvent.packageMoment? p) log

/-- The moment of a package that a lifecycle event is, if it is one. -/
def LifecycleEvent.packageMoment? (p : Int) (now : Datetime) : LifecycleEvent → Option PackageMoment
  | .packagePickedUp q r t => if q = p then some (.pickedUp r t now) else none
  | .packageDelivered q r t => if q = p then some (.delivered r t now) else none
  | _ => none

theorem DomainEvent.packageMoment?_of_lifecycle {e : DomainEvent} {l : LifecycleEvent} {p : Int}
    {now : Datetime} (h : e.lifecycle? = some l) :
    e.packageMoment? p now = l.packageMoment? p now := by
  cases e <;> cases h <;> rfl

/-- Only what concerns a package is a moment of it. -/
private theorem filterMap_filter_concerns {p : Int} {now : Datetime}
    {transitions : List LifecycleEvent} :
    (transitions.filter (LifecycleEvent.concerns p)).filterMap
        (LifecycleEvent.packageMoment? p now) =
      transitions.filterMap (LifecycleEvent.packageMoment? p now) := by
  rw [List.filterMap_filter]
  congr 1
  ext l m
  cases l <;> simp [LifecycleEvent.concerns, LifecycleEvent.packageMoment?]

/-- What the last moment of a package on a route tells about it. -/
def DeliveryPackage.ToldBy (package : DeliveryPackage) (route : DeliveryRoute)
    (clock : Option Datetime) (last : Option PackageMoment) : Prop :=
  match package.status with
  | .todo => ∃ t, last = some (.assigned route.routeId t) ∧ (∃ c ∈ clock, t ≤ c) ∧
      ∀ pickup, route.arrivalTimeAt package.startLocation = .ok pickup → t ≤ pickup
  | .inProgress => ∃ t recordedAt, last = some (.pickedUp route.routeId t recordedAt) ∧
      route.arrivalTimeAt package.startLocation = .ok t
  | .done => ∃ t recordedAt, last = some (.delivered route.routeId t recordedAt)

namespace DeliveryPackage

variable {package package' : DeliveryPackage} {route route' : DeliveryRoute}
  {clock : Option Datetime} {now : Datetime} {last : Option PackageMoment}

/-- The same status on the same schedule tells the same, also later. -/
theorem ToldBy.same (h : package.ToldBy route clock last) (hnow : ∀ c ∈ clock, c ≤ now)
    (hstatus : package'.status = package.status)
    (hstart : package'.startLocation = package.startLocation)
    (hid : route'.routeId = route.routeId)
    (harrivals : ∀ l, route'.arrivalTimeAt l = route.arrivalTimeAt l) :
    package'.ToldBy route' (some now) last := by
  unfold ToldBy at *
  rw [hstatus, hstart, hid, harrivals]
  cases hcase : package.status with
  | todo =>
    rw [hcase] at h
    obtain ⟨t, hlast, ⟨c, hc, hle⟩, hpickup⟩ := h
    exact ⟨t, hlast, ⟨now, rfl, hle.trans (hnow c hc)⟩, hpickup⟩
  | inProgress =>
    rw [hcase] at h
    exact h
  | done =>
    rw [hcase] at h
    exact h

end DeliveryPackage

open Reconciler in
/-- A package that is settled on its route goes on with its trip. -/
theorem DeliveryPackage.ToldBy.tripStep {package after : DeliveryPackage} {route : DeliveryRoute}
    {clock : Option Datetime} {now : Datetime} {last : Option PackageMoment}
    (h : package.ToldBy route clock last) (hpunctual : package.Punctual route clock)
    (hnow : ∀ c ∈ clock, c ≤ now)
    (hin : route.includesInOrder package.startLocation package.endLocation = true)
    (hsame : package.SameShipment after) (hafter : after.SettledOn route now) :
    StoryStep PackageMoment.Next (after.ToldBy route (some now)) last
      ((package.transitionsOn route now).filterMap
        (LifecycleEvent.packageMoment? package.packageId now)) := by
  unfold DeliveryPackage.SettledOn at hafter
  cases hs : route.plan.schedule? with
  | none =>
    rw [hs] at hafter
    have htodo : package.status = .todo := by
      by_contra hne
      obtain ⟨c, -, t, ht, -⟩ := hpunctual.pickup hne
      obtain ⟨s, hs', -⟩ := DeliveryRoute.arrivalTimeAt_eq_ok_iff.mp ht
      rw [hs] at hs'
      cases hs'
    have hnil : package.transitionsOn route now = [] := by
      unfold DeliveryPackage.transitionsOn
      rw [hs]
    rw [hnil]
    apply StoryStep.silent
    exact h.same hnow (hafter.status.trans htodo.symm) hsame.startLocation.symm rfl fun _ ↦ rfl
  | some s =>
    rw [hs] at hafter
    obtain ⟨i, j, pickup, delivery, hvisit, -, -⟩ := exists_visitedInOrder hs hin
    have hvisit' := visitedInOrder_of_same hvisit hsame
    obtain ⟨hstarted, hdone⟩ := hpunctual.reached hs hvisit hnow
    have hlt := hvisit.arrivalAt_lt
    have harrival : ∀ t, route.arrivalTimeAt package.startLocation = .ok t ↔ pickup.arrivalAt = t := by
      intro t
      rw [DeliveryRoute.arrivalTimeAt_eq_ok_iff]
      simp [hs, hvisit.arrival_start]
    rw [transitionsOn_eq hs hvisit]
    by_cases hpickup : pickup.arrivalAt ≤ now
    · by_cases hdelivery : delivery.arrivalAt ≤ now
      · have hstatus : after.status = .done := (hafter.done _ hvisit'.arrival_end hdelivery).1
        have hend : after.ToldBy route (some now)
            (some (.delivered route.routeId delivery.arrivalAt now)) := by
          unfold DeliveryPackage.ToldBy
          rw [hstatus]
          exact ⟨_, _, rfl⟩
        have hdeliver : PackageMoment.Next (some (.pickedUp route.routeId pickup.arrivalAt now))
            (.delivered route.routeId delivery.arrivalAt now) := ⟨rfl, hlt, hdelivery⟩
        unfold DeliveryPackage.ToldBy at h
        cases hbefore : package.status with
        | todo =>
          rw [hbefore] at h
          obtain ⟨t, rfl, -, hbound⟩ := h
          simp only [DeliveryPackage.transitions, hbefore, hpickup, hdelivery,
            LifecycleEvent.packageMoment?, and_self, if_true, ne_eq, reduceCtorEq,
            not_false_eq_true, List.cons_append, List.nil_append, List.filterMap_cons,
            List.filterMap_nil]
          exact .cons ⟨rfl, hbound _ ((harrival _).mpr rfl), hpickup⟩ (.one hdeliver hend)
        | inProgress =>
          rw [hbefore] at h
          obtain ⟨t, recordedAt, rfl, ht⟩ := h
          obtain rfl := (harrival t).mp ht
          simp only [DeliveryPackage.transitions, hbefore, hdelivery,
            LifecycleEvent.packageMoment?, and_self, if_true, ne_eq, reduceCtorEq, false_and,
            if_false, not_false_eq_true, List.nil_append, List.filterMap_cons, List.filterMap_nil]
          exact .one ⟨rfl, hlt, hdelivery⟩ hend
        | done =>
          rw [hbefore] at h
          obtain ⟨t, recordedAt, rfl⟩ := h
          simp only [DeliveryPackage.transitions, hbefore, ne_eq, reduceCtorEq, false_and,
            if_false, not_true_eq_false, List.append_nil, List.filterMap_nil]
          apply StoryStep.silent
          unfold DeliveryPackage.ToldBy
          rw [hstatus]
          exact ⟨t, recordedAt, rfl⟩
      · have hopen : package.status ≠ .done := fun hd ↦ hdelivery (hdone hd)
        have hstatus : after.status = .inProgress := (hafter.inProgress _ _ hvisit'.arrival_start
          hvisit'.arrival_end hpickup (not_le.mp hdelivery)).1
        have hunder : ∀ recordedAt, after.ToldBy route (some now)
            (some (.pickedUp route.routeId pickup.arrivalAt recordedAt)) := by
          intro recordedAt
          unfold DeliveryPackage.ToldBy
          rw [hstatus, ← hsame.startLocation]
          exact ⟨_, recordedAt, rfl, (harrival _).mpr rfl⟩
        unfold DeliveryPackage.ToldBy at h
        cases hbefore : package.status with
        | todo =>
          rw [hbefore] at h
          obtain ⟨t, rfl, -, hbound⟩ := h
          simp only [DeliveryPackage.transitions, hbefore, hpickup, hdelivery,
            LifecycleEvent.packageMoment?, and_self, if_true, and_false, if_false,
            List.append_nil, List.filterMap_cons, List.filterMap_nil]
          exact .one ⟨rfl, hbound _ ((harrival _).mpr rfl), hpickup⟩ (hunder now)
        | inProgress =>
          rw [hbefore] at h
          obtain ⟨t, recordedAt, rfl, ht⟩ := h
          obtain rfl := (harrival t).mp ht
          simp only [DeliveryPackage.transitions, hbefore, hdelivery, reduceCtorEq, false_and,
            and_false, if_false, List.append_nil, List.filterMap_nil]
          exact .silent (hunder recordedAt)
        | done => exact absurd hbefore hopen
    · have htodo : package.status = .todo := by
        by_contra hne
        exact hpickup (hstarted hne)
      have hdelivery : ¬ delivery.arrivalAt ≤ now :=
        fun hle ↦ hpickup (hlt.le.trans hle)
      have hstatus : after.status = .todo :=
        (hafter.todo _ hvisit'.arrival_start (not_le.mp hpickup)).1
      simp only [DeliveryPackage.transitions, hpickup, hdelivery, and_false, if_false,
        List.append_nil, List.filterMap_nil]
      apply StoryStep.silent
      exact h.same hnow (hstatus.trans htodo.symm) hsame.startLocation.symm rfl fun _ ↦ rfl

namespace World

variable {u : UnicodeTables} {allowed : Option LocationCode → Prop} {clock : Option Datetime}
  {w w' : World} {now : Datetime} {p : Int} {last : Option PackageMoment}

/-- What the last moment of a package tells about it. -/
structure PackageTold (p : Int) (clock : Option Datetime) (w : World)
    (last : Option PackageMoment) : Prop where
  idle : (∀ package, w.packages.find? p = some package → package.route = none) →
    last = none ∨ last = some .detached
  linked : ∀ package r, w.packages.find? p = some package → package.route = some r →
    ∃ route, w.routes.find? r = some route ∧ p ∈ route.packages ∧ package.ToldBy route clock last

/-- A change that leaves alone the link and the status of a package. -/
structure SamePlace (p : Int) (w w' : World) : Prop where
  before : ∀ b r, w'.packages.find? p = some b → b.route = some r →
    ∃ a, w.packages.find? p = some a ∧ a.route = some r ∧ b.status = a.status ∧
      b.startLocation = a.startLocation
  after : ∀ a r, w.packages.find? p = some a → a.route = some r →
    ∃ b, w'.packages.find? p = some b ∧ b.route = some r

/-- A change that keeps the routes of a package, with their arrivals. -/
def SameArrivals (p : Int) (w w' : World) : Prop :=
  ∀ r route, w.routes.find? r = some route → p ∈ route.packages →
    ∃ route', w'.routes.find? r = some route' ∧ p ∈ route'.packages ∧
      ∀ l, route'.arrivalTimeAt l = route.arrivalTimeAt l

/-- What has been told stays told while the trip goes on. -/
theorem PackageTold.same (h : w.PackageTold p clock last) (hnow : ∀ c ∈ clock, c ≤ now)
    (hplace : SamePlace p w w') (harrivals : SameArrivals p w w') :
    w'.PackageTold p (some now) last := by
  constructor
  · intro hidle
    apply h.idle
    intro a ha
    by_contra hlink
    obtain ⟨r, hr⟩ := Option.ne_none_iff_exists'.mp hlink
    obtain ⟨b, hb, hbr⟩ := hplace.after a r ha hr
    rw [hidle b hb] at hbr
    cases hbr
  · intro b r hb hlink
    obtain ⟨a, ha, har, hstatus, hstart⟩ := hplace.before b r hb hlink
    obtain ⟨route, hr, hmem, htold⟩ := h.linked a r ha har
    obtain ⟨route', hr', hmem', hsame⟩ := harrivals r route hr hmem
    have hid : route'.routeId = route.routeId :=
      (Store.key_of_find? hr').trans (Store.key_of_find? hr).symm
    exact ⟨route', hr', hmem', htold.same hnow hstatus hstart hid hsame⟩

/-- Time passes. -/
theorem PackageTold.later (h : w.PackageTold p clock last) (hnow : ∀ c ∈ clock, c ≤ now) :
    w.PackageTold p (some now) last :=
  h.same hnow ⟨fun b _ hb hr ↦ ⟨b, hb, hr, rfl, rfl⟩, fun a _ ha hr ↦ ⟨a, ha, hr⟩⟩
    fun _ route hr hmem ↦ ⟨route, hr, hmem, fun _ ↦ rfl⟩

theorem samePlace_of_eq (h : w'.packages.find? p = w.packages.find? p) : SamePlace p w w' :=
  ⟨fun b _ hb hr ↦ ⟨b, h ▸ hb, hr, rfl, rfl⟩, fun a _ ha hr ↦ ⟨a, h ▸ ha, hr⟩⟩

theorem sameArrivals_of_eq (h : w'.routes = w.routes) : SameArrivals p w w' :=
  fun _ route hr hmem ↦ ⟨route, h ▸ hr, hmem, fun _ ↦ rfl⟩

/-- Storing a route that lists the package and has the same arrivals. -/
theorem sameArrivals_putRoute {route route' : DeliveryRoute}
    (hr : w.routes.find? route.routeId = some route) (hroutes : w'.routes = w.routes.put route')
    (hid : route'.routeId = route.routeId) (hmem : p ∈ route.packages → p ∈ route'.packages)
    (harrivals : ∀ l, route'.arrivalTimeAt l = route.arrivalTimeAt l) : SameArrivals p w w' := by
  intro r x hx hpx
  rw [hroutes, Store.find?_put, hid]
  by_cases hrid : route.routeId = r
  · subst hrid
    obtain rfl := Option.some.inj (hr.symm.trans hx)
    exact ⟨route', if_pos rfl, hmem hpx, harrivals⟩
  · exact ⟨x, (if_neg hrid).trans hx, hpx, fun _ ↦ rfl⟩

/-- Storing a new route. -/
theorem sameArrivals_addRoute {route : DeliveryRoute}
    (hnew : w.routes.find? route.routeId = none) (hroutes : w'.routes = w.routes.put route) :
    SameArrivals p w w' := by
  intro r x hx hpx
  have hrid : route.routeId ≠ r := by
    rintro rfl
    rw [hnew] at hx
    cases hx
  exact ⟨x, by rw [hroutes, Store.find?_put, if_neg hrid, hx], hpx, fun _ ↦ rfl⟩

/-- A removed object has no part in the trip of a package. -/
theorem Removal.sameTrip {gone : Focus} {event : DomainEvent} (h : Removal w gone event w') :
    SamePlace p w w' ∧ SameArrivals p w w' := by
  cases h with
  | @package _ package _ hp hnone hevent hroutes hpackages htrucks =>
    refine ⟨?_, sameArrivals_of_eq hroutes⟩
    by_cases hid : package.packageId = p
    · subst hid
      constructor
      · intro b r hb
        rw [hpackages, Store.find?_remove, if_pos rfl] at hb
        cases hb
      · intro a r ha hr
        obtain rfl := Option.some.inj (hp.symm.trans ha)
        rw [hnone] at hr
        cases hr
    · exact samePlace_of_eq (by rw [hpackages, Store.find?_remove, if_neg hid])
  | @route _ route _ hr ht hp hevent hroutes hpackages htrucks =>
    refine ⟨samePlace_of_eq (by rw [hpackages]), ?_⟩
    intro r x hx hpx
    have hrid : route.routeId ≠ r := by
      rintro rfl
      obtain rfl := Option.some.inj (hr.symm.trans hx)
      rw [hp] at hpx
      cases hpx
    exact ⟨x, by rw [hroutes, Store.find?_remove, if_neg hrid, hx], hpx, fun _ ↦ rfl⟩

/-- Emptying buffers has no part in the trip of a package. -/
theorem Drained.sameTrip (h : w.Drained w') : SamePlace p w w' ∧ SameArrivals p w w' := by
  refine ⟨⟨?_, ?_⟩, ?_⟩
  · intro b r hb hr
    obtain ⟨a, ha, hab⟩ := h.packages.backward hb
    rw [hab] at hr
    exact ⟨a, ha, hr, by rw [hab], by rw [hab]⟩
  · intro a r ha hr
    obtain ⟨b, hb, hab⟩ := h.packages.forward ha
    exact ⟨b, hb, by rw [hab]; exact hr⟩
  · intro r x hx hpx
    obtain ⟨y, hy, hxy⟩ := h.routes.forward hx
    exact ⟨y, hy, by rw [hxy]; exact hpx, fun l ↦ by rw [hxy]; rfl⟩

/-! ### One change -/

/-- What a step contributes to the trip of a package. -/
abbrev TripStep (p : Int) (clock : Option Datetime) (last : Option PackageMoment)
    (new : List PackageMoment) (w' : World) : Prop :=
  StoryStep PackageMoment.Next (w'.PackageTold p clock) last new

/-- A change without a part in the trip. -/
theorem PackageTold.silent (h : w.PackageTold p (some now) last) (hplace : SamePlace p w w')
    (harrivals : SameArrivals p w w') : TripStep p (some now) last [] w' := by
  apply StoryStep.silent
  exact h.same (by rintro c ⟨⟩; exact le_rfl) hplace harrivals

/-- Scheduling a route from now on gives its packages a pickup that is not over. -/
private theorem PackageTold.schedule {route route' : DeliveryRoute}
    (h : w.PackageTold p (some now) last) (hpunctual : w.Punctual (some now))
    (hr : w.routes.find? route.routeId = some route)
    (hschedule : route.schedule now now = .ok route') :
    (w.putRoute route').PackageTold p (some now) last := by
  obtain ⟨hplan, plan, s, -, hs, hdep, rfl⟩ := DeliveryRoute.schedule_eq_ok_iff.mp hschedule
  refine ⟨h.idle, fun a r ha hlink ↦ ?_⟩
  obtain ⟨x, hx, hmem, htold⟩ := h.linked a r ha hlink
  by_cases hrid : route.routeId = r
  · subst hrid
    obtain rfl := Option.some.inj (hr.symm.trans hx)
    refine ⟨_, Store.find?_put.trans (if_pos rfl), hmem, ?_⟩
    have htodo : a.status = .todo := by
      by_contra hne
      obtain ⟨y, hy, hcarried⟩ := hpunctual.carried ha hlink
      obtain rfl := Option.some.inj (hr.symm.trans hy)
      obtain ⟨c, -, t, ht, -⟩ := hcarried.pickup hne
      obtain ⟨s', hs', -⟩ := DeliveryRoute.arrivalTimeAt_eq_ok_iff.mp ht
      rw [hplan] at hs'
      cases hs'
    unfold DeliveryPackage.ToldBy at *
    rw [htodo] at htold ⊢
    obtain ⟨t, hlast, ⟨c, hc, hle⟩, -⟩ := htold
    refine ⟨t, hlast, ⟨c, hc, hle⟩, fun pickup hpickup ↦ ?_⟩
    obtain ⟨s', hs', harrival⟩ := DeliveryRoute.arrivalTimeAt_eq_ok_iff.mp hpickup
    obtain rfl := Option.some.inj (hs.symm.trans hs')
    obtain ⟨i, hi⟩ := RouteSchedule.arrival?_eq_some_iff.mp harrival
    obtain rfl := Option.some.inj hc
    exact hle.trans (hdep ▸ RouteSchedule.departureTime_le_arrivalAt hi)
  · exact ⟨x, Store.find?_put.trans ((if_neg hrid).trans hx), hmem, htold⟩

/-- Linking a package that waits. -/
private theorem PackageTold.linkPackage {route route' : DeliveryRoute}
    {package package' : DeliveryPackage} (h : w.PackageTold package.packageId (some now) last)
    (hpunctual : w.Punctual (some now))
    (hp : w.packages.find? package.packageId = some package) (hnone : package.route = none)
    (hnew : package.packageId ∉ route.packages)
    (hassign : route.assignPackage (w.packagesOf route) (w.truckOf route) package now now =
      .ok (route', package')) :
    TripStep package.packageId (some now) last [.assigned route.routeId now]
      ((w.putRoute route').putPackage package') := by
  obtain ⟨haccept, ⟨arrival, rfl⟩, events, rfl⟩ := DeliveryRoute.assignPackage_eq_ok hnew hassign
  have hstored : ((w.packages.put { package.setRoute (some route.routeId) with
      expectedArrival := arrival })).find? package.packageId =
        some { package.setRoute (some route.routeId) with expectedArrival := arrival } :=
    Store.find?_put.trans (if_pos rfl)
  apply StoryStep.one
  · have hidle := h.idle fun a ha ↦ by
      obtain rfl := Option.some.inj (hp.symm.trans ha)
      exact hnone
    rcases hidle with rfl | rfl <;> trivial
  · constructor
    · intro hidle
      cases hidle _ hstored
    · intro b r hb hlink
      obtain rfl := Option.some.inj (hstored.symm.trans hb)
      obtain rfl := Option.some.inj hlink
      refine ⟨_, Store.find?_put.trans (if_pos rfl), by simp, ?_⟩
      have htodo : package.status = .todo := hpunctual.waiting _ _ hp hnone
      unfold DeliveryPackage.ToldBy
      rw [show ({ package.setRoute (some route.routeId) with expectedArrival := arrival } :
        DeliveryPackage).status = .todo from htodo]
      refine ⟨now, rfl, ⟨now, rfl, le_rfl⟩, fun pickup hpickup ↦ ?_⟩
      exact PackageAssignmentPolicy.le_arrival_of_evaluatePickupNotPassed
        (PackageAssignmentPolicy.evaluatePickupNotPassed_of_evaluate haccept) hpickup

/-- Detaching a package. -/
private theorem PackageTold.unlinkPackage {r : Int} {package package' : DeliveryPackage}
    (h : w.PackageTold p (some now) last) (hp : w.packages.find? p = some package)
    (hlink : package.route = some r) (hp' : w'.packages.find? p = some package')
    (hnone : package'.route = none) : TripStep p (some now) last [.detached] w' := by
  obtain ⟨route, -, -, htold⟩ := h.linked package r hp hlink
  apply StoryStep.one
  · unfold DeliveryPackage.ToldBy at htold
    cases hstatus : package.status with
    | todo =>
      rw [hstatus] at htold
      obtain ⟨t, rfl, -⟩ := htold
      trivial
    | inProgress =>
      rw [hstatus] at htold
      obtain ⟨t, recordedAt, rfl, -⟩ := htold
      trivial
    | done =>
      rw [hstatus] at htold
      obtain ⟨t, recordedAt, rfl⟩ := htold
      trivial
  · refine ⟨fun _ ↦ .inr rfl, fun b r' hb hlink' ↦ ?_⟩
    obtain rfl := Option.some.inj (hp'.symm.trans hb)
    rw [hnone] at hlink'
    cases hlink'

/-- One change of a command. -/
theorem Update.tripStep {focus : Focus} {links : TruckAssignedToRoute → Prop}
    {es : List DomainEvent} (h : Update u focus w es w') (hpunctual : w.Punctual (some now))
    (hes : EventsAt now links es) (hw : w.PackageTold p (some now) last) :
    TripStep p (some now) last (es.filterMap (DomainEvent.packageMoment? p now)) w' := by
  cases h with
  | contacts hroutes hpackages htrucks =>
    exact hw.silent (samePlace_of_eq (by rw [hpackages])) (sameArrivals_of_eq hroutes)
  | @createPackage _ _ _ _ _ _ _ package hcreate hnew hroutes hpackages htrucks =>
    obtain ⟨e, hevents, -⟩ := DeliveryPackage.create_events hcreate
    rw [hevents]
    refine hw.silent ?_ (sameArrivals_of_eq hroutes)
    by_cases hid : package.packageId = p
    · subst hid
      constructor
      · intro b r hb hlink
        rw [hpackages, Store.find?_put, if_pos rfl] at hb
        obtain rfl := Option.some.inj hb
        simp only [DeliveryPackage.create, except_bind_eq_ok_iff, Except.ok.injEq] at hcreate
        obtain ⟨q, hq, rfl⟩ := hcreate
        obtain ⟨-, -, -, -, -, hroute, -⟩ := DeliveryPackage.new_eq_ok hq
        exact absurd (hroute.symm.trans hlink) (by simp)
      · intro a r ha
        rw [hnew] at ha
        cases ha
    · exact samePlace_of_eq (by rw [hpackages, Store.find?_put, if_neg hid])
  | createRoute hcreate hnew =>
    obtain ⟨e, hevents, -⟩ := DeliveryRoute.create_events hcreate
    rw [hevents]
    exact hw.silent (samePlace_of_eq rfl) (sameArrivals_addRoute hnew rfl)
  | @scheduleRoute _ route route' time _ hr hnone hschedule hevents =>
    obtain ⟨e, rfl, htime⟩ := DeliveryRoute.schedule_events hschedule hevents
    obtain rfl : now = time := (eventsAt_singleton.mp hes).1.symm.trans htime
    exact .silent (hw.schedule hpunctual hr hschedule)
  | @linkTruck _ route route' truck truck' time _ hr ht hidle hassign hevents =>
    obtain ⟨e, rfl, -⟩ := DeliveryRoute.assignTruck_events hassign hevents
    obtain ⟨-, -, rfl, events, rfl⟩ := DeliveryRoute.assignTruck_eq_ok hassign
    exact hw.silent (samePlace_of_eq rfl)
      (sameArrivals_putRoute hr rfl rfl (fun hmem ↦ hmem) fun _ ↦ rfl)
  | @linkPackage _ route route' package package' time _ hr hp hnone hnew hassign hevents =>
    obtain ⟨e, rfl, hid, hroute, htime⟩ := DeliveryRoute.assignPackage_events hnew hassign hevents
    have hnow : e.occurredAt = now := (eventsAt_singleton.mp hes).1
    obtain rfl : now = time := hnow.symm.trans htime
    simp only [List.filterMap_cons, List.filterMap_nil, DomainEvent.packageMoment?, hid, hroute,
      hnow]
    by_cases hpid : package.packageId = p
    · subst hpid
      simp only [if_true]
      exact hw.linkPackage hpunctual hp hnone hnew hassign
    · simp only [hpid, if_false]
      obtain ⟨-, ⟨arrival, rfl⟩, events, rfl⟩ := DeliveryRoute.assignPackage_eq_ok hnew hassign
      exact hw.silent (samePlace_of_eq (Store.find?_put.trans (if_neg hpid)))
        (sameArrivals_putRoute hr rfl rfl (fun hmem ↦ List.mem_append_left _ hmem) fun _ ↦ rfl)
  | @unlinkPackage _ route route' package package' reason time _ hr hp hmem hlink hdetach hevents =>
    obtain ⟨e, rfl, hid, -⟩ := DeliveryRoute.detachPackage_events hdetach hevents
    obtain ⟨events, hdetached⟩ := DeliveryRoute.detachPackage_eq_ok hmem hlink reason time
    rw [hdetach, Except.ok.injEq, Prod.mk.injEq] at hdetached
    obtain ⟨rfl, rfl⟩ := hdetached
    simp only [List.filterMap_cons, List.filterMap_nil, DomainEvent.packageMoment?, hid]
    by_cases hpid : package.packageId = p
    · subst hpid
      simp only [if_true]
      exact hw.unlinkPackage hp hlink (Store.find?_put.trans (if_pos rfl)) rfl
    · simp only [hpid, if_false]
      refine hw.silent (samePlace_of_eq (Store.find?_put.trans (if_neg hpid)))
        (sameArrivals_putRoute hr rfl rfl (fun hin ↦ ?_) fun _ ↦ rfl)
      exact (List.mem_erase_of_ne fun heq ↦ hpid heq.symm).mpr hin
  | @unlinkTruck _ route route' truck truck' at_ time reason location _ hr ht hlink hloc hrelease
      hevents =>
    obtain ⟨e, rfl, -⟩ := DeliveryRoute.releaseTruck_events hloc hrelease hevents
    obtain ⟨events, hreleased⟩ :=
      @DeliveryRoute.releaseTruck_eq_ok route truck route location hloc at_ reason time
    rw [hrelease, Except.ok.injEq, Prod.mk.injEq, Prod.mk.injEq, Option.some.injEq] at hreleased
    obtain ⟨rfl, rfl, -⟩ := hreleased
    exact hw.silent (samePlace_of_eq rfl)
      (sameArrivals_putRoute hr rfl rfl (fun hmem ↦ hmem) fun _ ↦ rfl)

/-! ### The heartbeat -/

/-- A heartbeat goes on with the trip of every package. -/
theorem tripStep_heartbeatAt (hw : w.Sound u allowed clock) (hpunctual : w.Punctual clock)
    (hnow : ∀ c ∈ clock, c ≤ now) (h : w.PackageTold p clock last) : TripStep p (some now) last
      ((w.routes.values.flatMap (w.movementsOn now)).filterMap
        (LifecycleEvent.packageMoment? p now)) (w.heartbeatAt u now) := by
  have htimed : w.Timed now (w.heartbeatAt u now) := (HeartbeatService.beat hw hnow).timed
  rw [← filterMap_filter_concerns]
  by_cases hlinked : ∃ package r, w.packages.find? p = some package ∧ package.route = some r
  · obtain ⟨package, r, hp, hlink⟩ := hlinked
    obtain ⟨route, hr, hmem, htold⟩ := h.linked package r hp hlink
    obtain ⟨after, hafter, htimedPackage⟩ := htimed.packages.forward hp
    obtain ⟨route', hr', hsettled⟩ := htimed.routes.forward hr
    have hcarried : package.Punctual route clock := by
      obtain ⟨x, hx, hcarried⟩ := hpunctual.carried hp hlink
      obtain rfl := Option.some.inj (hr.symm.trans hx)
      exact hcarried
    have hid : package.packageId = p := Store.key_of_find? hp
    have hstep := htold.tripStep hcarried hnow (hw.onPath hr hmem hp) htimedPackage.same
      (htimedPackage.settled r hlink route hr)
    rw [hid] at hstep
    rw [filter_concerns_of_linked hw hp hlink hr]
    refine ⟨hstep.next, fun hidle ↦ ?_, fun b r' hb hlink' ↦ ?_⟩
    · have hnone := hidle after hafter
      rw [htimedPackage.route, hlink] at hnone
      cases hnone
    · obtain rfl := Option.some.inj (hafter.symm.trans hb)
      rw [htimedPackage.route, hlink, Option.some.injEq] at hlink'
      subst hlink'
      refine ⟨route', hr', hsettled.packages.symm ▸ hmem, ?_⟩
      apply hstep.told.same (by rintro c ⟨⟩; exact le_rfl) rfl rfl hsettled.routeId
      intro l
      unfold DeliveryRoute.arrivalTimeAt
      rw [hsettled.plan, hsettled.routeId]
  · have hwaiting : ∀ package, w.packages.find? p = some package → package.route = none := by
      intro package hp
      by_contra hlink
      obtain ⟨r, hr⟩ := Option.ne_none_iff_exists'.mp hlink
      exact hlinked ⟨package, r, hp, hr⟩
    rw [filter_concerns_of_unlinked hw.linked.toRouteLinked hwaiting]
    apply StoryStep.silent
    refine ⟨fun _ ↦ h.idle hwaiting, fun b r hb hlink ↦ ?_⟩
    obtain ⟨a, ha, hab⟩ := htimed.packages.backward hb
    rw [hab.route, hwaiting a ha] at hlink
    cases hlink

/-! ### Runs -/

/-- The moments of a package that events record at one instant. -/
theorem packageTrip_notesAt {es : List DomainEvent} :
    packageTrip p (notesAt now es) = es.filterMap (DomainEvent.packageMoment? p now) :=
  moments_notesAt now es

/-- The moments of a package that a heartbeat records. -/
theorem packageTrip_heartbeat (h : HeartbeatService.Beat u now w) :
    packageTrip p ((w.heartbeatRecord u now).map (Note.mk now)) =
      (w.routes.values.flatMap (w.movementsOn now)).filterMap
        (LifecycleEvent.packageMoment? p now) := by
  rw [← h.movements]
  apply moments_heartbeat h.only
  · exact fun e l hl ↦ DomainEvent.packageMoment?_of_lifecycle hl
  · intro l hl
    cases l <;> first | rfl | cases hl

/-- A removal is no moment of a package. -/
theorem Removal.packageMoment? {gone : Focus} {event : DomainEvent} (h : Removal w gone event w') :
    event.packageMoment? p now = none := by
  cases h <;> rfl

/-- The trip so far, and what its last moment tells. -/
structure OnTrip (p : Int) (clock : Option Datetime) (w : World) (log : List Note) : Prop where
  story : Story PackageMoment.Next (packageTrip p log)
  told : w.PackageTold p clock (packageTrip p log).getLast?

/-- A step goes on with the trip. -/
theorem OnTrip.step {log notes : List Note} {last : Option Datetime} (h : w.OnTrip p clock log)
    (hstep : TripStep p last (packageTrip p log).getLast? (packageTrip p notes) w') :
    w'.OnTrip p last (log ++ notes) := by
  obtain ⟨hstory, htold⟩ := hstep.story h.story
  rw [packageTrip, packageTrip, ← moments_append] at hstory htold
  exact ⟨hstory, htold⟩

/-- Trips go on through every operation. -/
theorem onTrip_rule (p : Int) :
    RunRule u allowed (fun _ _ ↦ True) fun clock w log ↦ w.OnTrip p clock log where
  later h hnow := ⟨h.story, h.told.later hnow⟩
  update hpunctual hupdate hes h := by
    apply h.step
    rw [packageTrip_notesAt]
    exact hupdate.tripStep hpunctual hes h.told
  removal hremoval h := by
    apply h.step
    rw [packageTrip_notesAt, List.filterMap_cons_none hremoval.packageMoment?, List.filterMap_nil]
    exact h.told.silent hremoval.sameTrip.1 hremoval.sameTrip.2
  drained hdrained h := by
    refine ⟨h.story, ?_⟩
    exact h.told.same (by rintro c ⟨⟩; exact le_rfl) hdrained.sameTrip.1 hdrained.sameTrip.2
  heartbeat hw hpunctual hnow h := by
    apply h.step
    rw [packageTrip_heartbeat (HeartbeatService.beat hw hnow)]
    exact tripStep_heartbeatAt hw hpunctual hnow h.told

end World

/-- In every run a package is picked up once after each assignment and not before it, delivered once
after the pickup and strictly later, and never at a time after the clock of the record. -/
theorem Chronicled.packageTrip_next {u : UnicodeTables} {fleet : Fleet} {clock : Option Datetime}
    {w : World} {log : List Note} (hidle : fleet.All (Truck.Idle fun _ ↦ True))
    (h : Chronicled u fleet (fun _ _ _ ↦ True) clock w log) (p : Int) :
    ∀ earlier m later, packageTrip p log = earlier ++ m :: later →
      PackageMoment.Next earlier.getLast? m := by
  have htrip : w.OnTrip p clock log := by
    apply h.invariant hidle (World.onTrip_rule p)
    · exact fun _ _ _ ↦ trivial
    · refine ⟨.nil, ⟨fun _ ↦ .inl rfl, fun package r hp ↦ ?_⟩⟩
      simp [World.initial] at hp
  exact fun earlier m later ↦ htrip.story.next_of_append

/-- A package that is picked up and delivered. -/
theorem Scenario.packageTrip_next_steps : ∃ w log,
    Chronicled .asciiOnly Scenario.fleet (fun _ _ _ ↦ True) (some (Scenario.hour 20)) w log ∧
      (packageTrip 1 log).length = 3 ∧
      ∀ earlier m later, packageTrip 1 log = earlier ++ m :: later →
        PackageMoment.Next earlier.getLast? m := by
  have hsorted : ([] ++ (Scenario.steps ++ [(Scenario.hour 20, Operation.heartbeat)]).map
      Prod.fst).Pairwise (· ≤ ·) := by decide
  have hallow : AllAdmitted .asciiOnly (fun _ _ _ ↦ True) (.initial Scenario.fleet)
      (Scenario.steps ++ [(Scenario.hour 20, Operation.heartbeat)]) :=
    ⟨trivial, trivial, trivial, trivial, rfl, trivial, trivial, trivial, trivial, trivial, trivial,
      trivial, trivial⟩
  have hrun : Chronicled .asciiOnly Scenario.fleet (fun _ _ _ ↦ True) (some (Scenario.hour 20)) _ _ :=
    Chronicled.performAll .start hsorted hallow
  exact ⟨_, _, hrun, by decide +kernel,
    Chronicled.packageTrip_next Scenario.fleet_idle_anywhere hrun 1⟩

end FleetFlow
