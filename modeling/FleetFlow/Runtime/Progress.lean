import FleetFlow.Runtime.TimePaths

/-!
# One pickup and one delivery for each assignment

The pickups and deliveries of a package since its last assignment, counted over the record of a
run.
-/

namespace FleetFlow

open Program Reconciler

/-- Pickups and deliveries of a package. -/
structure Tally where
  pickups : Nat
  deliveries : Nat
deriving DecidableEq, Repr

namespace Tally

variable (p : Int) (n : Tally)

/-- Count a transition. -/
def transition : LifecycleEvent → Tally
  | .packagePickedUp q _ _ => if q = p then { n with pickups := n.pickups + 1 } else n
  | .packageDelivered q _ _ => if q = p then { n with deliveries := n.deliveries + 1 } else n
  | _ => n

/-- Count an entry; an assignment starts over. -/
def entry : Entry → Tally
  | .domain (.packageAssignedToRoute e) => if e.packageId = p then ⟨0, 0⟩ else n
  | .domain e => e.lifecycle?.elim n (n.transition p)
  | .reconciliation _ => n

/-- At most one of each. -/
structure AtMostOnce : Prop where
  pickups : n.pickups ≤ 1
  deliveries : n.deliveries ≤ 1

/-- No more of either. -/
structure Le (m : Tally) : Prop where
  pickups : n.pickups ≤ m.pickups
  deliveries : n.deliveries ≤ m.deliveries

end Tally

/-- Pickups and deliveries of a package since its last assignment. -/
def tally (p : Int) (log : List Entry) : Tally := log.foldl (Tally.entry p) ⟨0, 0⟩

/-! ### Counting what commands record -/

/-- Whether an event is the pickup or the delivery of a package. -/
def DomainEvent.isProgress : DomainEvent → Bool
  | .packagePickedUp _ | .packageDelivered _ => true
  | _ => false

/-- Without progress, the count starts over at an assignment or stays. -/
theorem foldl_entry_of_not_progress {p : Int} {n : Tally} {es : List DomainEvent}
    (h : ∀ e ∈ es, e.isProgress = false) :
    (es.map Entry.domain).foldl (Tally.entry p) n = ⟨0, 0⟩ ∨
      (es.map Entry.domain).foldl (Tally.entry p) n = n ∧
        ∀ e, .packageAssignedToRoute e ∈ es → e.packageId ≠ p := by
  induction es generalizing n with
  | nil => exact .inr ⟨rfl, by simp⟩
  | cons e rest ih =>
    have hhead : n.entry p (.domain e) = ⟨0, 0⟩ ∨ n.entry p (.domain e) = n ∧
        ∀ e', e = .packageAssignedToRoute e' → e'.packageId ≠ p := by
      have hprogress := h e (by simp)
      cases e with
      | packageAssignedToRoute e =>
        by_cases hid : e.packageId = p
        · exact .inl (if_pos hid)
        · exact .inr ⟨if_neg hid, fun e' he' ↦ DomainEvent.packageAssignedToRoute.inj he' ▸ hid⟩
      | packagePickedUp e => cases hprogress
      | packageDelivered e => cases hprogress
      | _ => exact .inr ⟨rfl, by simp⟩
    rw [List.map_cons, List.foldl_cons]
    rcases @ih (n.entry p (.domain e)) fun e' he' ↦ h e' (by simp [he']) with hrest | ⟨hrest, hnone⟩
    · exact .inl hrest
    · rcases hhead with hhead | ⟨hhead, hfirst⟩
      · exact .inl (hrest.trans hhead)
      · refine .inr ⟨hrest.trans hhead, fun e' he' ↦ ?_⟩
        rcases List.mem_cons.mp he' with heq | he'
        · exact hfirst e' heq.symm
        · exact hnone e' he'

namespace World

variable {u : UnicodeTables} {allowed : Option LocationCode → Prop} {clock last : Option Datetime}
  {w w' : World} {now : Datetime} {focus : Focus} {es : List DomainEvent}

/-- Changes of a command are no progress. -/
theorem Update.not_progress (h : Update u focus w es w') : ∀ e ∈ es, e.isProgress = false := by
  cases h with
  | contacts hroutes hpackages htrucks => simp
  | createPackage hcreate hnew hroutes hpackages htrucks =>
    simp only [DeliveryPackage.create, except_bind_eq_ok_iff, Except.ok.injEq] at hcreate
    obtain ⟨q, hq, rfl⟩ := hcreate
    obtain ⟨-, -, -, -, -, -, -, -, -, -, hempty⟩ := DeliveryPackage.new_eq_ok hq
    simp [DeliveryPackage.recordEvent, hempty, DomainEvent.isProgress]
  | createRoute hcreate hnew =>
    simp only [DeliveryRoute.create, except_bind_eq_ok_iff, DeliveryRoute.new_eq_ok_iff,
      Except.ok.injEq] at hcreate
    obtain ⟨-, -, -, -, r, ⟨-, -, -, -, -, -, hempty⟩, rfl⟩ := hcreate
    simp [DeliveryRoute.recordEvent, hempty, DomainEvent.isProgress]
  | scheduleRoute hr hnone hschedule hes =>
    obtain ⟨-, plan, s, -, -, -, rfl⟩ := DeliveryRoute.schedule_eq_ok_iff.mp hschedule
    obtain rfl := List.append_cancel_left hes
    simp [DomainEvent.isProgress]
  | linkTruck hr ht hidle hassign hes =>
    rename_i route route' truck truck' t
    simp only [DeliveryRoute.assignTruck, require_bind_eq_ok_iff] at hassign
    obtain ⟨-, -, hassign⟩ := hassign
    cases hl : truck.currentLocation with
    | none =>
      rw [hl] at hassign
      cases hassign
    | some location =>
      rw [hl] at hassign
      simp only [Except.ok.injEq, Prod.mk.injEq] at hassign
      obtain ⟨rfl, rfl⟩ := hassign
      obtain rfl := List.append_cancel_left hes
      simp [DomainEvent.isProgress]
  | linkPackage hr hp hnone hnew hassign hes =>
    obtain ⟨e, rfl, -⟩ := assigned_of_assignPackage hnew hassign hes
    simp [DomainEvent.isProgress]
  | unlinkPackage hr hp hmem hlink hdetach hes =>
    unfold DeliveryRoute.detachPackage at hdetach
    rw [if_pos hmem, hlink] at hdetach
    simp only [Except.ok.injEq, Prod.mk.injEq] at hdetach
    obtain ⟨rfl, rfl⟩ := hdetach
    obtain rfl := List.append_cancel_left hes
    simp [DomainEvent.isProgress]
  | unlinkTruck hr ht hlink hloc hrelease hes =>
    unfold DeliveryRoute.releaseTruck Truck.release at hrelease
    simp only [hloc, Bool.true_or, if_true, Truck.free, Except.ok.injEq, Prod.mk.injEq,
      Option.some.injEq, and_true] at hrelease
    obtain ⟨rfl, rfl⟩ := hrelease
    obtain rfl := List.append_cancel_left hes
    simp [DomainEvent.isProgress]

/-- A package on a route after changes was there before, in the same status, or an event has
assigned it. -/
theorem Updates.carried (h : Updates u focus w es w') {p : Int} {b : DeliveryPackage}
    (hb : w'.packages.find? p = some b) (hlink : b.route.isSome) :
    (∃ a, w.packages.find? p = some a ∧ a.route.isSome ∧ a.status = b.status) ∨
      ∃ e, .packageAssignedToRoute e ∈ es ∧ e.packageId = p := by
  induction h generalizing b with
  | refl => exact .inl ⟨b, hb, hlink, rfl⟩
  | snoc _ hstep ih =>
    cases hstep.carried hb with
    | kept ha hroute hstatus =>
      rcases ih ha (hroute ▸ hlink) with ⟨a, ha', hlink', hstatus'⟩ | ⟨e, he, hid⟩
      · exact .inl ⟨a, ha', hlink', hstatus'.trans hstatus.symm⟩
      · exact .inr ⟨e, List.mem_append_left _ he, hid⟩
    | idle hroute hstatus => simp [hroute] at hlink
    | linked ha hnone hstatus hr hroute he hid => exact .inr ⟨_, List.mem_append_right _ he, hid⟩

theorem Updates.not_progress (h : Updates u focus w es w') : ∀ e ∈ es, e.isProgress = false := by
  induction h with
  | refl => simp
  | snoc _ hstep ih =>
    intro e he
    exact (List.mem_append.mp he).elim (ih e) (hstep.not_progress e)

/-- What a command records is no progress, and every package on a route was there before, in the
same status, or has been assigned by an event. -/
theorem Traced.carried (h : Traced u w es w') :
    (∀ e ∈ es, e.isProgress = false) ∧ ∀ {p : Int} {b : DeliveryPackage},
      w'.packages.find? p = some b → b.route.isSome →
        (∃ a, w.packages.find? p = some a ∧ a.route.isSome ∧ a.status = b.status) ∨
          ∃ e, .packageAssignedToRoute e ∈ es ∧ e.packageId = p := by
  cases h with
  | updates hupdates => exact ⟨hupdates.not_progress, fun hb ↦ hupdates.carried hb⟩
  | removal hupdates hdrop =>
    rename_i focus gone es event w1
    constructor
    · intro e he
      rcases List.mem_append.mp he with he | he
      · exact hupdates.not_progress e he
      · rw [List.mem_singleton.mp he]
        cases hdrop <;> rfl
    · intro p b hb hlink
      have hb' : w1.packages.find? p = some b := hdrop.package_of_after hb
      rcases hupdates.carried hb' hlink with ha | ⟨e, he, hid⟩
      · exact .inl ha
      · exact .inr ⟨e, List.mem_append_left _ he, hid⟩

end World

/-! ### Counting what heartbeats record -/

/-- Whether a transition is one of a given package. -/
def LifecycleEvent.concerns (p : Int) : LifecycleEvent → Bool
  | .packagePickedUp q _ _ | .packageDelivered q _ _ => q = p
  | _ => false

/-- Only the transitions of the package count. -/
theorem foldl_entry_of_onlyTransitions {p : Int} {n : Tally} {entries : List Entry}
    (h : OnlyTransitions entries) : entries.foldl (Tally.entry p) n =
      ((movements entries).filter (LifecycleEvent.concerns p)).foldl (Tally.transition p) n := by
  induction entries generalizing n with
  | nil => rfl
  | cons entry rest ih =>
    have hrest : OnlyTransitions rest := fun e he ↦ h e (by simp [he])
    rw [List.foldl_cons, ih hrest, show entry :: rest = [entry] ++ rest from rfl, movements_append,
      List.filter_append, List.foldl_append]
    apply congrArg fun m ↦ List.foldl (Tally.transition p) m _
    cases entry with
    | reconciliation event => rfl
    | domain event =>
      have hevent := h event (by simp)
      cases event with
      | packagePickedUp e =>
        by_cases hid : e.packageId = p <;>
          simp [Tally.entry, movements, Entry.lifecycle?, DomainEvent.lifecycle?,
            LifecycleEvent.isMovement, LifecycleEvent.concerns, Tally.transition, hid]
      | packageDelivered e =>
        by_cases hid : e.packageId = p <;>
          simp [Tally.entry, movements, Entry.lifecycle?, DomainEvent.lifecycle?,
            LifecycleEvent.isMovement, LifecycleEvent.concerns, Tally.transition, hid]
      | routeStarted e => rfl
      | routeCompleted e => rfl
      | truckReleasedFromRoute e => rfl
      | _ => simp [DomainEvent.lifecycle?] at hevent

/-- The transitions of a package concern that package. -/
private theorem filter_concerns_transitionsOn (package : DeliveryPackage) (route : DeliveryRoute)
    (now : Datetime) (p : Int) :
    (package.transitionsOn route now).filter (LifecycleEvent.concerns p) =
      if package.packageId = p then package.transitionsOn route now else [] := by
  have hall : ∀ e ∈ package.transitionsOn route now,
      e.concerns p = decide (package.packageId = p) := by
    unfold DeliveryPackage.transitionsOn
    split
    · simp
    · split
      · unfold DeliveryPackage.transitions
        intro e he
        rcases List.mem_append.mp he with he | he
        · split at he
          · rw [List.mem_singleton.mp he]
            rfl
          · cases he
        · split at he
          · rw [List.mem_singleton.mp he]
            rfl
          · cases he
      · simp
  by_cases hid : package.packageId = p
  · rw [if_pos hid]
    apply List.filter_eq_self.mpr
    intro e he
    simp [hall e he, hid]
  · rw [if_neg hid]
    apply List.filter_eq_nil_iff.mpr
    intro e he
    simp [hall e he, hid]

namespace World

variable {u : UnicodeTables} {allowed : Option LocationCode → Prop} {clock : Option Datetime}
  {w w' : World} {now : Datetime} {p r : Int} {n : Tally}

/-- The movements of a route that concern a package. -/
private theorem filter_concerns_movementsOn (route : DeliveryRoute) :
    (w.movementsOn now route).filter (LifecycleEvent.concerns p) =
      (w.packagesOf route).flatMap fun package ↦
        if package.packageId = p then package.transitionsOn route now else [] := by
  have hreleases : (route.releases (w.truckOf route) now).filter (LifecycleEvent.concerns p) = [] := by
    unfold DeliveryRoute.releases
    split
    · split <;> rfl
    · rfl
  unfold movementsOn
  rw [List.filter_append, hreleases, List.nil_append, List.filter_flatMap]
  simp only [filter_concerns_transitionsOn]

/-- A package moves with its route. -/
theorem filter_concerns_of_linked (hw : w.Sound u allowed clock) {package : DeliveryPackage}
    (hp : w.packages.find? p = some package) (hlink : package.route = some r)
    {route : DeliveryRoute} (hr : w.routes.find? r = some route) :
    (w.routes.values.flatMap (w.movementsOn now)).filter (LifecycleEvent.concerns p) =
      package.transitionsOn route now := by
  have hl := hw.linked.toRouteLinked
  have hid : package.packageId = p := Store.key_of_find? hp
  have hother : ∀ x ∈ w.routes.values, x.routeId ≠ route.routeId →
      (w.movementsOn now x).filter (LifecycleEvent.concerns p) = [] := by
    intro x hx hne
    rw [filter_concerns_movementsOn, List.flatMap_eq_nil_iff]
    intro q hq
    apply if_neg
    intro hqid
    obtain ⟨hmem, hfind⟩ := mem_packagesOf.mp hq
    obtain ⟨q', hq', hlink'⟩ := hl.package_of_route (Store.mem_values.mp hx) hmem
    rw [hqid, hp, Option.some.injEq] at hq'
    rw [← hq', hlink, Option.some.injEq] at hlink'
    exact hne (hlink'.symm.trans (Store.key_of_find? hr).symm)
  rw [List.filter_flatMap,
    flatMap_eq_of_key Store.nodup_values (Store.mem_values_of_find? hr) hother,
    filter_concerns_movementsOn]
  obtain ⟨x, hx, hmem⟩ := hl.route_of_package hp hlink
  obtain rfl := Option.some.inj (hr.symm.trans hx)
  have hpackages : ((w.packagesOf route).map DeliveryPackage.packageId).Nodup := by
    rw [hl.map_packagesOf hr]
    exact hl.nodup hr
  have hin : package ∈ w.packagesOf route := mem_packagesOf.mpr (hid ▸ ⟨hmem, hp⟩)
  rw [flatMap_eq_of_key hpackages hin fun q _ hne ↦ if_neg (hid ▸ hne), if_pos hid]

/-- A package without a route does not move. -/
theorem filter_concerns_of_unlinked (hl : w.RouteLinked)
    (h : ∀ package, w.packages.find? p = some package → package.route = none) :
    (w.routes.values.flatMap (w.movementsOn now)).filter (LifecycleEvent.concerns p) = [] := by
  rw [List.filter_flatMap, List.flatMap_eq_nil_iff]
  intro x hx
  rw [filter_concerns_movementsOn, List.flatMap_eq_nil_iff]
  intro q hq
  apply if_neg
  intro hqid
  obtain ⟨hmem, hfind⟩ := mem_packagesOf.mp hq
  obtain ⟨q', hq', hlink⟩ := hl.package_of_route (Store.mem_values.mp hx) hmem
  rw [hqid] at hq'
  rw [h q' hq'] at hlink
  cases hlink

/-! ### Runs -/

/-- The count agrees with the status of a package on a route. -/
structure Tallied (p : Int) (w : World) (n : Tally) : Prop where
  once : n.AtMostOnce
  pickup : ∀ {package : DeliveryPackage}, w.packages.find? p = some package →
    package.route.isSome → package.status = .todo → n.pickups = 0
  delivery : ∀ {package : DeliveryPackage}, w.packages.find? p = some package →
    package.route.isSome → package.status ≠ .done → n.deliveries = 0

/-- Commands keep the count. -/
theorem Traced.tallied {es : List DomainEvent} (h : Traced u w es w') (hn : Tallied p w n) :
    Tallied p w' ((es.map Entry.domain).foldl (Tally.entry p) n) := by
  obtain ⟨hprogress, hcarried⟩ := h.carried
  rcases foldl_entry_of_not_progress (p := p) (n := n) hprogress with hzero | ⟨hsame, hnone⟩
  · rw [hzero]
    exact ⟨⟨by simp, by simp⟩, fun _ _ _ ↦ rfl, fun _ _ _ ↦ rfl⟩
  · rw [hsame]
    have hkept : ∀ {b : DeliveryPackage}, w'.packages.find? p = some b → b.route.isSome →
        ∃ a, w.packages.find? p = some a ∧ a.route.isSome ∧ a.status = b.status := by
      intro b hb hlink
      rcases hcarried hb hlink with ha | ⟨e, he, hid⟩
      · exact ha
      · exact absurd hid (hnone e he)
    refine ⟨hn.once, fun hb hlink hstatus ↦ ?_, fun hb hlink hstatus ↦ ?_⟩
    · obtain ⟨a, ha, hroute, heq⟩ := hkept hb hlink
      exact hn.pickup ha hroute (heq.trans hstatus)
    · obtain ⟨a, ha, hroute, heq⟩ := hkept hb hlink
      exact hn.delivery ha hroute (heq ▸ hstatus)

/-- Draining keeps the count. -/
theorem Drained.tallied (h : w.Drained w') (hn : Tallied p w n) : Tallied p w' n := by
  have hkept : ∀ {b : DeliveryPackage}, w'.packages.find? p = some b →
      ∃ a, w.packages.find? p = some a ∧ a.route = b.route ∧ a.status = b.status := by
    intro b hb
    obtain ⟨a, ha, hab⟩ := h.packages.backward hb
    exact ⟨a, ha, by rw [hab], by rw [hab]⟩
  refine ⟨hn.once, fun hb hlink hstatus ↦ ?_, fun hb hlink hstatus ↦ ?_⟩
  · obtain ⟨a, ha, hroute, heq⟩ := hkept hb
    exact hn.pickup ha (hroute ▸ hlink) (heq.trans hstatus)
  · obtain ⟨a, ha, hroute, heq⟩ := hkept hb
    exact hn.delivery ha (hroute ▸ hlink) (heq ▸ hstatus)

end World

/-- Counting the transitions of a package between two stops. -/
private theorem foldl_transitions (package : DeliveryPackage) (r : Int)
    (pickup delivery now : Datetime) (n : Tally) :
    (package.transitions r pickup delivery now).foldl (Tally.transition package.packageId) n =
      ⟨n.pickups + if package.status = .todo ∧ pickup ≤ now then 1 else 0,
        n.deliveries + if package.status ≠ .done ∧ delivery ≤ now then 1 else 0⟩ := by
  unfold DeliveryPackage.transitions
  split_ifs <;> simp [Tally.transition]

/-- Counting the transitions of a punctual package up to an instant. -/
private theorem foldl_transitionsOn {clock : Option Datetime} {now : Datetime}
    {route : DeliveryRoute} {p q : DeliveryPackage} {n : Tally} (h : p.Punctual route clock)
    (hnow : ∀ c ∈ clock, c ≤ now)
    (hin : route.includesInOrder p.startLocation p.endLocation = true) (hsame : p.SameShipment q)
    (hq : q.SettledOn route now) (hpickups : p.status = .todo → n.pickups = 0)
    (hdeliveries : p.status ≠ .done → n.deliveries = 0) (honce : n.AtMostOnce) :
    let m := (p.transitionsOn route now).foldl (Tally.transition p.packageId) n
    m.AtMostOnce ∧ (q.status = .todo → m.pickups = 0) ∧ (q.status ≠ .done → m.deliveries = 0) := by
  unfold DeliveryPackage.SettledOn at hq
  cases hs : route.plan.schedule? with
  | none =>
    have htodo : p.status = .todo := by
      by_contra hne
      obtain ⟨c, -, t, ht, -⟩ := h.pickup hne
      obtain ⟨s, hs', -⟩ := DeliveryRoute.arrivalTimeAt_eq_ok_iff.mp ht
      rw [hs] at hs'
      cases hs'
    simp only [DeliveryPackage.transitionsOn, hs, List.foldl_nil]
    exact ⟨honce, fun _ ↦ hpickups htodo, fun _ ↦ hdeliveries (by simp [htodo])⟩
  | some s =>
    rw [hs] at hq
    obtain ⟨i, j, pickup, delivery, hvisit, -, -⟩ := exists_visitedInOrder hs hin
    obtain ⟨hstarted, hdone⟩ := h.reached hs hvisit hnow
    obtain ⟨hqtodo, hqdone⟩ := hq.not_reached (visitedInOrder_of_same hvisit hsame)
    rw [transitionsOn_eq hs hvisit, foldl_transitions]
    refine ⟨⟨?_, ?_⟩, fun htodo ↦ ?_, fun hne ↦ ?_⟩
    · have hone := honce.pickups
      by_cases htodo : p.status = .todo
      · dsimp only
        rw [hpickups htodo]
        split_ifs <;> omega
      · simpa [htodo] using hone
    · have hone := honce.deliveries
      by_cases hopen : p.status = .done
      · simpa [hopen] using hone
      · dsimp only
        rw [hdeliveries hopen]
        split_ifs <;> omega
    · have hlt := hqtodo htodo
      have hp : p.status = .todo := by
        by_contra hne
        exact absurd (hstarted hne) (not_le.mpr hlt)
      simp [hpickups hp, not_le.mpr hlt]
    · have hlt := hqdone hne
      have hp : p.status ≠ .done := fun hd ↦ absurd (hdone hd) (not_le.mpr hlt)
      simp [hdeliveries hp, not_le.mpr hlt]

namespace World

variable {u : UnicodeTables} {allowed : Option LocationCode → Prop} {clock : Option Datetime}
  {w : World} {now : Datetime} {p : Int} {n : Tally}

/-- Heartbeats keep the count. -/
theorem tallied_heartbeatAt (hw : w.Sound u allowed clock) (hpunctual : w.Punctual clock)
    (hnow : ∀ c ∈ clock, c ≤ now) (hn : Tallied p w n) :
    Tallied p (w.heartbeatAt u now) ((w.heartbeatRecord u now).foldl (Tally.entry p) n) := by
  have hbeat : HeartbeatService.Beat u now w := HeartbeatService.beat hw hnow
  rw [foldl_entry_of_onlyTransitions hbeat.only, hbeat.movements]
  by_cases hlinked : ∃ package r, w.packages.find? p = some package ∧ package.route = some r
  · obtain ⟨package, r, hp, hlink⟩ := hlinked
    obtain ⟨route, hr, hmem⟩ := hw.linked.route_of_package hp hlink
    have hcarried : package.Punctual route clock := by
      obtain ⟨x, hx, hcarried⟩ := hpunctual.carried hp hlink
      obtain rfl := Option.some.inj (hr.symm.trans hx)
      exact hcarried
    obtain ⟨q, hq, hpq⟩ := hbeat.timed.packages.forward hp
    have hsettled := hpq.settled r hlink route hr
    have hin := hw.onPath hr hmem hp
    have hid : package.packageId = p := Store.key_of_find? hp
    rw [filter_concerns_of_linked hw hp hlink hr]
    have hafter : ∀ {b : DeliveryPackage},
        (w.heartbeatAt u now).packages.find? p = some b → b = q := by
      intro b hb
      exact Option.some.inj (hb.symm.trans hq)
    have hcount := foldl_transitionsOn hcarried hnow hin hpq.same hsettled
      (hn.pickup hp (by simp [hlink])) (hn.delivery hp (by simp [hlink])) hn.once
    rw [hid] at hcount
    obtain ⟨honce, hpickups, hdeliveries⟩ := hcount
    exact ⟨honce, fun hb _ hstatus ↦ hpickups (hafter hb ▸ hstatus),
      fun hb _ hstatus ↦ hdeliveries (hafter hb ▸ hstatus)⟩
  · have hwaiting : ∀ package, w.packages.find? p = some package → package.route = none := by
      intro package hp
      cases hlink : package.route with
      | none => rfl
      | some r => exact absurd ⟨package, r, hp, hlink⟩ hlinked
    rw [filter_concerns_of_unlinked hw.linked.toRouteLinked hwaiting]
    have hafter : ∀ {b : DeliveryPackage},
        (w.heartbeatAt u now).packages.find? p = some b → b.route = none := by
      intro b hb
      obtain ⟨a, ha, hab⟩ := hbeat.timed.packages.backward hb
      exact hab.route.trans (hwaiting a ha)
    refine ⟨hn.once, fun hb hlink ↦ ?_, fun hb hlink ↦ ?_⟩
    · simp [hafter hb] at hlink
    · simp [hafter hb] at hlink

end World

/-! ### Every point of a run -/

namespace Tally

variable {p : Int} {n m : Tally}

/-- Fewer are at most one as well. -/
theorem AtMostOnce.of_le (h : m.AtMostOnce) (hle : n.Le m) : n.AtMostOnce :=
  ⟨hle.pickups.trans h.pickups, hle.deliveries.trans h.deliveries⟩

/-- Transitions only add to the count. -/
theorem le_foldl_transition (transitions : List LifecycleEvent) :
    n.Le (transitions.foldl (Tally.transition p) n) := by
  induction transitions generalizing n with
  | nil => exact ⟨le_rfl, le_rfl⟩
  | cons e rest ih =>
    have hstep : n.Le (n.transition p e) := by
      cases e with
      | packagePickedUp q r t => by_cases hid : q = p <;> constructor <;> simp [transition, hid]
      | packageDelivered q r t => by_cases hid : q = p <;> constructor <;> simp [transition, hid]
      | _ => exact ⟨le_rfl, le_rfl⟩
    have hrest := @ih (n.transition p e)
    exact ⟨hstep.pickups.trans hrest.pickups, hstep.deliveries.trans hrest.deliveries⟩

/-- On the way to a count of at most one each, there was at most one each. -/
theorem atMostOnce_of_prefix {pre entries : List Entry} (hpre : pre <+: entries)
    (honly : OnlyTransitions entries) (h : (entries.foldl (Tally.entry p) n).AtMostOnce) :
    (pre.foldl (Tally.entry p) n).AtMostOnce := by
  obtain ⟨post, rfl⟩ := hpre
  rw [List.foldl_append] at h
  apply h.of_le
  rw [foldl_entry_of_onlyTransitions fun e he ↦ honly e (List.mem_append_right _ he)]
  exact le_foldl_transition _

end Tally

/-- Counted over the entries of one operation, starting from a given count. -/
structure CountedOver (p : Int) (n : Tally) (entries : List Entry) (w' : World) : Prop where
  tallied : World.Tallied p w' (entries.foldl (Tally.entry p) n)
  once : ∀ pre, pre <+: entries → (pre.foldl (Tally.entry p) n).AtMostOnce

variable {u : UnicodeTables} {allowed : Option LocationCode → Prop} {fleet : Fleet}
  {clock : Option Datetime} {w : World} {log : List Entry} {now : Datetime} {p : Int} {n : Tally}

/-- The record of a command is counted. -/
private theorem countedOver_of_traced {w' : World} {es : List DomainEvent}
    (h : World.Traced u w es w') (hn : World.Tallied p w n) :
    CountedOver p n (es.map .domain) w' := by
  refine ⟨h.tallied hn, fun pre hpre ↦ ?_⟩
  obtain ⟨post, hpost⟩ := hpre
  obtain ⟨es1, es2, rfl, rfl, -⟩ := List.map_eq_append_iff.mp hpost.symm
  rcases foldl_entry_of_not_progress (p := p) (n := n)
    fun e he ↦ h.carried.1 e (List.mem_append_left _ he) with hzero | ⟨hsame, -⟩
  · rw [hzero]
    exact ⟨by simp, by simp⟩
  · rw [hsame]
    exact hn.once

/-- The record of an operation is counted. -/
theorem Operation.countedOver_perform (hmap : ∀ l ∈ Map.locations, allowed (some l))
    (h : w.Sound u allowed clock) (hpunctual : w.Punctual clock) (hnow : ∀ c ∈ clock, c ≤ now)
    (operation : Operation) (hn : World.Tallied p w n) :
    CountedOver p n (operation.record u now w) ((operation.perform u now).finalState w) := by
  by_cases hne : operation = .heartbeat
  · subst hne
    have hbeat : HeartbeatService.Beat u now w := HeartbeatService.beat h hnow
    have htallied := World.tallied_heartbeatAt h hpunctual hnow hn
    exact ⟨htallied, fun pre hpre ↦ Tally.atMostOnce_of_prefix hpre hbeat.only htallied.once⟩
  · have heffects : (operation.execute u now).Effects u allowed clock w operation.removes :=
      Operation.effects_execute hmap h hne
    rw [Action.Effects, ensures_iff] at heffects
    have hrecord : operation.record u now w = operation.commandEntries u now w := by
      cases operation with
      | heartbeat => exact absurd rfl hne
      | _ => rfl
    have hexecute : (operation.execute u now).Keeps w
        (CountedOver p n (operation.commandEntries u now w)) := by
      rw [Action.Keeps, ensures_iff]
      unfold commandEntries
      cases hrun : operation.execute u now w with
      | ok recorders w' =>
        simp only [hrun] at heffects ⊢
        exact countedOver_of_traced heffects.2.traced hn
      | error e w' =>
        simp only [hrun] at heffects ⊢
        exact countedOver_of_traced heffects.2.traced hn
    have hperform : (operation.perform u now).Keeps w
        (CountedOver p n (operation.commandEntries u now w)) := by
      unfold perform
      rw [Action.Keeps, ensures_bind]
      apply hexecute.mono _ fun _ _ hc ↦ hc
      intro recorders w' hc
      exact (EventCollector.ensures_drain_drained w' recorders).mono
        (fun _ _ hd ↦ ⟨hd.tallied hc.tallied, hc.once⟩) fun _ _ hd ↦ ⟨hd.tallied hc.tallied, hc.once⟩
    rw [hrecord]
    exact hperform.finalState

/-- At every point of a run, a package has been picked up and delivered at most once since its last
assignment. -/
theorem Recorded.tallied (hidle : fleet.All (Truck.Idle fun _ ↦ True))
    (h : Recorded u fleet clock w log) (p : Int) : CountedOver p ⟨0, 0⟩ log w := by
  induction h with
  | start =>
    have hempty : (World.initial fleet).packages.find? p = none := by simp [World.initial]
    refine ⟨⟨⟨by simp, by simp⟩, fun hp ↦ ?_, fun hp ↦ ?_⟩, fun pre hpre ↦ ?_⟩
    · rw [hempty] at hp
      cases hp
    · rw [hempty] at hp
      cases hp
    · rw [List.prefix_nil.mp hpre]
      exact ⟨by simp, by simp⟩
  | @step clock w log now h hnow operation ih =>
    have hsound := h.reachable.sound (fun _ _ ↦ trivial) hidle
    have hstep := operation.countedOver_perform (fun _ _ ↦ trivial) hsound
      (h.reachable.punctual hidle) hnow ih.tallied
    refine ⟨by rw [List.foldl_append]; exact hstep.tallied, fun pre hpre ↦ ?_⟩
    rcases List.prefix_or_prefix_of_prefix hpre (List.prefix_append log _) with hpre' | ⟨rest, rfl⟩
    · exact ih.once pre hpre'
    · rw [List.foldl_append]
      exact hstep.once rest ((List.prefix_append_right_inj log).mp hpre)

/-- A heartbeat right after a heartbeat at the same instant finds nothing to do. -/
theorem World.heartbeatAt_again (hw : w.Sound u allowed clock) (hnow : ∀ c ∈ clock, c ≤ now)
    (hsettled : w.SettledAt now) : HeartbeatService.advance .inMemory now w = .ok .nothing w ∧
      w.heartbeatRecord u now = [] := by
  have hquiet := HeartbeatService.ensures_journalAdvance_settled hw hnow hsettled
  have herase : Prod.fst <$> HeartbeatService.journalAdvance .inMemory now =
      HeartbeatService.advance .inMemory now := HeartbeatService.erases_journalAdvance .inMemory now
  rw [ensures_iff] at hquiet
  unfold heartbeatRecord Operation.record
  rw [← herase]
  cases hrun : HeartbeatService.journalAdvance .inMemory now w with
  | error e w' => simp [hrun] at hquiet
  | ok x w' =>
    obtain ⟨summary, entries⟩ := x
    simp only [hrun] at hquiet
    obtain ⟨rfl, rfl, rfl⟩ := hquiet
    refine ⟨?_, rfl⟩
    show EStateM.map Prod.fst _ _ = _
    unfold EStateM.map
    rw [hrun]

/-- However heartbeats fall, every route, package and truck ends in the same state, and the same
packages are picked up and delivered and the same trucks released at the same times, at most once
for each assignment. A heartbeat repeated at the same instant finds nothing to do. -/
theorem Recorded.heartbeats_agree (hidle : fleet.All (Truck.Idle fun _ ↦ True))
    (h : Recorded u fleet clock w log) {t1 t2 : Datetime} (h1 : ∀ c ∈ clock, c ≤ t1)
    (hle : t1 ≤ t2) :
    ((w.heartbeatAt u t1).heartbeatAt u t2).SameState (w.heartbeatAt u t2) ∧
      (movements (w.heartbeatRecord u t1 ++ (w.heartbeatAt u t1).heartbeatRecord u t2)).Perm
        (movements (w.heartbeatRecord u t2)) ∧
      (∀ p pre, pre <+: log ++ w.heartbeatRecord u t1 ++
        (w.heartbeatAt u t1).heartbeatRecord u t2 → (tally p pre).AtMostOnce) ∧
      HeartbeatService.advance .inMemory t2 (w.heartbeatAt u t2) =
        .ok .nothing (w.heartbeatAt u t2) ∧
      (w.heartbeatAt u t2).heartbeatRecord u t2 = [] := by
  have hsound := h.reachable.sound (fun _ _ ↦ trivial) hidle
  have h2 : ∀ c ∈ clock, c ≤ t2 := fun c hc ↦ (h1 c hc).trans hle
  have hle' : ∀ c ∈ some t1, c ≤ t2 := by simpa using hle
  have hstep : Recorded u fleet (some t1) (w.heartbeatAt u t1) (log ++ w.heartbeatRecord u t1) :=
    h.step h1 .heartbeat
  have hstep2 : Recorded u fleet (some t2) (w.heartbeatAt u t2) (log ++ w.heartbeatRecord u t2) :=
    h.step h2 .heartbeat
  have hsound1 := hstep.reachable.sound (fun _ _ ↦ trivial) hidle
  have hsound2 := hstep2.reachable.sound (fun _ _ ↦ trivial) hidle
  have b1 : HeartbeatService.Beat u t1 w := HeartbeatService.beat hsound h1
  have b2 : HeartbeatService.Beat u t2 w := HeartbeatService.beat hsound h2
  have b12 : HeartbeatService.Beat u t2 (w.heartbeatAt u t1) := HeartbeatService.beat hsound1 hle'
  refine ⟨(b1.timed.trans b12.timed hle).sameState hsound b2.timed, ?_, fun p pre hpre ↦ ?_,
    World.heartbeatAt_again hsound2 (by simp) b2.settled⟩
  · rw [movements_append, b1.movements, b12.movements, b2.movements]
    exact World.movements_append hsound (h.reachable.punctual hidle)
      hsound1.linked.toRouteLinked b1.timed h1 hle
  · exact ((hstep.step hle' .heartbeat).tallied hidle p).once pre hpre

/-- Two heartbeats under way and one of them alone. -/
theorem Scenario.heartbeats_agree_steps :
    ∃ log, Recorded .asciiOnly Scenario.fleet (some (Scenario.hour 12))
        (performAll .asciiOnly (.initial Scenario.fleet) Scenario.steps) log ∧
      (movements ((performAll .asciiOnly (.initial Scenario.fleet) Scenario.steps).heartbeatRecord
          .asciiOnly (Scenario.hour 13) ++
        ((performAll .asciiOnly (.initial Scenario.fleet) Scenario.steps).heartbeatAt .asciiOnly
          (Scenario.hour 13)).heartbeatRecord .asciiOnly (Scenario.hour 20))).Perm
        (movements ((performAll .asciiOnly (.initial Scenario.fleet) Scenario.steps).heartbeatRecord
          .asciiOnly (Scenario.hour 20))) := by
  obtain ⟨log, hlog⟩ := Scenario.reachable_steps.exists_recorded
  have hclock : ∀ c ∈ some (Scenario.hour 12), c ≤ Scenario.hour 13 := by
    rintro c ⟨⟩
    decide
  exact ⟨log, hlog, (Recorded.heartbeats_agree Scenario.fleet_idle_anywhere hlog hclock
    (by decide : Scenario.hour 13 ≤ Scenario.hour 20)).2.1⟩

end FleetFlow
