import FleetFlow.Runtime.Heartbeat
import FleetFlow.Runtime.Ledger

/-!
# What one pass records

The events that a pass over a route buffers and the corrections it reports, branch by branch:
which transitions of the lifecycle they are, and that replaying them accounts for every field
the pass has changed.
-/

namespace FleetFlow

open Program

/-- A transition of a route, a package or a truck, and when it occurred. -/
inductive LifecycleEvent where
  | routeStarted (routeId : Int) (occurredAt : Datetime)
  | routeCompleted (routeId : Int) (occurredAt : Datetime)
  | packagePickedUp (packageId routeId : Int) (occurredAt : Datetime)
  | packageDelivered (packageId routeId : Int) (occurredAt : Datetime)
  | truckReleased (truckId routeId : Int) (occurredAt : Datetime)
deriving DecidableEq, Repr

/-- The transition that an event records, if it records one. -/
def DomainEvent.lifecycle? : DomainEvent → Option LifecycleEvent
  | .routeStarted e => some (.routeStarted e.routeId e.occurredAt)
  | .routeCompleted e => some (.routeCompleted e.routeId e.occurredAt)
  | .packagePickedUp e => some (.packagePickedUp e.packageId e.routeId e.occurredAt)
  | .packageDelivered e => some (.packageDelivered e.packageId e.routeId e.occurredAt)
  | .truckReleasedFromRoute e => some (.truckReleased e.truckId e.previousRouteId e.occurredAt)
  | _ => none

/-- Replay a pickup or a delivery on the fields of its package. -/
def PackageView.progress (v : PackageView) : DomainEvent → PackageView
  | .packagePickedUp e | .packageDelivered e =>
    { v with status := e.newStatus, location := e.newLocation }
  | _ => v

/-- A pickup or a delivery of a given package. -/
def DomainEvent.Progresses (packageId : Int) : DomainEvent → Prop
  | .packagePickedUp e | .packageDelivered e => e.packageId = packageId
  | _ => False

/-- A pickup or a delivery is a transition. -/
theorem DomainEvent.Progresses.isSome_lifecycle {packageId : Int} {e : DomainEvent}
    (h : e.Progresses packageId) : e.lifecycle?.isSome := by
  cases e <;> simp only [Progresses] at h <;> rfl

/-- Replaying the progress of one package enters the fields it ends with. -/
theorem Ledger.replay_progress {l : Ledger} {p : Int} {v : PackageView}
    (h : l.packages p = some v) {recorded : List DomainEvent}
    (hown : ∀ e ∈ recorded, e.Progresses p) :
    l.replay (recorded.map .domain) = l.putPackage p (recorded.foldl PackageView.progress v) := by
  induction recorded generalizing l v with
  | nil => exact (Ledger.putPackage_eq_self h).symm
  | cons e rest ih =>
    have hstep : l.apply (.domain e) = l.putPackage p (v.progress e) := by
      have he := hown e (by simp)
      cases e <;> simp only [DomainEvent.Progresses] at he
      all_goals
        subst he
        exact Ledger.editPackage_eq h _
    rw [List.map_cons, Ledger.replay_cons, hstep, List.foldl_cons,
      ih (Ledger.putPackage_packages_self p _) fun e he ↦ hown e (by simp [he]),
      Ledger.putPackage_putPackage]

/-- Transitions that a package makes up to an instant, given the times of its pickup and its
drop-off. -/
def DeliveryPackage.transitions (package : DeliveryPackage) (routeId : Int)
    (pickup delivery now : Datetime) : List LifecycleEvent :=
  (if package.status = .todo ∧ pickup ≤ now then
    [.packagePickedUp package.packageId routeId pickup] else []) ++
  (if package.status ≠ .done ∧ delivery ≤ now then
    [.packageDelivered package.packageId routeId delivery] else [])

/-- Transitions that a package makes on a route up to an instant. -/
def DeliveryPackage.transitionsOn (package : DeliveryPackage) (route : DeliveryRoute)
    (now : Datetime) : List LifecycleEvent :=
  match route.plan.schedule? with
  | none => []
  | some s =>
    match s.arrival? package.startLocation, s.arrival? package.endLocation with
    | some pickup, some delivery => package.transitions route.routeId pickup delivery now
    | _, _ => []

/-- A lifecycle method of a package, with the time it is called with. -/
inductive PackageCall where
  | markPickedUp (occurredAt : Datetime)
  | markDelivered (occurredAt : Datetime)
deriving DecidableEq, Repr

/-- Call the method. -/
def PackageCall.run : PackageCall → DeliveryPackage → Except PyError DeliveryPackage
  | .markPickedUp occurredAt, package => package.markPickedUp occurredAt
  | .markDelivered occurredAt, package => package.markDelivered occurredAt

/-- The transition that a call makes. -/
def PackageCall.transition (packageId routeId : Int) : PackageCall → LifecycleEvent
  | .markPickedUp occurredAt => .packagePickedUp packageId routeId occurredAt
  | .markDelivered occurredAt => .packageDelivered packageId routeId occurredAt

/-- The call that an event records, if it records one. -/
def DomainEvent.packageCall? : DomainEvent → Option PackageCall
  | .packagePickedUp e => some (.markPickedUp e.occurredAt)
  | .packageDelivered e => some (.markDelivered e.occurredAt)
  | _ => none

/-- Make calls one after another. -/
def DeliveryPackage.runCalls (package : DeliveryPackage) (calls : List PackageCall) :
    Except PyError DeliveryPackage :=
  calls.foldlM (fun package call ↦ call.run package) package

/-- Calls up to an instant, given the times of the pickup and the drop-off. -/
def DeliveryPackage.callsUntil (package : DeliveryPackage) (pickup delivery now : Datetime) :
    List PackageCall :=
  (if package.status = .todo ∧ pickup ≤ now then [.markPickedUp pickup] else []) ++
  (if package.status ≠ .done ∧ delivery ≤ now then [.markDelivered delivery] else [])

/-- The transitions of a package are those of its calls. -/
theorem DeliveryPackage.transitions_eq (package : DeliveryPackage) (routeId : Int)
    (pickup delivery now : Datetime) : package.transitions routeId pickup delivery now =
      (package.callsUntil pickup delivery now).map (·.transition package.packageId routeId) := by
  unfold transitions callsUntil
  rw [List.map_append]
  congr 1
  · split <;> rfl
  · split <;> rfl

/-- Calls that a package makes on a route up to an instant. -/
def DeliveryPackage.callsOn (package : DeliveryPackage) (route : DeliveryRoute) (now : Datetime) :
    List PackageCall :=
  match route.plan.schedule? with
  | none => []
  | some s =>
    if route.includesInOrder package.startLocation package.endLocation then
      match s.arrival? package.startLocation, s.arrival? package.endLocation with
      | some pickup, some delivery => package.callsUntil pickup delivery now
      | _, _ => []
    else []

namespace Reconciler

/-- The event of a lifecycle step. -/
def progressEvent (p : DeliveryPackage) (routeId : Int) (newStatus : ItemStatus)
    (newLocation : LocationCode) (occurredAt : Datetime) : PackageProgressed where
  packageId := p.packageId
  routeId
  previousStatus := p.status
  newStatus
  previousLocation := p.currentLocation
  newLocation
  scheduledArrival := p.expectedArrival
  occurredAt

/-- A package after a lifecycle step. -/
def progressed (p : DeliveryPackage) (routeId : Int) (newStatus : ItemStatus)
    (newLocation : LocationCode) (event : PackageProgressed → DomainEvent)
    (occurredAt : Datetime) : DeliveryPackage :=
  { p with status := newStatus, storedLocation := some newLocation }.recordEvent
    (event (progressEvent p routeId newStatus newLocation occurredAt))

section Progressed

variable {p : DeliveryPackage} {r : Int} {newStatus fromStatus : ItemStatus} {l : LocationCode}
  {event : PackageProgressed → DomainEvent} {t : Datetime}

/-- A lifecycle step of an assigned package in the right status. -/
theorem progress_eq (hr : p.routeId = some r) (hs : p.status = fromStatus) (verb : String) :
    p.progress verb fromStatus newStatus l event t =
      .ok (progressed p r newStatus l event t) := by
  have hid : p.requireRouteId = .ok r := by
    unfold DeliveryPackage.requireRouteId
    rw [hr]
  unfold DeliveryPackage.progress
  rw [hid]
  exact require_bind_of_true hs _ _

/-- A lifecycle step returns only for an assigned package in the right status. -/
theorem progress_eq_ok_iff {q : DeliveryPackage} (verb : String) :
    p.progress verb fromStatus newStatus l event t = .ok q ↔
      ∃ r, p.routeId = some r ∧ p.status = fromStatus ∧ progressed p r newStatus l event t = q := by
  constructor
  · intro h
    cases hid : p.routeId with
    | none =>
      unfold DeliveryPackage.progress DeliveryPackage.requireRouteId at h
      simp only [hid, except_bind_eq_ok_iff] at h
      obtain ⟨r, hr, -⟩ := h
      cases hr
    | some r =>
      have hstatus : p.status = fromStatus := by
        unfold DeliveryPackage.progress DeliveryPackage.requireRouteId at h
        simp only [hid] at h
        rw [ok_bind, require_bind_eq_ok_iff] at h
        exact h.1
      rw [progress_eq hid hstatus] at h
      exact ⟨r, rfl, hstatus, Except.ok.inj h⟩
  · rintro ⟨r, hr, hs, rfl⟩
    exact progress_eq hr hs verb

/-- Moving a package to where it is. -/
theorem ensures_moveTo_self {ok : Bool → DeliveryPackage → Prop}
    {fail : PyError → DeliveryPackage → Prop} (h : p.currentLocation = l) :
    Ensures (moveTo l) p ok fail ↔ ok false p := by
  unfold moveTo
  rw [ensures_bind, ensures_get, if_neg (not_not.mpr h), ensures_pure]

/-- Moving a package elsewhere. -/
theorem ensures_moveTo_ne {ok : Bool → DeliveryPackage → Prop}
    {fail : PyError → DeliveryPackage → Prop} (h : p.currentLocation ≠ l) :
    Ensures (moveTo l) p ok fail ↔ ok true { p with storedLocation := some l } := by
  unfold moveTo
  rw [ensures_bind, ensures_get, if_pos h, ensures_bind, ensures_set, ensures_pure]

end Progressed

/-! ### Lifecycle calls and direct repairs -/

/-- What a lifecycle call does to a package. -/
structure Called (call : PackageCall) (before after : DeliveryPackage) (e : DomainEvent) :
    Prop where
  events : after.pendingEvents = before.pendingEvents ++ [e]
  recorded : e.packageCall? = some call
  own : e.Progresses before.packageId
  lifecycle : ∀ r, before.routeId = some r →
    e.lifecycle? = some (call.transition before.packageId r)
  view : before.view.progress e = after.view
  packageId : after.packageId = before.packageId
  routeId : after.routeId = before.routeId
  expectedArrival : after.expectedArrival = before.expectedArrival

/-- A lifecycle call that returns records one event, which tells what it did. -/
theorem exists_called {call : PackageCall} {p q : DeliveryPackage} (h : call.run p = .ok q) :
    ∃ e, Called call p q e := by
  cases call with
  | markPickedUp t =>
    obtain ⟨r, hr, -, rfl⟩ := (progress_eq_ok_iff _).mp h
    refine ⟨_, rfl, rfl, rfl, fun r' hr' ↦ ?_, rfl, rfl, rfl, rfl⟩
    obtain rfl := Option.some.inj (hr.symm.trans hr')
    rfl
  | markDelivered t =>
    obtain ⟨r, hr, -, rfl⟩ := (progress_eq_ok_iff _).mp h
    refine ⟨_, rfl, rfl, rfl, fun r' hr' ↦ ?_, rfl, rfl, rfl, rfl⟩
    obtain rfl := Option.some.inj (hr.symm.trans hr')
    rfl

/-- What lifecycle calls record, and that replaying it gives their effect. -/
theorem exists_recorded {calls : List PackageCall} {p q : DeliveryPackage}
    (h : p.runCalls calls = .ok q) : ∃ recorded, q.pendingEvents = p.pendingEvents ++ recorded ∧
      recorded.filterMap DomainEvent.packageCall? = calls ∧
      (∀ e ∈ recorded, e.Progresses p.packageId) ∧
      (∀ r, p.routeId = some r →
        recorded.filterMap DomainEvent.lifecycle? = calls.map (·.transition p.packageId r)) ∧
      recorded.foldl PackageView.progress p.view = q.view ∧
      q.expectedArrival = p.expectedArrival := by
  induction calls generalizing p with
  | nil =>
    obtain rfl := Except.ok.inj h
    exact ⟨[], by simp⟩
  | cons call rest ih =>
    unfold DeliveryPackage.runCalls at h
    rw [List.foldlM_cons, except_bind_eq_ok_iff] at h
    obtain ⟨next, hnext, hrest⟩ := h
    obtain ⟨e, he⟩ := exists_called hnext
    obtain ⟨recorded, hevents, hcalls, hown, hlifecycle, hview, harrival⟩ := ih hrest
    refine ⟨e :: recorded, ?_, ?_, ?_, fun r hr ↦ ?_, ?_, harrival.trans he.expectedArrival⟩
    · rw [hevents, he.events, List.append_assoc, List.singleton_append]
    · rw [List.filterMap_cons_some he.recorded, hcalls]
    · rw [List.forall_mem_cons]
      exact ⟨he.own, he.packageId ▸ hown⟩
    · rw [List.filterMap_cons_some (he.lifecycle r hr), hlifecycle r (he.routeId.trans hr),
        he.packageId, List.map_cons]
    · rw [List.foldl_cons, he.view, hview]

/-- Lifecycle calls and then direct repairs, with a reason for each repair. -/
structure Repairs (before after : DeliveryPackage) (calls : List PackageCall) (changed : Bool)
    (reasons : List PackageReconciliationReason) : Prop where
  lifecycle : ∃ mid, before.runCalls calls = .ok mid ∧ after.pendingEvents = mid.pendingEvents ∧
    (reasons = [] → after = mid) ∧ (reasons ≠ [] → mid.view ≠ after.view)
  view_ne : changed = true → before.view ≠ after.view
  unchanged : changed = false → after = before
  nodup : reasons.Nodup

/-- Repairs without a lifecycle call. -/
private theorem repairs_direct {before after : DeliveryPackage} {changed : Bool}
    {reasons : List PackageReconciliationReason}
    (hevents : after.pendingEvents = before.pendingEvents) (hnodup : reasons.Nodup)
    (hreasons : changed = true ↔ reasons ≠ []) (hview : changed = true → before.view ≠ after.view)
    (hunchanged : changed = false → after = before) : Repairs before after [] changed reasons := by
  refine ⟨⟨before, rfl, hevents, fun hnone ↦ ?_, fun hsome ↦ ?_⟩, hview, hunchanged, hnodup⟩
  · rw [← not_not (a := reasons = []), ← ne_eq, ← hreasons, Bool.not_eq_true] at hnone
    exact hunchanged hnone
  · exact hview (hreasons.mpr hsome)

/-- Packages in different statuses differ. -/
private theorem view_ne_of_status {before after : DeliveryPackage}
    (h : before.status ≠ after.status) : before.view ≠ after.view :=
  fun hview ↦ h (congrArg PackageView.status hview)

/-- Packages at different locations differ. -/
private theorem view_ne_of_location {before after : DeliveryPackage}
    (h : before.currentLocation ≠ after.currentLocation) : before.view ≠ after.view :=
  fun hview ↦ h (congrArg PackageView.location hview)

/-- Setting status and location without an event. -/
theorem ensures_setPackageState_repairs (p : DeliveryPackage) (status : ItemStatus)
    (location : LocationCode) (reason : PackageReconciliationReason) :
    Ensures (setPackageState status location) p
      (fun changed q ↦ Repairs p q [] changed (if changed then [reason] else []))
      (fun _ _ ↦ False) := by
  unfold setPackageState
  simp only [ensures_bind, ensures_get, ensures_set, ensures_pure]
  by_cases hs : p.status = status
  · by_cases hl : p.currentLocation = location
    · subst hs hl
      refine repairs_direct rfl ?_ ?_ ?_ ?_ <;> simp
    · refine repairs_direct rfl ?_ ?_ ?_ ?_
      · split <;> simp
      · simp [hl]
      · intro _
        apply view_ne_of_location
        rw [if_pos hl]
        exact hl
      · simp [hl]
  · refine repairs_direct rfl ?_ ?_ ?_ ?_
    · split <;> simp
    · simp [hs]
    · exact fun _ ↦ view_ne_of_status hs
    · simp [hs]

/-- Completing a delivery makes the calls that were still open. -/
theorem ensures_completePackageLifecycle_repairs {p : DeliveryPackage} (hr : p.routeId.isSome)
    (pickup delivery : Datetime) :
    Ensures (completePackageLifecycle (some pickup) delivery) p
      (fun result q ↦ Repairs p q
        ((if p.status = .todo then [.markPickedUp pickup] else []) ++
          (if p.status ≠ .done then [.markDelivered delivery] else []))
        result.1 result.2.toList) (fun _ _ ↦ False) := by
  obtain ⟨r, hr⟩ := Option.isSome_iff_exists.mp hr
  unfold completePackageLifecycle pickUpIfTodo deliverIfInProgress
  cases hst : p.status with
  | todo =>
    let q := progressed p r .inProgress p.startLocation .packagePickedUp pickup
    have hpick : p.markPickedUp pickup = .ok q := progress_eq hr hst _
    have hdeliver : q.markDelivered delivery =
        .ok (progressed q r .done q.endLocation .packageDelivered delivery) :=
      progress_eq (show q.routeId = some r from hr) rfl _
    simp only [ensures_bind, ensures_get, hst, hpick, ensures_lift_ok, ensures_set, ensures_pure]
    simp only [show q.status = .inProgress from rfl, ensures_bind, hdeliver, ensures_lift_ok,
      ensures_set, ensures_pure]
    rw [ensures_moveTo_self (show _ = p.endLocation from rfl)]
    refine ⟨⟨_, ?_, rfl, fun _ ↦ rfl, by simp⟩, fun _ ↦ ?_, by simp, by simp⟩
    · show (p.markPickedUp pickup >>= fun p ↦ p.markDelivered delivery >>= pure) = _
      rw [hpick, ok_bind, hdeliver]
      rfl
    · apply view_ne_of_status
      rw [hst]
      exact (by decide : ItemStatus.todo ≠ .done)
  | inProgress =>
    have hdeliver : p.markDelivered delivery =
        .ok (progressed p r .done p.endLocation .packageDelivered delivery) :=
      progress_eq hr hst _
    simp only [ensures_bind, ensures_get, hst, hdeliver, ensures_lift_ok, ensures_set,
      ensures_pure]
    rw [ensures_moveTo_self (show _ = p.endLocation from rfl)]
    refine ⟨⟨_, ?_, rfl, fun _ ↦ rfl, by simp⟩, fun _ ↦ ?_, by simp, by simp⟩
    · show (p.markDelivered delivery >>= pure) = _
      rw [hdeliver]
      rfl
    · apply view_ne_of_status
      rw [hst]
      exact (by decide : ItemStatus.inProgress ≠ .done)
  | done =>
    simp only [ensures_bind, ensures_get, hst, ensures_pure]
    by_cases hl : p.currentLocation = p.endLocation
    · rw [ensures_moveTo_self hl]
      refine repairs_direct rfl ?_ ?_ ?_ ?_ <;> simp
    · rw [ensures_moveTo_ne hl]
      refine repairs_direct rfl ?_ ?_ ?_ ?_
      · simp
      · simp
      · exact fun _ ↦ view_ne_of_location hl
      · simp

/-- Advancing a package makes the pickup call if that was still open. -/
theorem ensures_advancePackageInProgress_repairs {p : DeliveryPackage} (hr : p.routeId.isSome)
    (pickup : Datetime) (location : LocationCode) :
    Ensures (advancePackageInProgress (some pickup) location) p
      (fun result q ↦ Repairs p q (if p.status = .todo then [.markPickedUp pickup] else [])
        result.1 result.2) (fun _ _ ↦ False) := by
  obtain ⟨r, hr⟩ := Option.isSome_iff_exists.mp hr
  unfold advancePackageInProgress startTransport
  cases hst : p.status with
  | todo =>
    let q := progressed p r .inProgress p.startLocation .packagePickedUp pickup
    have hpick : p.markPickedUp pickup = .ok q := progress_eq hr hst _
    have hcalls : p.runCalls [.markPickedUp pickup] = .ok q := by
      show (p.markPickedUp pickup >>= pure) = _
      rw [hpick]
      rfl
    have hne : ∀ stored : Option LocationCode,
        p.view ≠ ({ q with storedLocation := stored } : DeliveryPackage).view := by
      intro stored
      apply view_ne_of_status
      rw [hst]
      exact (by decide : ItemStatus.todo ≠ .inProgress)
    simp only [ensures_bind, ensures_get, hst, hpick, ensures_lift_ok, ensures_set, ensures_pure]
    by_cases hl : q.currentLocation = location
    · rw [ensures_moveTo_self hl]
      exact ⟨⟨q, hcalls, rfl, fun _ ↦ rfl, by simp⟩, fun _ ↦ hne _, by simp, by simp⟩
    · rw [ensures_moveTo_ne hl]
      exact ⟨⟨q, hcalls, rfl, by simp, fun _ ↦ view_ne_of_location hl⟩, fun _ ↦ hne _, by simp,
        by simp⟩
  | inProgress =>
    simp only [ensures_bind, ensures_get, hst, ensures_pure]
    by_cases hl : p.currentLocation = location
    · rw [ensures_moveTo_self hl]
      refine repairs_direct rfl ?_ ?_ ?_ ?_ <;> simp
    · rw [ensures_moveTo_ne hl]
      refine repairs_direct rfl ?_ ?_ ?_ ?_
      · simp
      · simp
      · exact fun _ ↦ view_ne_of_location hl
      · simp
  | done =>
    simp only [ensures_bind, ensures_get, hst, ensures_set, ensures_pure]
    have hne : ∀ stored : Option LocationCode, p.view ≠
        ({ p with status := .inProgress, storedLocation := stored } : DeliveryPackage).view := by
      intro stored
      apply view_ne_of_status
      rw [hst]
      exact (by decide : ItemStatus.done ≠ .inProgress)
    by_cases hl : ({ p with status := .inProgress } : DeliveryPackage).currentLocation = location
    · rw [ensures_moveTo_self hl]
      refine repairs_direct rfl ?_ ?_ ?_ ?_
      · simp
      · simp
      · exact fun _ ↦ hne _
      · simp
    · rw [ensures_moveTo_ne hl]
      refine repairs_direct rfl ?_ ?_ ?_ ?_
      · simp
      · simp
      · exact fun _ ↦ hne _
      · simp

/-- Recomputing the arrival. -/
theorem ensures_setExpectedArrival_eq {p : DeliveryPackage} {e : Option Datetime}
    {ok : Bool → DeliveryPackage → Prop} {fail : PyError → DeliveryPackage → Prop} :
    Ensures (setExpectedArrival e) p ok fail ↔
      ok (decide (p.expectedArrival ≠ e)) { p with expectedArrival := e } := by
  unfold setExpectedArrival
  simp only [ensures_bind, ensures_get, ensures_set, ensures_pure]

/-- A recomputed arrival is a repair with a reason of its own. -/
theorem Repairs.recalculate {p q : DeliveryPackage} {calls : List PackageCall}
    {changed : Bool} {reasons reasons' : List PackageReconciliationReason} {e : Option Datetime}
    (h : Repairs p q calls changed reasons) (hq : q.expectedArrival = p.expectedArrival)
    (hnodup : reasons'.Nodup) (hnone : reasons' = [] → reasons = [] ∧ q.expectedArrival = e)
    (hsome : reasons' ≠ [] → reasons ≠ [] ∨ q.expectedArrival ≠ e) :
    Repairs p { q with expectedArrival := e } calls
      (changed || decide (q.expectedArrival ≠ e)) reasons' := by
  have hview : ∀ {x : DeliveryPackage}, x.expectedArrival = q.expectedArrival →
      x.view ≠ q.view ∨ q.expectedArrival ≠ e →
      x.view ≠ ({ q with expectedArrival := e } : DeliveryPackage).view := by
    intro x hx hor heq
    have harrival : q.expectedArrival = e :=
      hx.symm.trans (congrArg PackageView.expectedArrival heq)
    subst harrival
    exact hor.elim (fun hne ↦ hne heq) fun hne ↦ hne rfl
  obtain ⟨mid, hcalls, hevents, hempty, hrepaired⟩ := h.lifecycle
  obtain ⟨-, -, -, -, -, -, hmid⟩ := exists_recorded hcalls
  refine ⟨⟨mid, hcalls, hevents, fun hr ↦ ?_, fun hr ↦ ?_⟩, fun hc ↦ ?_, fun hc ↦ ?_, hnodup⟩
  · obtain ⟨hr, rfl⟩ := hnone hr
    exact hempty hr
  · exact hview (hmid.trans hq.symm) ((hsome hr).imp_left hrepaired)
  · rw [Bool.or_eq_true, decide_eq_true_eq] at hc
    exact hview hq.symm (hc.imp_left h.view_ne)
  · rw [Bool.or_eq_false_iff, decide_eq_false_iff_not, not_not] at hc
    rw [← hc.2]
    exact h.unchanged hc.1

/-- Placing a package makes the calls up to the instant. -/
theorem ensures_placePackage_repairs {p : DeliveryPackage} (hr : p.routeId.isSome)
    {pickup delivery : Datetime} (hle : pickup ≤ delivery) (lastCity : LocationCode)
    (now : Datetime) :
    Ensures (placePackage (some pickup) (some delivery) lastCity now) p
      (fun result q ↦ Repairs p q (p.callsUntil pickup delivery now) result.1 result.2)
      (fun _ _ ↦ False) := by
  unfold placePackage DeliveryPackage.callsUntil
  simp only [Option.any_some, decide_eq_true_eq]
  by_cases h1 : now < pickup
  · have h2 : ¬ delivery ≤ now := not_le.mpr (h1.trans_le hle)
    simp only [if_pos h1, not_le.mpr h1, h2, and_false, if_false, List.append_nil, ensures_bind,
      restorePackageBeforePickup, ensures_get, ensures_pure]
    exact ensures_setPackageState_repairs p .todo p.startLocation .beforeScheduledPickup
  · rw [if_neg h1]
    simp only [not_lt.mp h1, and_true]
    by_cases h2 : delivery ≤ now
    · simp only [Option.filter_some, h2, decide_true, if_true, and_true, ensures_bind, ensures_pure]
      exact ensures_completePackageLifecycle_repairs hr pickup delivery
    · simp only [Option.filter_some, h2, decide_false, Bool.false_eq_true, if_false, and_false,
        List.append_nil]
      exact ensures_advancePackageInProgress_repairs hr pickup lastCity

/-! ### What is accounted for -/

/-- Recorded transitions and reasons that account for a change of a package. -/
structure Accounted (before after : DeliveryPackage) (transitions : List LifecycleEvent)
    (changed : Bool) (reasons : List PackageReconciliationReason) : Prop where
  recorded : ∃ recorded : List DomainEvent,
    after.pendingEvents = before.pendingEvents ++ recorded ∧
      recorded.filterMap DomainEvent.lifecycle? = transitions ∧
      (∀ e ∈ recorded, e.Progresses before.packageId) ∧
      (reasons = [] → recorded.foldl PackageView.progress before.view = after.view)
  view_ne : changed = true → after.view ≠ before.view
  reported : reasons ≠ [] → changed = true

/-- Calls and reasons account for the changes they make. -/
theorem Repairs.accounted {p q : DeliveryPackage} {calls : List PackageCall} {changed : Bool}
    {reasons : List PackageReconciliationReason} {r : Int}
    (h : Repairs p q calls changed reasons) (hr : p.routeId = some r) :
    Accounted p q (calls.map (·.transition p.packageId r)) changed reasons := by
  obtain ⟨mid, hcalls, hevents, hempty, hrepaired⟩ := h.lifecycle
  obtain ⟨recorded, hrecorded, hcallsof, hown, hlifecycle, hview, -⟩ := exists_recorded hcalls
  refine ⟨⟨recorded, hevents.trans hrecorded, hlifecycle r hr, hown, fun hnone ↦ ?_⟩,
    fun hc hview' ↦ h.view_ne hc hview'.symm, fun hsome ↦ ?_⟩
  · rw [hview, hempty hnone]
  · by_contra hno
    rw [Bool.not_eq_true] at hno
    have hsame := h.unchanged hno
    -- Nothing was recorded, so nothing was called before the repair.
    obtain rfl : recorded = [] := by
      rw [hsame, hrecorded] at hevents
      exact List.self_eq_append_right.mp hevents
    obtain rfl : calls = [] := hcallsof.symm
    obtain rfl := Except.ok.inj hcalls
    exact hrepaired hsome (congrArg DeliveryPackage.view hsame).symm

/-- Placing a package does not touch its arrival. -/
theorem PlacedOn.expectedArrival_eq {s : RouteSchedule} {now pickup delivery : Datetime}
    {p q : DeliveryPackage} {changed : Bool} (h : PlacedOn s now p q changed pickup delivery) :
    q.expectedArrival = p.expectedArrival := by
  by_cases h1 : now < pickup
  · exact (h.todo h1).expectedArrival
  · by_cases h2 : delivery ≤ now
    · exact (h.done h2).expectedArrival
    · obtain ⟨_, _, -, hstep⟩ := h.inProgress (not_lt.mp h1) (not_le.mp h2)
      exact hstep.expectedArrival

/-- What the pass over one package does and how it is accounted for. -/
structure PackageTrace (route : DeliveryRoute) (now : Datetime) (before after : DeliveryPackage)
    (changed : Bool) (reasons : List PackageReconciliationReason) : Prop where
  pass : PackagePass route now before after changed
  nodup : reasons.Nodup
  accounted : Accounted before after (before.transitionsOn route now) changed reasons

/-- A package that the route visits in order makes the transitions between its stops. -/
theorem transitionsOn_eq {route : DeliveryRoute} {s : RouteSchedule}
    (hs : route.plan.schedule? = some s) {p : DeliveryPackage} {i j : Nat}
    {pickup delivery : ScheduledStop} (hv : VisitedInOrder s p i j pickup delivery)
    (now : Datetime) : p.transitionsOn route now =
      p.transitions route.routeId pickup.arrivalAt delivery.arrivalAt now := by
  simp [DeliveryPackage.transitionsOn, hs, hv.arrival_start, hv.arrival_end]

/-- A package that the route visits in order makes the calls between its stops. -/
theorem callsOn_eq {route : DeliveryRoute} {s : RouteSchedule}
    (hs : route.plan.schedule? = some s) {p : DeliveryPackage} {i j : Nat}
    {pickup delivery : ScheduledStop} (hv : VisitedInOrder s p i j pickup delivery)
    (hin : route.includesInOrder p.startLocation p.endLocation = true) (now : Datetime) :
    p.callsOn route now = p.callsUntil pickup.arrivalAt delivery.arrivalAt now := by
  simp [DeliveryPackage.callsOn, hs, hin, hv.arrival_start, hv.arrival_end]

/-- The transitions that a package makes on a route are those of its calls. -/
theorem transitionsOn_eq_map {route : DeliveryRoute} {p : DeliveryPackage}
    (hin : route.includesInOrder p.startLocation p.endLocation = true) (now : Datetime) :
    p.transitionsOn route now =
      (p.callsOn route now).map (·.transition p.packageId route.routeId) := by
  cases hs : route.plan.schedule? with
  | none => simp [DeliveryPackage.transitionsOn, DeliveryPackage.callsOn, hs]
  | some s =>
    obtain ⟨i, j, pickup, delivery, hvisit, -, -⟩ := exists_visitedInOrder hs hin
    rw [transitionsOn_eq hs hvisit, callsOn_eq hs hvisit hin, DeliveryPackage.transitions_eq]

/-- Positions of pickup and drop-off in this order are those of a route that includes them. -/
theorem packageRange_eq_none_iff {route : DeliveryRoute} {p : DeliveryPackage} :
    packageRange route p = none ↔
      route.includesInOrder p.startLocation p.endLocation = false := by
  unfold packageRange DeliveryRoute.includesInOrder RoutePath.includesInOrder
  cases hi : route.plan.path.posIndex p.startLocation with
  | none => simp
  | some i =>
    cases hj : route.plan.path.posIndex p.endLocation with
    | none => simp
    | some j =>
      have hne : i ≠ j := by
        rintro rfl
        have hstart := RoutePath.posIndex_eq_some_iff.mp hi
        rw [RoutePath.posIndex_eq_some_iff.mp hj, Option.some.injEq] at hstart
        exact p.startLocation_ne_endLocation hstart.symm
      by_cases hle : i ≤ j
      · simp [hle, lt_of_le_of_ne hle hne]
      · simp [hle, not_lt.mpr (not_le.mp hle).le]

/-- Clearing a package is a repair. -/
theorem ensures_clearPackage_repairs (p : DeliveryPackage) {reason : PackageReconciliationReason}
    (hreason : reason ≠ .expectedArrivalRecalculated) :
    Ensures (clearPackage reason) p (fun result q ↦ Repairs p q [] result.1 result.2)
      (fun _ _ ↦ False) := by
  unfold clearPackage
  simp only [ensures_bind, ensures_pure, ensures_setExpectedArrival_eq]
  unfold restorePackageBeforePickup
  simp only [ensures_bind, ensures_get]
  refine ((ensures_setPackageState_repairs p .todo p.startLocation reason).and
    (ensures_setPackageState p .todo p.startLocation)).mono (fun restored q hq ↦ ?_)
    fun _ _ hf ↦ hf.1
  obtain ⟨hq, hstep⟩ := hq
  apply hq.recalculate hstep.expectedArrival
  · cases restored <;> by_cases he : q.expectedArrival = none <;> simp [he, hreason.symm]
  · cases restored <;> by_cases he : q.expectedArrival = none <;> simp [he]
  · cases restored <;> by_cases he : q.expectedArrival = none <;> simp [he]

/-- Placing a package and recomputing its arrival is a repair after the calls. -/
theorem ensures_schedulePackage_repairs {route : DeliveryRoute} {s : RouteSchedule}
    (hs : route.plan.schedule? = some s) {p : DeliveryPackage} (hr : p.routeId.isSome)
    {i j : Nat} {pickup delivery : ScheduledStop} (hv : VisitedInOrder s p i j pickup delivery)
    (now : Datetime) :
    Ensures (schedulePackage route s.times ((route.locations.drop i).take (j + 1 - i)) now) p
      (fun result q ↦ Repairs p q (p.callsUntil pickup.arrivalAt delivery.arrivalAt now)
        result.1 result.2) (fun _ _ ↦ False) := by
  have harr : route.arrivalTimeAt p.endLocation = .ok delivery.arrivalAt :=
    DeliveryRoute.arrivalTimeAt_eq_ok_iff.mpr ⟨s, hs, hv.arrival_end⟩
  unfold schedulePackage
  simp only [RouteSchedule.lookup_times, hv.arrival_start, hv.arrival_end, harr, ensures_bind,
    ensures_get, ensures_lift_ok, ensures_pure, ensures_setExpectedArrival_eq]
  refine ((ensures_placePackage_repairs hr hv.arrivalAt_lt.le _ now).and
    (ensures_placePackage hs hr hv now)).mono (fun result q hq ↦ ?_) fun _ _ hf ↦ hf.1
  obtain ⟨hq, hplaced, hnodup, hnotin⟩ := hq
  apply hq.recalculate hplaced.expectedArrival_eq
  · by_cases he : q.expectedArrival = some delivery.arrivalAt
    · simpa [he] using hnodup
    · simp only [ne_eq, he, not_false_eq_true, decide_true, if_true]
      rw [List.nodup_append]
      refine ⟨hnodup, List.nodup_singleton _, fun a ha b hb hab ↦ ?_⟩
      rw [hab, List.mem_singleton.mp hb] at ha
      exact hnotin ha
  · intro hempty
    rw [List.append_eq_nil_iff] at hempty
    refine ⟨hempty.1, ?_⟩
    by_contra hne
    simp [hne] at hempty
  · intro hne
    by_contra hcon
    rw [not_or, not_not, not_not] at hcon
    simp [hcon.1, hcon.2] at hne

/-- Every branch over the schedule makes the calls of the route and repairs the rest. -/
theorem ensures_updatePackageState_repairs {route : DeliveryRoute}
    {times : List (LocationCode × Datetime)} (ht : stopTimes route = .ok times)
    {p : DeliveryPackage} (hr : p.routeId.isSome) (now : Datetime) :
    Ensures (updatePackageState route times now) p
      (fun result q ↦ Repairs p q (p.callsOn route now) result.1 result.2)
      (fun _ _ ↦ False) := by
  unfold updatePackageState
  simp only [ensures_bind, ensures_get]
  cases hs : route.plan.schedule? with
  | none =>
    have hd : route.departureTime = none := by
      simp [DeliveryRoute.departureTime, RoutePlan.departureTime, hs]
    rw [hd, show p.callsOn route now = [] by simp [DeliveryPackage.callsOn, hs]]
    exact ensures_clearPackage_repairs p (by decide)
  | some s =>
    have hd : route.departureTime = some s.departureTime := by
      simp [DeliveryRoute.departureTime, RoutePlan.departureTime, hs]
    cases hin : route.includesInOrder p.startLocation p.endLocation with
    | false =>
      rw [hd, packageRange_eq_none_iff.mpr hin,
        show p.callsOn route now = [] by simp [DeliveryPackage.callsOn, hs, hin]]
      exact ensures_clearPackage_repairs p (by decide)
    | true =>
      obtain ⟨i, j, pickup, delivery, hvisit, hi, hj⟩ := exists_visitedInOrder hs hin
      obtain rfl : s.times = times := Except.ok.inj ((stopTimes_of_scheduled hs).symm.trans ht)
      simp only [hd, packageRange, hi, hj, if_pos hvisit.lt.le]
      rw [callsOn_eq hs hvisit hin]
      exact ensures_schedulePackage_repairs hs hr hvisit now

/-- The state of a package of the route is settled and accounted for. -/
theorem ensures_updatePackageState_trace {route : DeliveryRoute}
    {times : List (LocationCode × Datetime)} (ht : stopTimes route = .ok times)
    {p : DeliveryPackage} (hr : p.routeId = some route.routeId)
    (hv : route.includesInOrder p.startLocation p.endLocation = true) (now : Datetime) :
    Ensures (updatePackageState route times now) p
      (fun result q ↦ PackageTrace route now p q result.1 result.2) (fun _ _ ↦ False) := by
  have hsome : p.routeId.isSome := by simp [hr]
  refine ((ensures_updatePackageState ht hsome hv now).and
    (ensures_updatePackageState_repairs ht hsome now)).mono (fun result q hq ↦ ?_)
    fun _ _ hf ↦ hf.1
  obtain ⟨⟨hpass, hnodup⟩, hrepairs⟩ := hq
  refine ⟨hpass, hnodup, ?_⟩
  rw [transitionsOn_eq_map hv]
  exact hrepairs.accounted hr

/-- What the pass over one package records: buffered progress, then a correction with the fields
that the package ends with, if there is a reason for one. -/
structure PackageRecord (route : DeliveryRoute) (now : Datetime) (before after : DeliveryPackage)
    (updated : List Int) (corrections : List ReconciliationEvent) : Prop where
  trace : ∃ changed reasons, PackageTrace route now before after changed reasons ∧
    updated = (if changed then [before.packageId] else []) ∧
    (reasons = [] → corrections = []) ∧
    (reasons ≠ [] → ∃ e : PackageStateReconciled, corrections = [.packageState e] ∧
      e.packageId = before.packageId ∧ e.newStatus = after.status ∧
      e.newLocation = after.currentLocation ∧ e.newExpectedArrival = after.expectedArrival)

/-- The pass over a package of the route records what it does. -/
theorem ensures_updatePackage_record {route : DeliveryRoute}
    {times : List (LocationCode × Datetime)} (ht : stopTimes route = .ok times)
    {p : DeliveryPackage} (hr : p.routeId = some route.routeId)
    (hv : route.includesInOrder p.startLocation p.endLocation = true) (now : Datetime) :
    Ensures (updatePackage route times now) p
      (fun result q ↦ PackageRecord route now p q result.1 result.2) (fun _ _ ↦ False) := by
  unfold updatePackage
  simp only [ensures_bind, ensures_get, ensures_pure]
  apply (ensures_updatePackageState_trace ht hr hv now).mono _ fun _ _ hf ↦ hf
  intro result q hq
  unfold packageEvents
  by_cases hnone : result.2 = []
  · rw [if_pos hnone, ensures_lift_ok]
    exact ⟨result.1, result.2, hq, rfl, fun _ ↦ rfl, fun hne ↦ absurd hnone hne⟩
  · rw [if_neg hnone]
    unfold PackageStateReconciled.check
    rw [require_bind_of_true hnone, require_bind_of_true hq.nodup]
    apply ensures_lift_ok.mpr
    exact ⟨result.1, result.2, hq, rfl, fun h ↦ absurd h hnone,
      fun _ ↦ ⟨_, rfl, rfl, rfl, rfl, rfl⟩⟩

/-- Every change of a package is told by what its pass records. -/
theorem PackageRecord.replay {route : DeliveryRoute} {now : Datetime} {p q : DeliveryPackage}
    {updated : List Int} {corrections : List ReconciliationEvent}
    (h : PackageRecord route now p q updated corrections) :
    ∃ recorded, q.pendingEvents = p.pendingEvents ++ recorded ∧
      (∀ e ∈ recorded, e.Progresses p.packageId) ∧
      recorded.filterMap DomainEvent.lifecycle? = p.transitionsOn route now ∧
      ∀ {l : Ledger}, l.packages p.packageId = some p.view →
        l.replay (recorded.map .domain ++ corrections.map .reconciliation) =
          l.putPackage p.packageId q.view := by
  obtain ⟨changed, reasons, htrace, -, hnone, hsome⟩ := h.trace
  obtain ⟨recorded, hevents, htransitions, hown, hreplay⟩ := htrace.accounted.recorded
  refine ⟨recorded, hevents, hown, htransitions, fun {l} hl ↦ ?_⟩
  rw [Ledger.replay_append, Ledger.replay_progress hl hown]
  by_cases hr : reasons = []
  · rw [hnone hr, hreplay hr]
    rfl
  · obtain ⟨e, rfl, hid, hstatus, hlocation, harrival⟩ := hsome hr
    -- The progress leaves the route alone, and the correction enters the other three fields.
    have hroute : (recorded.foldl PackageView.progress p.view).route = q.route := by
      have hkept : ∀ v : PackageView, (recorded.foldl PackageView.progress v).route = v.route := by
        clear hevents htransitions hown hreplay
        induction recorded with
        | nil => exact fun _ ↦ rfl
        | cons e rest ih =>
          intro v
          rw [List.foldl_cons, ih]
          cases e <;> rfl
      rw [hkept]
      exact htrace.pass.route.symm
    rw [List.map_singleton, Ledger.replay_cons, Ledger.replay_nil]
    unfold Ledger.apply Ledger.applyReconciliation
    dsimp only
    rw [hid, Ledger.editPackage_eq (Ledger.putPackage_packages_self _ _),
      Ledger.putPackage_putPackage, hstatus, hlocation, harrival, hroute]
    rfl

end Reconciler
end FleetFlow
