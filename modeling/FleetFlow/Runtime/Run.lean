import FleetFlow.Runtime.Commands
import FleetFlow.Runtime.Settled

/-!
# Runs of the application

An operation is one command or one heartbeat, executed with the in-memory unit of work at a
clock value, after which the events of the tracked recorders are drained. A run is any sequence
of operations at non-decreasing clock values; an operation that raises still leaves the world it
has written.
-/

namespace FleetFlow

open Program

namespace EventCollector

/-- Events that a recorder has buffered. -/
def pendingEvents (w : World) : EventRecorder → List DomainEvent
  | .customer c => ((w.customers.find? c).map Customer.pendingEvents).getD []
  | .package p => ((w.packages.find? p).map DeliveryPackage.pendingEvents).getD []
  | .route r => ((w.routes.find? r).map DeliveryRoute.pendingEvents).getD []
  | .removed events => events

/-- Empty the buffer of a recorder. -/
def clearEvents (w : World) : EventRecorder → World
  | .customer c => match w.customers.find? c with
    | none => w
    | some customer => w.putCustomer { customer with pendingEvents := [] }
  | .package p => match w.packages.find? p with
    | none => w
    | some package => w.putPackage { package with pendingEvents := [] }
  | .route r => match w.routes.find? r with
    | none => w
    | some route => w.putRoute { route with pendingEvents := [] }
  | .removed _ => w

/-- Publish and clear buffered events; `application/eventing/collector.py:60–112`. -/
def drain (recorders : List EventRecorder) : Action (List DomainEvent) := do
  Program.lift (require recorders.Nodup
    ⟨.valueError, "The same event recorder was supplied more than once."⟩)
  let w ← get
  set (recorders.foldl clearEvents w)
  pure (recorders.flatMap (pendingEvents w))

end EventCollector

/-- A command, or the heartbeat. -/
inductive Operation where
  | createPackage (command : CreatePackageCommand)
  | createRoute (locations : List String) (departureTime : Option Datetime)
  | assignTruck (truckId routeId : Int) (at_ : Datetime)
  | assignPackages (routeId : Int) (packageIds : List Int)
  | removePackage (packageId : Int)
  | removeRoute (routeId : Int)
  | heartbeat

namespace Operation

variable (u : UnicodeTables) (now : Datetime)

/-- Execute at a clock value and name the recorders to drain. -/
def execute [WeightArithmetic] : Operation → Action (List EventRecorder)
  | createPackage command => CreatePackageUseCase.execute u now command
  | createRoute locations departureTime =>
    CreateRouteUseCase.execute u now locations departureTime
  | assignTruck truckId routeId at_ =>
    AssignTruckToRouteUseCase.execute .inMemory truckId routeId at_
  | assignPackages routeId packageIds =>
    Prod.snd <$> AssignPackagesToRouteUseCase.execute .inMemory now routeId packageIds
  | removePackage packageId => RemovePackageUseCase.execute .inMemory now packageId
  | removeRoute routeId => RemoveRouteUseCase.execute .inMemory now routeId
  | heartbeat => HeartbeatSummary.eventRecorders <$> HeartbeatService.advance .inMemory now

/-- Execute, then drain; `application/messaging/executors/`. -/
def perform [WeightArithmetic] (operation : Operation) : Action (List DomainEvent) := do
  let recorders ← operation.execute u now
  EventCollector.drain recorders

end Operation

/-- Worlds that runs over a fleet reach, with the clock value of the last operation. -/
inductive Reachable [WeightArithmetic] (u : UnicodeTables) (fleet : Fleet) :
    Option Datetime → World → Prop
  | start : Reachable u fleet none (World.initial fleet)
  | step {clock : Option Datetime} {w : World} {now : Datetime} (h : Reachable u fleet clock w)
      (hnow : ∀ c ∈ clock, c ≤ now) (operation : Operation) :
      Reachable u fleet (some now) ((operation.perform u now).finalState w)

/-- Perform operations in turn. -/
def performAll [WeightArithmetic] (u : UnicodeTables) (w : World)
    (steps : List (Datetime × Operation)) : World :=
  steps.foldl (fun w (now, operation) ↦ (operation.perform u now).finalState w) w

/-- Operations at non-decreasing clock values reach their final world. -/
theorem Reachable.performAll [WeightArithmetic] {u : UnicodeTables} {fleet : Fleet}
    {clock : Option Datetime} {w : World} (h : Reachable u fleet clock w)
    {steps : List (Datetime × Operation)}
    (hsorted : (clock.toList ++ steps.map Prod.fst).Pairwise (· ≤ ·)) :
    Reachable u fleet ((steps.map Prod.fst).getLast?.or clock) (FleetFlow.performAll u w steps) := by
  induction steps generalizing clock w with
  | nil => exact h
  | cons step rest ih =>
    obtain ⟨now, operation⟩ := step
    have hnow : ∀ c ∈ clock, c ≤ now := by
      rintro c rfl
      exact (List.pairwise_cons.mp hsorted).1 now (by simp)
    have hrest := ih (h.step hnow operation) (by
      rw [List.map_cons] at hsorted
      exact (List.pairwise_append.mp hsorted).2.1)
    cases rest with
    | nil => exact hrest
    | cons _ _ => simpa [FleetFlow.performAll, List.getLast?_cons] using hrest

/-! ### Every operation keeps the world sound -/

variable {u : UnicodeTables} {allowed : Option LocationCode → Prop} {clock : Option Datetime} {w : World}
  {now : Datetime}

/-- What a clock value has justified stays justified. -/
theorem DeliveryRoute.Timely.mono {route : DeliveryRoute} (h : route.Timely clock)
    (hnow : ∀ c ∈ clock, c ≤ now) : route.Timely (some now) := by
  refine ⟨h.planned, fun hs ↦ ?_, fun hs ↦ ?_, h.truck_scheduled⟩
  · obtain ⟨c, hc, t, ht, hle⟩ := h.started hs
    exact ⟨now, rfl, t, ht, hle.trans (hnow c hc)⟩
  · obtain ⟨c, hc, hfin⟩ := h.completed hs
    exact ⟨now, rfl, hfin.mono (hnow c hc)⟩

/-- A sound world stays sound while time passes. -/
theorem World.Sound.later (h : w.Sound u allowed clock) (hnow : ∀ c ∈ clock, c ≤ now) :
    w.Sound u allowed (some now) :=
  { h with timely := h.timely.imp fun _ hr ↦ hr.mono hnow }

namespace EventCollector

/-- Clearing a buffer keeps the world sound. -/
theorem sound_clearEvents (h : w.Sound u allowed clock) (recorder : EventRecorder) :
    (clearEvents w recorder).Sound u allowed clock := by
  cases recorder with
  | customer c =>
    cases hc : w.customers.find? c with
    | none => simpa only [clearEvents, hc] using h
    | some customer =>
      simp only [clearEvents, hc]
      obtain rfl : customer.customerId = c := Store.key_of_find? hc
      exact h.editCustomer hc rfl rfl rfl
  | package p =>
    cases hp : w.packages.find? p with
    | none => simpa only [clearEvents, hp] using h
    | some package =>
      simp only [clearEvents, hp]
      obtain rfl : package.packageId = p := Store.key_of_find? hp
      refine h.editPackage hp ⟨rfl, rfl, rfl, rfl, rfl⟩ rfl rfl fun hn ↦ ?_
      obtain ⟨h1, h2, h3⟩ := h.linked.waiting _ _ hp hn
      exact ⟨h1, h2, h3⟩
  | route r =>
    cases hr : w.routes.find? r with
    | none => simpa only [clearEvents, hr] using h
    | some route =>
      simp only [clearEvents, hr]
      obtain rfl : route.routeId = r := Store.key_of_find? hr
      obtain ⟨t1, t2, t3, t4⟩ := h.timely _ _ hr
      exact h.editRoute hr ⟨rfl, rfl⟩ rfl rfl (.inl rfl) ⟨t1, t2, t3, t4⟩
  | removed events => exact h

private theorem sound_foldl_clearEvents (h : w.Sound u allowed clock)
    (recorders : List EventRecorder) :
    (recorders.foldl clearEvents w).Sound u allowed clock := by
  induction recorders generalizing w with
  | nil => exact h
  | cons recorder rest ih => exact ih (sound_clearEvents h recorder)

/-- Draining keeps the world sound. -/
theorem keeps_drain (h : w.Sound u allowed clock) (recorders : List EventRecorder) :
    (drain recorders).Keeps w (World.Sound u allowed clock) := by
  unfold drain
  simp only [Action.Keeps, ensures_bind, ensures_lift_require, ensures_get, ensures_set,
    ensures_pure]
  exact ⟨fun _ ↦ sound_foldl_clearEvents h recorders, fun _ ↦ h⟩

end EventCollector

namespace HeartbeatService

/-- The routes of a world by id. -/
def routeIds (w : World) : List Int := w.routes.values.map DeliveryRoute.routeId

/-- A heartbeat that passes over every route and skips none. -/
structure Advances (now : Datetime) (w : World) (summary : HeartbeatSummary) (w' : World) :
    Prop where
  passes : ∃ passes, summary = .ofPasses passes ∧ passes.map Prod.fst = routeIds w ∧
    World.Swept (Reconciler.PassOf now) w passes w'
  skippedRoutes : summary.skippedRoutes = []
  advanced : World.Advanced now [] w w'

/-- The heartbeat of a sound world. -/
theorem ensures_advance (h : w.Sound u allowed clock) (hnow : ∀ c ∈ clock, c ≤ now) :
    Ensures (advance .inMemory now) w (fun summary w' ↦ Advances now w summary w')
      (fun _ _ ↦ False) := by
  have hids : ∀ r ∈ routeIds w, ∃ route, w.routes.find? r = some route := fun r hr ↦ by
    obtain ⟨route, hroute, rfl⟩ := List.mem_map.mp hr
    exact ⟨route, Store.mem_values.mp hroute⟩
  unfold advance
  simp only [ensures_bind, ensures_get, ensures_tryCatch]
  refine (Reconciler.ensures_reconcileRoutes (h.ready hnow) hids Store.nodup_values).mono ?_
    fun _ _ hf ↦ hf.elim
  rintro summary w' ⟨passes, rfl, hfst, hswept⟩
  have hadvanced := World.advanced_of_swept h.linked.toRouteLinked hswept (.of_eq hfst)
  have hskipped := hadvanced.skipped_eq_nil h
  rw [hskipped] at hadvanced
  have hdone : Advances now w (.ofPasses passes) w' :=
    ⟨⟨passes, rfl, hfst, hswept⟩, hskipped, hadvanced⟩
  split
  · unfold persist
    simp only [ensures_bind, ensures_pure]
    refine Action.ensures_calls.mono ?_ fun _ _ hf ↦ hf.elim
    rintro _ _ rfl
    refine Action.ensures_calls.mono ?_ fun _ _ hf ↦ hf.elim
    rintro _ _ rfl
    refine Action.ensures_calls.mono ?_ fun _ _ hf ↦ hf.elim
    rintro _ _ rfl
    rw [Action.call_inMemory, ensures_pure]
    exact hdone
  · rw [ensures_pure]
    exact hdone

end HeartbeatService

/-- Executing an operation keeps the world sound at the clock value of the operation. -/
theorem Operation.keeps_execute (hmap : ∀ l ∈ Map.locations, allowed (some l))
    (h : w.Sound u allowed clock) (hnow : ∀ c ∈ clock, c ≤ now) (operation : Operation) :
    (operation.execute u now).Keeps w (World.Sound u allowed (some now)) := by
  have hlater := h.later hnow
  unfold execute
  cases operation with
  | createPackage command => exact CreatePackageUseCase.keeps_execute hlater
  | createRoute locations departureTime => exact CreateRouteUseCase.keeps_execute hlater
  | assignTruck truckId routeId at_ => exact AssignTruckToRouteUseCase.keeps_execute hlater
  | assignPackages routeId packageIds =>
    exact ensures_map.mpr (AssignPackagesToRouteUseCase.keeps_execute hlater)
  | removePackage packageId => exact RemovePackageUseCase.keeps_execute hlater
  | removeRoute routeId => exact RemoveRouteUseCase.keeps_execute hmap hlater
  | heartbeat =>
    refine ensures_map.mpr ((HeartbeatService.ensures_advance h hnow).mono ?_ fun _ _ hf ↦ hf.elim)
    intro summary w' hw
    exact hw.advanced.sound hmap h

/-- Performing an operation keeps the world sound. -/
theorem Operation.keeps_perform (hmap : ∀ l ∈ Map.locations, allowed (some l))
    (h : w.Sound u allowed clock) (hnow : ∀ c ∈ clock, c ≤ now) (operation : Operation) :
    (operation.perform u now).Keeps w (World.Sound u allowed (some now)) := by
  unfold perform
  rw [Action.Keeps, ensures_bind]
  exact (operation.keeps_execute hmap h hnow).mono
    (fun recorders _ hw ↦ EventCollector.keeps_drain hw recorders) fun _ _ hw ↦ hw

/-- Every reachable world over an idle fleet is sound at its clock. -/
theorem Reachable.sound {fleet : Fleet} (hmap : ∀ l ∈ Map.locations, allowed (some l))
    (hidle : fleet.All (Truck.Idle allowed)) (h : Reachable u fleet clock w) :
    w.Sound u allowed clock := by
  induction h with
  | start =>
    refine World.sound_initial (hidle.imp fun truck ht ↦ ⟨?_, fun _ ↦ ?_⟩)
      (hidle.imp fun truck ht ↦ ht.route) (hidle.imp fun truck ht ↦ ⟨ht.place, ?_, ?_⟩)
    · simp [ht.status, ht.route]
    · exact ⟨ht.busy.1, ht.busy.2, ht.inTransitTo⟩
    · simp [ht.route]
    · simp [ht.inTransitTo]
  | step _ hnow operation ih => exact (operation.keeps_perform hmap ih hnow).finalState

/-! ### One route between two hubs -/

namespace Scenario

/-- A truck in Sydney. -/
def truck : Truck where
  vehicleId := 1001
  name := .scania
  capacity := 42000
  maxRange := 8000
  status := .free
  currentLocation := Map.locations.head?
  route := none
  busyFrom := none
  busyUntil := none
  inTransitTo := none
  valid := ⟨by omega, by omega, by omega⟩

/-- The fleet of that truck. -/
def fleet : Fleet := .ofList [truck]

/-- The truck is idle at a hub. -/
theorem fleet_idle : fleet.All (Truck.Idle fun place ↦ ∃ l ∈ Map.locations, place = some l) := by
  intro t x hx
  obtain ⟨hmem, -⟩ := (Store.find?_ofList_eq_some_iff (by decide)).mp hx
  obtain rfl := List.mem_singleton.mp hmem
  exact ⟨rfl, rfl, ⟨rfl, rfl⟩, rfl, _, by decide, rfl⟩

/-- The truck is idle. -/
theorem fleet_idle_anywhere : fleet.All (Truck.Idle fun _ ↦ True) :=
  fleet_idle.imp fun _ h ↦ h.imp fun _ _ ↦ trivial

/-- Hours after the start of the year 2024, counted over the first thousand. -/
def hour (n : Nat) : Datetime :=
  ⟨(63839664000 + n % 1000 * 3600) * 1000000, by unfold maxMicros; omega⟩

/-- A package that travels the whole route. -/
def package : CreatePackageCommand :=
  ⟨"syd", "mel", .finite 1200, "Ada Stone", "ada@example.com", ""⟩

/-- Create, assign and observe under way; the journey takes ten hours. -/
def steps : List (Datetime × Operation) :=
  [(hour 0, .createRoute ["SYD", "MEL"] (some (hour 8))),
    (hour 1, .createPackage package),
    (hour 2, .assignTruck 1001 1 (hour 2)),
    (hour 3, .assignPackages 1 [1]),
    (hour 12, .heartbeat)]

/-- The world after these steps is reachable. -/
theorem reachable_steps : Reachable .asciiOnly fleet (some (hour 12))
    (performAll .asciiOnly (.initial fleet) steps) := by
  have hsorted : ([] ++ steps.map Prod.fst).Pairwise (· ≤ ·) := by decide
  exact Reachable.performAll .start hsorted

end Scenario
end FleetFlow
