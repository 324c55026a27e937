import FleetFlow.Runtime.Journal
import FleetFlow.Runtime.Run

/-!
# The event record determines the state

Every operation of a run has a record: a heartbeat the journal of its passes, a command what it
appended to the buffers of the entities. Replaying the records of a run on the account of the
initial fleet gives the account of the world that the run reaches.
-/

namespace FleetFlow

open Program

/-- Passes without their journals. -/
theorem Action.map_sweep_journalRoute (now : Datetime) (updateTrucks : Bool) (ids : List Int) :
    (List.map fun pass ↦ (pass.1, pass.2.1)) <$>
        Action.sweep (Reconciler.journalRoute now updateTrucks) ids =
      Action.sweep (Reconciler.reconcileRoute now updateTrucks) ids := by
  induction ids with
  | nil => rfl
  | cons r rest ih =>
    unfold Action.sweep
    rw [map_bind]
    apply congrArg
    funext w
    cases w.routes.find? r with
    | none => exact ih
    | some route =>
      dsimp only
      have hroute : Prod.fst <$> Action.onRoute route (Reconciler.journalRoute now updateTrucks) =
          Action.onRoute route (Reconciler.reconcileRoute now updateTrucks) :=
        (Reconciler.erases_journalRoute now updateTrucks).zoom
      rw [← hroute, ← ih, map_bind, bind_map_left]
      apply congrArg
      funext x
      rw [map_bind, bind_map_left]
      rfl

namespace HeartbeatService

/-- The heartbeat with its journal. -/
def journalAdvance (uow : UnitOfWork) (now : Datetime) : Action (HeartbeatSummary × List Entry) := do
  let before ← get
  tryCatch (do
      let passes ← Action.sweep (Reconciler.journalRoute now true)
        (before.routes.values.map DeliveryRoute.routeId)
      let summary := HeartbeatSummary.ofPasses (passes.map fun pass ↦ (pass.1, pass.2.1))
      if summary.stateChanged then persist uow summary
      pure (summary, passEntries passes))
    fun e ↦ do
      restore before
      throw e

/-- Leaving the journal out gives the heartbeat. -/
theorem erases_journalAdvance (uow : UnitOfWork) (now : Datetime) :
    Erases (journalAdvance uow now) (advance uow now) := by
  unfold journalAdvance advance Erases
  rw [map_bind]
  apply congrArg
  funext before
  apply Erases.tryCatch
  · unfold Erases Reconciler.reconcileRoutes
    rw [← Action.map_sweep_journalRoute, map_bind, ← comp_map, bind_map_left]
    apply congrArg
    funext passes
    dsimp only [Function.comp_apply]
    by_cases hchanged :
        (HeartbeatSummary.ofPasses (passes.map fun pass ↦ (pass.1, pass.2.1))).stateChanged = true
    · rw [if_pos hchanged, if_pos hchanged, map_bind]
      rfl
    · rw [if_neg hchanged, if_neg hchanged]
      rfl
  · intro e
    unfold Erases
    rw [map_bind]
    rfl

/-- What a heartbeat with its journal does in a world that can be passed over. -/
structure Journaled (now : Datetime) (w : World) (summary : HeartbeatSummary)
    (entries : List Entry) (w' : World) : Prop where
  passes : ∃ passes, summary = .ofPasses (passes.map fun pass ↦ (pass.1, pass.2.1)) ∧
    entries = passEntries passes ∧ passes.map Prod.fst = routeIds w ∧
    World.Swept (Reconciler.PassTold now) w passes w'
  replay : w.ledger.replay entries = w'.ledger

/-- Persisting in memory changes nothing. -/
theorem ensures_persist {w : World} {summary : HeartbeatSummary} :
    Ensures (persist .inMemory summary) w (fun _ w' ↦ w' = w) (fun _ _ ↦ False) := by
  unfold persist
  simp only [ensures_bind]
  apply Action.ensures_calls.mono _ fun _ _ hf ↦ hf
  rintro _ _ rfl
  apply Action.ensures_calls.mono _ fun _ _ hf ↦ hf
  rintro _ _ rfl
  apply Action.ensures_calls.mono _ fun _ _ hf ↦ hf
  rintro _ _ rfl
  rw [Action.call_inMemory, ensures_pure]

/-- The heartbeat of a sound world with its journal. -/
theorem ensures_journalAdvance {u : UnicodeTables} {allowed : Option LocationCode → Prop}
    {clock : Option Datetime} {w : World} {now : Datetime} (h : w.Sound u allowed clock)
    (hnow : ∀ c ∈ clock, c ≤ now) :
    Ensures (journalAdvance .inMemory now) w (fun x w' ↦ Journaled now w x.1 x.2 w')
      (fun _ _ ↦ False) := by
  have hids : ∀ r ∈ routeIds w, ∃ route, w.routes.find? r = some route := by
    intro r hr
    obtain ⟨route, hroute, rfl⟩ := List.mem_map.mp hr
    exact ⟨route, Store.mem_values.mp hroute⟩
  unfold journalAdvance
  simp only [ensures_bind, ensures_get, ensures_tryCatch]
  apply (Reconciler.ensures_sweep_told (h.ready hnow) hids Store.nodup_values).mono _
    fun _ _ hf ↦ hf.elim
  rintro passes w' ⟨hfst, hswept, hreplay⟩
  have hdone : Journaled now w (.ofPasses (passes.map fun pass ↦ (pass.1, pass.2.1)))
      (passEntries passes) w' := ⟨⟨passes, rfl, rfl, hfst, hswept⟩, hreplay⟩
  split
  · rw [ensures_bind]
    apply ensures_persist.mono _ fun _ _ hf ↦ hf.elim
    rintro _ _ rfl
    exact ensures_pure.mpr hdone
  · exact ensures_pure.mpr hdone

end HeartbeatService

/-! ### The record of an operation -/

/-- The object that a command removes when it returns. -/
def Operation.removes : Operation → Option World.Focus
  | removePackage packageId => some (.package packageId)
  | removeRoute routeId => some (.route routeId)
  | _ => none

/-- Events that the buffers of the stored routes have gained. -/
def World.routeGrowth (before after : World) : List DomainEvent :=
  after.routes.values.flatMap fun route ↦
    appended (before.buffer (.route route.routeId)) route.pendingEvents

/-- Events that the buffers of the stored packages have gained. -/
def World.packageGrowth (before after : World) : List DomainEvent :=
  after.packages.values.flatMap fun package ↦
    appended (before.buffer (.package package.packageId)) package.pendingEvents

/-- What a command has recorded. A command appends to the buffer of one route or package and may
then remove one object, whose events are the last ones. -/
def World.commandRecord (before after : World) (removes : Option Focus)
    (recorders : List EventRecorder) : List DomainEvent :=
  before.routeGrowth after ++ before.packageGrowth after ++
    (recorders.filterMap EventRecorder.removed?).flatMap
      (appended ((removes.map before.buffer).getD []))

/-! ### The record of a command -/

@[simp] theorem appended_self (events : List DomainEvent) : appended events events = [] := by
  simp [appended, eventCheckpoint]

@[simp] theorem appended_nil (events : List DomainEvent) : appended events [] = [] := by
  simp [appended]

/-- A list in which only one element contributes. -/
theorem flatMap_eq_of_key {α β : Type} {key : α → Int} {f : α → List β} {xs : List α}
    {a : α} (hnd : (xs.map key).Nodup) (hmem : a ∈ xs)
    (h : ∀ x ∈ xs, key x ≠ key a → f x = []) : xs.flatMap f = f a := by
  induction xs with
  | nil => simp at hmem
  | cons x xs ih =>
    rw [List.map_cons, List.nodup_cons] at hnd
    rw [List.flatMap_cons]
    by_cases hx : key x = key a
    · have hrest : xs.flatMap f = [] := by
        rw [List.flatMap_eq_nil_iff]
        intro y hy
        apply h y (by simp [hy])
        intro heq
        exact hnd.1 (hx.trans heq.symm ▸ List.mem_map_of_mem hy)
      obtain rfl : a = x := by
        rcases List.mem_cons.mp hmem with rfl | hmem
        · rfl
        · exact absurd (hx ▸ List.mem_map_of_mem hmem) hnd.1
      rw [hrest, List.append_nil]
    · rw [h x (by simp) hx, List.nil_append]
      apply ih hnd.2 _ fun y hy ↦ h y (by simp [hy])
      rcases List.mem_cons.mp hmem with rfl | hmem
      · exact absurd rfl hx
      · exact hmem

namespace World

variable {u : UnicodeTables} {w w' : World} {focus : Focus}

theorem buffer_route {route : DeliveryRoute} (h : route ∈ w.routes.values) :
    w.buffer (.route route.routeId) = route.pendingEvents := by
  simp [buffer, Store.mem_values.mp h]

theorem buffer_package {package : DeliveryPackage} (h : package ∈ w.packages.values) :
    w.buffer (.package package.packageId) = package.pendingEvents := by
  simp [buffer, Store.mem_values.mp h]

/-- Only the route in focus has gained events. -/
private theorem routeGrowth_eq
    (h : ∀ other, other ≠ focus → w'.buffer other = w.buffer other ∨ w'.buffer other = []) :
    w.routeGrowth w' = match focus with
      | .route r => appended (w.buffer (.route r)) (w'.buffer (.route r))
      | .package _ => [] := by
  have hnone : ∀ route ∈ w'.routes.values, Focus.route route.routeId ≠ focus →
      appended (w.buffer (.route route.routeId)) route.pendingEvents = [] := by
    intro route hroute hne
    rw [← buffer_route hroute]
    rcases h _ hne with heq | heq <;> simp [heq]
  unfold routeGrowth
  cases focus with
  | package p =>
    rw [List.flatMap_eq_nil_iff]
    exact fun route hroute ↦ hnone route hroute (by simp)
  | route r =>
    dsimp only
    cases hr : w'.routes.find? r with
    | none =>
      rw [show w'.buffer (.route r) = [] by simp [buffer, hr], appended_nil,
        List.flatMap_eq_nil_iff]
      intro route hroute
      apply hnone route hroute
      intro heq
      rw [Focus.route.injEq] at heq
      rw [← heq, Store.mem_values.mp hroute] at hr
      cases hr
    | some route =>
      have hmem : route ∈ w'.routes.values := Store.mem_values_of_find? hr
      obtain rfl : route.routeId = r := Store.key_of_find? hr
      rw [buffer_route hmem]
      exact flatMap_eq_of_key Store.nodup_values hmem fun x hx hne ↦ hnone x hx (by simpa using hne)

/-- Only the package in focus has gained events. -/
private theorem packageGrowth_eq
    (h : ∀ other, other ≠ focus → w'.buffer other = w.buffer other ∨ w'.buffer other = []) :
    w.packageGrowth w' = match focus with
      | .package p => appended (w.buffer (.package p)) (w'.buffer (.package p))
      | .route _ => [] := by
  have hnone : ∀ package ∈ w'.packages.values, Focus.package package.packageId ≠ focus →
      appended (w.buffer (.package package.packageId)) package.pendingEvents = [] := by
    intro package hpackage hne
    rw [← buffer_package hpackage]
    rcases h _ hne with heq | heq <;> simp [heq]
  unfold packageGrowth
  cases focus with
  | route r =>
    rw [List.flatMap_eq_nil_iff]
    exact fun package hpackage ↦ hnone package hpackage (by simp)
  | package p =>
    dsimp only
    cases hp : w'.packages.find? p with
    | none =>
      rw [show w'.buffer (.package p) = [] by simp [buffer, hp], appended_nil,
        List.flatMap_eq_nil_iff]
      intro package hpackage
      apply hnone package hpackage
      intro heq
      rw [Focus.package.injEq] at heq
      rw [← heq, Store.mem_values.mp hpackage] at hp
      cases hp
    | some package =>
      have hmem : package ∈ w'.packages.values := Store.mem_values_of_find? hp
      obtain rfl : package.packageId = p := Store.key_of_find? hp
      rw [buffer_package hmem]
      exact flatMap_eq_of_key Store.nodup_values hmem fun x hx hne ↦ hnone x hx (by simpa using hne)

/-- The stored objects have gained what the buffer in focus has gained. -/
theorem growth_eq
    (h : ∀ other, other ≠ focus → w'.buffer other = w.buffer other ∨ w'.buffer other = []) :
    w.routeGrowth w' ++ w.packageGrowth w' = appended (w.buffer focus) (w'.buffer focus) := by
  rw [routeGrowth_eq h, packageGrowth_eq h]
  cases focus <;> simp

/-- A removal empties the buffer of the removed object. -/
theorem Removal.buffer_eq {gone : Focus} {event : DomainEvent} (h : Removal w gone event w') :
    w'.buffer gone = [] ∧ ∀ other, other ≠ gone → w'.buffer other = w.buffer other := by
  cases h with
  | package hp hnone hevent hroutes hpackages htrucks =>
    refine ⟨by simp [buffer, hpackages], fun other hne ↦ ?_⟩
    cases other with
    | route r => simp [buffer, hroutes]
    | package p =>
      have hid := fun heq ↦ hne (congrArg Focus.package heq)
      simp only [buffer, hpackages, Store.find?_remove]
      rw [if_neg fun heq ↦ hid heq.symm]
  | route hr ht hp hevent hroutes hpackages htrucks =>
    refine ⟨by simp [buffer, hroutes], fun other hne ↦ ?_⟩
    cases other with
    | package p => simp [buffer, hpackages]
    | route r =>
      have hid := fun heq ↦ hne (congrArg Focus.route heq)
      simp only [buffer, hroutes, Store.find?_remove]
      rw [if_neg fun heq ↦ hid heq.symm]

/-- The record of a command consists of the events of its changes, and of the last event of an
object it removes. -/
inductive Traced (u : UnicodeTables) (w : World) : List DomainEvent → World → Prop
  | updates {focus : Focus} {es : List DomainEvent} {w' : World} (h : Updates u focus w es w') :
      Traced u w es w'
  | removal {focus gone : Focus} {es : List DomainEvent} {event : DomainEvent} {w1 w' : World}
      (h : Updates u focus w es w1) (hdrop : Removal w1 gone event w') :
      Traced u w (es ++ [event]) w'

/-- The record of a command that removed nothing. -/
theorem Updates.commandRecord_eq {es : List DomainEvent} {removes : Option Focus}
    {recorders : List EventRecorder} (h : Updates u focus w es w')
    (hrec : recorders.filterMap EventRecorder.removed? = []) :
    w.commandRecord w' removes recorders = es := by
  obtain ⟨hfocus, hother⟩ := h.buffer_eq
  unfold commandRecord
  rw [growth_eq fun other hne ↦ .inl (hother other hne), hrec, hfocus, appended_append,
    List.flatMap_nil, List.append_nil]

/-- The record of a command that removed an object. -/
theorem Removal.commandRecord_eq {es : List DomainEvent} {gone : Focus} {event : DomainEvent}
    {recorders : List EventRecorder} {w1 : World} (h : Removal w1 gone event w')
    (hupdates : Updates u focus w es w1)
    (hrec : recorders.filterMap EventRecorder.removed? = [w1.buffer gone ++ [event]]) :
    w.commandRecord w' (some gone) recorders = es ++ [event] := by
  obtain ⟨hfocus, hother⟩ := hupdates.buffer_eq
  obtain ⟨hgone, hkept⟩ := h.buffer_eq
  have hgrowth : w.routeGrowth w' ++ w.packageGrowth w' =
      appended (w.buffer focus) (w'.buffer focus) := by
    apply growth_eq
    intro other hne
    by_cases heq : other = gone
    · exact .inr (heq ▸ hgone)
    · exact .inl ((hkept other heq).trans (hother other hne))
  unfold commandRecord
  rw [hrec, Option.map_some, Option.getD_some, hgrowth, List.flatMap_singleton]
  by_cases heq : gone = focus
  · subst heq
    rw [hgone, appended_nil, hfocus, List.append_assoc, appended_append, List.nil_append]
  · rw [hkept focus (Ne.symm heq), hfocus, appended_append, hother gone heq, appended_append]

/-- The effect of a command is traced by its record. -/
theorem Effect.traced {removes : Option Focus} {recorders : List EventRecorder}
    (h : w.Effect u removes recorders w') : Traced u w (w.commandRecord w' removes recorders) w' := by
  cases h with
  | updates hupdates hrec =>
    rw [hupdates.commandRecord_eq hrec]
    exact .updates hupdates
  | removal hupdates hdrop hrec =>
    rw [hdrop.commandRecord_eq hupdates hrec]
    exact .removal hupdates hdrop

/-- A record traced at one instant. -/
def TracedAt (u : UnicodeTables) (now : Datetime) (links : TruckAssignedToRoute → Prop) (w : World)
    (es : List DomainEvent) (w' : World) : Prop :=
  Traced u w es w' ∧ EventsAt now links es

/-- The effect of a command at an instant is traced by its record. -/
theorem EffectAt.traced {now : Datetime} {links : TruckAssignedToRoute → Prop}
    {removes : Option Focus} {recorders : List EventRecorder}
    (h : EffectAt u now links w removes recorders w') :
    TracedAt u now links w (w.commandRecord w' removes recorders) w' := by
  refine ⟨h.effect.traced, ?_⟩
  cases h with
  | updates hupdates hrec =>
    rw [hupdates.1.commandRecord_eq hrec]
    exact hupdates.2
  | removal hupdates hdrop hevent hrec =>
    rw [hdrop.commandRecord_eq hupdates.1 hrec, eventsAt_append, eventsAt_singleton]
    refine ⟨hupdates.2, hevent, fun assigned hassigned ↦ ?_⟩
    subst hassigned
    cases hdrop

/-- Replaying the record of a command gives the account of the world it leaves. -/
theorem Traced.replay {es : List DomainEvent} (h : Traced u w es w') :
    w.ledger.replay (es.map .domain) = w'.ledger := by
  cases h with
  | updates hupdates => exact hupdates.replay
  | removal hupdates hdrop =>
    rw [List.map_append, Ledger.replay_append, hupdates.replay]
    exact hdrop.replay

end World

namespace Operation

variable (u : UnicodeTables) (now : Datetime)

/-- Entries that a command records in a world, also when it raises. -/
def commandEntries (operation : Operation) (w : World) : List Entry :=
  match operation.execute u now w with
  | .ok recorders w' => (w.commandRecord w' operation.removes recorders).map .domain
  | .error _ w' => (w.commandRecord w' none []).map .domain

/-- Entries that an operation records in a world. -/
def record (operation : Operation) (w : World) : List Entry :=
  match operation with
  | heartbeat =>
    match HeartbeatService.journalAdvance .inMemory now w with
    | .ok x _ => x.2
    | .error _ _ => []
  | command => command.commandEntries u now w

end Operation
/-! ### The record of a run -/

variable {u : UnicodeTables} {allowed : Option LocationCode → Prop} {fleet : Fleet}
  {clock : Option Datetime} {w : World} {now : Datetime}

/-- Executing a command has an effect made of elementary changes. -/
theorem Operation.effects_execute (hmap : ∀ l ∈ Map.locations, allowed (some l))
    (h : w.Sound u allowed clock) {operation : Operation} (hne : operation ≠ .heartbeat) :
    (operation.execute u now).Effects u allowed clock w operation.removes := by
  cases operation with
  | createPackage command => exact CreatePackageUseCase.effects_execute h
  | createRoute locations departureTime => exact CreateRouteUseCase.effects_execute h
  | assignTruck truckId routeId at_ => exact AssignTruckToRouteUseCase.effects_execute h
  | assignPackages routeId packageIds => exact AssignPackagesToRouteUseCase.effects_execute h
  | removePackage packageId => exact RemovePackageUseCase.effects_execute h
  | removeRoute routeId => exact RemoveRouteUseCase.effects_execute hmap h
  | heartbeat => exact absurd rfl hne

/-- Publishing events leaves the account alone. -/
theorem EventCollector.ledger_clearEvents (w : World) (recorder : EventRecorder) :
    (clearEvents w recorder).ledger = w.ledger := by
  cases recorder with
  | customer c =>
    unfold clearEvents
    dsimp only
    cases w.customers.find? c <;> rfl
  | package p =>
    unfold clearEvents
    dsimp only
    cases hp : w.packages.find? p with
    | none => rfl
    | some package =>
      obtain rfl : package.packageId = p := Store.key_of_find? hp
      dsimp only
      rw [World.ledger_putPackage]
      show w.ledger.putPackage package.packageId package.view = w.ledger
      exact Ledger.putPackage_eq_self (World.ledger_package hp)
  | route r =>
    unfold clearEvents
    dsimp only
    cases hr : w.routes.find? r with
    | none => rfl
    | some route =>
      obtain rfl : route.routeId = r := Store.key_of_find? hr
      dsimp only
      rw [World.ledger_putRoute]
      show w.ledger.putRoute route.routeId route.view = w.ledger
      exact Ledger.putRoute_eq_self (World.ledger_route hr)
  | removed events => rfl

/-- Draining leaves the account alone. -/
theorem EventCollector.ensures_drain_ledger (w : World) (recorders : List EventRecorder) :
    (drain recorders).Keeps w fun w' ↦ w'.ledger = w.ledger := by
  have hfold : ∀ (recorders : List EventRecorder) (v : World),
      (recorders.foldl clearEvents v).ledger = v.ledger := by
    intro recorders
    induction recorders with
    | nil => exact fun _ ↦ rfl
    | cons recorder rest ih => exact fun v ↦ (ih _).trans (ledger_clearEvents v recorder)
  unfold drain
  simp only [Action.Keeps, ensures_bind, ensures_lift_require, ensures_get, ensures_set,
    ensures_pure]
  exact ⟨fun _ ↦ hfold recorders w, fun _ ↦ trivial⟩

/-- Replaying the record of an operation gives the account of the world it leaves. -/
theorem Operation.replay_record (hmap : ∀ l ∈ Map.locations, allowed (some l))
    (h : w.Sound u allowed clock) (hnow : ∀ c ∈ clock, c ≤ now) (operation : Operation) :
    (operation.perform u now).Keeps w fun w' ↦
      w.ledger.replay (operation.record u now w) = w'.ledger := by
  suffices hexecute : (operation.execute u now).Keeps w fun w' ↦
      w.ledger.replay (operation.record u now w) = w'.ledger by
    unfold perform
    rw [Action.Keeps, ensures_bind]
    apply hexecute.mono _ fun _ _ hw ↦ hw
    intro recorders w' hw
    exact (EventCollector.ensures_drain_ledger w' recorders).mono (fun _ _ hw' ↦ hw.trans hw'.symm)
      fun _ _ hw' ↦ hw.trans hw'.symm
  by_cases hne : operation = .heartbeat
  · subst hne
    unfold execute record
    rw [Action.Keeps, ensures_map, (HeartbeatService.erases_journalAdvance .inMemory now).ensures_iff]
    have hjournal := HeartbeatService.ensures_journalAdvance h hnow
    rw [ensures_iff] at hjournal ⊢
    cases hrun : HeartbeatService.journalAdvance .inMemory now w with
    | ok x w' =>
      simp only [hrun] at hjournal ⊢
      exact hjournal.replay
    | error e w' =>
      simp only [hrun] at hjournal
  · have heffects : (operation.execute u now).Effects u allowed clock w operation.removes :=
      Operation.effects_execute hmap h hne
    rw [Action.Effects, ensures_iff] at heffects
    rw [Action.Keeps, ensures_iff]
    have hrecord : operation.record u now w = operation.commandEntries u now w := by
      cases operation with
      | heartbeat => exact absurd rfl hne
      | _ => rfl
    rw [hrecord]
    unfold commandEntries
    cases hrun : operation.execute u now w with
    | ok recorders w' =>
      simp only [hrun] at heffects ⊢
      exact heffects.2.traced.replay
    | error e w' =>
      simp only [hrun] at heffects ⊢
      exact heffects.2.traced.replay

/-- Worlds that runs over a fleet reach, with everything the run has recorded so far. -/
inductive Recorded (u : UnicodeTables) (fleet : Fleet) :
    Option Datetime → World → List Entry → Prop
  | start : Recorded u fleet none (World.initial fleet) []
  | step {clock : Option Datetime} {w : World} {log : List Entry} {now : Datetime}
      (h : Recorded u fleet clock w log) (hnow : ∀ c ∈ clock, c ≤ now) (operation : Operation) :
      Recorded u fleet (some now) ((operation.perform u now).finalState w)
        (log ++ operation.record u now w)

variable {log : List Entry}

/-- A recorded world is reachable. -/
theorem Recorded.reachable (h : Recorded u fleet clock w log) : Reachable u fleet clock w := by
  induction h with
  | start => exact .start
  | step _ hnow operation ih => exact ih.step hnow operation

/-- Every reachable world has a record. -/
theorem Reachable.exists_recorded (h : Reachable u fleet clock w) :
    ∃ log, Recorded u fleet clock w log := by
  induction h with
  | start => exact ⟨[], .start⟩
  | step _ hnow operation ih =>
    obtain ⟨log, hlog⟩ := ih
    exact ⟨_, hlog.step hnow operation⟩

/-- At every point of a run the events recorded so far determine the fields of every route, package
and truck. -/
theorem Recorded.ledger_eq_replay (hidle : fleet.All (Truck.Idle fun _ ↦ True))
    (h : Recorded u fleet clock w log) :
    w.ledger = (World.initial fleet).ledger.replay log := by
  induction h with
  | start => rfl
  | step h hnow operation ih =>
    have hsound := h.reachable.sound (fun _ _ ↦ trivial) hidle
    have hstep := (operation.replay_record (fun _ _ ↦ trivial) hsound hnow).finalState
    rw [Ledger.replay_append, ← ih, hstep]

/-- The events of the scenario's run determine the world with the package under way. -/
theorem Scenario.ledger_eq_replay_steps :
    ∃ log, Recorded .asciiOnly Scenario.fleet (some (Scenario.hour 12))
        (performAll .asciiOnly (.initial Scenario.fleet) Scenario.steps) log ∧
      (performAll .asciiOnly (.initial Scenario.fleet) Scenario.steps).ledger =
        (World.initial Scenario.fleet).ledger.replay log := by
  obtain ⟨log, hlog⟩ := Scenario.reachable_steps.exists_recorded
  exact ⟨log, hlog, Recorded.ledger_eq_replay Scenario.fleet_idle_anywhere hlog⟩

end FleetFlow
