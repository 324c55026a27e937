import FleetFlow.Runtime.Undo

/-!
# Failing passes are isolated

A pass that fails puts its cell back and adds nothing to the summary. When the passes share no
truck and no package, the loop over all routes therefore does what the loop over the other routes
does, and leaves the failing ones alone.
-/

namespace FleetFlow

open Program

/-- Different listed routes refer to different trucks and list different packages. -/
structure World.Unshared (w : World) (ids : List Int) : Prop where
  truck : ∀ r ∈ ids, ∀ r' ∈ ids, ∀ route route' t, w.routes.find? r = some route →
    w.routes.find? r' = some route' → route.truck = some t → route'.truck = some t → r = r'
  package : ∀ r ∈ ids, ∀ r' ∈ ids, ∀ route route' p, w.routes.find? r = some route →
    w.routes.find? r' = some route' → p ∈ route.packages → p ∈ route'.packages → r = r'

/-- Only the listed routes and what they refer to can differ. -/
structure World.SameOutside (before : World) (ids : List Int) (after : World) : Prop where
  route : ∀ r, r ∉ ids → after.routes.find? r = before.routes.find? r
  truck : ∀ t, (∀ r ∈ ids, ∀ route, before.routes.find? r = some route →
    route.truck ≠ some t) → after.trucks.find? t = before.trucks.find? t
  package : ∀ p, (∀ r ∈ ids, ∀ route, before.routes.find? r = some route →
    p ∉ route.packages) → after.packages.find? p = before.packages.find? p

namespace Action

variable {α : Type} {program : Program PyError RouteCell α} {w : World} {r : Int} {rest : List Int}
  {ok : List (Int × α) → World → Prop} {fail : PyError → World → Prop}

/-- A route that is not stored is passed over. -/
theorem ensures_sweep_cons_none (hr : w.routes.find? r = none) :
    Ensures (sweep program (r :: rest)) w ok fail ↔ Ensures (sweep program rest) w ok fail := by
  rw [sweep]
  simp only [ensures_bind, ensures_get, hr]

/-- A stored route is passed over first. -/
theorem ensures_sweep_cons_some {route : DeliveryRoute} (hr : w.routes.find? r = some route) :
    Ensures (sweep program (r :: rest)) w ok fail ↔
      Ensures program (w.cell route)
        (fun a c ↦ Ensures (sweep program rest) (w.putCell c)
          (fun passes w' ↦ ok ((r, a) :: passes) w') fail)
        (fun e c ↦ fail e (w.putCell c)) := by
  rw [sweep]
  simp only [ensures_bind, ensures_get, hr, onRoute, ensures_zoom, ensures_pure]

end Action

namespace World

variable {v v' w w' : World} {ids done : List Int} {r : Int} {route : DeliveryRoute}

/-- Fewer routes are unshared as well, in every world that stores them as they were. -/
theorem Unshared.of_routes (h : w.Unshared ids) (hsub : ∀ r ∈ done, r ∈ ids)
    (hroutes : ∀ r ∈ done, w'.routes.find? r = w.routes.find? r) : w'.Unshared done := by
  constructor
  · intro r hr r' hr' route route' t hfind hfind'
    rw [hroutes r hr] at hfind
    rw [hroutes r' hr'] at hfind'
    exact h.truck r (hsub r hr) r' (hsub r' hr') route route' t hfind hfind'
  · intro r hr r' hr' route route' p hfind hfind'
    rw [hroutes r hr] at hfind
    rw [hroutes r' hr'] at hfind'
    exact h.package r (hsub r hr) r' (hsub r' hr') route route' p hfind hfind'

namespace SameOutside

theorem refl (w : World) (ids : List Int) : SameOutside w ids w :=
  ⟨fun _ _ ↦ rfl, fun _ _ ↦ rfl, fun _ _ ↦ rfl⟩

/-- More routes can differ. -/
theorem mono (h : SameOutside w done w') (hsub : ∀ r ∈ done, r ∈ ids) : SameOutside w ids w' :=
  ⟨fun r hr ↦ h.route r fun hmem ↦ hr (hsub r hmem),
    fun t ht ↦ h.truck t fun r hr ↦ ht r (hsub r hr),
    fun p hp ↦ h.package p fun r hr ↦ hp r (hsub r hr)⟩

/-- One change after another, where the second one concerns routes that the first one kept. -/
theorem trans (h : SameOutside v done w) (h' : SameOutside w ids w')
    (hroutes : ∀ r ∈ ids, w.routes.find? r = v.routes.find? r) :
    SameOutside v (done ++ ids) w' := by
  refine ⟨fun r hr ↦ ?_, fun t ht ↦ ?_, fun p hp ↦ ?_⟩
  · rw [List.mem_append, not_or] at hr
    rw [h'.route r hr.2, h.route r hr.1]
  · rw [h'.truck t fun r hr route hfind ↦ ht r (by simp [hr]) route (hroutes r hr ▸ hfind),
      h.truck t fun r hr ↦ ht r (by simp [hr])]
  · rw [h'.package p fun r hr route hfind ↦ hp r (by simp [hr]) route (hroutes r hr ▸ hfind),
      h.package p fun r hr ↦ hp r (by simp [hr])]

/-- Storing a changed cell. -/
theorem putCell {c : RouteCell} (hr : w.routes.find? r = some route)
    (h : (w.cell route).SameIds c) : SameOutside w [r] (w.putCell c) := by
  have hid : c.route.routeId = r := h.route.trans (Store.key_of_find? hr)
  refine ⟨fun r' hr' ↦ ?_, fun t ht ↦ ?_, fun p hp ↦ ?_⟩
  · exact Store.find?_put.trans (if_neg fun heq ↦ hr' (by simp [← heq, hid]))
  · refine Store.find?_putAll_of_notMem fun hmem ↦ ?_
    obtain ⟨truck, htruck, rfl⟩ := List.mem_map.mp hmem
    have hids : (w.truckOf route).map Truck.vehicleId = some truck.vehicleId := by
      refine h.truck.symm.trans ?_
      rw [Option.mem_toList.mp htruck, Option.map_some]
    obtain ⟨stored, hstored, hsame⟩ := Option.map_eq_some_iff.mp hids
    obtain ⟨t, hroute, hfind⟩ := Option.bind_eq_some_iff.mp hstored
    refine ht r (by simp) route hr ?_
    rw [hroute, ← hsame, Store.key_of_find? hfind]
  · refine Store.find?_putAll_of_notMem fun hmem ↦ ?_
    rw [h.packages] at hmem
    obtain ⟨package, hpackage, rfl⟩ := List.mem_map.mp hmem
    exact hp r (by simp) route hr (mem_packagesOf.mp hpackage).1

/-- The cell of a route that shares nothing with the changed ones. -/
theorem cell_eq (h : SameOutside w done w') (hw : w.Unshared ids) (hsub : ∀ r ∈ done, r ∈ ids)
    (hmem : r ∈ ids) (hout : r ∉ done) (hr : w.routes.find? r = some route) :
    w'.cell route = w.cell route := by
  have htruck : w'.truckOf route = w.truckOf route := by
    unfold truckOf
    cases ht : route.truck with
    | none => rfl
    | some t =>
      refine h.truck t fun r' hr' route' hfind ht' ↦ hout ?_
      rwa [hw.truck r hmem r' (hsub r' hr') route route' t hr hfind ht ht']
  have hpackages : w'.packagesOf route = w.packagesOf route := by
    unfold packagesOf
    refine List.filterMap_congr fun p hp ↦ h.package p fun r' hr' route' hfind hp' ↦ hout ?_
    rwa [hw.package r hmem r' (hsub r' hr') route route' p hr hfind hp hp']
  rw [cell, cell, htruck, hpackages]

end SameOutside

/-- Consistently linked routes share nothing. -/
theorem RouteLinked.unshared (h : w.RouteLinked) (ids : List Int) : w.Unshared ids :=
  ⟨fun _ _ _ _ _ _ _ hr hr' ht ht' ↦ h.eq_of_truck hr hr' ht ht',
    fun _ _ _ _ _ _ _ hr hr' hp hp' ↦ h.eq_of_package hr hr' hp hp'⟩

end World

namespace Reconciler

/-- One pass of the loop around a body; `world_state_reconciliation_service.py:65–120`. -/
def attempt (body : CellAction RouteChanges) : CellAction (Option RouteChanges) := do
  let before ← get
  tryCatch (some <$> body) fun _ ↦ do
    restoreCell before
    pure none

/-- The loop over passes with a body. -/
def reconcileWith (body : CellAction RouteChanges) (routeIds : List Int) :
    Action HeartbeatSummary :=
  HeartbeatSummary.ofPasses <$> Action.sweep (attempt body) routeIds

/-- The loop of the source is the one around its body. -/
theorem reconcileRoutes_eq (now : Datetime) (updateTrucks : Bool) (routeIds : List Int) :
    reconcileRoutes now updateTrucks routeIds =
      reconcileWith (reconcileBody now updateTrucks) routeIds := rfl

/-- `body` runs like `full`, or is cut short by a raise after steps that let the cell evolve. -/
def Interrupts (body full : CellAction RouteChanges) : Prop :=
  ∀ c, body c = full c ∨ ∃ e d, body c = .error e d ∧ c.Evolves d

/-- The pass over a route raises. -/
def Fails (body : CellAction RouteChanges) (w : World) (r : Int) : Bool :=
  (w.routes.find? r).any fun route ↦ body.raisesIn (w.cell route) fun _ ↦ true

variable {body : CellAction RouteChanges} {now : Datetime} {updateTrucks : Bool}

/-- Raising after any steps that let the cell evolve interrupts a body. -/
theorem interrupts_of_frames {α : Type} {steps : CellAction α} (h : Frames RouteCell.Evolves steps)
    (e : PyError) (full : CellAction RouteChanges) :
    Interrupts (do
      let _ ← steps
      throw e) full := by
  intro c
  right
  have hsteps := h c
  rw [ensures_iff] at hsteps
  cases hrun : steps c with
  | ok a d =>
    refine ⟨e, d, ?_, by simpa [hrun] using hsteps⟩
    simp [bind, EStateM.bind, hrun]
    rfl
  | error e' d =>
    refine ⟨e', d, ?_, by simpa [hrun] using hsteps⟩
    simp [bind, EStateM.bind, hrun]

/-- A body interrupts itself. -/
theorem interrupts_refl : Interrupts body body := fun _ ↦ .inl rfl

/-- A pass applies its body or gives back the cell. -/
theorem ensures_attempt (h : Interrupts body (reconcileBody now updateTrucks)) (c : RouteCell) :
    Ensures (attempt body) c
      (fun changes d ↦ (body.raisesIn c fun _ ↦ true) = changes.isNone ∧
        if changes.isSome then c.Evolves d else d = c)
      (fun _ _ ↦ False) := by
  have hframe : Ensures body c (fun _ d ↦ c.Evolves d) (fun _ d ↦ c.Evolves d) := by
    rcases h c with hfull | ⟨e, d, herror, he⟩
    · have hall := frames_reconcileBody now updateTrucks c
      rw [ensures_iff] at hall ⊢
      rwa [hfull]
    · rw [ensures_iff, herror]
      exact he
  unfold attempt
  simp only [ensures_bind, ensures_get, ensures_tryCatch, ensures_map, ensures_pure]
  refine (hframe.and ensures_raisesIn).mono (fun ch d hd ↦ ⟨hd.2, hd.1⟩) fun e d hd ↦ ?_
  refine (ensures_restoreCell hd.1).mono (fun _ c' hc ↦ ⟨hd.2, hc⟩) fun _ _ hf ↦ hf

/-- The routes whose passes do not raise. -/
abbrev passing (body : CellAction RouteChanges) (w : World) (ids : List Int) : List Int :=
  ids.filter fun r ↦ !Fails body w r

/-- A pass on a cell that is as it was fails as before. -/
theorem fails_eq {w w' : World} {r : Int} (hroute : w'.routes.find? r = w.routes.find? r)
    (hcell : ∀ route, w.routes.find? r = some route → w'.cell route = w.cell route) :
    Fails body w' r = Fails body w r := by
  unfold Fails
  rw [hroute]
  cases hr : w.routes.find? r with
  | none => rfl
  | some route => rw [Option.any_some, Option.any_some, hcell route hr]

/-- The passes over all routes and those over the passing ones lead to one world and make the same
changes. -/
theorem ensures_sweep_passing (h : Interrupts body (reconcileBody now updateTrucks))
    {ids : List Int} {w : World} (hw : w.Unshared ids) (hnd : ids.Nodup) :
    Ensures (Action.sweep (attempt body) ids) w
      (fun passes w' ↦ w.SameOutside (passing body w ids) w' ∧
        Ensures (Action.sweep (attempt body) (passing body w ids)) w
          (fun passes' v ↦ v = w' ∧ passes' = passes.filter fun pass ↦ pass.2.isSome)
          (fun _ _ ↦ False))
      (fun _ _ ↦ False) := by
  induction ids generalizing w with
  | nil => exact ensures_pure.mpr ⟨.refl w [], ensures_pure.mpr ⟨rfl, rfl⟩⟩
  | cons r rest ih =>
    rw [List.nodup_cons] at hnd
    have hrest : w.Unshared rest := hw.of_routes (fun r' hr' ↦ by simp [hr']) fun _ _ ↦ rfl
    cases hr : w.routes.find? r with
    | none =>
      have hpassing : passing body w (r :: rest) = r :: passing body w rest :=
        List.filter_cons_of_pos (by simp [Fails, hr])
      rw [Action.ensures_sweep_cons_none hr, hpassing]
      refine (ih hrest hnd.2).mono (fun passes w' hw' ↦ ⟨?_, ?_⟩) fun _ _ hf ↦ hf
      · exact hw'.1.mono fun r' hr' ↦ List.mem_cons_of_mem r hr'
      · exact (Action.ensures_sweep_cons_none hr).mpr hw'.2
    | some route =>
      rw [Action.ensures_sweep_cons_some hr]
      have hattempt := ensures_attempt h (w.cell route)
      rw [ensures_iff] at hattempt
      split at hattempt
      · next changes c hrun =>
        rw [ensures_of_eq_ok hrun]
        have hfails : Fails body w r = changes.isNone := by
          rw [Fails, hr, Option.any_some, hattempt.1]
        cases changes with
        | none =>
          have hpassing : passing body w (r :: rest) = passing body w rest :=
            List.filter_cons_of_neg (by simp [hfails])
          obtain rfl : c = w.cell route := hattempt.2
          rw [World.putCell_cell hr, hpassing]
          refine (ih hrest hnd.2).mono (fun passes w' hw' ↦ ⟨hw'.1, ?_⟩) fun _ _ hf ↦ hf
          exact hw'.2.mono (fun _ _ hp ↦ ⟨hp.1, hp.2⟩) fun _ _ hf ↦ hf
        | some ch =>
          have he : (w.cell route).Evolves c := hattempt.2
          have hsame := World.SameOutside.putCell hr he.sameIds
          have hroutes : ∀ r' ∈ rest,
              (w.putCell c).routes.find? r' = w.routes.find? r' := fun r' hr' ↦
            hsame.route r' fun hmem ↦ hnd.1 (List.mem_singleton.mp hmem ▸ hr')
          have hpassing : passing body w (r :: rest) = r :: passing body (w.putCell c) rest := by
            rw [passing, List.filter_cons_of_pos (by simp [hfails])]
            refine congrArg (r :: ·) (List.filter_congr fun r' hr' ↦ ?_)
            refine congrArg not (fails_eq (hroutes r' hr') fun route' hroute' ↦ ?_).symm
            refine hsame.cell_eq hw (by simp) (List.mem_cons_of_mem r hr') ?_ hroute'
            exact fun hmem ↦ hnd.1 (List.mem_singleton.mp hmem ▸ hr')
          rw [hpassing]
          refine (ih (hrest.of_routes (fun _ hr' ↦ hr') hroutes) hnd.2).mono
            (fun passes w' hw' ↦ ⟨?_, ?_⟩) fun _ _ hf ↦ hf
          · exact hsame.trans hw'.1 fun r' hr' ↦ hroutes r' (List.mem_of_mem_filter hr')
          · rw [Action.ensures_sweep_cons_some hr, ensures_of_eq_ok hrun]
            exact hw'.2.mono (fun _ _ hp ↦ ⟨hp.1, by rw [hp.2]; rfl⟩) fun _ _ hf ↦ hf
      · exact hattempt.elim

/-- Passes that were undone add nothing to a summary but their ids. -/
theorem ofPasses_filter (passes : List (Int × Option RouteChanges)) :
    HeartbeatSummary.ofPasses (passes.filter fun pass ↦ pass.2.isSome) =
      { HeartbeatSummary.ofPasses passes with skippedRoutes := [] } := by
  have hkept : ∀ {β : Type} (f : Int × Option RouteChanges → Option β), (∀ r, f (r, none) = none) →
      (passes.filter fun pass ↦ pass.2.isSome).filterMap f = passes.filterMap f := by
    intro β f hf
    rw [List.filterMap_filter]
    refine List.filterMap_congr fun pass _ ↦ ?_
    obtain ⟨r, _ | ch⟩ := pass
    · exact (hf r).symm
    · rfl
  have hdropped : ∀ {β : Type} (f : Int × Option RouteChanges → Option β),
      (∀ r ch, f (r, some ch) = none) →
      (passes.filter fun pass ↦ pass.2.isSome).filterMap f = [] := by
    intro β f hf
    rw [List.filterMap_filter, List.filterMap_eq_nil_iff]
    intro pass _
    obtain ⟨r, _ | ch⟩ := pass
    · rfl
    · exact hf r ch
  unfold HeartbeatSummary.ofPasses
  rw [hkept Prod.snd fun _ ↦ rfl, hkept, hdropped]
  · exact fun _ _ ↦ rfl
  · exact fun _ ↦ rfl

/-- Failing passes are isolated: the loop leaves each failing route and what it refers to as they
were, and leads to the world and the summary of the loop over the other routes. -/
theorem failing_routes_isolated (h : Interrupts body (reconcileBody now updateTrucks)) {w : World}
    {ids : List Int} (hw : w.Unshared ids) (hnd : ids.Nodup) :
    Ensures (reconcileWith body ids) w
      (fun summary w' ↦
        (∀ r ∈ ids, Fails body w r = true → ∀ route, w.routes.find? r = some route →
          w'.routes.find? r = some route ∧ w'.cell route = w.cell route) ∧
        Ensures (reconcileWith body (ids.filter fun r ↦ !Fails body w r)) w
          (fun summary' v ↦ v = w' ∧ summary' = { summary with skippedRoutes := [] })
          (fun _ _ ↦ False))
      (fun _ _ ↦ False) := by
  unfold reconcileWith
  rw [ensures_map]
  refine (ensures_sweep_passing h hw hnd).mono (fun passes w' hw' ↦ ⟨?_, ?_⟩) fun _ _ hf ↦ hf
  · intro r hr hfails route hroute
    have hout : r ∉ passing body w ids := fun hmem ↦ by
      have hpasses := List.of_mem_filter hmem
      rw [hfails] at hpasses
      cases hpasses
    have hsub : ∀ r' ∈ passing body w ids, r' ∈ ids := fun _ hr' ↦ List.mem_of_mem_filter hr'
    exact ⟨(hw'.1.route r hout).trans hroute, hw'.1.cell_eq hw hsub hr hout hroute⟩
  · rw [ensures_map]
    exact hw'.2.mono (fun _ _ hp ↦ ⟨hp.1, by rw [hp.2, ofPasses_filter]⟩) fun _ _ hf ↦ hf

end Reconciler

namespace Scenario

/-- Two routes, the first one with a package. -/
def pairSteps : List (Datetime × Operation) :=
  [(hour 0, .createRoute ["SYD", "MEL"] (some (hour 8))),
    (hour 0, .createRoute ["SYD", "MEL"] (some (hour 8))),
    (hour 1, .createPackage package),
    (hour 2, .assignPackages 1 [1])]

/-- The world after these steps. -/
def pairWorld : World := performAll .asciiOnly (.initial fleet) pairSteps

/-- It is reachable. -/
theorem reachable_pair : Reachable .asciiOnly fleet (some (hour 2)) pairWorld := by
  have hsorted : ([] ++ pairSteps.map Prod.fst).Pairwise (· ≤ ·) := by decide
  exact Reachable.performAll .start hsorted

/-- The body of the loop, raising on the first route after its status step. -/
def cutBody (now : Datetime) : CellAction RouteChanges := do
  let cell ← get
  if cell.route.routeId = 1 then do
    let _ ← Reconciler.reconcileStatus now
    throw ⟨.runtimeError, "interrupted"⟩
  else Reconciler.reconcileBody now true

/-- It interrupts the body of the source. -/
theorem interrupts_cutBody (now : Datetime) :
    Reconciler.Interrupts (cutBody now) (Reconciler.reconcileBody now true) := by
  intro c
  by_cases hid : c.route.routeId = 1
  · have hcut : cutBody now c = (do
        let _ ← Reconciler.reconcileStatus now
        throw ⟨.runtimeError, "interrupted"⟩ : CellAction RouteChanges) c := by
      show (if c.route.routeId = 1 then _ else _ : CellAction RouteChanges) c = _
      rw [if_pos hid]
    rw [hcut]
    exact Reconciler.interrupts_of_frames (Reconciler.frames_reconcileStatus now) _ _ c
  · left
    show (if c.route.routeId = 1 then _ else _ : CellAction RouteChanges) c = _
    rw [if_neg hid]

/-- The second route starts although the pass over the first one raises. -/
theorem failing_routes_isolated_pair :
    Reconciler.Fails (cutBody (hour 9)) pairWorld 1 = true ∧
    Ensures (Reconciler.reconcileWith (cutBody (hour 9)) [1, 2]) pairWorld
      (fun summary w' ↦
        (∀ r ∈ [1, 2], Reconciler.Fails (cutBody (hour 9)) pairWorld r = true →
          ∀ route, pairWorld.routes.find? r = some route →
            w'.routes.find? r = some route ∧ w'.cell route = pairWorld.cell route) ∧
        Ensures (Reconciler.reconcileWith (cutBody (hour 9))
            ([1, 2].filter fun r ↦ !Reconciler.Fails (cutBody (hour 9)) pairWorld r)) pairWorld
          (fun summary' v ↦ v = w' ∧ summary' = { summary with skippedRoutes := [] })
          (fun _ _ ↦ False))
      (fun _ _ ↦ False) := by
  have hl : pairWorld.RouteLinked :=
    (reachable_pair.sound (fun _ _ ↦ trivial) fleet_idle_anywhere).linked.toRouteLinked
  refine ⟨by decide +kernel, ?_⟩
  exact Reconciler.failing_routes_isolated (interrupts_cutBody (hour 9)) (hl.unshared [1, 2])
    (by decide)

end Scenario
end FleetFlow
