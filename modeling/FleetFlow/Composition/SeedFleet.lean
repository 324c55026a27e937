import FleetFlow.Runtime.World

/-!
# The default fleet

Follows `composition/seed_fleet.py`. The trucks are idle and stand at hubs, so a run of the
application that starts from the seeded fleet starts from an idle one.
-/

namespace FleetFlow.SeedFleet

/-- Trucks of one model with consecutive ids. -/
def newTrucks (name : TruckModel) (capacity maxRange first : Int) (count : Nat) :
    Except PyError (List Truck) :=
  (List.range count).mapM fun (i : Nat) ↦ Truck.new (first + (i : Int)) name capacity maxRange

/-- One truck of each group in turn, until the groups are empty; `composition/seed_fleet.py:44–50`. -/
def rounds {α : Type} : Nat → List (List α) → List α
  | 0, _ => []
  | n + 1, groups => groups.filterMap List.head? ++ rounds n (groups.map List.tail)

/-- Place trucks on hubs, by model in turn; `composition/seed_fleet.py:27–50`. -/
def disperseTrucks (trucks : List Truck) : List Truck :=
  let keys := (trucks.map Truck.name).eraseDups
  let groups := keys.map fun name ↦ trucks.filter fun truck ↦ truck.name = name
  (rounds trucks.length groups).zipIdx.map fun (truck, i) ↦
    { truck with currentLocation := Map.locations[i % Map.locations.length]? }

/-- The fixed fleet; `composition/seed_fleet.py:13–25`. -/
def buildDefaultFleet : Except PyError (List Truck) := do
  let scania ← newTrucks .scania 42000 8000 1001 10
  let man ← newTrucks .man 37000 10000 1011 15
  let actros ← newTrucks .actros 26000 13000 1026 15
  .ok (disperseTrucks (scania ++ man ++ actros))

/-- Seed an empty repository; `composition/seed_fleet.py:53–73`. -/
def seedFleetIfEmpty (fleet : Fleet) : Except PyError Fleet :=
  if fleet.values = [] then do
    let trucks ← buildDefaultFleet
    .ok (fleet.putAll trucks)
  else .ok fleet

/-! ### The seeded fleet is idle -/

/-- What is dealt out in rounds comes from the groups. -/
theorem mem_of_mem_rounds {α : Type} {n : Nat} {groups : List (List α)} {a : α}
    (h : a ∈ rounds n groups) : ∃ group ∈ groups, a ∈ group := by
  induction n generalizing groups with
  | zero => cases h
  | succ n ih =>
    rw [rounds, List.mem_append] at h
    rcases h with h | h
    · obtain ⟨group, hgroup, ha⟩ := List.mem_filterMap.mp h
      exact ⟨group, hgroup, List.mem_of_mem_head? ha⟩
    · obtain ⟨tail, htail, ha⟩ := ih h
      obtain ⟨group, hgroup, rfl⟩ := List.mem_map.mp htail
      exact ⟨group, hgroup, List.mem_of_mem_tail ha⟩

/-- New trucks are free and unlinked. -/
private theorem of_mem_newTrucks {name : TruckModel} {capacity maxRange first : Int} {count : Nat}
    {trucks : List Truck} (h : newTrucks name capacity maxRange first count = .ok trucks)
    {truck : Truck} (ht : truck ∈ trucks) : truck.Idle fun _ ↦ True := by
  obtain ⟨i, -, hnew⟩ := exists_of_mapM_eq_ok h ht
  obtain ⟨-, -, -, -, h1, -, h2, h3, h4, h5⟩ := Truck.new_eq_ok_iff.mp hnew
  exact ⟨h1, h2, ⟨h3, h4⟩, h5, trivial⟩

/-- Dispersing idle trucks puts each at a hub. -/
theorem idle_of_mem_disperseTrucks {trucks : List Truck}
    (h : ∀ truck ∈ trucks, truck.Idle fun _ ↦ True) {truck : Truck}
    (ht : truck ∈ disperseTrucks trucks) :
    truck.Idle fun place ↦ ∃ l ∈ Map.locations, place = some l := by
  unfold disperseTrucks at ht
  obtain ⟨⟨t, i⟩, hmem, rfl⟩ := List.mem_map.mp ht
  obtain ⟨group, hgroup, htg⟩ := mem_of_mem_rounds (List.fst_mem_of_mem_zipIdx hmem)
  obtain ⟨name, -, rfl⟩ := List.mem_map.mp hgroup
  obtain ⟨h1, h2, h3, h4, -⟩ := h t (List.mem_of_mem_filter htg)
  have hlt : i % Map.locations.length < Map.locations.length := Nat.mod_lt _ (by decide)
  exact ⟨h1, h2, h3, h4, _, List.getElem_mem hlt, List.getElem?_eq_getElem hlt⟩

/-- The seeded fleet is idle and stands at hubs. -/
theorem idle_of_seedFleetIfEmpty {fleet : Fleet} (h : seedFleetIfEmpty .empty = .ok fleet) :
    fleet.All (Truck.Idle fun place ↦ ∃ l ∈ Map.locations, place = some l) := by
  unfold seedFleetIfEmpty at h
  rw [if_pos Store.values_empty] at h
  simp only [buildDefaultFleet, except_bind_eq_ok_iff, Except.ok.injEq] at h
  obtain ⟨_, ⟨scania, h1, man, h2, actros, h3, rfl⟩, rfl⟩ := h
  intro t truck ht
  rcases Store.mem_or_find?_of_putAll ht with hmem | hfind
  · refine idle_of_mem_disperseTrucks (fun truck hmem ↦ ?_) hmem
    rw [List.mem_append, List.mem_append] at hmem
    rcases hmem with (hmem | hmem) | hmem
    · exact of_mem_newTrucks h1 hmem
    · exact of_mem_newTrucks h2 hmem
    · exact of_mem_newTrucks h3 hmem
  · rw [Store.find?_empty] at hfind
    cases hfind

/-- Seeding succeeds. -/
theorem exists_seedFleetIfEmpty : ∃ fleet, seedFleetIfEmpty .empty = .ok fleet := by
  obtain ⟨trucks, htrucks⟩ : ∃ trucks, buildDefaultFleet = .ok trucks := by
    cases h : buildDefaultFleet with
    | ok trucks => exact ⟨trucks, rfl⟩
    | error e =>
      have hok : buildDefaultFleet.isOk = true := by decide +kernel
      rw [h] at hok
      cases hok
  unfold seedFleetIfEmpty
  rw [if_pos Store.values_empty, htrucks]
  exact ⟨_, rfl⟩

end FleetFlow.SeedFleet
