import FleetFlow.Base.Errors

/-!
# Tables as lists of rows

What a sequence of insertions leaves of a table whose rows have to be apart, and what updates by
key leave of it.
-/

namespace FleetFlow

section Insert

variable {σ ρ : Type} {insert : σ → ρ → Except PyError σ}

/-- Rows are inserted one after another exactly when each of them fits and they are apart from
one another and from the rows that are there. -/
theorem foldlM_insert_eq_ok_iff (get : σ → List ρ) (put : List ρ → σ → σ) (store : ρ → ρ)
    (fits : σ → ρ → Prop) (apart : ρ → ρ → Prop)
    (hinsert : ∀ {t row t'}, insert t row = .ok t' ↔
      fits t row ∧ (∀ other ∈ get t, apart other row) ∧ t' = put (get t ++ [store row]) t)
    (hget : ∀ {rows t}, get (put rows t) = rows)
    (hput : ∀ {rows rows' t}, put rows (put rows' t) = put rows t)
    (hself : ∀ {t}, put (get t) t = t) (hfits : ∀ {rows t row}, fits (put rows t) row ↔ fits t row)
    (hstore : ∀ {a b}, apart (store a) b ↔ apart a b) {rows : List ρ} {t t' : σ} :
    rows.foldlM insert t = .ok t' ↔
      (∀ row ∈ rows, fits t row) ∧ (∀ row ∈ rows, ∀ other ∈ get t, apart other row) ∧
        rows.Pairwise apart ∧ t' = put (get t ++ rows.map store) t := by
  induction rows generalizing t with
  | nil =>
    simp only [List.foldlM_nil, List.map_nil, List.append_nil, hself, List.not_mem_nil,
      List.Pairwise.nil]
    exact ⟨fun h ↦ ⟨by simp, by simp, trivial, (Except.ok.inj h).symm⟩, fun h ↦ by rw [h.2.2.2]; rfl⟩
  | cons row rest ih =>
    rw [List.foldlM_cons, except_bind_eq_ok_iff]
    simp only [hinsert, ih, List.pairwise_cons, List.forall_mem_cons, List.map_cons]
    constructor
    · rintro ⟨_, ⟨hfit, hapart, rfl⟩, hrest, hold, hpair, rfl⟩
      simp only [hfits, hget, hput, List.append_assoc, List.singleton_append] at hrest hold ⊢
      refine ⟨⟨hfit, hrest⟩, ⟨hapart, fun x hx other hother ↦ ?_⟩, ⟨fun x hx ↦ ?_, hpair⟩, trivial⟩
      · exact hold x hx other (List.mem_append_left _ hother)
      · exact hstore.mp (hold x hx _ (by simp))
    · rintro ⟨⟨hfit, hrest⟩, ⟨hapart, hold⟩, ⟨hnew, hpair⟩, rfl⟩
      refine ⟨_, ⟨hfit, hapart, rfl⟩, fun x hx ↦ hfits.mpr (hrest x hx), fun x hx other hother ↦ ?_,
        hpair, ?_⟩
      · rw [hget] at hother
        rcases List.mem_append.mp hother with hother | hother
        · exact hold x hx other hother
        · rw [List.mem_singleton.mp hother]
          exact hstore.mpr (hnew x hx)
      · simp only [hget, hput, List.append_assoc, List.singleton_append]

end Insert

section Update

variable {ρ β : Type} (key : ρ → Int) (id : β → Int) (set : ρ → β → ρ)

/-- The row after the update that names it. -/
def updated (updates : List β) (row : ρ) : ρ :=
  (updates.find? fun b ↦ id b = key row).elim row (set row)

/-- A row that one update names has this update. -/
theorem updated_of_mem {updates : List β} (hnd : (updates.map id).Nodup) {b : β} {row : ρ}
    (hmem : b ∈ updates) (hkey : id b = key row) :
    updated key id set updates row = set row b := by
  unfold updated
  cases hfind : updates.find? (fun b ↦ id b = key row) with
  | none =>
    have hb := List.find?_eq_none.mp hfind b hmem
    exact absurd hkey (by simpa using hb)
  | some b' =>
    have hkey' : id b' = key row := by simpa using List.find?_some hfind
    obtain rfl := List.inj_on_of_nodup_map hnd (List.mem_of_find?_eq_some hfind) hmem
      (hkey'.trans hkey.symm)
    rfl

/-- A row that no update names stays. -/
theorem updated_of_notMem {updates : List β} {row : ρ} (h : key row ∉ updates.map id) :
    updated key id set updates row = row := by
  unfold updated
  have hnone : updates.find? (fun b ↦ id b = key row) = none := by
    rw [List.find?_eq_none]
    intro b hb
    simp only [decide_eq_true_eq]
    intro hid
    exact h (List.mem_map.mpr ⟨b, hb, hid⟩)
  rw [hnone]
  rfl

/-- Updates of different rows, one after another, change each row as the one that names it. -/
theorem foldl_update_eq_map (hkey : ∀ {row b}, key (set row b) = key row) {updates : List β}
    (hnd : (updates.map id).Nodup) {rows : List ρ} :
    updates.foldl (fun rows b ↦ rows.map fun row ↦ if key row = id b then set row b else row) rows =
      rows.map (updated key id set updates) := by
  induction updates generalizing rows with
  | nil =>
    have hself : updated key id set [] = fun row ↦ row := funext fun _ ↦ rfl
    rw [List.foldl_nil, hself, List.map_id']
  | cons b rest ih =>
    obtain ⟨hnew, hrest⟩ := List.nodup_cons.mp hnd
    rw [List.foldl_cons, ih hrest, List.map_map]
    apply List.map_congr_left
    intro row _
    show updated key id set rest (if key row = id b then set row b else row) = _
    by_cases hb : id b = key row
    · have hmissing : rest.find? (fun c ↦ id c = key row) = none := by
        rw [List.find?_eq_none]
        intro c hc
        simp only [decide_eq_true_eq]
        intro hid
        exact hnew (List.mem_map.mpr ⟨c, hc, hid.trans hb.symm⟩)
      rw [if_pos hb.symm]
      unfold updated
      rw [hkey, hmissing, List.find?_cons_of_pos (by simp [hb])]
      rfl
    · rw [if_neg (Ne.symm hb)]
      unfold updated
      rw [List.find?_cons_of_neg (by simp [hb])]

end Update

section Order

variable {α ρ : Type}

/-- Rows that list some objects in any order are the rows of these objects in that order. -/
theorem exists_perm_of_perm_map {f : α → ρ} {rows : List ρ} {xs : List α}
    (h : rows.Perm (xs.map f)) : ∃ ys : List α, ys.Perm xs ∧ rows = ys.map f := by
  have hforall : List.Forall₂ (fun row x ↦ row = f x) (xs.map f) xs := by
    rw [List.forall₂_map_left_iff]
    exact List.forall₂_same.mpr fun _ _ ↦ rfl
  obtain ⟨ys, hys, hperm⟩ := List.perm_comp_forall₂ h hforall
  refine ⟨ys, hperm, ?_⟩
  clear h hperm
  induction hys with
  | nil => rfl
  | cons hrow _ ih => rw [hrow, ih, List.map_cons]

/-- The rows of one object among those of objects with different keys. -/
theorem filter_flatMap_eq {key : α → Int} (id : ρ → Int) {f : α → List ρ}
    (hid : ∀ a, ∀ row ∈ f a, id row = key a) {xs : List α} (hnd : (xs.map key).Nodup) {a : α}
    (ha : a ∈ xs) : (xs.flatMap f).filter (fun row ↦ id row = key a) = f a := by
  induction xs with
  | nil => cases ha
  | cons x rest ih =>
    obtain ⟨hnew, hrest⟩ := List.nodup_cons.mp hnd
    rw [List.flatMap_cons, List.filter_append]
    rcases List.mem_cons.mp ha with rfl | hmem
    · have hself : (f a).filter (fun row ↦ id row = key a) = f a := by
        rw [List.filter_eq_self]
        intro row hrow
        exact decide_eq_true (hid a row hrow)
      have hothers : (rest.flatMap f).filter (fun row ↦ id row = key a) = [] := by
        rw [List.filter_eq_nil_iff]
        intro row hrow
        obtain ⟨b, hb, hrow⟩ := List.mem_flatMap.mp hrow
        rw [hid b row hrow, decide_eq_true_eq]
        intro hkey
        exact hnew (hkey ▸ List.mem_map_of_mem hb)
      rw [hself, hothers, List.append_nil]
    · have hfirst : (f x).filter (fun row ↦ id row = key a) = [] := by
        rw [List.filter_eq_nil_iff]
        intro row hrow
        rw [hid x row hrow, decide_eq_true_eq]
        intro hkey
        exact hnew (hkey ▸ List.mem_map_of_mem hmem)
      rw [hfirst, List.nil_append, ih hrest hmem]

/-- Sorting rows by different keys leaves the one sorted list. -/
theorem mergeSort_eq_of_perm {key : ρ → Int} {xs ys : List ρ} (h : xs.Perm ys)
    (hsorted : ys.Pairwise fun a b ↦ key a < key b) :
    xs.mergeSort (fun a b ↦ decide (key a ≤ key b)) = ys := by
  have hsort : (xs.mergeSort fun a b ↦ decide (key a ≤ key b)).Pairwise
      fun a b ↦ key a ≤ key b := by
    have hpairwise : (xs.mergeSort fun a b ↦ decide (key a ≤ key b)).Pairwise
        fun a b ↦ decide (key a ≤ key b) = true := by
      apply List.pairwise_mergeSort
      · intro a b c hab hbc
        simp only [decide_eq_true_eq] at *
        omega
      · intro a b
        simp only [Bool.or_eq_true, decide_eq_true_eq]
        omega
    exact hpairwise.imp of_decide_eq_true
  have hperm := (List.mergeSort_perm xs fun a b ↦ decide (key a ≤ key b)).trans h
  refine hperm.eq_of_pairwise ?_ hsort (hsorted.imp fun hab ↦ hab.le)
  intro a b ha hb hab hba
  have hnd : (ys.map key).Nodup := List.pairwise_map.mpr (hsorted.imp fun hlt ↦ hlt.ne)
  exact List.inj_on_of_nodup_map hnd (hperm.mem_iff.mp ha) hb (le_antisymm hab hba)

end Order
end FleetFlow
