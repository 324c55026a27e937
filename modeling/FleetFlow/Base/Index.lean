import FleetFlow.Base.Store

/-!
# Unique indexes over keyed stores

A secondary index maps a text of each stored value to its key; a blank text is not indexed.
`Indexes` says that the index holds exactly the texts of the stored values, so that it decides
whether a text is free and no two values share one. Adding, removing and rebuilding keep it.
-/

namespace FleetFlow

namespace Index

variable {τ α : Type} [Ord τ] [Std.TransOrd τ] [DecidableEq τ]

/-- Index a text that is not blank. -/
def enter (blank : τ) (index : Std.ExtTreeMap τ Int) (text : τ) (k : Int) : Std.ExtTreeMap τ Int :=
  if text = blank then index else index.insert text k

/-- Drop the entry of a text that is not blank. -/
def drop (blank : τ) (index : Std.ExtTreeMap τ Int) (text : τ) : Std.ExtTreeMap τ Int :=
  if text = blank then index else index.erase text

/-- The index of a list of values; of two values with one text the later counts. -/
def ofList (blank : τ) (field : α → τ) (key : α → Int) (xs : List α) : Std.ExtTreeMap τ Int :=
  xs.foldl (fun index a ↦ enter blank index (field a) (key a)) ∅

variable [Std.LawfulEqOrd τ] {blank text text' : τ} {index : Std.ExtTreeMap τ Int} {k : Int}

/-- An entered text is found under the given key. -/
theorem getElem?_enter : (enter blank index text k)[text']? =
    if text = text' ∧ text ≠ blank then some k else index[text']? := by
  unfold enter
  by_cases hblank : text = blank
  · simp [hblank]
  · rw [if_neg hblank, Std.ExtTreeMap.getElem?_insert]
    simp [hblank]

/-- A dropped text is not found. -/
theorem getElem?_drop : (drop blank index text)[text']? =
    if text = text' ∧ text ≠ blank then none else index[text']? := by
  unfold drop
  by_cases hblank : text = blank
  · simp [hblank]
  · rw [if_neg hblank, Std.ExtTreeMap.getElem?_erase]
    simp [hblank]

end Index

variable {τ α : Type} [Ord τ] [Std.TransOrd τ] {key : α → Int}

/-- The index holds exactly the texts of the stored values. -/
def Indexes (index : Std.ExtTreeMap τ Int) (blank : τ) (field : α → τ) (s : Store key) : Prop :=
  ∀ text k, index[text]? = some k ↔ text ≠ blank ∧ ∃ a, s.find? k = some a ∧ field a = text

variable {index : Std.ExtTreeMap τ Int} {blank : τ} {field : α → τ}
  {s : Store key} {a b : α} {k k' : Int} {text : τ} {xs : List α}

/-- Without values there is nothing to index. -/
theorem indexes_empty : Indexes ∅ blank field (Store.empty : Store key) := by
  intro text k
  simp

namespace Indexes

/-- A value is found by its text. -/
theorem getElem? (h : Indexes index blank field s) (hk : s.find? k = some a)
    (hne : field a ≠ blank) : index[field a]? = some k :=
  (h _ _).mpr ⟨hne, a, hk, rfl⟩

/-- Two values with one text are stored under one key. -/
theorem key_unique (h : Indexes index blank field s) (hk : s.find? k = some a)
    (hk' : s.find? k' = some b) (hne : field a ≠ blank) (heq : field a = field b) : k = k' := by
  have ha := h.getElem? hk hne
  rw [heq, h.getElem? hk' (heq ▸ hne)] at ha
  exact (Option.some.inj ha).symm

/-- A text without entry belongs to no value. -/
theorem free (h : Indexes index blank field s) (hnone : index[text]? = none)
    (hk : s.find? k = some a) (hne : text ≠ blank) : field a ≠ text := by
  rintro rfl
  rw [h.getElem? hk hne] at hnone
  cases hnone

variable [DecidableEq τ] [Std.LawfulEqOrd τ]

/-- Adding a value with a free text under a new key. -/
theorem put (h : Indexes index blank field s) (hnew : s.find? (key a) = none)
    (hfree : field a = blank ∨ index[field a]? = none) :
    Indexes (Index.enter blank index (field a) (key a)) blank field (s.put a) := by
  intro text k
  rw [Index.getElem?_enter]
  by_cases htext : field a = text ∧ field a ≠ blank
  · obtain ⟨rfl, hne⟩ := htext
    have hnone := hfree.resolve_left hne
    rw [if_pos ⟨rfl, hne⟩, Option.some.injEq, Store.find?_put]
    constructor
    · rintro rfl
      exact ⟨hne, a, if_pos rfl, rfl⟩
    · rintro ⟨-, b, hb, hfield⟩
      split at hb
      · assumption
      · exact absurd hfield (h.free hnone hb hne)
  · rw [if_neg htext, h text k]
    refine and_congr_right fun hne ↦ exists_congr fun b ↦ ?_
    rw [Store.find?_put]
    split
    · next hkey =>
      subst hkey
      constructor
      · rintro ⟨hb, -⟩
        rw [hnew] at hb
        cases hb
      · rintro ⟨hb, hfield⟩
        rw [Option.some.injEq] at hb
        subst hb
        exact absurd ⟨hfield, hfield ▸ hne⟩ htext
    · rfl

/-- Removing a value with its entry. -/
theorem remove (h : Indexes index blank field s) (hk : s.find? k = some a) :
    Indexes (Index.drop blank index (field a)) blank field (s.remove k) := by
  intro text k'
  rw [Index.getElem?_drop, Store.find?_remove]
  by_cases htext : field a = text ∧ field a ≠ blank
  · obtain ⟨rfl, hne⟩ := htext
    rw [if_pos ⟨rfl, hne⟩]
    constructor
    · rintro ⟨⟩
    · rintro ⟨-, b, hb, hfield⟩
      split at hb
      · cases hb
      · next hkey => exact absurd (h.key_unique hk hb hne hfield.symm) hkey
  · rw [if_neg htext, h text k']
    refine and_congr_right fun hne ↦ exists_congr fun b ↦ and_congr_left fun hfield ↦ ?_
    split
    · next hkey =>
      subst hkey
      constructor
      · intro hb
        obtain rfl := Option.some.inj (hk.symm.trans hb)
        exact absurd ⟨hfield, hfield ▸ hne⟩ htext
      · rintro ⟨⟩
    · rfl

end Indexes

variable [Std.LawfulEqOrd τ]

/-- A store has one index. -/
theorem Indexes.unique {index' : Std.ExtTreeMap τ Int} (h : Indexes index blank field s)
    (h' : Indexes index' blank field s) : index = index' := by
  apply Std.ExtTreeMap.ext_getElem?
  intro text
  ext k
  exact (h text k).trans (h' text k).symm

variable [DecidableEq τ]

/-- Rebuilding from values with different keys and texts. -/
theorem indexes_ofList (hnd : (xs.map key).Nodup)
    (hunique : xs.Pairwise fun a b ↦ field a = field b → field a = blank) :
    Indexes (Index.ofList blank field key xs) blank field (Store.ofList xs : Store key) := by
  suffices hadd : ∀ (index : Std.ExtTreeMap τ Int) (s : Store key), Indexes index blank field s →
      (∀ a ∈ xs, s.find? (key a) = none ∧ (field a = blank ∨ index[field a]? = none)) →
      Indexes (xs.foldl (fun index a ↦ Index.enter blank index (field a) (key a)) index) blank field
        (s.putAll xs) from
    hadd ∅ .empty indexes_empty fun a _ ↦ by simp
  induction xs with
  | nil => exact fun index s h _ ↦ h
  | cons x rest ih =>
    intro index s h hfresh
    rw [List.map_cons, List.nodup_cons] at hnd
    rw [List.pairwise_cons] at hunique
    obtain ⟨hnew, hfree⟩ := hfresh x (by simp)
    rw [List.foldl_cons, Store.putAll_cons]
    refine ih hnd.2 hunique.2 _ _ (h.put hnew hfree) fun a ha ↦ ?_
    obtain ⟨hnew', hfree'⟩ := hfresh a (by simp [ha])
    constructor
    · rw [Store.find?_put, if_neg, hnew']
      intro hkey
      exact hnd.1 (hkey ▸ List.mem_map_of_mem ha)
    · rw [Index.getElem?_enter]
      by_cases htext : field x = field a
      · exact .inl (htext ▸ hunique.1 a ha htext)
      · rwa [if_neg fun hboth ↦ htext hboth.1]

/-- Rebuilding the index from the stored values gives the index back. -/
theorem Indexes.ofList_values (h : Indexes index blank field s) :
    Index.ofList blank field key s.values = index := by
  have hunique : s.values.Pairwise fun a b ↦ field a = field b → field a = blank := by
    refine List.Pairwise.imp_of_mem (fun {a b} ha hb hlt heq ↦ ?_)
      (List.pairwise_map.mp Store.sorted_values)
    by_contra hne
    have hkey := h.key_unique (Store.mem_values.mp ha) (Store.mem_values.mp hb) hne heq
    exact hlt.ne hkey
  have hlisted := indexes_ofList Store.nodup_values hunique
  rw [Store.ofList_values] at hlisted
  exact hlisted.unique h

end FleetFlow
