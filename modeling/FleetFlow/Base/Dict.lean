import Mathlib.Data.List.Nodup
import Mathlib.Data.List.Pairwise

/-!
# Insertion-ordered dictionaries

Finite maps that remember the order in which their keys came in, as Python's `dict` does.
Assigning to a key that is present keeps its place.
-/

namespace FleetFlow

/-- Entries with different keys, oldest first. -/
structure Dict (κ α : Type) where
  entries : List (κ × α)
  nodup : (entries.map Prod.fst).Nodup

namespace Dict

variable {κ α : Type} [DecidableEq κ] {d e : Dict κ α} {k k' : κ} {a b : α}

/-- The dictionary without entries. -/
def empty : Dict κ α := ⟨[], List.nodup_nil⟩

/-- The value under a key, `dict.get`. -/
def get? (d : Dict κ α) (k : κ) : Option α := (d.entries.find? (·.1 = k)).map Prod.snd

/-- Whether a key is there, `k in d`. -/
def contains (d : Dict κ α) (k : κ) : Bool := d.entries.any (·.1 = k)

/-- The values in the order of their keys' first insertion, `dict.values`. -/
def values (d : Dict κ α) : List α := d.entries.map Prod.snd

/-- Replace the value of one key in a list of entries. -/
def replace (k : κ) (a : α) (entry : κ × α) : κ × α := if entry.1 = k then (k, a) else entry

@[simp] theorem replace_fst (entry : κ × α) : (replace k a entry).1 = entry.1 := by
  unfold replace
  split
  · next h => exact h.symm
  · rfl

theorem contains_iff : d.contains k = true ↔ k ∈ d.entries.map Prod.fst := by
  simp [contains]

/-- Write a value in the place of its key, or at the end if the key is new, `d[k] = a`. -/
def set (d : Dict κ α) (k : κ) (a : α) : Dict κ α :=
  if h : d.contains k = true then
    { entries := d.entries.map (replace k a)
      nodup := by
        have hkeys : (d.entries.map (replace k a)).map Prod.fst = d.entries.map Prod.fst := by
          simp [List.map_map, Function.comp_def]
        rw [hkeys]
        exact d.nodup }
  else
    { entries := d.entries ++ [(k, a)]
      nodup := by
        rw [List.map_append, List.nodup_append]
        refine ⟨d.nodup, List.nodup_singleton _, ?_⟩
        rintro x hx y hy rfl
        obtain rfl : x = k := by simpa using hy
        exact h (contains_iff.mpr hx) }

/-! ### Lookups -/

omit [DecidableEq κ] in
/-- Two dictionaries with the same entries in the same order are equal. -/
@[ext] theorem ext (h : d.entries = e.entries) : d = e := by
  cases d
  cases e
  congr

/-- A lookup finds exactly the entry under the key. -/
theorem get?_eq_some_iff : d.get? k = some a ↔ (k, a) ∈ d.entries := by
  unfold get?
  rw [Option.map_eq_some_iff]
  constructor
  · rintro ⟨⟨k', b⟩, hfind, rfl⟩
    obtain rfl : k' = k := by simpa using List.find?_some hfind
    exact List.mem_of_find?_eq_some hfind
  · intro hmem
    cases hfind : d.entries.find? (·.1 = k) with
    | none => exact absurd hmem fun hm ↦ by simpa using List.find?_eq_none.mp hfind _ hm
    | some entry =>
      refine ⟨entry, rfl, ?_⟩
      have hk : entry.1 = k := by simpa using List.find?_some hfind
      have heq := List.inj_on_of_nodup_map d.nodup (List.mem_of_find?_eq_some hfind) hmem hk
      rw [heq]

/-- A lookup fails exactly when the key is absent. -/
theorem get?_eq_none_iff : d.get? k = none ↔ k ∉ d.entries.map Prod.fst := by
  rw [Option.eq_none_iff_forall_ne_some]
  constructor
  · intro h hk
    obtain ⟨⟨k', a⟩, hmem, rfl⟩ := List.mem_map.mp hk
    exact h a (get?_eq_some_iff.mpr hmem)
  · intro h a ha
    exact h (List.mem_map.mpr ⟨_, get?_eq_some_iff.mp ha, rfl⟩)

/-- An absent key is one that a lookup does not find. -/
theorem not_contains_iff : ¬ d.contains k = true ↔ d.get? k = none := by
  rw [get?_eq_none_iff, contains_iff]

/-- Assigning to a present key replaces its value in place. -/
theorem entries_set_of_mem (h : k ∈ d.entries.map Prod.fst) :
    (d.set k a).entries = d.entries.map (replace k a) := by
  rw [set, dif_pos (contains_iff.mpr h)]

/-- Assigning to a new key adds an entry at the end. -/
theorem entries_set_of_notMem (h : k ∉ d.entries.map Prod.fst) :
    (d.set k a).entries = d.entries ++ [(k, a)] := by
  rw [set, dif_neg fun hk ↦ h (contains_iff.mp hk)]

/-- A lookup after `d[k] = a`. -/
theorem get?_set : (d.set k a).get? k' = if k = k' then some a else d.get? k' := by
  by_cases hk : k ∈ d.entries.map Prod.fst
  · refine Option.ext fun b ↦ ?_
    rw [get?_eq_some_iff, entries_set_of_mem hk, List.mem_map]
    split
    · next heq =>
      subst heq
      constructor
      · rintro ⟨⟨k1, b1⟩, -, hentry⟩
        unfold replace at hentry
        split at hentry
        · simp_all
        · simp_all
      · intro hb
        obtain ⟨entry, hentry, hfst⟩ := List.mem_map.mp hk
        exact ⟨entry, hentry, by simp_all [replace]⟩
    · next hne =>
      rw [get?_eq_some_iff]
      constructor
      · rintro ⟨entry, hentry, heq⟩
        unfold replace at heq
        split at heq
        · simp_all
        · exact heq ▸ hentry
      · intro hb
        exact ⟨(k', b), hb, by simp [replace, Ne.symm hne]⟩
  · refine Option.ext fun b ↦ ?_
    rw [get?_eq_some_iff, entries_set_of_notMem hk, List.mem_append, List.mem_singleton]
    split
    · next heq =>
      subst heq
      constructor
      · rintro (hb | hb)
        · exact absurd (List.mem_map_of_mem hb) hk
        · simp_all
      · intro hb
        simp_all
    · next hne =>
      rw [get?_eq_some_iff]
      constructor
      · rintro (hb | hb)
        · exact hb
        · simp_all
      · exact .inl

/-- A value that a lookup finds is among the values. -/
theorem mem_values_of_get? (h : d.get? k = some a) : a ∈ d.values :=
  List.mem_map.mpr ⟨_, get?_eq_some_iff.mp h, rfl⟩

/-- Filling a dictionary with values under new, different keys lists them at its end. -/
theorem entries_foldl_set {key : α → κ} {xs : List α}
    (h : (d.entries.map Prod.fst ++ xs.map key).Nodup) :
    (xs.foldl (fun d x ↦ d.set (key x) x) d).entries =
      d.entries ++ xs.map fun x ↦ (key x, x) := by
  induction xs generalizing d with
  | nil => simp
  | cons x xs ih =>
    have hx : key x ∉ d.entries.map Prod.fst := by
      intro hmem
      exact (List.nodup_append.mp h).2.2 _ hmem _ (by simp) rfl
    have hset := entries_set_of_notMem (a := x) hx
    rw [List.foldl_cons, ih, hset, List.map_cons, List.append_assoc, List.singleton_append]
    rw [hset]
    simpa [List.append_assoc] using h

/-! ### Values that know their key -/

/-- Every value stands under the key that it carries. -/
def Keyed (key : α → κ) (d : Dict κ α) : Prop := ∀ entry ∈ d.entries, entry.1 = key entry.2

variable {key : α → κ}

omit [DecidableEq κ] in
/-- The entries of keyed values. -/
theorem Keyed.entries_eq (h : d.Keyed key) : d.entries = d.values.map fun x ↦ (key x, x) := by
  rw [values, List.map_map, List.map_congr_left (g := id), List.map_id]
  intro entry hentry
  exact Prod.ext (h entry hentry).symm rfl

omit [DecidableEq κ] in
/-- Keyed values have different keys. -/
theorem Keyed.nodup_values (h : d.Keyed key) : (d.values.map key).Nodup := by
  have hkeys : d.entries.map Prod.fst = d.values.map key := by
    rw [values, List.map_map]
    exact List.map_congr_left h
  rw [← hkeys]
  exact d.nodup

/-- Keyed values are found under their keys, and nothing else is. -/
theorem Keyed.get?_eq_some_iff (h : d.Keyed key) :
    d.get? k = some a ↔ a ∈ d.values ∧ key a = k := by
  rw [Dict.get?_eq_some_iff, h.entries_eq, List.mem_map]
  constructor
  · rintro ⟨b, hb, heq⟩
    obtain ⟨rfl, rfl⟩ := Prod.mk.inj heq
    exact ⟨hb, rfl⟩
  · rintro ⟨ha, rfl⟩
    exact ⟨a, ha, rfl⟩

/-- A key is present exactly when some keyed value carries it. -/
theorem Keyed.contains_iff (h : d.Keyed key) :
    d.contains k = true ↔ ∃ a ∈ d.values, key a = k := by
  rw [Dict.contains_iff, h.entries_eq, List.map_map]
  simp

/-- Assigning a value under its key keeps the values keyed. -/
theorem Keyed.set (h : d.Keyed key) : (d.set (key a) a).Keyed key := by
  intro entry hentry
  by_cases hk : key a ∈ d.entries.map Prod.fst
  · rw [entries_set_of_mem hk, List.mem_map] at hentry
    obtain ⟨old, hold, rfl⟩ := hentry
    unfold replace
    split
    · rfl
    · exact h old hold
  · rw [entries_set_of_notMem hk, List.mem_append, List.mem_singleton] at hentry
    rcases hentry with hentry | rfl
    · exact h entry hentry
    · rfl

/-- A value under a present key takes the place of the value that was there. -/
theorem Keyed.values_set_of_mem (h : d.Keyed key) (hk : ∃ b ∈ d.values, key b = key a) :
    (d.set (key a) a).values = d.values.map fun b ↦ if key b = key a then a else b := by
  have hmem : key a ∈ d.entries.map Prod.fst := Dict.contains_iff.mp (h.contains_iff.mpr hk)
  rw [values, entries_set_of_mem hmem, h.entries_eq, List.map_map, List.map_map]
  refine List.map_congr_left fun b _ ↦ ?_
  simp only [Function.comp_apply, replace]
  split <;> rfl

/-- A value under a new key comes last. -/
theorem Keyed.values_set_of_notMem (h : d.Keyed key) (hk : ∀ b ∈ d.values, key b ≠ key a) :
    (d.set (key a) a).values = d.values ++ [a] := by
  have hmem : key a ∉ d.entries.map Prod.fst := by
    intro hmem
    obtain ⟨b, hb, heq⟩ := h.contains_iff.mp (Dict.contains_iff.mpr hmem)
    exact hk b hb heq
  rw [values, entries_set_of_notMem hmem, List.map_append]
  rfl

/-- A dictionary of keyed values is filled from its values. -/
theorem Keyed.foldl_set (h : d.Keyed key) :
    d.values.foldl (fun e x ↦ e.set (key x) x) empty = d := by
  apply ext
  rw [entries_foldl_set, h.entries_eq]
  · rfl
  · exact h.nodup_values

end Dict
end FleetFlow
