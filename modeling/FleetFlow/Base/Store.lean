import Std.Data.ExtTreeMap
import Mathlib.Data.List.Sort
import Mathlib.Data.Option.Basic
import Mathlib.Order.Compare

/-!
# Keyed stores

Finite maps whose values know their own integer key, the shape of a repository that keeps
its entities by id. Values come out in key order. Two stores with the same lookups are equal.
-/

namespace FleetFlow

/-- Values stored under the key that they carry themselves. -/
structure Store {α : Type} (key : α → Int) where
  entries : Std.ExtTreeMap Int α
  keyed : ∀ k a, entries[k]? = some a → key a = k

/-- Each element of a list has a related one. -/
theorem exists_mem_of_forall₂ {α β : Type} {rel : α → β → Prop} {as : List α} {bs : List β}
    (h : List.Forall₂ rel as bs) {a : α} (ha : a ∈ as) : ∃ b ∈ bs, rel a b := by
  induction h with
  | nil => cases ha
  | cons hab _ ih =>
    rcases List.mem_cons.mp ha with rfl | ha
    · exact ⟨_, by simp, hab⟩
    · obtain ⟨b, hb, hrel⟩ := ih ha
      exact ⟨b, by simp [hb], hrel⟩

namespace Store

variable {α β : Type} {key : α → Int}

/-- The store without values. -/
def empty : Store key := ⟨∅, by simp⟩

/-- Look a key up. -/
def find? (s : Store key) (k : Int) : Option α := s.entries[k]?

/-- Store a value under its key, in place of any value there. -/
def put (s : Store key) (a : α) : Store key where
  entries := s.entries.insert (key a) a
  keyed k b h := by
    rw [Std.ExtTreeMap.getElem?_insert] at h
    split at h
    · next hc =>
      rw [Option.some.injEq] at h
      rw [← h]
      exact compare_eq_iff_eq.mp hc
    · exact s.keyed k b h

/-- Drop a key. -/
def remove (s : Store key) (k : Int) : Store key where
  entries := s.entries.erase k
  keyed k' b h := by
    rw [Std.ExtTreeMap.getElem?_erase] at h
    split at h
    · cases h
    · exact s.keyed k' b h

/-- All values, in key order. -/
def values (s : Store key) : List α := s.entries.toList.map Prod.snd

/-- Store a list of values, later ones in place of earlier ones with the same key. -/
def putAll (s : Store key) (xs : List α) : Store key := xs.foldl put s

/-- The store of a list of values. -/
def ofList (xs : List α) : Store key := putAll empty xs

variable {s t : Store key} {a b : α} {k : Int} {xs : List α}

/-! ### Lookups -/

@[simp, grind =] theorem find?_empty : (empty : Store key).find? k = none := by
  simp [find?, empty]

@[simp, grind =] theorem find?_put :
    (s.put a).find? k = if key a = k then some a else s.find? k := by
  simp only [find?, put, Std.ExtTreeMap.getElem?_insert, compare_eq_iff_eq]

@[simp, grind =] theorem find?_remove {k' : Int} :
    (s.remove k').find? k = if k' = k then none else s.find? k := by
  simp only [find?, remove, Std.ExtTreeMap.getElem?_erase, compare_eq_iff_eq]

/-- A value is found under its own key only. -/
@[grind →] theorem key_of_find? (h : s.find? k = some a) : key a = k := s.keyed k a h

/-- Two stores with the same lookups are equal. -/
@[ext] theorem ext (h : ∀ k, s.find? k = t.find? k) : s = t := by
  obtain ⟨es, hs⟩ := s
  obtain ⟨et, ht⟩ := t
  have : es = et := Std.ExtTreeMap.ext_getElem? (h ·)
  subst this
  rfl

/-- Storing a value that is there already changes nothing. -/
theorem put_eq_self (h : s.find? (key a) = some a) : s.put a = s := by
  ext k b
  rw [find?_put]
  split
  · next hk => rw [← hk, h]
  · rfl

/-- Only the last value stored under a key counts. -/
theorem put_put (h : key a = key b) : (s.put a).put b = s.put b := by
  ext k c
  simp only [find?_put, h]
  split <;> rfl

/-- Dropping a key forgets what was stored under it last. -/
theorem remove_put (h : key a = k) : (s.put a).remove k = s.remove k := by
  ext k' b
  simp only [find?_remove, find?_put, h]
  split <;> rfl

/-! ### Values -/

/-- The values are exactly the ones that lookups find. -/
theorem mem_values : a ∈ s.values ↔ s.find? (key a) = some a := by
  unfold values find?
  rw [List.mem_map]
  constructor
  · rintro ⟨⟨k, b⟩, hmem, rfl⟩
    rw [Std.ExtTreeMap.mem_toList_iff_getElem?_eq_some] at hmem
    rwa [s.keyed k b hmem]
  · intro h
    exact ⟨(key a, a), Std.ExtTreeMap.mem_toList_iff_getElem?_eq_some.mpr h, rfl⟩

/-- A found value is among the values. -/
theorem mem_values_of_find? (h : s.find? k = some a) : a ∈ s.values :=
  mem_values.mpr (key_of_find? h ▸ h)

/-- Nothing is stored under the key of no value. -/
theorem find?_eq_none_of_perm {xs : List α} (h : xs.Perm s.values) (hk : k ∉ xs.map key) :
    s.find? k = none := by
  rw [Option.eq_none_iff_forall_ne_some]
  intro a ha
  refine hk (List.mem_map.mpr ⟨a, ?_, s.keyed k a ha⟩)
  exact h.mem_iff.mpr (mem_values_of_find? ha)

private theorem map_key_values : s.values.map key = s.entries.toList.map Prod.fst := by
  unfold values
  rw [List.map_map]
  refine List.map_congr_left fun p hp ↦ ?_
  obtain ⟨k, b⟩ := p
  exact s.keyed k b (Std.ExtTreeMap.mem_toList_iff_getElem?_eq_some.mp hp)

/-- Values come in strictly increasing key order. -/
theorem sorted_values : (s.values.map key).Pairwise (· < ·) := by
  rw [map_key_values, List.pairwise_map]
  exact Std.ExtTreeMap.ordered_keys_toList.imp fun h ↦ compare_lt_iff_lt.mp h

/-- The keys of the values are distinct. -/
theorem nodup_values : (s.values.map key).Nodup :=
  sorted_values.imp fun h ↦ h.ne

/-- Without values there are no lookups. -/
@[simp] theorem values_empty : (empty : Store key).values = [] := by
  rw [List.eq_nil_iff_forall_not_mem]
  intro a h
  rw [mem_values, find?_empty] at h
  cases h

/-! ### Storing lists -/

@[simp] theorem putAll_nil : s.putAll [] = s := rfl

@[simp] theorem putAll_cons : s.putAll (a :: xs) = (s.put a).putAll xs := rfl

/-- A key of a list of distinct keys is found at its value, any other key as before. -/
theorem find?_putAll (hnd : (xs.map key).Nodup) :
    (s.putAll xs).find? k = ((xs.find? fun x ↦ key x = k) <|> s.find? k) := by
  induction xs generalizing s with
  | nil => simp
  | cons x xs ih =>
    rw [List.map_cons, List.nodup_cons] at hnd
    rw [putAll_cons, ih hnd.2, find?_put]
    by_cases hx : key x = k
    · have hnone : xs.find? (fun x ↦ key x = k) = none := by
        rw [List.find?_eq_none]
        intro y hy hyk
        exact hnd.1 (List.mem_map.mpr ⟨y, hy, by simp_all⟩)
      simp [hx, hnone]
    · simp [hx]

/-- Storing values that are there already changes nothing. -/
theorem putAll_eq_self (h : ∀ a ∈ xs, s.find? (key a) = some a) : s.putAll xs = s := by
  induction xs with
  | nil => rfl
  | cons a rest ih =>
    rw [putAll_cons, put_eq_self (h a (by simp)), ih fun b hb ↦ h b (by simp [hb])]

/-- Storing a list leaves other keys alone. -/
theorem find?_putAll_of_notMem (h : k ∉ xs.map key) : (s.putAll xs).find? k = s.find? k := by
  induction xs generalizing s with
  | nil => rfl
  | cons x xs ih =>
    rw [List.map_cons, List.mem_cons, not_or] at h
    rw [putAll_cons, ih h.2, find?_put, if_neg (Ne.symm h.1)]

/-- A listed value with a key of its own is found. -/
theorem find?_putAll_of_mem (hnd : (xs.map key).Nodup) (h : a ∈ xs) :
    (s.putAll xs).find? (key a) = some a := by
  rw [find?_putAll hnd]
  have hf : xs.find? (fun x ↦ key x = key a) = some a := by
    cases hc : xs.find? (fun x ↦ key x = key a) with
    | none =>
      have := List.find?_eq_none.mp hc a h
      simp at this
    | some b =>
      have hb := List.mem_of_find?_eq_some hc
      have hk : key b = key a := by simpa using List.find?_some hc
      rw [List.inj_on_of_nodup_map hnd hb h hk]
  simp [hf]

/-- What is found after storing a list came from the list or was there before. -/
theorem mem_or_find?_of_putAll (h : (s.putAll xs).find? k = some a) :
    a ∈ xs ∨ s.find? k = some a := by
  induction xs generalizing s with
  | nil => exact .inr h
  | cons x xs ih =>
    rw [putAll_cons] at h
    rcases ih h with h | h
    · exact .inl (List.mem_cons_of_mem _ h)
    · rw [find?_put] at h
      split at h
      · rw [Option.some.injEq] at h
        exact .inl (h ▸ List.mem_cons_self)
      · exact .inr h

/-- A value is found in the store of a list with distinct keys exactly when it is listed. -/
theorem find?_ofList_eq_some_iff (hnd : (xs.map key).Nodup) :
    (ofList xs : Store key).find? k = some a ↔ a ∈ xs ∧ key a = k := by
  constructor
  · intro h
    refine ⟨?_, key_of_find? h⟩
    rcases mem_or_find?_of_putAll h with h | h
    · exact h
    · rw [find?_empty] at h
      cases h
  · rintro ⟨h, rfl⟩
    exact find?_putAll_of_mem hnd h

/-! ### Properties of all values -/

/-- A store is the store of its values. -/
theorem ofList_values : (ofList s.values : Store key) = s := by
  ext k a
  rw [find?_ofList_eq_some_iff nodup_values]
  constructor
  · rintro ⟨hmem, rfl⟩
    exact mem_values.mp hmem
  · exact fun h ↦ ⟨mem_values_of_find? h, key_of_find? h⟩

/-- Every stored value has a property. -/
def All (p : α → Prop) (s : Store key) : Prop := ∀ k a, s.find? k = some a → p a

variable {p q : α → Prop}

/-- Nothing is stored in the empty store. -/
theorem all_empty : (empty : Store key).All p := fun k a h ↦ by
  rw [find?_empty] at h
  cases h

/-- Storing a value that has the property keeps it. -/
theorem All.put (h : s.All p) (ha : p a) : (s.put a).All p := fun k b hb ↦ by
  rw [find?_put] at hb
  split at hb
  · rw [Option.some.injEq] at hb
    exact hb ▸ ha
  · exact h k b hb

/-- Dropping a key keeps the property of the rest. -/
theorem All.remove (h : s.All p) : (s.remove k).All p := fun k' b hb ↦ by
  rw [find?_remove] at hb
  split at hb
  · cases hb
  · exact h k' b hb

/-- A weaker property holds too. -/
theorem All.imp (h : s.All p) (hpq : ∀ a, p a → q a) : s.All q := fun k a hb ↦ hpq a (h k a hb)

/-! ### Stores with related values -/

/-- Both stores have the same keys, and related values under them. -/
structure Related (rel : α → α → Prop) (s t : Store key) : Prop where
  forward : ∀ {k a}, s.find? k = some a → ∃ b, t.find? k = some b ∧ rel a b
  backward : ∀ {k b}, t.find? k = some b → ∃ a, s.find? k = some a ∧ rel a b

/-- It is enough that each value has a related one and that no key is new. -/
theorem related_of_forward {rel : α → α → Prop}
    (h : ∀ k a, s.find? k = some a → ∃ b, t.find? k = some b ∧ rel a b)
    (hkeys : ∀ k, s.find? k = none → t.find? k = none) : Related rel s t := by
  refine ⟨h _ _, fun {k b} hb ↦ ?_⟩
  cases hs : s.find? k with
  | none => rw [hkeys k hs] at hb; cases hb
  | some a =>
    obtain ⟨b', hb', hrel⟩ := h k a hs
    rw [hb, Option.some.injEq] at hb'
    exact ⟨a, rfl, hb' ▸ hrel⟩

/-- Values are related to what a map makes of them. -/
theorem related_of_map {rel : α → α → Prop} {f : α → α}
    (h : ∀ k, t.find? k = (s.find? k).map f)
    (hrel : ∀ k a, s.find? k = some a → rel a (f a)) : Related rel s t := by
  apply related_of_forward
  · intro k a ha
    exact ⟨f a, by rw [h, ha, Option.map_some], hrel k a ha⟩
  · intro k hk
    rw [h, hk, Option.map_none]

/-- A store is related to itself by a reflexive relation. -/
theorem related_refl {rel : α → α → Prop} (hrel : ∀ a, rel a a) : Related rel s s :=
  ⟨fun {_ a} ha ↦ ⟨a, ha, hrel a⟩, fun {_ a} ha ↦ ⟨a, ha, hrel a⟩⟩

/-- Related values stay related by a weaker relation. -/
theorem Related.mono {rel rel' : α → α → Prop} (h : Related rel s t)
    (hrel : ∀ {a b}, rel a b → rel' a b) : Related rel' s t where
  forward ha := by
    obtain ⟨b, hb, hab⟩ := h.forward ha
    exact ⟨b, hb, hrel hab⟩
  backward hb := by
    obtain ⟨a, ha, hab⟩ := h.backward hb
    exact ⟨a, ha, hrel hab⟩

/-- Related stores have the same keys. -/
theorem Related.find?_eq_none_iff {rel : α → α → Prop} (h : Related rel s t) {k : Int} :
    s.find? k = none ↔ t.find? k = none := by
  constructor
  · intro hs
    apply Option.eq_none_iff_forall_ne_some.mpr
    intro b hb
    obtain ⟨a, ha, -⟩ := h.backward hb
    rw [hs] at ha
    cases ha
  · intro ht
    apply Option.eq_none_iff_forall_ne_some.mpr
    intro a ha
    obtain ⟨b, hb, -⟩ := h.forward ha
    rw [ht] at hb
    cases hb

/-- One relation after another. -/
theorem Related.comp {rel rel' rel'' : α → α → Prop} {v : Store key} (h : Related rel s t)
    (h' : Related rel' t v)
    (hrel : ∀ {k a b c}, s.find? k = some a → rel a b → rel' b c → rel'' a c) :
    Related rel'' s v := by
  constructor
  · intro k a ha
    obtain ⟨b, hb, hab⟩ := h.forward ha
    obtain ⟨c, hc, hbc⟩ := h'.forward hb
    exact ⟨c, hc, hrel ha hab hbc⟩
  · intro k c hc
    obtain ⟨b, hb, hbc⟩ := h'.backward hc
    obtain ⟨a, ha, hab⟩ := h.backward hb
    exact ⟨a, ha, hrel ha hab hbc⟩

/-- What becomes of two related stores. -/
theorem Related.square {rel rel' left right : α → α → Prop} {s' t' : Store key}
    (h : Related rel s t) (hs : Related left s s') (ht : Related right t t')
    (hrel : ∀ {k a b a' b'}, s.find? k = some a → t.find? k = some b → rel a b → left a a' →
      right b b' → rel' a' b') : Related rel' s' t' := by
  constructor
  · intro k a' ha'
    obtain ⟨a, ha, hleft⟩ := hs.backward ha'
    obtain ⟨b, hb, hab⟩ := h.forward ha
    obtain ⟨b', hb', hright⟩ := ht.forward hb
    exact ⟨b', hb', hrel ha hb hab hleft hright⟩
  · intro k b' hb'
    obtain ⟨b, hb, hright⟩ := ht.backward hb'
    obtain ⟨a, ha, hab⟩ := h.backward hb
    obtain ⟨a', ha', hleft⟩ := hs.forward ha
    exact ⟨a', ha', hrel ha hb hab hleft hright⟩

/-- What becomes of one store in two ways. -/
theorem Related.fork {rel left right : α → α → Prop} {v : Store key} (h : Related left s t)
    (h' : Related right s v)
    (hrel : ∀ {k a b c}, s.find? k = some a → left a b → right a c → rel b c) :
    Related rel t v :=
  (related_refl (fun _ ↦ rfl : ∀ a, a = a)).square h h' fun ha _ hab hleft hright ↦
    hrel ha hleft (hab ▸ hright)

/-- Stores with the same values are equal. -/
theorem Related.eq (h : Related (fun a b ↦ b = a) s t) : t = s := by
  apply Store.ext
  intro k
  cases hs : s.find? k with
  | none => exact h.find?_eq_none_iff.mp hs
  | some a =>
    obtain ⟨b, hb, rfl⟩ := h.forward hs
    exact hb

/-- Storing another value that is related to the first one under its key. -/
theorem Related.put {rel : α → α → Prop} (h : Related rel s t) (ha : s.find? k = some a)
    (hkey : key b = k) (hrel : rel a b) : Related rel s (t.put b) := by
  constructor
  · intro k' a' ha'
    by_cases hk : k' = k
    · subst hk
      obtain rfl := Option.some.inj (ha.symm.trans ha')
      exact ⟨b, by rw [find?_put, if_pos hkey], hrel⟩
    · obtain ⟨b', hb', hrel'⟩ := h.forward ha'
      exact ⟨b', by rw [find?_put, if_neg fun hb ↦ hk (hb.symm.trans hkey), hb'], hrel'⟩
  · intro k' b' hb'
    rw [find?_put] at hb'
    split at hb'
    · next hk =>
      rw [Option.some.injEq] at hb'
      subst hb'
      exact ⟨a, by rw [← hk, hkey, ha], hrel⟩
    · exact h.backward hb'

/-- Related stores list their related values in the same order. -/
theorem Related.forall₂_values {rel : α → α → Prop} (h : Related rel s t) :
    List.Forall₂ (fun a b ↦ s.find? (key a) = some a ∧ t.find? (key a) = some b ∧ rel a b)
      s.values t.values := by
  have hkeys : s.values.map key = t.values.map key := by
    have hperm : (s.values.map key).Perm (t.values.map key) := by
      apply (List.perm_ext_iff_of_nodup nodup_values nodup_values).mpr
      intro k
      constructor
      · intro hk
        obtain ⟨a, ha, rfl⟩ := List.mem_map.mp hk
        obtain ⟨b, hb, -⟩ := h.forward (mem_values.mp ha)
        exact List.mem_map.mpr ⟨b, mem_values_of_find? hb, key_of_find? hb⟩
      · intro hk
        obtain ⟨b, hb, rfl⟩ := List.mem_map.mp hk
        obtain ⟨a, ha, -⟩ := h.backward (mem_values.mp hb)
        exact List.mem_map.mpr ⟨a, mem_values_of_find? ha, key_of_find? ha⟩
    apply hperm.eq_of_pairwise _ sorted_values sorted_values
    intro a b _ _ hab hba
    omega
  have hlength : s.values.length = t.values.length := by
    simpa using congrArg List.length hkeys
  apply List.forall₂_iff_get.mpr
  refine ⟨hlength, fun i hi hi' ↦ ?_⟩
  have hkey : key s.values[i] = key t.values[i] := by
    have hget := congrArg (·[i]?) hkeys
    simpa [hi, hi'] using hget
  have ha : s.find? (key s.values[i]) = some s.values[i] := mem_values.mp (List.getElem_mem hi)
  have hb : t.find? (key t.values[i]) = some t.values[i] := mem_values.mp (List.getElem_mem hi')
  obtain ⟨b, hb', hrel⟩ := h.forward ha
  rw [hkey, hb, Option.some.injEq] at hb'
  subst hb'
  exact ⟨ha, hkey ▸ hb, hrel⟩

/-- What is read alike of related values is listed alike. -/
theorem Related.map_values {β : Type} {rel : α → α → Prop} (h : Related rel s t) {f g : α → β}
    (hfg : ∀ {a b}, s.find? (key a) = some a → t.find? (key a) = some b → rel a b → f a = g b) :
    s.values.map f = t.values.map g := by
  have hvalues := h.forall₂_values
  revert hvalues
  generalize s.values = xs
  generalize t.values = ys
  intro hvalues
  induction hvalues with
  | nil => rfl
  | cons hab _ ih =>
    obtain ⟨ha, hb, hrel⟩ := hab
    rw [List.map_cons, List.map_cons, hfg ha hb hrel, ih]

/-! ### Stores made from lists of records -/

section Listing

variable {id : β → Int} {rel rel' : β → α → Prop} {items : List β}

/-- A store with one value for each record of a list, under the id of the record. -/
structure Lists (id : β → Int) (rel : β → α → Prop) (items : List β) (s : Store key) : Prop where
  forward : ∀ {b}, b ∈ items → ∃ a, s.find? (id b) = some a ∧ rel b a
  backward : ∀ {k a}, s.find? k = some a → ∃ b ∈ items, id b = k ∧ rel b a

/-- Nothing stands for no record. -/
theorem lists_empty : (empty : Store key).Lists id rel [] := by
  constructor
  · intro b hb
    cases hb
  · intro k a ha
    rw [find?_empty] at ha
    cases ha

/-- It is enough that each record has its value and that no other key is there. -/
theorem lists_of_forward (h : ∀ b ∈ items, ∃ a, s.find? (id b) = some a ∧ rel b a)
    (hnone : ∀ k, k ∉ items.map id → s.find? k = none) : s.Lists id rel items := by
  refine ⟨h _, fun {k a} ha ↦ ?_⟩
  by_cases hk : k ∈ items.map id
  · obtain ⟨b, hb, rfl⟩ := List.mem_map.mp hk
    obtain ⟨a', ha', hrel⟩ := h b hb
    rw [ha, Option.some.injEq] at ha'
    exact ⟨b, hb, rfl, ha' ▸ hrel⟩
  · rw [hnone k hk] at ha
    cases ha

/-- Nothing is stored under the ids of no record. -/
theorem Lists.find?_eq_none (h : s.Lists id rel items) {k : Int} (hk : k ∉ items.map id) :
    s.find? k = none := by
  rw [Option.eq_none_iff_forall_ne_some]
  intro a ha
  obtain ⟨b, hb, hid, -⟩ := h.backward ha
  exact hk (List.mem_map.mpr ⟨b, hb, hid⟩)

/-- The value under the id of a record belongs to this record. -/
theorem Lists.rel_of_find? (h : s.Lists id rel items) (hnd : (items.map id).Nodup) {b : β}
    (hb : b ∈ items) (ha : s.find? (id b) = some a) : rel b a := by
  obtain ⟨b', hb', hid, hrel⟩ := h.backward ha
  rwa [List.inj_on_of_nodup_map hnd hb' hb hid] at hrel

/-- Changing the value of one record. -/
theorem Lists.put (h : s.Lists id rel items) {k : Int} (hkey : key a = k)
    (hmem : k ∈ items.map id) (hnew : ∀ b ∈ items, id b = k → rel' b a)
    (hold : ∀ b ∈ items, id b ≠ k → ∀ a', rel b a' → rel' b a') :
    (s.put a).Lists id rel' items := by
  constructor
  · intro b hb
    rw [find?_put, hkey]
    by_cases hid : k = id b
    · rw [if_pos hid]
      exact ⟨a, rfl, hnew b hb hid.symm⟩
    · rw [if_neg hid]
      obtain ⟨a', ha', hrel⟩ := h.forward hb
      exact ⟨a', ha', hold b hb (Ne.symm hid) a' hrel⟩
  · intro k' a' ha'
    rw [find?_put, hkey] at ha'
    split at ha'
    · next hk =>
      obtain ⟨b, hb, hid⟩ := List.mem_map.mp hmem
      rw [← Option.some.inj ha']
      exact ⟨b, hb, hid.trans hk, hnew b hb hid⟩
    · next hk =>
      obtain ⟨b, hb, hid, hrel⟩ := h.backward ha'
      exact ⟨b, hb, hid, hold b hb (fun heq ↦ hk (heq.symm.trans hid)) a' hrel⟩

/-- Adding the value of a new record. -/
theorem Lists.put_new (h : s.Lists id rel items) {b : β} (hnew : id b ∉ items.map id)
    (hkey : key a = id b) (hrel : rel b a) : (s.put a).Lists id rel (items ++ [b]) := by
  constructor
  · intro b' hb'
    rw [find?_put, hkey]
    rcases List.mem_append.mp hb' with hb' | hb'
    · have hne : ¬ id b = id b' := by
        intro heq
        exact hnew (List.mem_map.mpr ⟨b', hb', heq.symm⟩)
      rw [if_neg hne]
      exact h.forward hb'
    · rw [List.mem_singleton.mp hb', if_pos rfl]
      exact ⟨a, rfl, hrel⟩
  · intro k a' ha'
    rw [find?_put, hkey] at ha'
    split at ha'
    · next hk =>
      rw [← Option.some.inj ha']
      exact ⟨b, by simp, hk, hrel⟩
    · obtain ⟨b', hb', hid, hrel'⟩ := h.backward ha'
      exact ⟨b', by simp [hb'], hid, hrel'⟩

/-- The values of records with different ids. -/
theorem lists_ofList (h : List.Forall₂ rel items xs) (hnd : (items.map id).Nodup)
    (hkey : ∀ b a, rel b a → key a = id b) : (ofList xs : Store key).Lists id rel items := by
  have hkeys : xs.map key = items.map id := by
    clear hnd
    induction h with
    | nil => rfl
    | cons hrel _ ih => rw [List.map_cons, List.map_cons, ih, hkey _ _ hrel]
  have hnd' : (xs.map key).Nodup := hkeys ▸ hnd
  constructor
  · intro b hb
    obtain ⟨a, ha, hrel⟩ := exists_mem_of_forall₂ h hb
    exact ⟨a, (find?_ofList_eq_some_iff hnd').mpr ⟨ha, hkey _ _ hrel⟩, hrel⟩
  · intro k a ha
    obtain ⟨hmem, rfl⟩ := (find?_ofList_eq_some_iff hnd').mp ha
    obtain ⟨b, hb, hrel⟩ := exists_mem_of_forall₂ h.flip hmem
    exact ⟨b, hb, (hkey _ _ hrel).symm, hrel⟩

end Listing

/-! ### Stores that differ at listed values -/

/-- At most the listed values of the first store have changed, each to a related one. -/
structure Differs (rel : α → α → Prop) (xs : List α) (s t : Store key) : Prop where
  listed : ∀ a ∈ xs, s.find? (key a) = some a ∧ ∃ b, t.find? (key a) = some b ∧ rel a b
  kept : ∀ k, k ∉ xs.map key → t.find? k = s.find? k

namespace Differs

variable {rel : α → α → Prop}

/-- Before any change nothing differs. -/
theorem refl (hrel : ∀ a, rel a a) (h : ∀ a ∈ xs, s.find? (key a) = some a) :
    Differs rel xs s s :=
  ⟨fun a ha ↦ ⟨h a ha, a, h a ha, hrel a⟩, fun _ _ ↦ rfl⟩

/-- Stores that differ nowhere are equal. -/
theorem eq (h : Differs rel [] s t) : t = s := by
  ext k
  rw [h.kept k (by simp)]

/-- Under a key whose value is listed, a related value is found. -/
theorem exists_of_find? (h : Differs rel xs s t) (hall : ∀ a, s.find? k = some a → a ∈ xs)
    (hfind : t.find? k = some b) : ∃ a ∈ xs, key a = k ∧ rel a b := by
  by_cases hk : k ∈ xs.map key
  · obtain ⟨a, ha, rfl⟩ := List.mem_map.mp hk
    obtain ⟨-, b', hb', hrel⟩ := h.listed a ha
    obtain rfl : b' = b := Option.some.inj (hb'.symm.trans hfind)
    exact ⟨a, ha, rfl, hrel⟩
  · have hs : s.find? k = some b := (h.kept k hk).symm.trans hfind
    exact absurd (List.mem_map.mpr ⟨b, hall b hs, key_of_find? hs⟩) hk

/-- Changing a listed value once more. -/
theorem put (h : Differs rel xs s t) (ha : a ∈ xs) (hkey : key b = key a) (hrel : rel a b) :
    Differs rel xs s (t.put b) := by
  constructor
  · intro x hx
    obtain ⟨hfind, y, hy, hxy⟩ := h.listed x hx
    refine ⟨hfind, ?_⟩
    rw [find?_put, hkey]
    by_cases hk : key a = key x
    · obtain rfl : a = x := Option.some.inj ((h.listed a ha).1.symm.trans (hk ▸ hfind))
      exact ⟨b, if_pos rfl, hrel⟩
    · exact ⟨y, by rw [if_neg hk, hy], hxy⟩
  · intro k hk
    have hne : key b ≠ k := fun heq ↦ hk (List.mem_map.mpr ⟨a, ha, hkey.symm.trans heq⟩)
    rw [find?_put, if_neg hne, h.kept k hk]

/-- Putting a listed value back. -/
theorem restore (h : Differs rel (a :: xs) s t) (hrel : ∀ a, rel a a) :
    Differs rel xs s (t.put a) := by
  have ha := (h.listed a (by simp)).1
  constructor
  · intro x hx
    obtain ⟨hfind, y, hy, hxy⟩ := h.listed x (by simp [hx])
    refine ⟨hfind, ?_⟩
    rw [find?_put]
    by_cases hk : key a = key x
    · obtain rfl : a = x := Option.some.inj (ha.symm.trans (hk ▸ hfind))
      exact ⟨a, if_pos rfl, hrel a⟩
    · exact ⟨y, by rw [if_neg hk, hy], hxy⟩
  · intro k hk
    rw [find?_put]
    split
    · next hka => rw [← hka, ha]
    · next hka => exact h.kept k (by simp [hk, Ne.symm hka])

end Differs
end Store
end FleetFlow
