import FleetFlow.Base.Rows
import Mathlib.Data.Prod.Lex

/-!
# Rankings and pages

The first elements of a list in the order of a key, which may be selected batch by batch, and the
pages of rows that are fetched one after another by the key of the last row.
-/

namespace FleetFlow

section Ranking

variable {α κ : Type} [LinearOrder κ] (key : α → κ)

/-- `heapq.nsmallest`: the first `n` elements in the order of a key. -/
def nsmallest (n : Nat) (xs : List α) : List α :=
  (xs.mergeSort fun a b ↦ decide (key a ≤ key b)).take n

variable {key} {n : Nat} {xs ys : List α}

/-- A sorted list is sorted. -/
theorem pairwise_mergeSort_key (xs : List α) :
    (xs.mergeSort fun a b ↦ decide (key a ≤ key b)).Pairwise fun a b ↦ key a ≤ key b := by
  have hpairwise : (xs.mergeSort fun a b ↦ decide (key a ≤ key b)).Pairwise
      fun a b ↦ decide (key a ≤ key b) = true := by
    apply List.pairwise_mergeSort
    · intro a b c hab hbc
      simp only [decide_eq_true_eq] at *
      exact hab.trans hbc
    · intro a b
      simp only [Bool.or_eq_true, decide_eq_true_eq]
      exact le_total (key a) (key b)
  exact hpairwise.imp of_decide_eq_true

variable (key) in
/-- Elements with different keys have one sorted order. -/
theorem eq_of_perm_of_sorted (hperm : xs.Perm ys) (hnd : (ys.map key).Nodup)
    (hxs : xs.Pairwise fun a b ↦ key a ≤ key b) (hys : ys.Pairwise fun a b ↦ key a ≤ key b) :
    xs = ys := by
  apply hperm.eq_of_pairwise _ hxs hys
  intro a b ha hb hab hba
  exact List.inj_on_of_nodup_map hnd (hperm.mem_iff.mp ha) hb (le_antisymm hab hba)

/-- The first elements of a merge come from the first elements of both lists. -/
theorem take_merge {le : α → α → Bool} {a b : Nat} (ha : n ≤ a) (hb : n ≤ b) (xs ys : List α) :
    (List.merge xs ys le).take n = (List.merge (xs.take a) (ys.take b) le).take n := by
  induction n generalizing a b xs ys with
  | zero => rfl
  | succ n ih =>
    obtain ⟨a, rfl⟩ := Nat.exists_eq_succ_of_ne_zero (Nat.pos_iff_ne_zero.mp (by omega : 0 < a))
    obtain ⟨b, rfl⟩ := Nat.exists_eq_succ_of_ne_zero (Nat.pos_iff_ne_zero.mp (by omega : 0 < b))
    cases xs with
    | nil => simp [List.take_take, hb]
    | cons x xs =>
      cases ys with
      | nil => simpa [List.take_take] using by omega
      | cons y ys =>
        rw [List.take_succ_cons, List.take_succ_cons]
        by_cases hxy : le x y = true
        · rw [List.cons_merge_cons_pos le xs ys hxy,
            List.cons_merge_cons_pos le (xs.take a) (ys.take b) hxy, List.take_succ_cons,
            List.take_succ_cons, ih (a := a) (b := b + 1) (by omega) (by omega)]
          rfl
        · rw [List.cons_merge_cons_neg le xs ys hxy,
            List.cons_merge_cons_neg le (xs.take a) (ys.take b) hxy, List.take_succ_cons,
            List.take_succ_cons, ih (a := a + 1) (b := b) (by omega) (by omega)]
          rfl

/-- Sorting two lists together merges the sorted lists. -/
theorem mergeSort_append (hnd : ((xs ++ ys).map key).Nodup) :
    (xs ++ ys).mergeSort (fun a b ↦ decide (key a ≤ key b)) =
      List.merge (xs.mergeSort fun a b ↦ decide (key a ≤ key b))
        (ys.mergeSort fun a b ↦ decide (key a ≤ key b)) fun a b ↦ decide (key a ≤ key b) := by
  have hperm : (List.merge (xs.mergeSort fun a b ↦ decide (key a ≤ key b))
      (ys.mergeSort fun a b ↦ decide (key a ≤ key b)) fun a b ↦ decide (key a ≤ key b)).Perm
        (xs ++ ys) := by
    apply (List.merge_perm_append fun a b ↦ decide (key a ≤ key b)).trans
    exact (List.mergeSort_perm xs _).append (List.mergeSort_perm ys _)
  apply eq_of_perm_of_sorted key
  · exact (List.mergeSort_perm (xs ++ ys) _).trans hperm.symm
  · exact (hperm.map key).nodup_iff.mpr hnd
  · exact pairwise_mergeSort_key (xs ++ ys)
  · have hmerge : (List.merge (xs.mergeSort fun a b ↦ decide (key a ≤ key b))
        (ys.mergeSort fun a b ↦ decide (key a ≤ key b)) fun a b ↦ decide (key a ≤ key b)).Pairwise
          fun a b ↦ decide (key a ≤ key b) = true := by
      apply List.pairwise_merge
      · intro a b c hab hbc
        simp only [decide_eq_true_eq] at *
        exact hab.trans hbc
      · intro a b
        simp only [Bool.or_eq_true, decide_eq_true_eq]
        exact le_total (key a) (key b)
      · exact (pairwise_mergeSort_key xs).imp decide_eq_true
      · exact (pairwise_mergeSort_key ys).imp decide_eq_true
    exact hmerge.imp of_decide_eq_true

/-- What is not among the first elements of its batch is not among the first elements of all. -/
theorem nsmallest_append (hnd : ((xs ++ ys).map key).Nodup) :
    nsmallest key n (nsmallest key n xs ++ nsmallest key n ys) = nsmallest key n (xs ++ ys) := by
  have hsub : ∀ zs : List α, (nsmallest key n zs).Sublist
      (zs.mergeSort fun a b ↦ decide (key a ≤ key b)) := fun zs ↦ List.take_sublist _ _
  have hpart : ((nsmallest key n xs ++ nsmallest key n ys).map key).Nodup := by
    have hall : (((xs.mergeSort fun a b ↦ decide (key a ≤ key b)) ++
        ys.mergeSort fun a b ↦ decide (key a ≤ key b)).map key).Nodup :=
      (((List.mergeSort_perm xs _).append (List.mergeSort_perm ys _)).map key).nodup_iff.mpr hnd
    exact hall.sublist (((hsub xs).append (hsub ys)).map key)
  have hsorted : ∀ zs : List α,
      (nsmallest key n zs).mergeSort (fun a b ↦ decide (key a ≤ key b)) = nsmallest key n zs :=
    fun zs ↦ List.mergeSort_of_pairwise
      (((pairwise_mergeSort_key zs).sublist (hsub zs)).imp decide_eq_true)
  show ((nsmallest key n xs ++ nsmallest key n ys).mergeSort _).take n =
    ((xs ++ ys).mergeSort _).take n
  rw [mergeSort_append hpart, mergeSort_append hnd, hsorted, hsorted]
  exact (take_merge le_rfl le_rfl _ _).symm

/-- There are as many first elements as asked for, or as there are. -/
theorem length_nsmallest (xs : List α) : (nsmallest key n xs).length = min n xs.length := by
  unfold nsmallest
  rw [List.length_take, List.length_mergeSort]

theorem mem_of_mem_nsmallest {a : α} (h : a ∈ nsmallest key n xs) : a ∈ xs :=
  (List.mergeSort_perm xs _).mem_iff.mp (List.mem_of_mem_take h)

/-- Different keys sort strictly. -/
theorem pairwise_lt_mergeSort (hnd : (xs.map key).Nodup) :
    (xs.mergeSort fun a b ↦ decide (key a ≤ key b)).Pairwise fun a b ↦ key a < key b := by
  have hsorted : (xs.mergeSort fun a b ↦ decide (key a ≤ key b)).Pairwise
      fun a b ↦ key a ≤ key b := pairwise_mergeSort_key xs
  have hperm := (List.mergeSort_perm xs fun a b ↦ decide (key a ≤ key b)).map key
  have hne := List.pairwise_map.mp (hperm.nodup_iff.mpr hnd)
  exact hsorted.imp₂ (fun _ _ ↦ lt_of_le_of_ne) hne

/-- The first elements are sorted. -/
theorem pairwise_nsmallest (hnd : (xs.map key).Nodup) :
    (nsmallest key n xs).Pairwise fun a b ↦ key a < key b :=
  (pairwise_lt_mergeSort hnd).sublist (List.take_sublist _ _)

/-- An element that is left out has all the places taken before it. -/
theorem mem_nsmallest_or (hnd : (xs.map key).Nodup) {a : α} (h : a ∈ xs) :
    a ∈ nsmallest key n xs ∨
      (nsmallest key n xs).length = n ∧ ∀ b ∈ nsmallest key n xs, key b < key a := by
  have hsorted := pairwise_lt_mergeSort hnd
  have hmem : a ∈ xs.mergeSort fun a b ↦ decide (key a ≤ key b) :=
    (List.mergeSort_perm xs _).mem_iff.mpr h
  rw [← List.take_append_drop n (xs.mergeSort fun a b ↦ decide (key a ≤ key b))] at hmem hsorted
  rcases List.mem_append.mp hmem with hleft | hright
  · exact .inl hleft
  · refine .inr ⟨?_, fun b hb ↦ (List.pairwise_append.mp hsorted).2.2 b hb a hright⟩
    have hpos := List.length_pos_of_mem hright
    rw [List.length_drop] at hpos
    unfold nsmallest
    rw [List.length_take]
    omega

end Ranking

section Pages

variable {ρ σ : Type} (key : ρ → Int)

/-- At most `limit` rows after a key. -/
def pageAfter (limit : Nat) (after : Int) (rows : List ρ) : List ρ :=
  (rows.filter fun row ↦ after < key row).take limit

/-- Work through the pages of some rows, at most `rounds` fetches. -/
def foldPages (limit : Nat) (step : σ → List ρ → Except PyError σ) (rows : List ρ) :
    Nat → Int → σ → Except PyError (Option σ)
  | 0, _, _ => .ok none
  | rounds + 1, after, s =>
    match (pageAfter key limit after rows).getLast? with
    | none => .ok (some s)
    | some last => do
      let s' ← step s (pageAfter key limit after rows)
      foldPages limit step rows rounds (key last) s'

variable {key} {limit : Nat} {after : Int} {done rest rows : List ρ}

/-- The rows after the last one that is done are the next ones. -/
theorem pageAfter_append (hdone : ∀ row ∈ done, key row ≤ after)
    (hrest : ∀ row ∈ rest, after < key row) :
    pageAfter key limit after (done ++ rest) = rest.take limit := by
  have hleft : done.filter (fun row ↦ after < key row) = [] := by
    rw [List.filter_eq_nil_iff]
    intro row hrow
    simpa using hdone row hrow
  have hright : rest.filter (fun row ↦ after < key row) = rest := by
    rw [List.filter_eq_self]
    intro row hrow
    simpa using hrest row hrow
  unfold pageAfter
  rw [List.filter_append, hleft, hright, List.nil_append]

/-- Pages of sorted rows pass over every row once, and there are no more pages than rows: what
holds of the rows that are done after a page holds of all of them in the end. -/
theorem foldPages_inv {step : σ → List ρ → Except PyError σ} (hlimit : 0 < limit)
    (hsorted : rows.Pairwise fun a b ↦ key a < key b) (inv : List ρ → σ → Prop)
    (hstep : ∀ done page rest s, rows = done ++ page ++ rest → page ≠ [] → inv done s →
      ∃ s', step s page = .ok s' ∧ inv (done ++ page) s')
    {rounds : Nat} {s : σ} (hrows : rows = done ++ rest) (hrounds : rest.length < rounds)
    (hdone : ∀ row ∈ done, key row ≤ after) (hrest : ∀ row ∈ rest, after < key row)
    (hinv : inv done s) :
    ∃ s', foldPages key limit step rows rounds after s = .ok (some s') ∧ inv rows s' := by
  induction rounds generalizing done rest after s with
  | zero => exact absurd hrounds (Nat.not_lt_zero _)
  | succ rounds ih =>
    have hpage : pageAfter key limit after rows = rest.take limit := by
      rw [hrows]
      exact pageAfter_append hdone hrest
    unfold foldPages
    rw [hpage]
    cases hlast : (rest.take limit).getLast? with
    | none =>
      have hnil : rest = [] := by
        have htake := List.getLast?_eq_none_iff.mp hlast
        rcases List.take_eq_nil_iff.mp htake with hzero | hnil
        · omega
        · exact hnil
      rw [hnil, List.append_nil] at hrows
      exact ⟨s, rfl, hrows ▸ hinv⟩
    | some last =>
      have hsplit : rows = done ++ rest.take limit ++ rest.drop limit := by
        rw [hrows, List.append_assoc, List.take_append_drop]
      have hne : rest.take limit ≠ [] := by
        intro hnil
        rw [hnil] at hlast
        cases hlast
      obtain ⟨s', hs', hinv'⟩ := hstep done _ _ s hsplit hne hinv
      have hsorted' := hsorted
      rw [hsplit, List.pairwise_append, List.pairwise_append] at hsorted'
      obtain ⟨⟨-, hpairs, hbefore⟩, -, hafter⟩ := hsorted'
      have hmem : last ∈ rest.take limit := List.mem_of_getLast? hlast
      have hle : ∀ row ∈ done ++ rest.take limit, key row ≤ key last := by
        intro row hrow
        rcases List.mem_append.mp hrow with hrow | hrow
        · exact (hbefore row hrow last hmem).le
        · obtain ⟨front, hfront⟩ := List.getLast?_eq_some_iff.mp hlast
          rw [hfront] at hrow hpairs
          rcases List.mem_append.mp hrow with hrow | hrow
          · exact ((List.pairwise_append.mp hpairs).2.2 row hrow last (by simp)).le
          · rw [List.mem_singleton.mp hrow]
      have hlength : (rest.drop limit).length < rounds := by
        have hpos : 0 < (rest.take limit).length := List.length_pos_iff.mpr hne
        rw [List.length_take] at hpos
        rw [List.length_drop]
        omega
      obtain ⟨s'', hs'', hfinal⟩ := ih hsplit hlength hle
        (fun row hrow ↦ hafter last (List.mem_append_right _ hmem) row hrow) hinv'
      refine ⟨s'', ?_, hfinal⟩
      show (step s (rest.take limit) >>= fun s' ↦
        foldPages key limit step rows rounds (key last) s') = _
      rw [hs']
      exact hs''

end Pages
end FleetFlow
