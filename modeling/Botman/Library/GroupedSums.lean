import Mathlib.Algebra.BigOperators.Ring.List
import Mathlib.Algebra.BigOperators.Group.Finset.Piecewise
import Mathlib.Algebra.Field.Rat
import Mathlib.Data.List.Dedup
import Mathlib.Order.Basic

/-!
Sums over the rows of a list, taken group by group.

A query that sums over rows whose key lies in a range is compared with one that
has a row for every key of the range: both are sums of the sums of the groups.  A
query that counts the rows of every group has one entry for each key that occurs.
-/

namespace Botman.Library.GroupedSums

universe u v w

variable {α : Type u} {κ : Type v} [DecidableEq κ] {M : Type w} [AddCommMonoid M]

theorem sum_map_filter_mem (key : α → κ) (S : Finset κ) (f : α → M) (rows : List α) :
    ((rows.filter fun r => key r ∈ S).map f).sum =
      ∑ k ∈ S, ((rows.filter fun r => key r = k).map f).sum := by
  induction rows with
  | nil => simp
  | cons r rest ih =>
      -- the first row counts in the group of its key, and in no other
      have hgroup : ∀ k, (((r :: rest).filter fun s => key s = k).map f).sum =
          (if key r = k then f r else 0) + ((rest.filter fun s => key s = k).map f).sum := by
        intro k
        by_cases hk : key r = k
        · simp [hk]
        · simp [hk]
      rw [Finset.sum_congr rfl fun k _ => hgroup k, Finset.sum_add_distrib, ← ih,
        Finset.sum_ite_eq]
      by_cases hr : key r ∈ S
      · simp [hr]
      · simp [hr]

section Counts

variable {ν : Type w} [DecidableEq ν]

theorem length_dedup_map_congr {f : α → κ} {g : α → ν} {rows : List α}
    (h : ∀ r ∈ rows, ∀ s ∈ rows, f r = f s ↔ g r = g s) :
    (rows.map f).dedup.length = (rows.map g).dedup.length := by
  induction rows with
  | nil => rfl
  | cons r rest ih =>
      have hrest := ih fun s hs t ht =>
        h s (List.mem_cons_of_mem _ hs) t (List.mem_cons_of_mem _ ht)
      have hmem : f r ∈ rest.map f ↔ g r ∈ rest.map g := by
        simp only [List.mem_map]
        refine exists_congr fun s => and_congr_right fun hs => ?_
        exact h s (List.mem_cons_of_mem _ hs) r List.mem_cons_self
      rw [List.map_cons, List.map_cons]
      by_cases hf : f r ∈ rest.map f
      · rw [List.dedup_cons_of_mem hf, List.dedup_cons_of_mem (hmem.mp hf), hrest]
      · rw [List.dedup_cons_of_notMem hf, List.dedup_cons_of_notMem (mt hmem.mpr hf),
          List.length_cons, List.length_cons, hrest]

theorem length_dedup_eq_iff {keys : List κ} : keys.dedup.length = keys.length ↔ keys.Nodup := by
  constructor
  · intro h
    rw [← (List.dedup_sublist keys).eq_of_length h]
    exact List.nodup_dedup keys
  · intro h
    rw [h.dedup]

end Counts

section Groups

variable {τ : Type v} [LinearOrder τ]

/-- `SELECT key, COUNT(*) .. GROUP BY key ORDER BY key`. -/
def groupCounts (key : α → τ) (rows : List α) : List (τ × Nat) :=
  ((rows.map key).dedup.mergeSort (· ≤ ·)).map fun k =>
    (k, (rows.filter fun r => key r = k).length)

theorem mem_groupCounts {key : α → τ} {rows : List α} {k : τ} {n : Nat} :
    (k, n) ∈ groupCounts key rows ↔
      n = (rows.filter fun r => key r = k).length ∧ 0 < n := by
  simp only [groupCounts, List.mem_map, List.mem_mergeSort, List.mem_dedup, Prod.mk.injEq]
  constructor
  · rintro ⟨_, ⟨r, hr, rfl⟩, rfl, rfl⟩
    refine ⟨rfl, List.length_pos_of_mem (a := r) ?_⟩
    exact List.mem_filter.mpr ⟨hr, decide_eq_true rfl⟩
  · rintro ⟨rfl, hpos⟩
    obtain ⟨r, hr⟩ := List.exists_mem_of_length_pos hpos
    obtain ⟨hr, hkey⟩ := List.mem_filter.mp hr
    exact ⟨k, ⟨r, hr, of_decide_eq_true hkey⟩, rfl, rfl⟩

theorem pairwise_groupCounts (key : α → τ) (rows : List α) :
    ((groupCounts key rows).map Prod.fst).Pairwise (· < ·) := by
  rw [groupCounts, List.map_map]
  have hsorted : ((rows.map key).dedup.mergeSort (· ≤ ·)).Pairwise (· ≤ ·) := by
    have hmerged := @List.pairwise_mergeSort τ (fun a b => decide (a ≤ b))
      (fun a b c => by simpa using le_trans) (fun a b => by simpa using le_total a b)
      (rows.map key).dedup
    simpa using hmerged
  have hnodup : ((rows.map key).dedup.mergeSort (· ≤ ·)).Nodup :=
    (List.mergeSort_perm _ _).nodup_iff.mpr (List.nodup_dedup _)
  have hkeys : (Prod.fst ∘ fun k => (k, (rows.filter fun r => key r = k).length)) =
      (id : τ → τ) := rfl
  rw [hkeys, List.map_id]
  exact (hsorted.and hnodup).imp fun h => lt_of_le_of_ne h.1 h.2

theorem sum_groupCounts (key : α → τ) (rows : List α) :
    ((groupCounts key rows).map Prod.snd).sum = rows.length := by
  have hcount : ∀ k, (rows.filter fun r => key r = k).length = (rows.map key).count k := by
    intro k
    rw [List.count, List.countP_map, List.countP_eq_length_filter]
    rfl
  have hperm := (List.mergeSort_perm (rows.map key).dedup (· ≤ ·)).map (rows.map key).count
  rw [groupCounts, List.map_map]
  calc
    _ = (((rows.map key).dedup.mergeSort (· ≤ ·)).map (rows.map key).count).sum := by
      congr 1
      exact List.map_congr_left fun k _ => hcount k
    _ = ((rows.map key).dedup.map (rows.map key).count).sum := hperm.sum_eq
    _ = (rows.map key).length := List.sum_map_count_dedup_eq_length _
    _ = rows.length := List.length_map _

end Groups

end Botman.Library.GroupedSums
