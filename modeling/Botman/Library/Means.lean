import Mathlib.Algebra.Order.BigOperators.Group.List
import Mathlib.Algebra.Order.Field.Basic
import Mathlib.Tactic.Linarith

/-!
Means of lists, and the mean of the means of several groups.

The mean of no values is zero, as division has it, so that a group without
values pulls the mean of the means towards zero.
-/

namespace Botman.Library.Means

universe u

variable {K : Type u} [Field K]

/-- The mean, which is zero for no values. -/
def mean (values : List K) : K :=
  values.sum / values.length

theorem mean_nil : mean ([] : List K) = 0 := by
  simp [mean]

variable [LinearOrder K] [IsStrictOrderedRing K] {values : List K} {groups : List (List K)}
  {level : K}

theorem length_pos_of_ne_nil (h : values ≠ []) : (0 : K) < values.length := by
  exact_mod_cast List.length_pos_iff.mpr h

theorem le_mean (hne : values ≠ []) (h : ∀ v ∈ values, level ≤ v) : level ≤ mean values := by
  have hsum := List.card_nsmul_le_sum values level h
  rw [nsmul_eq_mul, mul_comm] at hsum
  exact (le_div_iff₀ (length_pos_of_ne_nil hne)).mpr hsum

theorem mean_le (hne : values ≠ []) (h : ∀ v ∈ values, v ≤ level) : mean values ≤ level := by
  have hsum := List.sum_le_card_nsmul values level h
  rw [nsmul_eq_mul, mul_comm] at hsum
  exact (div_le_iff₀ (length_pos_of_ne_nil hne)).mpr hsum

theorem mean_means_between {lo hi : K} (hne : groups ≠ []) (hgroups : ∀ group ∈ groups, group ≠ [])
    (hvalues : ∀ group ∈ groups, ∀ v ∈ group, lo ≤ v ∧ v ≤ hi) :
    lo ≤ mean (groups.map mean) ∧ mean (groups.map mean) ≤ hi := by
  have hmeans : groups.map mean ≠ [] := by simpa using hne
  constructor
  · refine le_mean hmeans ?_
    intro v hv
    obtain ⟨group, hgroup, rfl⟩ := List.mem_map.mp hv
    exact le_mean (hgroups group hgroup) fun v hv => (hvalues group hgroup v hv).1
  · refine mean_le hmeans ?_
    intro v hv
    obtain ⟨group, hgroup, rfl⟩ := List.mem_map.mp hv
    exact mean_le (hgroups group hgroup) fun v hv => (hvalues group hgroup v hv).2

/-- Where a group has no values and the others are close to each other, the mean of the means
is below the values. -/
theorem mean_means_lt_of_nil_mem {lo hi : K} {n : ℕ} (hnil : [] ∈ groups)
    (hcount : groups.length ≤ n) (hle : lo ≤ hi) (hclose : n * (hi - lo) < hi)
    (hvalues : ∀ group ∈ groups, ∀ v ∈ group, v ≤ hi) : mean (groups.map mean) < lo := by
  have hgap : 0 ≤ hi - lo := sub_nonneg.mpr hle
  have hhi : 0 < hi := (mul_nonneg n.cast_nonneg hgap).trans_lt hclose
  have hmeans : ∀ v ∈ (groups.erase []).map mean, v ≤ hi := by
    intro v hv
    obtain ⟨group, hgroup, rfl⟩ := List.mem_map.mp hv
    cases group with
    | nil => exact mean_nil.le.trans hhi.le
    | cons first rest =>
        exact mean_le (List.cons_ne_nil first rest) (hvalues _ (List.mem_of_mem_erase hgroup))
  have hperm := List.perm_cons_erase hnil
  have hlength : (groups.length : K) = (groups.erase []).length + 1 := by
    rw [hperm.length_eq]
    exact Nat.cast_succ _
  have hsum : (groups.map mean).sum ≤ (groups.erase []).length * hi := by
    have hrest := List.sum_le_card_nsmul _ hi hmeans
    rw [(hperm.map mean).sum_eq, List.map_cons, List.sum_cons, mean_nil, zero_add]
    rwa [nsmul_eq_mul, List.length_map] at hrest
  have hbound : (groups.length : K) * (hi - lo) < hi :=
    (mul_le_mul_of_nonneg_right (Nat.cast_le.mpr hcount) hgap).trans_lt hclose
  have hpos : (0 : K) < (groups.map mean).length :=
    length_pos_of_ne_nil (List.ne_nil_of_mem (List.mem_map_of_mem hnil))
  rw [mean, div_lt_iff₀ hpos, List.length_map, hlength]
  rw [hlength] at hbound
  linarith

end Botman.Library.Means
