import Mathlib.Data.List.Basic
import Mathlib.Data.List.Nodup
import Mathlib.Data.List.Perm.Basic

/-!
Relational tables with an automatically numbered primary key.

A table carries the two facts a database guarantees about its keys: no two
rows share one, and the key of the next inserted row is still unused.  The
operations are the statements an object-relational mapper issues: insert,
update or insert by key, update every row of a selection, delete a selection.
-/

namespace Botman.Library.KeyedTable

universe u

/-- Rows that carry their own primary key. -/
class HasKey (R : Type u) where
  key : R → Nat
  withKey : Nat → R → R
  key_withKey : ∀ n r, key (withKey n r) = n

open HasKey

attribute [simp] HasKey.key_withKey

/-- Rows with different keys, and the next key to be given out. -/
structure Table (R : Type u) [HasKey R] where
  rows : List R
  next : Nat
  nodup : (rows.map key).Nodup
  fresh : ∀ r ∈ rows, key r < next

variable {R : Type u} [HasKey R]

namespace Table

theorem eq_of_rows_next {t s : Table R} (hrows : t.rows = s.rows)
    (hnext : t.next = s.next) : t = s := by
  cases t
  cases s
  cases hrows
  cases hnext
  rfl

instance [DecidableEq R] : DecidableEq (Table R) := fun t s =>
  decidable_of_iff (t.rows = s.rows ∧ t.next = s.next)
    ⟨fun h => eq_of_rows_next h.1 h.2, fun h => h ▸ ⟨rfl, rfl⟩⟩

def empty : Table R where
  rows := []
  next := 1
  nodup := List.nodup_nil
  fresh := by simp

theorem eq_of_key_eq (t : Table R) {r s : R} (hr : r ∈ t.rows) (hs : s ∈ t.rows)
    (h : key r = key s) : r = s :=
  List.inj_on_of_nodup_map t.nodup hr hs h

theorem mem_iff_eq_or (t : Table R) {r : R} (hr : r ∈ t.rows) (s : R) :
    s ∈ t.rows ↔ s = r ∨ (s ∈ t.rows ∧ key s ≠ key r) := by
  constructor
  · intro hs
    by_cases hkey : key s = key r
    · exact Or.inl (t.eq_of_key_eq hs hr hkey)
    · exact Or.inr ⟨hs, hkey⟩
  · rintro (rfl | ⟨hs, -⟩)
    · exact hr
    · exact hs

theorem find?_eq_some_iff_of_unique {α : Type u} {rows : List α} {p : α → Bool}
    (hunique : ∀ r ∈ rows, ∀ s ∈ rows, p r = true → p s = true → r = s) {r : α} :
    rows.find? p = some r ↔ r ∈ rows ∧ p r = true := by
  constructor
  · intro h
    exact ⟨List.mem_of_find?_eq_some h, List.find?_some h⟩
  · rintro ⟨hr, hp⟩
    cases hfind : rows.find? p with
    | none => exact absurd hp (List.find?_eq_none.mp hfind r hr)
    | some s => rw [hunique s (List.mem_of_find?_eq_some hfind) r hr (List.find?_some hfind) hp]

/-- The row with a key. -/
def get? (t : Table R) (k : Nat) : Option R :=
  t.rows.find? fun r => key r = k

theorem get?_eq_some_iff (t : Table R) {k : Nat} {r : R} :
    t.get? k = some r ↔ r ∈ t.rows ∧ key r = k := by
  unfold get?
  rw [find?_eq_some_iff_of_unique, decide_eq_true_iff]
  intro r hr s hs hkr hks
  exact t.eq_of_key_eq hr hs ((of_decide_eq_true hkr).trans (of_decide_eq_true hks).symm)

theorem get?_eq_none_iff (t : Table R) {k : Nat} :
    t.get? k = none ↔ ∀ r ∈ t.rows, key r ≠ k := by
  simp [get?, List.find?_eq_none]

/-- The row as it is stored, under the next key. -/
def created (t : Table R) (r : R) : R :=
  withKey t.next r

@[simp] theorem key_created (t : Table R) (r : R) : key (t.created r) = t.next :=
  key_withKey _ _

/-- A row is inserted. -/
def create (t : Table R) (r : R) : Table R where
  rows := t.rows ++ [t.created r]
  next := t.next + 1
  nodup := by
    rw [List.map_append, List.nodup_append]
    refine ⟨t.nodup, by simp, ?_⟩
    intro k hk m hm
    obtain ⟨s, hs, rfl⟩ := List.mem_map.mp hk
    have hm' : m = t.next := by simpa using hm
    rw [hm']
    exact Nat.ne_of_lt (t.fresh s hs)
  fresh := by
    intro s hs
    rcases List.mem_append.mp hs with hs | hs
    · exact Nat.lt_succ_of_lt (t.fresh s hs)
    · have hs' : s = t.created r := by simpa using hs
      simp [hs']

@[simp] theorem rows_create (t : Table R) (r : R) :
    (t.create r).rows = t.rows ++ [t.created r] := rfl

@[simp] theorem next_create (t : Table R) (r : R) :
    (t.create r).next = t.next + 1 := rfl

theorem mem_create (t : Table R) (r s : R) :
    s ∈ (t.create r).rows ↔ s ∈ t.rows ∨ s = t.created r := by
  simp

/-- Replace the row that has the key of `r`. -/
def overwrite (r s : R) : R :=
  if key s = key r then r else s

theorem key_overwrite (r s : R) : key (overwrite r s) = key s := by
  unfold overwrite
  split
  · rename_i h
    exact h.symm
  · rfl

/-- UPDATE by primary key, and INSERT when no row matched. -/
def save (t : Table R) (r : R) : Table R :=
  if h : ∃ s ∈ t.rows, key s = key r then
    { rows := t.rows.map (overwrite r)
      next := t.next
      nodup := by
        have hkeys : (t.rows.map (overwrite r)).map key = t.rows.map key := by
          simp [key_overwrite]
        rw [hkeys]
        exact t.nodup
      fresh := by
        intro s hs
        obtain ⟨q, hq, rfl⟩ := List.mem_map.mp hs
        rw [key_overwrite]
        exact t.fresh q hq }
  else
    { rows := t.rows ++ [r]
      next := max t.next (key r + 1)
      nodup := by
        rw [List.map_append, List.nodup_append]
        refine ⟨t.nodup, by simp, ?_⟩
        intro k hk m hm
        obtain ⟨s, hs, rfl⟩ := List.mem_map.mp hk
        have hm' : m = key r := by simpa using hm
        rw [hm']
        exact fun hkey => h ⟨s, hs, hkey⟩
      fresh := by
        intro s hs
        rcases List.mem_append.mp hs with hs | hs
        · exact Nat.lt_of_lt_of_le (t.fresh s hs) (Nat.le_max_left _ _)
        · have hs' : s = r := by simpa using hs
          rw [hs']
          exact Nat.lt_of_lt_of_le (Nat.lt_succ_self _) (Nat.le_max_right _ _) }

theorem rows_save_of_exists (t : Table R) (r : R)
    (h : ∃ s ∈ t.rows, key s = key r) :
    (t.save r).rows = t.rows.map (overwrite r) := by
  simp [save, h]

theorem mem_save (t : Table R) (r s : R) :
    s ∈ (t.save r).rows ↔ s = r ∨ (s ∈ t.rows ∧ key s ≠ key r) := by
  by_cases h : ∃ q ∈ t.rows, key q = key r
  · rw [rows_save_of_exists t r h, List.mem_map]
    constructor
    · rintro ⟨q, hq, rfl⟩
      by_cases hkey : key q = key r
      · exact Or.inl (by simp [overwrite, hkey])
      · exact Or.inr (by simpa [overwrite, hkey] using hq)
    · rintro (rfl | ⟨hs, hkey⟩)
      · obtain ⟨q, hq, hkey⟩ := h
        exact ⟨q, hq, by simp [overwrite, hkey]⟩
      · exact ⟨s, hs, by simp [overwrite, hkey]⟩
  · have hrows : (t.save r).rows = t.rows ++ [r] := by simp [save, h]
    rw [hrows, List.mem_append, List.mem_singleton]
    constructor
    · rintro (hs | rfl)
      · exact Or.inr ⟨hs, fun hkey => h ⟨s, hs, hkey⟩⟩
      · exact Or.inl rfl
    · rintro (rfl | ⟨hs, -⟩)
      · exact Or.inr rfl
      · exact Or.inl hs

theorem next_le_save (t : Table R) (r : R) : t.next ≤ (t.save r).next := by
  unfold save
  split
  · exact Nat.le_refl _
  · exact Nat.le_max_left _ _

theorem get?_save_self (t : Table R) (r : R) : (t.save r).get? (key r) = some r :=
  ((t.save r).get?_eq_some_iff).mpr ⟨(t.mem_save r r).mpr (Or.inl rfl), rfl⟩

theorem get?_create (t : Table R) (r : R) (k : Nat) :
    (t.create r).get? k = (t.get? k).or (if t.next = k then some (t.created r) else none) := by
  simp only [get?, rows_create, List.find?_append, List.find?_singleton, key_created,
    decide_eq_true_eq]

theorem map_get?_save {α : Type*} (t : Table R) (f : R → α) {r s : R} (hs : s ∈ t.rows)
    (hkey : key s = key r) (hf : f s = f r) (k : Nat) :
    ((t.save r).get? k).map f = (t.get? k).map f := by
  by_cases hk : key r = k
  · subst hk
    have hget : t.get? (key r) = some s := t.get?_eq_some_iff.mpr ⟨hs, hkey⟩
    rw [get?_save_self, hget, Option.map_some, Option.map_some, hf]
  · congr 1
    ext q
    rw [get?_eq_some_iff, get?_eq_some_iff, mem_save]
    constructor
    · rintro ⟨rfl | ⟨hq, -⟩, rfl⟩
      · exact absurd rfl hk
      · exact ⟨hq, rfl⟩
    · rintro ⟨hq, rfl⟩
      exact ⟨Or.inr ⟨hq, fun h => hk h.symm⟩, rfl⟩

/-- Rows are inserted in their order. -/
def createMany (t : Table R) : List R → Table R
  | [] => t
  | r :: rest => (t.create r).createMany rest

/-- The rows that a bulk insert stores, under consecutive keys. -/
def createdMany (t : Table R) : List R → List R
  | [] => []
  | r :: rest => t.created r :: (t.create r).createdMany rest

@[simp] theorem rows_createMany (t : Table R) (rs : List R) :
    (t.createMany rs).rows = t.rows ++ t.createdMany rs := by
  induction rs generalizing t with
  | nil => simp [createMany, createdMany]
  | cons r rest ih => simp [createMany, createdMany, ih]

theorem map_createdMany {α : Type*} (t : Table R) (rs : List R) (f : R → α)
    (hf : ∀ n r, f (withKey n r) = f r) : (t.createdMany rs).map f = rs.map f := by
  induction rs generalizing t with
  | nil => rfl
  | cons r rest ih => simp [createdMany, created, hf, ih]

theorem next_le_createMany (t : Table R) (rs : List R) : t.next ≤ (t.createMany rs).next := by
  induction rs generalizing t with
  | nil => exact Nat.le_refl _
  | cons r rest ih => exact Nat.le_of_succ_le (ih (t.create r))

theorem next_le_key_of_mem_createdMany (t : Table R) (rs : List R) {r : R}
    (h : r ∈ t.createdMany rs) : t.next ≤ key r := by
  induction rs generalizing t with
  | nil => cases h
  | cons s rest ih =>
      rcases List.mem_cons.mp h with rfl | hrest
      · exact Nat.le_of_eq (key_created t s).symm
      · exact Nat.le_of_succ_le (ih (t.create s) hrest)

theorem rows_save_create (t : Table R) (r s : R) (hkey : key s = t.next) :
    ((t.create r).save s).rows = t.rows ++ [s] := by
  have hexists : ∃ q ∈ (t.create r).rows, key q = key s :=
    ⟨t.created r, by simp, by simp [hkey]⟩
  rw [rows_save_of_exists _ _ hexists, rows_create, List.map_append]
  congr 1
  · refine (List.map_congr_left fun q hq => ?_).trans (List.map_id _)
    have hne : key q ≠ key s := hkey ▸ Nat.ne_of_lt (t.fresh q hq)
    simp [overwrite, hne]
  · simp [overwrite, hkey]

theorem filter_eq_toList_find?_of_nodup {α : Type u} {rows : List α} {p : α → Bool}
    (hnodup : rows.Nodup)
    (hunique : ∀ r ∈ rows, ∀ s ∈ rows, p r = true → p s = true → r = s) :
    rows.filter p = (rows.find? p).toList := by
  induction rows with
  | nil => rfl
  | cons r rest ih =>
      obtain ⟨hr, hrest⟩ := List.nodup_cons.mp hnodup
      cases hp : p r with
      | false =>
          rw [List.filter_cons_of_neg (by simp [hp]), List.find?_cons_of_neg (by simp [hp])]
          exact ih hrest fun s hs t ht =>
            hunique s (List.mem_cons_of_mem _ hs) t (List.mem_cons_of_mem _ ht)
      | true =>
          have hnone : rest.filter p = [] := by
            refine List.filter_eq_nil_iff.mpr fun s hs hps => hr ?_
            rw [hunique r List.mem_cons_self s (List.mem_cons_of_mem _ hs) hp hps]
            exact hs
          rw [List.filter_cons_of_pos hp, List.find?_cons_of_pos hp, hnone]
          rfl

theorem filter_eq_toList_find? (t : Table R) {p : R → Bool}
    (h : ∀ r ∈ t.rows, ∀ s ∈ t.rows, p r = true → p s = true → key r = key s) :
    t.rows.filter p = (t.rows.find? p).toList :=
  filter_eq_toList_find?_of_nodup (List.Nodup.of_map key t.nodup)
    fun r hr s hs hpr hps => t.eq_of_key_eq hr hs (h r hr s hs hpr hps)

theorem length_filter_le_one (t : Table R) {p : R → Bool}
    (h : ∀ r ∈ t.rows, ∀ s ∈ t.rows, p r = true → p s = true → key r = key s) :
    (t.rows.filter p).length ≤ 1 := by
  rw [t.filter_eq_toList_find? h]
  cases t.rows.find? p with
  | none => simp
  | some r => simp

theorem perm_cons_filter_key {rows : List R} (hnodup : (rows.map key).Nodup) {r : R}
    (hr : r ∈ rows) : rows.Perm (r :: rows.filter fun s => key s ≠ key r) := by
  induction rows with
  | nil => simp at hr
  | cons s rest ih =>
      rw [List.map_cons, List.nodup_cons] at hnodup
      rcases List.mem_cons.mp hr with rfl | hrest
      · have hkeep : (rest.filter fun s => key s ≠ key r) = rest := by
          apply List.filter_eq_self.mpr
          intro s hs
          have hne : key s ≠ key r := fun h => hnodup.1 (List.mem_map.mpr ⟨s, hs, h⟩)
          simpa using hne
        simp only [List.filter_cons, ne_eq, not_true_eq_false, decide_false,
          Bool.false_eq_true, if_false, hkeep]
        exact List.Perm.refl _
      · have hne : key s ≠ key r := by
          intro h
          exact hnodup.1 (List.mem_map.mpr ⟨r, hrest, h.symm⟩)
        rw [List.filter_cons_of_pos (by simpa using hne)]
        exact ((ih hnodup.2 hrest).cons s).trans (List.Perm.swap r s _)

/-- UPDATE of every row of a selection; the key is not assignable. -/
def modify (t : Table R) (p : R → Bool) (f : R → R) : Table R where
  rows := t.rows.map fun r => if p r then withKey (key r) (f r) else r
  next := t.next
  nodup := by
    have hkeys : (t.rows.map fun r => if p r then withKey (key r) (f r) else r).map key =
        t.rows.map key := by
      rw [List.map_map]
      apply List.map_congr_left
      intro r _
      by_cases hp : p r <;> simp [hp]
    rw [hkeys]
    exact t.nodup
  fresh := by
    intro s hs
    obtain ⟨r, hr, rfl⟩ := List.mem_map.mp hs
    by_cases hp : p r
    · simpa [hp] using t.fresh r hr
    · simpa [hp] using t.fresh r hr

@[simp] theorem rows_modify (t : Table R) (p : R → Bool) (f : R → R) :
    (t.modify p f).rows =
      t.rows.map fun r => if p r then withKey (key r) (f r) else r := rfl

/-- DELETE of a selection; the keys of deleted rows are not used again. -/
def delete (t : Table R) (p : R → Bool) : Table R where
  rows := t.rows.filter fun r => !p r
  next := t.next
  nodup := t.nodup.sublist (List.filter_sublist.map key)
  fresh := fun r hr => t.fresh r (List.mem_of_mem_filter hr)

@[simp] theorem rows_delete (t : Table R) (p : R → Bool) :
    (t.delete p).rows = t.rows.filter fun r => !p r := rfl

theorem mem_delete (t : Table R) (p : R → Bool) (r : R) :
    r ∈ (t.delete p).rows ↔ r ∈ t.rows ∧ p r = false := by
  simp

end Table

end Botman.Library.KeyedTable
