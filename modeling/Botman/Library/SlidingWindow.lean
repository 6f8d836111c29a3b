import Mathlib.Algebra.Order.Floor.Div
import Mathlib.Data.List.Chain

/-!
Slices of one length that are taken of a list at equal distances, the last one
shortened to the end of the list.

Where the distance is at most the length, nothing falls between two slices, and
what each slice adds to the one before it rebuilds the list.
-/

namespace Botman.Library.SlidingWindow

universe u

variable {α : Type u}

/-- A part of a list, with the position that it was taken from. -/
structure Span (α : Type u) where
  start : Nat
  text : List α

namespace Span

/-- The position after the last element. -/
def stop (s : Span α) : Nat :=
  s.start + s.text.length

/-- One stretch lies within another. -/
def Within (s previous : Span α) : Prop :=
  previous.start ≤ s.start ∧ s.stop ≤ previous.stop

/-- What a span has beyond the end of the one before it. -/
def beyond (previous s : Span α) : List α :=
  s.text.drop (previous.stop - s.start)

end Span

/-- `l[start:stop]`. -/
def slice (l : List α) (start stop : Nat) : Span α where
  start := start
  text := (l.drop start).take (stop - start)

/-- What the spans after a given one add, each to its predecessor. -/
def added (previous : Span α) : List (Span α) → List α
  | [] => []
  | s :: rest => previous.beyond s ++ added s rest

/-- The text that overlapping stretches give back. -/
def rebuild : List (Span α) → List α
  | [] => []
  | first :: rest => first.text ++ added first rest

/-- The spans are the slices of a list at the multiples of a distance, and as
few as cover it. -/
structure Tight (l : List α) (size step : Nat) (spans : List (Span α)) : Prop where
  slices : spans = (List.range spans.length).map fun i =>
    slice l (i * step) (min (i * step + size) l.length)
  full : ∀ s ∈ spans.dropLast, s.text.length = size
  last : ∃ s, spans.getLast? = some s ∧ s.text.length ≤ size ∧ s.stop = l.length
  rebuilds : rebuild spans = l
  grows : spans.IsChain fun previous s => ¬ s.Within previous
  count : spans.length = if l.length ≤ size then 1 else 1 + (l.length - size) ⌈/⌉ step

section Windows

variable (l : List α) (size step : Nat)

/-- The window with a number. -/
def window (i : Nat) : Span α :=
  slice l (i * step) (min (i * step + size) l.length)

/-- As many windows as it takes to cover the text. -/
def windowCount : Nat :=
  1 + (l.length - size) ⌈/⌉ step

/-- All windows, in order. -/
def windows : List (Span α) :=
  (List.range (windowCount l size step)).map (window l size step)

theorem length_windows : (windows l size step).length = windowCount l size step := by
  rw [windows, List.length_map, List.length_range]

theorem windows_eq_concat : windows l size step =
    (List.range ((l.length - size) ⌈/⌉ step)).map (window l size step) ++
      [window l size step ((l.length - size) ⌈/⌉ step)] := by
  rw [windows, windowCount, Nat.add_comm, List.range_succ, List.map_append, List.map_singleton]

theorem length_window (i : Nat) :
    (window l size step i).text.length = min size (l.length - i * step) := by
  simp only [window, slice, List.length_take, List.length_drop]
  omega

variable {l size step}

theorem stop_slice {start stop : Nat} (hle : start ≤ stop) (hstop : stop ≤ l.length) :
    (slice l start stop).stop = stop := by
  simp only [Span.stop, slice, List.length_take, List.length_drop]
  omega

theorem take_append_slice {start stop : Nat} (hle : start ≤ stop) :
    l.take start ++ (slice l start stop).text = l.take stop := by
  rw [slice, ← List.take_add, Nat.add_sub_cancel' hle]

theorem drop_slice {start middle stop : Nat} (hle : start ≤ middle) :
    (slice l start stop).text.drop (middle - start) = (slice l middle stop).text := by
  simp only [slice, List.drop_take, List.drop_drop]
  congr 1
  · omega
  · congr 1
    omega

variable (hstep : 0 < step)

include hstep

theorem succ_lt_windowCount_iff {i : Nat} :
    i + 1 < windowCount l size step ↔ i * step + size < l.length := by
  have hceil : (l.length - size) ⌈/⌉ step ≤ i ↔ l.length - size ≤ step * i :=
    ceilDiv_le_iff_le_mul hstep
  rw [windowCount, Nat.mul_comm i step]
  omega

theorem windowCount_eq : windowCount l size step =
    if l.length ≤ size then 1 else 1 + (l.length - size) ⌈/⌉ step := by
  split
  · rename_i hfits
    have hone : ¬ 0 + 1 < windowCount l size step := by
      rw [succ_lt_windowCount_iff hstep]
      omega
    unfold windowCount at hone ⊢
    omega
  · rfl

theorem length_le_of_windowCount_le {i : Nat} (h : windowCount l size step ≤ i + 1) :
    l.length ≤ i * step + size := by
  by_contra hlong
  have hmore := (succ_lt_windowCount_iff hstep).mpr (Nat.lt_of_not_le hlong)
  omega

variable (hsize : step ≤ size) (hl : l ≠ [])

include hsize hl

theorem start_lt_length {i : Nat} (hi : i < windowCount l size step) :
    i * step < l.length := by
  cases i with
  | zero => simpa using List.length_pos_iff.mpr hl
  | succ i =>
      have hprevious := (succ_lt_windowCount_iff hstep).mp hi
      rw [Nat.succ_mul]
      omega

theorem stop_window {i : Nat} (hi : i < windowCount l size step) :
    (window l size step i).stop = min (i * step + size) l.length := by
  have hstart := start_lt_length hstep hsize hl hi
  exact stop_slice (by omega) (by omega)

theorem start_succ_le_stop {i : Nat} (hi : i + 1 < windowCount l size step) :
    (i + 1) * step ≤ (window l size step i).stop := by
  have hfull := (succ_lt_windowCount_iff hstep).mp hi
  rw [stop_window hstep hsize hl (by omega), Nat.succ_mul]
  omega

theorem stop_lt_stop_succ {i : Nat} (hi : i + 1 < windowCount l size step) :
    (window l size step i).stop < (window l size step (i + 1)).stop := by
  have hfull := (succ_lt_windowCount_iff hstep).mp hi
  rw [stop_window hstep hsize hl (by omega), stop_window hstep hsize hl hi, Nat.succ_mul]
  omega

theorem take_append_beyond {i : Nat} (hi : i + 1 < windowCount l size step) :
    l.take (window l size step i).stop ++
        (window l size step i).beyond (window l size step (i + 1)) =
      l.take (window l size step (i + 1)).stop := by
  have hgrows := stop_lt_stop_succ hstep hsize hl hi
  have hstop := stop_window hstep hsize hl hi
  have hnext : (window l size step i).beyond (window l size step (i + 1)) =
      (slice l (window l size step i).stop (window l size step (i + 1)).stop).text := by
    rw [hstop]
    exact drop_slice (start_succ_le_stop hstep hsize hl hi)
  rw [hnext, take_append_slice hgrows.le]

theorem take_append_added {i n : Nat} (hi : i + n < windowCount l size step) :
    l.take (window l size step i).stop ++
        added (window l size step i) ((List.range' (i + 1) n).map (window l size step)) =
      l.take (window l size step (i + n)).stop := by
  induction n generalizing i with
  | zero => simp [added]
  | succ n ih =>
      have hlater := ih (i := i + 1) (by omega)
      rw [List.range'_succ, List.map_cons, added, ← List.append_assoc,
        take_append_beyond hstep hsize hl (by omega), hlater]
      congr 3
      omega

theorem rebuild_windows : rebuild (windows l size step) = l := by
  have hcount : windowCount l size step = (l.length - size) ⌈/⌉ step + 1 := Nat.add_comm _ _
  have hfirst : (window l size step 0).text = l.take (window l size step 0).stop := by
    rw [stop_window hstep hsize hl (by omega), window, slice]
    simp
  have hlast : l.length ≤ (l.length - size) ⌈/⌉ step * step + size :=
    length_le_of_windowCount_le hstep hcount.le
  rw [windows, hcount, List.range_eq_range', List.range'_succ, List.map_cons, rebuild, hfirst,
    take_append_added hstep hsize hl (by omega), Nat.zero_add,
    stop_window hstep hsize hl (by omega), Nat.min_eq_right hlast, List.take_length]

theorem tight_windows : Tight l size step (windows l size step) where
  slices := by rw [length_windows]; rfl
  full := by
    rw [windows_eq_concat, List.dropLast_concat]
    intro s hs
    obtain ⟨i, hi, rfl⟩ := List.mem_map.mp hs
    have hfull : i * step + size < l.length := by
      rw [← succ_lt_windowCount_iff hstep, windowCount]
      have := List.mem_range.mp hi
      omega
    rw [length_window]
    omega
  last := by
    have hlast : l.length ≤ (l.length - size) ⌈/⌉ step * step + size :=
      length_le_of_windowCount_le hstep (Nat.add_comm _ _).le
    refine ⟨window l size step ((l.length - size) ⌈/⌉ step), ?_, ?_, ?_⟩
    · rw [windows_eq_concat, List.getLast?_concat]
    · rw [length_window]
      exact Nat.min_le_left _ _
    · rw [stop_window hstep hsize hl (by unfold windowCount; omega), Nat.min_eq_right hlast]
  rebuilds := rebuild_windows hstep hsize hl
  grows := by
    rw [List.isChain_iff_getElem]
    intro i hi
    rw [length_windows] at hi
    have hgrows := stop_lt_stop_succ hstep hsize hl hi
    simp only [windows, List.getElem_map, List.getElem_range]
    exact fun hwithin => absurd hwithin.2 (Nat.not_le_of_lt hgrows)
  count := by rw [length_windows, windowCount_eq hstep]

end Windows

end Botman.Library.SlidingWindow
