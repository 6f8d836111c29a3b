import Mathlib.Data.List.Infix
import Mathlib.Data.List.Flatten

/-!
Splitting a text at a separator of several elements, and removing a pattern
from it.  Occurrences are found from the left and do not overlap.

A text may be written with escapes, where an element that could be mistaken for
another one stands as a block.  A pattern that no block starts with is removed
from the written text as if it had been removed from the text.
-/

namespace Botman.Library.SplitText

universe u

variable {α : Type u} [DecidableEq α]

section Split

/-- The pieces between the occurrences of a separator, from a position where the
given number of elements of the last occurrence are still to be skipped. -/
def splitFrom (sep : List α) : Nat → List α → List (List α)
  | _, [] => [[]]
  | skip + 1, _ :: rest => splitFrom sep skip rest
  | 0, a :: rest =>
      if sep.isPrefixOf (a :: rest) then [] :: splitFrom sep (sep.length - 1) rest
      else (splitFrom sep 0 rest).modifyHead (a :: ·)

/-- `text.split(sep)`. -/
def split (sep text : List α) : List (List α) :=
  splitFrom sep 0 text

/-- `text.split(sep)[-1]`. -/
def lastPiece (sep text : List α) : List α :=
  (split sep text).getLastD []

/-- `text.replace(pattern, "")`. -/
def remove (pattern text : List α) : List α :=
  (split pattern text).flatten

variable {sep text rest chunk : List α} {a s : α}

theorem splitFrom_skip (sep : List α) (skip : Nat) (text : List α) :
    splitFrom sep skip text = split sep (text.drop skip) := by
  induction text generalizing skip with
  | nil => simp [split, splitFrom]
  | cons a rest ih =>
      cases skip with
      | zero => rfl
      | succ skip => rw [splitFrom, ih, List.drop_succ_cons]

theorem split_nil (sep : List α) : split sep [] = [[]] :=
  rfl

theorem split_append_sep (hsep : sep ≠ []) (rest : List α) :
    split sep (sep ++ rest) = [] :: split sep rest := by
  cases sep with
  | nil => exact absurd rfl hsep
  | cons s sep =>
      have hprefix : (s :: sep).isPrefixOf (s :: (sep ++ rest)) = true :=
        List.isPrefixOf_iff_prefix.mpr ⟨rest, rfl⟩
      rw [split, List.cons_append, splitFrom, if_pos hprefix, splitFrom_skip]
      simp

theorem split_cons_of_not_occurs (h : ¬ sep <+: a :: rest) :
    split sep (a :: rest) = (split sep rest).modifyHead (a :: ·) := by
  rw [split, splitFrom, if_neg fun hprefix => h (List.isPrefixOf_iff_prefix.mp hprefix)]
  rfl

theorem split_ne_nil (sep text : List α) : split sep text ≠ [] := by
  induction text with
  | nil => simp [split_nil]
  | cons a rest ih =>
      by_cases hprefix : sep <+: a :: rest
      · rw [split, splitFrom, if_pos (List.isPrefixOf_iff_prefix.mpr hprefix)]
        exact List.cons_ne_nil _ _
      · rw [split_cons_of_not_occurs hprefix]
        simpa using ih

omit [DecidableEq α] in
theorem not_prefix_of_ne (h : a ≠ s) : ¬ s :: sep <+: a :: rest :=
  fun hprefix => h (List.cons_prefix_cons.mp hprefix).1.symm

theorem split_append_of_not_mem (hchunk : s ∉ chunk) (rest : List α) :
    split (s :: sep) (chunk ++ rest) = (split (s :: sep) rest).modifyHead (chunk ++ ·) := by
  induction chunk with
  | nil =>
      rw [List.nil_append]
      cases split (s :: sep) rest with
      | nil => rfl
      | cons piece pieces => rfl
  | cons a chunk ih =>
      rw [List.mem_cons, not_or] at hchunk
      rw [List.cons_append, split_cons_of_not_occurs (not_prefix_of_ne (Ne.symm hchunk.1)),
        ih hchunk.2, List.modifyHead_modifyHead]
      rfl

theorem split_of_not_mem (h : s ∉ text) : split (s :: sep) text = [text] := by
  have hsplit : split (s :: sep) (text ++ []) = _ := split_append_of_not_mem h []
  simpa [split_nil] using hsplit

omit [DecidableEq α] in
theorem append_of_sep_occurs {before last : List α} (hsep : s ∉ sep)
    (h : s :: sep <+: a :: before ++ s :: (sep ++ last)) :
    ∃ between, a :: before = s :: sep ++ between := by
  -- the first element of the separator occurs in it once, so two occurrences do not overlap
  obtain ⟨tail, htail⟩ := h
  rcases List.append_eq_append_iff.mp htail with
    ⟨between, hbefore, -⟩ | ⟨overlap, hoverlap, hlast⟩
  · exact ⟨between, hbefore⟩
  · cases overlap with
    | nil => exact ⟨[], by rw [hoverlap, List.append_nil, List.append_nil]⟩
    | cons b overlap =>
        -- the second occurrence would start inside the first one
        obtain ⟨rfl, -⟩ := List.cons_eq_cons.mp hlast
        have hmem : s ∈ before ++ s :: overlap := by simp
        exact absurd ((List.cons_eq_cons.mp hoverlap).2 ▸ hmem) hsep

theorem split_append_sep_append {last : List α} (hsep : s ∉ sep) (hlast : s ∉ last) :
    ∀ before : List α, ∃ first others,
      split (s :: sep) (before ++ s :: (sep ++ last)) = first :: (others ++ [last])
  | [] => ⟨[], [], by
      rw [List.nil_append, ← List.cons_append, split_append_sep (List.cons_ne_nil s sep),
        split_of_not_mem hlast]
      rfl⟩
  | a :: before => by
      by_cases hprefix : s :: sep <+: a :: before ++ s :: (sep ++ last)
      · obtain ⟨between, hbetween⟩ := append_of_sep_occurs hsep hprefix
        have hshorter : between.length < before.length + 1 := by
          have := congrArg List.length hbetween
          simp at this
          omega
        obtain ⟨first, others, hrest⟩ := split_append_sep_append hsep hlast between
        refine ⟨[], first :: others, ?_⟩
        rw [hbetween, List.append_assoc, split_append_sep (List.cons_ne_nil s sep), hrest]
        rfl
      · obtain ⟨first, others, hrest⟩ := split_append_sep_append hsep hlast before
        refine ⟨a :: first, others, ?_⟩
        rw [List.cons_append] at hprefix ⊢
        rw [split_cons_of_not_occurs hprefix, hrest]
        rfl
  termination_by before => before.length
  decreasing_by
  · exact hshorter
  · exact Nat.lt_succ_self _

theorem lastPiece_append_sep_append {last : List α} (hsep : s ∉ sep) (hlast : s ∉ last)
    (before : List α) : lastPiece (s :: sep) (before ++ s :: (sep ++ last)) = last := by
  obtain ⟨first, others, hsplit⟩ := split_append_sep_append hsep hlast before
  rw [lastPiece, hsplit, ← List.cons_append, List.getLastD_concat]

end Split

section Remove

variable {pattern text rest chunk : List α} {a s : α}

theorem remove_nil (pattern : List α) : remove pattern [] = [] :=
  rfl

theorem remove_append_pattern (h : pattern ≠ []) (rest : List α) :
    remove pattern (pattern ++ rest) = remove pattern rest := by
  rw [remove, split_append_sep h]
  rfl

omit [DecidableEq α] in
theorem flatten_modifyHead (chunk : List α) {pieces : List (List α)} (h : pieces ≠ []) :
    (pieces.modifyHead (chunk ++ ·)).flatten = chunk ++ pieces.flatten := by
  cases pieces with
  | nil => exact absurd rfl h
  | cons piece pieces => simp

theorem remove_cons_of_not_occurs (h : ¬ pattern <+: a :: rest) :
    remove pattern (a :: rest) = a :: remove pattern rest := by
  rw [remove, split_cons_of_not_occurs h]
  exact flatten_modifyHead [a] (split_ne_nil pattern rest)

theorem remove_append_of_not_mem (hchunk : s ∉ chunk) (rest : List α) :
    remove (s :: pattern) (chunk ++ rest) = chunk ++ remove (s :: pattern) rest := by
  rw [remove, split_append_of_not_mem hchunk]
  exact flatten_modifyHead chunk (split_ne_nil _ rest)

omit [DecidableEq α] in
theorem infix_append_of_not_mem (hchunk : s ∉ chunk) (rest : List α) :
    s :: pattern <:+: chunk ++ rest ↔ s :: pattern <:+: rest := by
  induction chunk with
  | nil => rfl
  | cons a chunk ih =>
      rw [List.mem_cons, not_or] at hchunk
      rw [List.cons_append, List.infix_cons_iff, ih hchunk.2]
      exact or_iff_right (not_prefix_of_ne (Ne.symm hchunk.1))

end Remove

section Written

variable {write : α → List α} {s stop : α} {pattern : List α}

/-- Every element is written as it is, or as a block that a pattern cannot reach
into: its first element is not one of the pattern, and the pattern does not start
in it. -/
def Shields (write : α → List α) (s : α) (pattern : List α) : Prop :=
  ∀ a, write a = [a] ∨ s ∉ write a ∧ ∃ escape block, write a = escape :: block ∧ escape ∉ pattern

omit [DecidableEq α] in
theorem exists_of_prefix_written {rest : List α} (hwrite : Shields write s pattern) :
    ∀ {part : List α}, part ⊆ pattern → stop ∉ part → ∀ {text : List α},
      part <+: text.flatMap write ++ stop :: rest →
        ∃ later, text = part ++ later ∧ text.flatMap write = part ++ later.flatMap write
  | [], _, _, text, _ => ⟨text, rfl, rfl⟩
  | p :: part, _, hstop, [], h =>
      absurd (List.cons_prefix_cons.mp h).1 fun hp => hstop (hp ▸ List.mem_cons_self)
  | p :: part, hpart, hstop, a :: text, h => by
      rw [List.flatMap_cons] at h
      rcases hwrite a with ha | ⟨-, escape, block, ha, hescape⟩
      · rw [ha] at h
        obtain ⟨rfl, hrest⟩ := List.cons_prefix_cons.mp h
        obtain ⟨later, htext, hwritten⟩ := exists_of_prefix_written hwrite
          (List.subset_of_cons_subset hpart) (fun hp => hstop (List.mem_cons_of_mem _ hp)) hrest
        refine ⟨later, by rw [htext, List.cons_append], ?_⟩
        rw [List.flatMap_cons, ha, hwritten]
        rfl
      · rw [ha] at h
        obtain ⟨rfl, -⟩ := List.cons_prefix_cons.mp h
        exact absurd (hpart List.mem_cons_self) hescape

/-- What is left of a text that is cut where something occurs in it. -/
structure Cut (occurs : Prop) (text kept : List α) : Prop where
  shorter : occurs → kept.length < text.length
  same : ¬ occurs → kept = text

omit [DecidableEq α] in
theorem Cut.length_le {occurs : Prop} {text kept : List α} (h : Cut occurs text kept) :
    kept.length ≤ text.length := by
  by_cases hoccurs : occurs
  · exact Nat.le_of_lt (h.shorter hoccurs)
  · rw [h.same hoccurs]

omit [DecidableEq α] in
theorem Cut.eq_iff {occurs : Prop} {text kept : List α} (h : Cut occurs text kept) :
    kept = text ↔ ¬ occurs := by
  refine ⟨?_, h.same⟩
  rintro rfl hoccurs
  exact absurd (h.shorter hoccurs) (Nat.lt_irrefl _)

omit [DecidableEq α] in
theorem Cut.cons {occurs : Prop} {text kept : List α} (h : Cut occurs text kept) (a : α) :
    Cut occurs (a :: text) (a :: kept) where
  shorter := fun hoccurs => Nat.succ_lt_succ (h.shorter hoccurs)
  same := fun hnot => congrArg (a :: ·) (h.same hnot)

/-- A pattern is removed from a written text as from a text: what is left is the
writing of a text, and of the same one where the pattern does not occur. -/
theorem exists_remove_written (hwrite : Shields write s (s :: pattern))
    (hstop : stop ∉ s :: pattern) (rest : List α) : ∀ text : List α, ∃ kept : List α,
      remove (s :: pattern) (text.flatMap write ++ stop :: rest) =
          kept.flatMap write ++ stop :: remove (s :: pattern) rest ∧
        Cut (s :: pattern <:+: text.flatMap write) text kept
  | [] => by
      have hne : stop ≠ s := fun h => hstop (h ▸ List.mem_cons_self)
      refine ⟨[], remove_cons_of_not_occurs (not_prefix_of_ne hne), ?_, fun _ => rfl⟩
      simp
  | a :: text => by
      rw [List.flatMap_cons]
      rcases hwrite a with ha | ⟨hblock, -⟩
      · -- an occurrence that starts here cannot reach beyond the stop
        by_cases hprefix : s :: pattern <+: (a :: text).flatMap write ++ stop :: rest
        · obtain ⟨later, htext, hwritten⟩ :=
            exists_of_prefix_written hwrite (List.Subset.refl _) hstop hprefix
          have hshorter : later.length < (a :: text).length := by
            rw [htext, List.length_append, List.length_cons]
            omega
          obtain ⟨kept, hkept, hcut⟩ := exists_remove_written hwrite hstop rest later
          rw [List.flatMap_cons] at hwritten
          refine ⟨kept, ?_, fun _ => Nat.lt_of_le_of_lt hcut.length_le hshorter, ?_⟩
          · rw [hwritten, List.append_assoc, remove_append_pattern (List.cons_ne_nil _ _), hkept]
          · rw [hwritten]
            exact fun hnot => absurd (List.prefix_append _ _).isInfix hnot
        · obtain ⟨kept, hkept, hcut⟩ := exists_remove_written hwrite hstop rest text
          rw [List.flatMap_cons, ha] at hprefix
          have hoccurs : s :: pattern <:+: [a] ++ text.flatMap write ↔
              s :: pattern <:+: text.flatMap write := by
            rw [List.singleton_append, List.infix_cons_iff]
            exact or_iff_right fun h => hprefix (h.trans (List.prefix_append _ _))
          rw [ha, hoccurs]
          refine ⟨a :: kept, ?_, hcut.cons a⟩
          rw [List.flatMap_cons, ha]
          exact (remove_cons_of_not_occurs hprefix).trans (congrArg (a :: ·) hkept)
      · obtain ⟨kept, hkept, hcut⟩ := exists_remove_written hwrite hstop rest text
        rw [infix_append_of_not_mem hblock]
        refine ⟨a :: kept, ?_, hcut.cons a⟩
        rw [List.append_assoc, remove_append_of_not_mem hblock, hkept, List.flatMap_cons,
          List.append_assoc]
  termination_by text => text.length
  decreasing_by
  · exact hshorter
  · exact Nat.lt_succ_self _
  · exact Nat.lt_succ_self _

end Written

end Botman.Library.SplitText
