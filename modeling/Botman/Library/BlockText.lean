import Mathlib.Data.List.Chain

/-!
Texts whose blocks end with a doubled separator, read piece by piece.

A reader that keeps the part after the last doubled separator in a buffer
handles the same blocks, in the same order, as one that sees the whole text.
-/

namespace Botman.Library.BlockText

universe u v

variable {α : Type u} [DecidableEq α]

/-- A character in front of the first part of a split text. -/
def extend (c : α) : List (List α) × List α → List (List α) × List α
  | ([], last) => ([], c :: last)
  | (block :: blocks, last) => ((c :: block) :: blocks, last)

/-- The text split at the doubled separator, from the left: the parts before
the last one, and the last one. -/
def splitBlocks (sep : α) : List α → List (List α) × List α
  | [] => ([], [])
  | [c] => ([], [c])
  | c :: d :: rest =>
      if c = sep ∧ d = sep then
        let split := splitBlocks sep rest
        ([] :: split.1, split.2)
      else extend c (splitBlocks sep (d :: rest))

theorem splitBlocks_cons {sep c d : α} (h : ¬(c = sep ∧ d = sep)) (rest : List α) :
    splitBlocks sep (c :: d :: rest) = extend c (splitBlocks sep (d :: rest)) := by
  rw [splitBlocks, if_neg h]

theorem eq_of_splitBlocks_nil {sep : α} {text last : List α}
    (h : splitBlocks sep text = ([], last)) : last = text := by
  induction text using splitBlocks.induct sep generalizing last with
  | case1 =>
      cases h
      rfl
  | case2 c =>
      cases h
      rfl
  | case3 c d rest hsep ih =>
      rw [splitBlocks, if_pos hsep] at h
      cases h
  | case4 c d rest hsep ih =>
      rw [splitBlocks_cons hsep] at h
      rcases hrest : splitBlocks sep (d :: rest) with ⟨_ | ⟨block, blocks⟩, tail⟩
      · rw [hrest] at h
        cases h
        rw [ih hrest]
      · rw [hrest] at h
        cases h

theorem splitBlocks_last (sep : α) (text : List α) :
    (splitBlocks sep (splitBlocks sep text).2).1 = [] := by
  induction text using splitBlocks.induct sep with
  | case1 => rfl
  | case2 c => rfl
  | case3 c d rest hsep ih =>
      rw [splitBlocks, if_pos hsep]
      exact ih
  | case4 c d rest hsep ih =>
      have hsplit := splitBlocks_cons hsep rest
      rcases hrest : splitBlocks sep (d :: rest) with ⟨_ | ⟨block, blocks⟩, last⟩
      · rw [hrest] at hsplit
        have hwhole : c :: last = c :: d :: rest := by rw [eq_of_splitBlocks_nil hrest]
        rw [hsplit]
        change (splitBlocks sep (c :: last)).1 = []
        rw [hwhole, hsplit]
        rfl
      · rw [hsplit, hrest]
        rw [hrest] at ih
        exact ih

theorem splitBlocks_append (sep : α) (text more : List α) :
    splitBlocks sep (text ++ more) =
      ((splitBlocks sep text).1 ++ (splitBlocks sep ((splitBlocks sep text).2 ++ more)).1,
        (splitBlocks sep ((splitBlocks sep text).2 ++ more)).2) := by
  induction text using splitBlocks.induct sep with
  | case1 => rfl
  | case2 c => rfl
  | case3 c d rest hsep ih =>
      rw [List.cons_append, List.cons_append, splitBlocks, if_pos hsep, ih, splitBlocks,
        if_pos hsep]
      rfl
  | case4 c d rest hsep ih =>
      have hsplit := splitBlocks_cons hsep rest
      rcases hrest : splitBlocks sep (d :: rest) with ⟨_ | ⟨block, blocks⟩, last⟩
      · -- nothing is complete yet, so the last part is the whole text
        rw [hsplit, hrest, eq_of_splitBlocks_nil hrest]
        rfl
      · have hmore := splitBlocks_cons hsep (rest ++ more)
        rw [List.cons_append, List.cons_append, hmore, ← List.cons_append, ih, hsplit, hrest]
        rfl

theorem splitBlocks_block {sep : α} {block : List α}
    (h : List.IsChain (fun c d => ¬(c = sep ∧ d = sep)) (block ++ [sep])) (rest : List α) :
    splitBlocks sep (block ++ sep :: sep :: rest) =
      (block :: (splitBlocks sep rest).1, (splitBlocks sep rest).2) := by
  induction block with
  | nil => rw [List.nil_append, splitBlocks, if_pos ⟨rfl, rfl⟩]
  | cons c block ih =>
      rw [List.cons_append] at h
      have hrest := ih h.tail
      cases block with
      | nil =>
          have hne := (List.isChain_cons_cons.mp h).1
          rw [List.nil_append] at hrest
          rw [List.cons_append, List.nil_append, splitBlocks_cons hne, hrest]
          rfl
      | cons d block =>
          have hne := (List.isChain_cons_cons.mp h).1
          rw [List.cons_append, List.cons_append, splitBlocks_cons hne, ← List.cons_append, hrest]
          rfl

section Reading

variable {β : Type v} (sep : α) (handle : β → List α → β)

/-- One read: the blocks that are complete now are handled in order, and the
rest is kept. -/
def feed (state : β × List α) (read : List α) : β × List α :=
  let split := splitBlocks sep (state.2 ++ read)
  (split.1.foldl handle state.1, split.2)

/-- However a text is cut into reads, its blocks are handled as they stand in
the whole text. -/
theorem foldl_feed (s : β) {buffer : List α} (hbuffer : (splitBlocks sep buffer).1 = [])
    (reads : List (List α)) :
    reads.foldl (feed sep handle) (s, buffer) =
      ((splitBlocks sep (buffer ++ reads.flatten)).1.foldl handle s,
        (splitBlocks sep (buffer ++ reads.flatten)).2) := by
  induction reads generalizing s buffer with
  | nil =>
      rcases hsplit : splitBlocks sep buffer with ⟨blocks, last⟩
      rw [hsplit] at hbuffer
      cases hbuffer
      rw [List.flatten_nil, List.append_nil, hsplit, eq_of_splitBlocks_nil hsplit]
      rfl
  | cons read reads ih =>
      rw [List.foldl_cons, feed, ih _ (splitBlocks_last sep _), List.flatten_cons,
        ← List.append_assoc, splitBlocks_append sep (buffer ++ read), List.foldl_append]

end Reading

end Botman.Library.BlockText
