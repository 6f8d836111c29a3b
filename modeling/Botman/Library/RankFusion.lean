import Mathlib.Algebra.Order.Ring.Unbundled.Rat
import Mathlib.Algebra.Field.Rat
import Mathlib.Data.List.Basic

/-!
Rank fusion: several ranked lists of keyed items are merged into one by adding
up points for the ranks at which an item appears.

Scores are kept in the order in which items first appear, and the final sort is
stable, so an item that appears earlier wins a tie.
-/

namespace Botman.Library.RankFusion

universe u

variable {α : Type u} (key : α → Nat)

/-- An item with its points. -/
structure Scored (α : Type u) where
  item : α
  score : ℚ

/-- Credit points to the item with the key of `item`, which is entered if there
is none yet. -/
def addScore (scores : List (Scored α)) (item : α) (points : ℚ) : List (Scored α) :=
  if scores.any fun s => key s.item = key item then
    scores.map fun s =>
      if key s.item = key item then { s with score := s.score + points } else s
  else scores ++ [⟨item, points⟩]

/-- Credit a ranked list, the first of whose items has the given rank. -/
def fuse (points : Nat → ℚ) : Nat → List (Scored α) → List α → List (Scored α)
  | _, scores, [] => scores
  | rank, scores, item :: rest =>
      fuse points (rank + 1) (addScore key scores item (points rank)) rest

/-- The most points first; a stable sort. -/
def ranked (scores : List (Scored α)) : List (Scored α) :=
  scores.mergeSort fun s t => t.score ≤ s.score

section Fusing

variable {key} {points : Nat → ℚ} {scores : List (Scored α)}

theorem mem_addScore {item : α} {gain : ℚ} {s : Scored α}
    (h : s ∈ addScore key scores item gain) :
    (∃ t ∈ scores, s.item = t.item ∧
        s.score = if key t.item = key item then t.score + gain else t.score) ∨
      s = ⟨item, gain⟩ := by
  unfold addScore at h
  split at h
  · obtain ⟨t, ht, rfl⟩ := List.mem_map.mp h
    refine Or.inl ⟨t, ht, ?_⟩
    split
    · exact ⟨rfl, rfl⟩
    · exact ⟨rfl, rfl⟩
  · rename_i hnew
    rcases List.mem_append.mp h with ht | ht
    · have hother : key s.item ≠ key item := by
        intro hkey
        exact hnew (List.any_eq_true.mpr ⟨s, ht, decide_eq_true hkey⟩)
      exact Or.inl ⟨s, ht, rfl, (if_neg hother).symm⟩
    · exact Or.inr (List.mem_singleton.mp ht)

theorem addScore_ne_nil (scores : List (Scored α)) (item : α) (gain : ℚ) :
    addScore key scores item gain ≠ [] := by
  unfold addScore
  split
  · rename_i hentered
    intro hnil
    rw [List.map_eq_nil_iff.mp hnil] at hentered
    cases hentered
  · exact List.append_ne_nil_of_right_ne_nil _ (List.cons_ne_nil _ _)

theorem fuse_eq_nil_iff {items : List α} {rank : Nat} :
    fuse key points rank scores items = [] ↔ scores = [] ∧ items = [] := by
  induction items generalizing rank scores with
  | nil => simp [fuse]
  | cons item rest ih =>
      rw [fuse, ih]
      refine iff_of_false ?_ (fun h => List.cons_ne_nil _ _ h.2)
      exact fun h => addScore_ne_nil scores item _ h.1

theorem item_of_mem_fuse {items : List α} {rank : Nat} {s : Scored α}
    (h : s ∈ fuse key points rank scores items) :
    (∃ t ∈ scores, s.item = t.item) ∨ s.item ∈ items := by
  induction items generalizing rank scores with
  | nil => exact Or.inl ⟨s, h, rfl⟩
  | cons item rest ih =>
      rcases ih h with ⟨t, ht, hitem⟩ | hrest
      · rcases mem_addScore ht with ⟨r, hr, hsame, -⟩ | rfl
        · exact Or.inl ⟨r, hr, hitem.trans hsame⟩
        · exact Or.inr (hitem ▸ List.mem_cons_self)
      · exact Or.inr (List.mem_cons_of_mem _ hrest)

theorem fuse_cons (hpoints : ∀ rank, 0 ≤ points rank) {items : List α} {rank : Nat}
    (first : Scored α) (rest : List (Scored α)) :
    ∃ first' rest', fuse key points rank (first :: rest) items = first' :: rest' ∧
      first'.item = first.item ∧ first.score ≤ first'.score := by
  induction items generalizing rank first rest with
  | nil => exact ⟨first, rest, rfl, rfl, le_refl _⟩
  | cons item items ih =>
      have hstep : ∃ next more, addScore key (first :: rest) item (points rank) = next :: more ∧
          next.item = first.item ∧ first.score ≤ next.score := by
        unfold addScore
        split
        · refine ⟨_, _, rfl, ?_⟩
          dsimp only
          split
          · exact ⟨rfl, le_add_of_nonneg_right (hpoints rank)⟩
          · exact ⟨rfl, le_refl _⟩
        · exact ⟨first, rest ++ [⟨item, points rank⟩], rfl, rfl, le_refl _⟩
      obtain ⟨next, more, hnext, hitem, hscore⟩ := hstep
      obtain ⟨first', rest', hfuse, hitem', hscore'⟩ := ih next more
      refine ⟨first', rest', ?_, hitem'.trans hitem, hscore.trans hscore'⟩
      rw [fuse, hnext]
      exact hfuse

theorem score_le_of_mem_fuse (hpoints : ∀ rank, points rank ≤ points 0) {P : α → Prop}
    {items : List α} {rank : Nat} (hnodup : (items.map key).Nodup)
    (hscores : ∀ s ∈ scores, P s.item ∨ s.score ≤ points 0 ∧ key s.item ∉ items.map key) :
    ∀ s ∈ fuse key points rank scores items, P s.item ∨ s.score ≤ points 0 := by
  -- a list without repetition enters an item at one rank only
  induction items generalizing rank scores with
  | nil =>
      intro s hs
      exact (hscores s hs).imp id And.left
  | cons item rest ih =>
      rw [List.map_cons, List.nodup_cons] at hnodup
      refine ih hnodup.2 ?_
      intro s hs
      rcases mem_addScore hs with ⟨t, ht, hitem, hscore⟩ | rfl
      · rw [hitem]
        refine (hscores t ht).imp id ?_
        rintro ⟨hle, hkey⟩
        rw [List.map_cons, List.mem_cons, not_or] at hkey
        rw [hscore, if_neg hkey.1]
        exact ⟨hle, hkey.2⟩
      · exact Or.inr ⟨hpoints rank, hnodup.1⟩

end Fusing

theorem ranked_eq_nil_iff {scores : List (Scored α)} : ranked scores = [] ↔ scores = [] := by
  rw [← List.length_eq_zero_iff, ranked, List.length_mergeSort, List.length_eq_zero_iff]

theorem trans_descending (a b c : Scored α) (hab : decide (b.score ≤ a.score) = true)
    (hbc : decide (c.score ≤ b.score) = true) : decide (c.score ≤ a.score) = true :=
  decide_eq_true ((of_decide_eq_true hbc).trans (of_decide_eq_true hab))

theorem total_descending (a b : Scored α) :
    (decide (b.score ≤ a.score) || decide (a.score ≤ b.score)) = true := by
  rw [Bool.or_eq_true, decide_eq_true_iff, decide_eq_true_iff]
  exact le_total b.score a.score

theorem head?_ranked (first : Scored α) (rest : List (Scored α)) :
    ∃ lead, (ranked (first :: rest)).head? = some lead ∧
      (lead = first ∨ lead ∈ rest ∧ first.score < lead.score) := by
  let le : Scored α → Scored α → Bool := fun s t => t.score ≤ s.score
  have htrans : ∀ a b c, le a b = true → le b c = true → le a c = true := trans_descending
  have htotal : ∀ a b, (le a b || le b a) = true := total_descending
  obtain ⟨above, below, hsorted, hrest, habove⟩ :=
    List.mergeSort_cons htrans htotal first rest
  have hranked : ranked (first :: rest) = above ++ first :: below := hsorted
  rw [hranked]
  cases above with
  | nil => exact ⟨first, rfl, Or.inl rfl⟩
  | cons lead above =>
      refine ⟨lead, rfl, Or.inr ⟨?_, ?_⟩⟩
      · have hmem : lead ∈ rest.mergeSort le := by
          rw [hrest]
          exact List.mem_cons_self
        exact List.mem_mergeSort.mp hmem
      · have hnot := habove lead List.mem_cons_self
        simp only [le, Bool.not_eq_true', decide_eq_false_iff_not, not_le] at hnot
        exact hnot

theorem lead_of_property {P : α → Prop} {bound : ℚ} {first : Scored α} {rest : List (Scored α)}
    (hfirst : P first.item) (hbound : bound ≤ first.score)
    (hrest : ∀ s ∈ first :: rest, P s.item ∨ s.score ≤ bound) :
    ∃ lead, (ranked (first :: rest)).head? = some lead ∧ P lead.item := by
  obtain ⟨lead, hlead, rfl | ⟨hmem, hscore⟩⟩ := head?_ranked first rest
  · exact ⟨lead, hlead, hfirst⟩
  · refine ⟨lead, hlead, (hrest lead (List.mem_cons_of_mem _ hmem)).resolve_right ?_⟩
    intro hle
    exact absurd (hle.trans hbound) (not_le.mpr hscore)

section Lead

variable {key} {points : Nat → ℚ}

theorem fuse_nil_cons (hpos : ∀ rank, 0 ≤ points rank) (item : α) (rest : List α) :
    ∃ top others, fuse key points 0 [] (item :: rest) = top :: others ∧
      top.item = item ∧ points 0 ≤ top.score :=
  fuse_cons hpos ⟨item, points 0⟩ []

/-- Where the first list has items, one of them leads the fusion with the
second. -/
theorem lead_of_first (hpos : ∀ rank, 0 ≤ points rank) (hmax : ∀ rank, points rank ≤ points 0)
    {first second : List α} (hfirst : first ≠ []) (hnodup : (second.map key).Nodup) :
    ∃ lead, (ranked (fuse key points 0 (fuse key points 0 [] first) second)).head? = some lead ∧
      lead.item ∈ first := by
  obtain ⟨item, rest, rfl⟩ := List.exists_cons_of_ne_nil hfirst
  have hitems : ∀ s ∈ fuse key points 0 [] (item :: rest), s.item ∈ item :: rest := by
    intro s hs
    rcases item_of_mem_fuse hs with ⟨t, ht, -⟩ | hmem
    · cases ht
    · exact hmem
  obtain ⟨top, others, hfuse, htop, hscore⟩ := fuse_nil_cons hpos item rest
  rw [hfuse] at hitems ⊢
  have hbound : ∀ s ∈ fuse key points 0 (top :: others) second,
      s.item ∈ item :: rest ∨ s.score ≤ points 0 :=
    score_le_of_mem_fuse hmax hnodup fun s hs => Or.inl (hitems s hs)
  obtain ⟨top', others', hfuse', htop', hscore'⟩ := fuse_cons hpos top others
  rw [hfuse'] at hbound ⊢
  refine lead_of_property ?_ (hscore.trans hscore') hbound
  rw [htop', htop]
  exact List.mem_cons_self

end Lead

section Entries

variable {key} {points : Nat → ℚ} {scores : List (Scored α)}

def keys (key : α → Nat) (scores : List (Scored α)) : List Nat :=
  (scores.map Scored.item).map key

theorem any_eq_true_iff {item : α} :
    (scores.any fun s => key s.item = key item) = true ↔ key item ∈ keys key scores := by
  rw [List.any_eq_true, keys, List.map_map, List.mem_map]
  refine exists_congr fun s => and_congr_right fun _ => ?_
  exact decide_eq_true_iff

theorem items_addScore (scores : List (Scored α)) (item : α) (gain : ℚ) :
    (addScore key scores item gain).map Scored.item =
      scores.map Scored.item ++ if key item ∈ keys key scores then [] else [item] := by
  unfold addScore
  split
  · rename_i hentered
    rw [if_pos (any_eq_true_iff.mp hentered), List.append_nil, List.map_map]
    apply List.map_congr_left
    intro s _
    rw [Function.comp_apply]
    split <;> rfl
  · rename_i hnew
    rw [if_neg (mt any_eq_true_iff.mpr hnew), List.map_append]
    rfl

theorem mem_keys_addScore (scores : List (Scored α)) (item : α) (gain : ℚ) (k : Nat) :
    k ∈ keys key (addScore key scores item gain) ↔ k ∈ keys key scores ∨ k = key item := by
  rw [keys, items_addScore, List.map_append, List.mem_append]
  refine or_congr_right' fun hk => ?_
  split
  · rename_i hitem
    refine iff_of_false List.not_mem_nil ?_
    rintro rfl
    exact hk hitem
  · exact List.mem_singleton

theorem items_fuse {items : List α} (hnodup : (items.map key).Nodup) (rank : Nat)
    (scores : List (Scored α)) :
    (fuse key points rank scores items).map Scored.item =
      scores.map Scored.item ++ items.filter fun item => key item ∉ keys key scores := by
  induction items generalizing rank scores with
  | nil => exact (List.append_nil _).symm
  | cons item rest ih =>
      rw [List.map_cons, List.nodup_cons] at hnodup
      have hrest : (rest.filter fun other =>
            key other ∉ keys key (addScore key scores item (points rank))) =
          rest.filter fun other => key other ∉ keys key scores := by
        apply List.filter_congr
        intro other hother
        have hdiffers : key other ≠ key item := by
          intro hsame
          exact hnodup.1 (hsame ▸ List.mem_map_of_mem hother)
        rw [decide_eq_decide, mem_keys_addScore, or_iff_left hdiffers]
      rw [fuse, ih hnodup.2, hrest, items_addScore, List.append_assoc, List.filter_cons]
      split
      · rename_i hitem
        rw [if_neg (by simpa using hitem)]
        rfl
      · rename_i hitem
        rw [if_pos (decide_eq_true hitem)]
        rfl

end Entries

section Points

variable {key} {points : Nat → ℚ} {scores : List (Scored α)}

/-- The points of a key, zero where it has not been entered. -/
def scoreOf (key : α → Nat) (scores : List (Scored α)) (k : Nat) : ℚ :=
  (scores.find? fun s => key s.item = k).elim 0 Scored.score

theorem find?_eq_none_of_new {k : Nat} (h : k ∉ keys key scores) :
    (scores.find? fun s => key s.item = k) = none := by
  rw [List.find?_eq_none]
  intro s hs hkey
  refine h (List.mem_map.mpr ⟨s.item, List.mem_map_of_mem hs, ?_⟩)
  exact of_decide_eq_true hkey

/-- Points for the entry of an item. -/
def credit (key : α → Nat) (item : α) (gain : ℚ) (s : Scored α) : Scored α :=
  if key s.item = key item then { s with score := s.score + gain } else s

theorem key_credit (item : α) (gain : ℚ) (s : Scored α) :
    key (credit key item gain s).item = key s.item := by
  unfold credit
  split <;> rfl

theorem scoreOf_credit {item : α} (hentered : key item ∈ keys key scores) (gain : ℚ) (k : Nat) :
    scoreOf key (scores.map (credit key item gain)) k =
      scoreOf key scores k + if key item = k then gain else 0 := by
  have hsame : ((fun s => decide (key s.item = k)) ∘ credit key item gain) =
      fun s : Scored α => decide (key s.item = k) := by
    funext s
    exact congrArg (fun other => decide (other = k)) (key_credit item gain s)
  rw [scoreOf, List.find?_map, hsame, scoreOf]
  cases hfound : scores.find? fun s => key s.item = k with
  | none =>
      have hother : key item ≠ k := by
        rintro rfl
        obtain ⟨s, hs, hkey⟩ := List.any_eq_true.mp (any_eq_true_iff.mpr hentered)
        exact List.find?_eq_none.mp hfound s hs hkey
      rw [if_neg hother, add_zero]
      rfl
  | some s =>
      have hkey : key s.item = k := by simpa using List.find?_some hfound
      simp only [Option.map_some, Option.elim_some, credit, hkey, eq_comm]
      split
      · rfl
      · rw [add_zero]

theorem scoreOf_addScore (scores : List (Scored α)) (item : α) (gain : ℚ) (k : Nat) :
    scoreOf key (addScore key scores item gain) k =
      scoreOf key scores k + if key item = k then gain else 0 := by
  unfold addScore
  split
  · rename_i hentered
    exact scoreOf_credit (any_eq_true_iff.mp hentered) gain k
  · rename_i hnew
    have hitem : key item ∉ keys key scores := mt any_eq_true_iff.mpr hnew
    rw [scoreOf, List.find?_append, scoreOf]
    by_cases hkey : key item = k
    · rw [← hkey, find?_eq_none_of_new hitem]
      simp
    · simp [hkey]

/-- The points for the ranks at which a key appears. -/
def gained (key : α → Nat) (points : Nat → ℚ) : Nat → List α → Nat → ℚ
  | _, [], _ => 0
  | rank, item :: rest, k =>
      (if key item = k then points rank else 0) + gained key points (rank + 1) rest k

theorem scoreOf_fuse (items : List α) (rank : Nat) (scores : List (Scored α)) (k : Nat) :
    scoreOf key (fuse key points rank scores items) k =
      scoreOf key scores k + gained key points rank items k := by
  induction items generalizing rank scores with
  | nil => exact (add_zero _).symm
  | cons item rest ih => rw [fuse, ih, scoreOf_addScore, gained, add_assoc]

theorem gained_of_not_mem {items : List α} {k : Nat} (h : k ∉ items.map key) (rank : Nat) :
    gained key points rank items k = 0 := by
  induction items generalizing rank with
  | nil => rfl
  | cons item rest ih =>
      rw [List.map_cons, List.mem_cons, not_or] at h
      rw [gained, if_neg (Ne.symm h.1), ih h.2, add_zero]

theorem gained_of_mem {items : List α} {k : Nat} (hnodup : (items.map key).Nodup)
    (h : k ∈ items.map key) (rank : Nat) :
    gained key points rank items k = points (rank + (items.map key).idxOf k) := by
  induction items generalizing rank with
  | nil => cases h
  | cons item rest ih =>
      rw [List.map_cons, List.nodup_cons] at hnodup
      rw [gained, List.map_cons]
      by_cases hkey : key item = k
      · have hrest : k ∉ rest.map key := hkey ▸ hnodup.1
        rw [if_pos hkey, gained_of_not_mem hrest, add_zero, hkey, List.idxOf_cons_self, add_zero]
      · have hmem : k ∈ rest.map key := by
          rcases List.mem_cons.mp h with hfirst | hmem
          · exact absurd hfirst.symm hkey
          · exact hmem
        rw [if_neg hkey, zero_add, ih hnodup.2 hmem, List.idxOf_cons_ne _ hkey,
          Nat.succ_add_eq_add_succ rank]

theorem scoreOf_of_mem (hnodup : (keys key scores).Nodup) {s : Scored α} (h : s ∈ scores) :
    scoreOf key scores (key s.item) = s.score := by
  induction scores with
  | nil => cases h
  | cons first rest ih =>
      have hkeys : keys key (first :: rest) = key first.item :: keys key rest := rfl
      rw [hkeys, List.nodup_cons] at hnodup
      rw [scoreOf, List.find?_cons]
      rcases List.mem_cons.mp h with rfl | hmem
      · simp
      · have hdiffers : key first.item ≠ key s.item := by
          intro hsame
          refine hnodup.1 (hsame ▸ ?_)
          exact List.mem_map_of_mem (List.mem_map_of_mem hmem)
        rw [decide_eq_false hdiffers]
        exact ih hnodup.2 hmem

end Points

section Order

open List

theorem pair_sublist_of_mem {l : List α} {a b : α} (ha : a ∈ l) (hb : b ∈ l) (hne : a ≠ b) :
    [a, b] <+ l ∨ [b, a] <+ l := by
  induction l with
  | nil => cases ha
  | cons c rest ih =>
      rcases mem_cons.mp ha with rfl | harest
      · have hbrest : b ∈ rest := (mem_cons.mp hb).resolve_left (Ne.symm hne)
        exact Or.inl ((singleton_sublist.mpr hbrest).cons_cons a)
      · rcases mem_cons.mp hb with rfl | hbrest
        · exact Or.inr ((singleton_sublist.mpr harest).cons_cons b)
        · exact (ih harest hbrest).imp (Sublist.cons c) (Sublist.cons c)

theorem idxOf_lt_of_pair_sublist [DecidableEq α] {l : List α} {a b : α} (hnodup : l.Nodup)
    (h : [a, b] <+ l) : l.idxOf a < l.idxOf b := by
  induction l with
  | nil => cases h
  | cons c rest ih =>
      rw [nodup_cons] at hnodup
      have hne : a ≠ b := by
        have hpair : [a, b].Nodup := (nodup_cons.mpr hnodup).sublist h
        simpa using hpair
      cases h with
      | cons _ hrest =>
          have ha : a ∈ rest := hrest.subset (by simp)
          have hb : b ∈ rest := hrest.subset (by simp)
          have hca : c ≠ a := fun hsame => hnodup.1 (hsame ▸ ha)
          have hcb : c ≠ b := fun hsame => hnodup.1 (hsame ▸ hb)
          rw [idxOf_cons_ne _ hca, idxOf_cons_ne _ hcb]
          exact Nat.succ_lt_succ (ih hnodup.2 hrest)
      | cons_cons _ hrest =>
          rw [idxOf_cons_self, idxOf_cons_ne _ hne]
          exact Nat.succ_pos _

theorem not_pair_sublist_swap {l : List α} {a b : α} (hnodup : l.Nodup) (h : [a, b] <+ l) :
    ¬ [b, a] <+ l := by
  classical
  intro hswap
  exact Nat.lt_asymm (idxOf_lt_of_pair_sublist hnodup h) (idxOf_lt_of_pair_sublist hnodup hswap)

theorem pairwise_ranked {scores : List (Scored α)} (hnodup : scores.Nodup) :
    (ranked scores).Pairwise fun s t =>
      t.score < s.score ∨ t.score = s.score ∧ [s, t] <+ scores := by
  let le : Scored α → Scored α → Bool := fun s t => t.score ≤ s.score
  have htrans : ∀ a b c, le a b = true → le b c = true → le a c = true := trans_descending
  have htotal : ∀ a b, (le a b || le b a) = true := total_descending
  have hperm : ranked scores ~ scores := mergeSort_perm scores le
  have hsorted : (ranked scores).Pairwise fun s t => le s t = true :=
    pairwise_mergeSort htrans htotal scores
  have hnodup' : (ranked scores).Nodup := hperm.nodup_iff.mpr hnodup
  rw [pairwise_iff_forall_sublist]
  intro s t hst
  have hle : t.score ≤ s.score := of_decide_eq_true (pairwise_iff_forall_sublist.mp hsorted hst)
  rcases lt_or_eq_of_le hle with hlt | heq
  · exact Or.inl hlt
  · refine Or.inr ⟨heq, ?_⟩
    have hs : s ∈ scores := hperm.subset (hst.subset (by simp))
    have ht : t ∈ scores := hperm.subset (hst.subset (by simp))
    have hne : s ≠ t := by simpa using hnodup'.sublist hst
    refine (pair_sublist_of_mem hs ht hne).resolve_right ?_
    intro hswap
    -- A stable sort would have kept the pair as it was.
    have hkept : [t, s] <+ ranked scores :=
      pair_sublist_mergeSort htrans htotal (decide_eq_true heq.ge) hswap
    exact not_pair_sublist_swap hnodup' hst hkept

end Order

end Botman.Library.RankFusion
