import Mathlib.Data.Finset.Card
import Mathlib.Tactic.Linarith
import Mathlib.Tactic.Ring
import Botman.KnowledgeSearch

/-!
The fusion at the end of `search_knowledge`, for any two lists of chunks: it
returns exactly the first chunks of the ranking by fused score.
-/

namespace Botman.HybridSearch

open Botman.Library.PythonValue
open Botman.Library.RankFusion
open Botman.DataModel
open Botman.KnowledgeTask
open Botman.ChunkOwnership
open Botman.KnowledgeSearch

variable {n : Nat}

/-- The hybrid branch, from the chunks of the two searches on. -/
def fusedChunks (vector : List (FoundChunk n)) (keyword : List (Chunk n)) (limit : Nat) :
    List (FoundChunk n) :=
  ((ranked (chunkScores vector keyword)).take limit).map fun s =>
    { s.item with combinedScore := some s.score }

theorem searchKnowledge_hybrid {queryText : Json} (h : truthy queryText = true)
    (services : SearchServices n) (chunks : List (Chunk n)) (query : Embedding n) (limit : Nat)
    (threshold : ℚ) :
    searchKnowledge services chunks query queryText limit threshold =
      fusedChunks (qualifiedChunks services query chunks limit threshold)
        (keywordChunks services queryText chunks limit) limit := by
  rw [searchKnowledge, if_neg (by simp [h])]
  rfl

section Specification

/-- The points that a list gives to a chunk. -/
def listScore (ids : List Nat) (id : Nat) : ℚ :=
  if id ∈ ids then 1 / (61 + ids.idxOf id) else 0

/-- The specification of a score: the points of both lists. -/
def fusedScore (vector keyword : List Nat) (id : Nat) : ℚ :=
  listScore vector id + listScore keyword id

/-- The rule for equal scores: the chunks of the first list come first, and either
list keeps its order. -/
def Precedes (vector keyword : List Nat) (a b : Nat) : Prop :=
  if b ∈ vector then a ∈ vector ∧ vector.idxOf a < vector.idxOf b
  else a ∈ vector ∨ keyword.idxOf a < keyword.idxOf b

def vectorIds (vector : List (FoundChunk n)) : List Nat :=
  vector.map chunkKey

def keywordIds (keyword : List (Chunk n)) : List Nat :=
  keyword.map KnowledgeChunk.id

/-- A chunk of either list with its score; the search by vector has the first
say. -/
def IsScored (vector : List (FoundChunk n)) (keyword : List (Chunk n)) (c : FoundChunk n) : Prop :=
  ∃ source, c = { source with
      combinedScore := some (fusedScore (vectorIds vector) (keywordIds keyword) c.row.id) } ∧
    (source ∈ vector ∨
      ∃ row ∈ keyword, row.id ∉ vectorIds vector ∧ source = found row (some 0))

/-- The result is exactly the top of the ranking. -/
structure ExactTop (vector : List (FoundChunk n)) (keyword : List (Chunk n)) (limit : Nat)
    (result : List (FoundChunk n)) : Prop where
  distinct : (result.map chunkKey).Nodup
  length_eq : result.length =
    min limit ((vectorIds vector).toFinset ∪ (keywordIds keyword).toFinset).card
  scored : ∀ c ∈ result, IsScored vector keyword c
  ordered : (result.map chunkKey).Pairwise fun a b =>
    fusedScore (vectorIds vector) (keywordIds keyword) b <
        fusedScore (vectorIds vector) (keywordIds keyword) a ∨
      fusedScore (vectorIds vector) (keywordIds keyword) b =
          fusedScore (vectorIds vector) (keywordIds keyword) a ∧
        Precedes (vectorIds vector) (keywordIds keyword) a b
  omitted : ∀ id, id ∈ vectorIds vector ∨ id ∈ keywordIds keyword → id ∉ result.map chunkKey →
    ∀ a ∈ result.map chunkKey,
      fusedScore (vectorIds vector) (keywordIds keyword) id ≤
        fusedScore (vectorIds vector) (keywordIds keyword) a
  both_first : limit ≤ 30 → ∀ both ∈ vectorIds vector, both ∈ keywordIds keyword →
    ∀ one ∈ result.map chunkKey, ¬ (one ∈ vectorIds vector ∧ one ∈ keywordIds keyword) →
      ∃ before after, result.map chunkKey = before ++ one :: after ∧ both ∈ before

end Specification

section Scores

variable {vector : List (FoundChunk n)} {keyword : List (Chunk n)}

/-- The chunks of the search by keyword, as the fusion enters them. -/
def entered (keyword : List (Chunk n)) : List (FoundChunk n) :=
  keyword.map fun row => found row (some 0)

theorem map_chunkKey_entered (keyword : List (Chunk n)) :
    (entered keyword).map chunkKey = keywordIds keyword := by
  rw [entered, List.map_map]
  rfl

theorem chunkScores_eq (vector : List (FoundChunk n)) (keyword : List (Chunk n)) :
    chunkScores vector keyword =
      fuse chunkKey rrfPoints 0 (fuse chunkKey rrfPoints 0 [] vector) (entered keyword) :=
  rfl

/-- The order of entry: what is in the first list is not entered again. -/
def mergedIds (vector keyword : List Nat) : List Nat :=
  vector ++ keyword.filter fun id => id ∉ vector

theorem items_chunkScores (hvector : (vectorIds vector).Nodup)
    (hkeyword : (keywordIds keyword).Nodup) :
    (chunkScores vector keyword).map Scored.item =
      vector ++ (entered keyword).filter fun c => chunkKey c ∉ vectorIds vector := by
  have hfirst : (fuse chunkKey rrfPoints 0 [] vector).map Scored.item = vector := by
    rw [items_fuse hvector]
    simp [keys]
  have hkeys : keys chunkKey (fuse chunkKey rrfPoints 0 [] vector) = vectorIds vector := by
    rw [keys, hfirst]
    rfl
  have hsecond : ((entered keyword).map chunkKey).Nodup := by
    rw [map_chunkKey_entered]
    exact hkeyword
  rw [chunkScores_eq, items_fuse hsecond, hfirst, hkeys]

theorem keys_chunkScores (hvector : (vectorIds vector).Nodup)
    (hkeyword : (keywordIds keyword).Nodup) :
    keys chunkKey (chunkScores vector keyword) =
      mergedIds (vectorIds vector) (keywordIds keyword) := by
  rw [keys, items_chunkScores hvector hkeyword, List.map_append, mergedIds,
    ← map_chunkKey_entered keyword, List.filter_map]
  rfl

theorem nodup_mergedIds {vector keyword : List Nat} (hvector : vector.Nodup)
    (hkeyword : keyword.Nodup) : (mergedIds vector keyword).Nodup := by
  refine List.nodup_append.mpr ⟨hvector, hkeyword.filter _, ?_⟩
  rintro a ha b hb rfl
  have hnot := (List.mem_filter.mp hb).2
  exact of_decide_eq_true hnot ha

theorem mem_mergedIds {vector keyword : List Nat} {id : Nat} :
    id ∈ mergedIds vector keyword ↔ id ∈ vector ∨ id ∈ keyword := by
  rw [mergedIds, List.mem_append, List.mem_filter]
  by_cases hmem : id ∈ vector
  · exact iff_of_true (Or.inl hmem) (Or.inl hmem)
  · simp [hmem]

theorem listScore_eq {ids : List Nat} {items : List (FoundChunk n)}
    (hids : items.map chunkKey = ids) (hnodup : ids.Nodup) (id : Nat) :
    gained chunkKey rrfPoints 0 items id = listScore ids id := by
  rw [← hids] at hnodup ⊢
  unfold listScore
  split
  · rename_i hmem
    rw [gained_of_mem hnodup hmem, rrfPoints, Nat.zero_add]
    ring
  · rename_i hmem
    exact gained_of_not_mem hmem 0

theorem score_of_mem (hvector : (vectorIds vector).Nodup) (hkeyword : (keywordIds keyword).Nodup)
    {s : Scored (FoundChunk n)} (h : s ∈ chunkScores vector keyword) :
    s.score = fusedScore (vectorIds vector) (keywordIds keyword) (chunkKey s.item) := by
  have hnodup : (keys chunkKey (chunkScores vector keyword)).Nodup := by
    rw [keys_chunkScores hvector hkeyword]
    exact nodup_mergedIds hvector hkeyword
  rw [← scoreOf_of_mem hnodup h, chunkScores_eq, scoreOf_fuse, scoreOf_fuse, fusedScore,
    listScore_eq rfl hvector, listScore_eq (map_chunkKey_entered keyword) hkeyword]
  exact congrArg (· + _) (zero_add _)

theorem nodup_chunkScores (hvector : (vectorIds vector).Nodup)
    (hkeyword : (keywordIds keyword).Nodup) : (chunkScores vector keyword).Nodup := by
  have hnodup := nodup_mergedIds hvector hkeyword
  rw [← keys_chunkScores hvector hkeyword, keys, List.map_map] at hnodup
  exact hnodup.of_map _

end Scores

section Ties

open List

theorem precedes_of_pair_sublist {vector keyword : List Nat} {a b : Nat} (hvector : vector.Nodup)
    (hkeyword : keyword.Nodup) (h : [a, b] <+ mergedIds vector keyword) :
    Precedes vector keyword a b := by
  unfold Precedes
  obtain ⟨first, second, hpair, hfirst, hsecond⟩ := sublist_append_iff.mp h
  cases first with
  | nil =>
      rw [nil_append] at hpair
      rw [← hpair] at hsecond
      have hb : b ∉ vector := by
        have hmem := mem_filter.mp (hsecond.subset (mem_cons_of_mem a mem_cons_self))
        exact of_decide_eq_true hmem.2
      rw [if_neg hb]
      exact Or.inr (idxOf_lt_of_pair_sublist hkeyword (hsecond.trans filter_sublist))
  | cons c first =>
      rw [cons_append] at hpair
      obtain ⟨rfl, hrest⟩ := cons.inj hpair
      have ha : a ∈ vector := hfirst.subset mem_cons_self
      cases first with
      | nil =>
          rw [nil_append] at hrest
          rw [← hrest] at hsecond
          have hb : b ∉ vector := by
            have hmem := mem_filter.mp (hsecond.subset mem_cons_self)
            exact of_decide_eq_true hmem.2
          rw [if_neg hb]
          exact Or.inl ha
      | cons d first =>
          rw [cons_append] at hrest
          obtain ⟨rfl, hempty⟩ := cons.inj hrest
          have hnil : first = [] := (append_eq_nil_iff.mp hempty.symm).1
          rw [hnil] at hfirst
          rw [if_pos (hfirst.subset (mem_cons_of_mem a mem_cons_self))]
          exact ⟨ha, idxOf_lt_of_pair_sublist hvector hfirst⟩

end Ties

section Dominance

theorem listScore_le (ids : List Nat) (id : Nat) : listScore ids id ≤ 1 / 61 := by
  unfold listScore
  split
  · apply one_div_le_one_div_of_le
    · norm_num
    · simp
  · norm_num

theorem le_listScore {ids : List Nat} {id : Nat} (hlength : ids.length ≤ 60) (h : id ∈ ids) :
    1 / 120 ≤ listScore ids id := by
  have hlt : ids.idxOf id + 1 ≤ 60 := (List.idxOf_lt_length_of_mem h).trans_le hlength
  have hcast : ((ids.idxOf id : ℕ) : ℚ) + 1 ≤ 60 := by exact_mod_cast hlt
  rw [listScore, if_pos h]
  apply one_div_le_one_div_of_le
  · positivity
  · linarith

theorem fusedScore_lt {vector keyword : List Nat} {both one : Nat}
    (hvector : vector.length ≤ 60) (hkeyword : keyword.length ≤ 60)
    (hboth : both ∈ vector ∧ both ∈ keyword) (hone : ¬ (one ∈ vector ∧ one ∈ keyword)) :
    fusedScore vector keyword one < fusedScore vector keyword both := by
  -- two ranks within sixty are worth more than one: `2/120` is more than `1/61`
  have hhigh : 1 / 120 + 1 / 120 ≤ fusedScore vector keyword both :=
    add_le_add (le_listScore hvector hboth.1) (le_listScore hkeyword hboth.2)
  have hlow : fusedScore vector keyword one ≤ 1 / 61 := by
    unfold fusedScore
    rcases not_and_or.mp hone with hnot | hnot
    · have hzero : listScore vector one = 0 := if_neg hnot
      rw [hzero, zero_add]
      exact listScore_le keyword one
    · have hzero : listScore keyword one = 0 := if_neg hnot
      rw [hzero, add_zero]
      exact listScore_le vector one
  have hgap : (1 : ℚ) / 61 < 1 / 120 + 1 / 120 := by norm_num
  linarith

end Dominance

section Top

variable {vector : List (FoundChunk n)} {keyword : List (Chunk n)} {limit : Nat}

/-- The keys of the ranking. -/
def rankedIds (vector : List (FoundChunk n)) (keyword : List (Chunk n)) : List Nat :=
  keys chunkKey (ranked (chunkScores vector keyword))

theorem ids_fusedChunks (vector : List (FoundChunk n)) (keyword : List (Chunk n)) (limit : Nat) :
    (fusedChunks vector keyword limit).map chunkKey = (rankedIds vector keyword).take limit := by
  rw [fusedChunks, rankedIds, keys, List.map_map, List.map_map, ← List.map_take]
  rfl

theorem perm_rankedIds (hvector : (vectorIds vector).Nodup)
    (hkeyword : (keywordIds keyword).Nodup) :
    (rankedIds vector keyword).Perm (mergedIds (vectorIds vector) (keywordIds keyword)) := by
  rw [← keys_chunkScores hvector hkeyword]
  exact ((List.mergeSort_perm _ _).map _).map _

theorem pairwise_rankedIds (hvector : (vectorIds vector).Nodup)
    (hkeyword : (keywordIds keyword).Nodup) :
    (rankedIds vector keyword).Pairwise fun a b =>
      fusedScore (vectorIds vector) (keywordIds keyword) b <
          fusedScore (vectorIds vector) (keywordIds keyword) a ∨
        fusedScore (vectorIds vector) (keywordIds keyword) b =
            fusedScore (vectorIds vector) (keywordIds keyword) a ∧
          Precedes (vectorIds vector) (keywordIds keyword) a b := by
  have hranked := pairwise_ranked (nodup_chunkScores hvector hkeyword)
  have hscore : ∀ s ∈ ranked (chunkScores vector keyword),
      s.score = fusedScore (vectorIds vector) (keywordIds keyword) (chunkKey s.item) := by
    intro s hs
    exact score_of_mem hvector hkeyword (List.mem_mergeSort.mp hs)
  rw [rankedIds, keys, List.map_map, List.pairwise_map]
  refine hranked.imp_of_mem ?_
  intro s t hs ht hst
  rw [hscore s hs, hscore t ht] at hst
  refine hst.imp id ?_
  rintro ⟨heq, hsub⟩
  refine ⟨heq, precedes_of_pair_sublist hvector hkeyword ?_⟩
  rw [← keys_chunkScores hvector hkeyword]
  exact (hsub.map Scored.item).map chunkKey

theorem card_union_ids (hvector : (vectorIds vector).Nodup)
    (hkeyword : (keywordIds keyword).Nodup) :
    ((vectorIds vector).toFinset ∪ (keywordIds keyword).toFinset).card =
      (rankedIds vector keyword).length := by
  have hunion : (vectorIds vector).toFinset ∪ (keywordIds keyword).toFinset =
      (mergedIds (vectorIds vector) (keywordIds keyword)).toFinset := by
    ext id
    rw [Finset.mem_union, List.mem_toFinset, List.mem_toFinset, List.mem_toFinset, mem_mergedIds]
  rw [hunion, List.toFinset_card_of_nodup (nodup_mergedIds hvector hkeyword),
    (perm_rankedIds hvector hkeyword).length_eq]

theorem isScored_of_mem (hvector : (vectorIds vector).Nodup)
    (hkeyword : (keywordIds keyword).Nodup) {c : FoundChunk n}
    (h : c ∈ fusedChunks vector keyword limit) : IsScored vector keyword c := by
  obtain ⟨s, hs, rfl⟩ := List.mem_map.mp h
  have hmem : s ∈ chunkScores vector keyword := List.mem_mergeSort.mp (List.mem_of_mem_take hs)
  refine ⟨s.item, ?_, ?_⟩
  · rw [score_of_mem hvector hkeyword hmem]
    rfl
  · have hitem : s.item ∈ (chunkScores vector keyword).map Scored.item :=
      List.mem_map_of_mem hmem
    rw [items_chunkScores hvector hkeyword, List.mem_append] at hitem
    refine hitem.imp id ?_
    intro hentered
    obtain ⟨hmem, hnew⟩ := List.mem_filter.mp hentered
    obtain ⟨row, hrow, hfound⟩ := List.mem_map.mp hmem
    rw [← hfound] at hnew
    exact ⟨row, hrow, of_decide_eq_true hnew, hfound.symm⟩

theorem omitted_le (hvector : (vectorIds vector).Nodup) (hkeyword : (keywordIds keyword).Nodup)
    {id a : Nat} (hid : id ∈ vectorIds vector ∨ id ∈ keywordIds keyword)
    (hout : id ∉ (rankedIds vector keyword).take limit)
    (ha : a ∈ (rankedIds vector keyword).take limit) :
    fusedScore (vectorIds vector) (keywordIds keyword) id ≤
      fusedScore (vectorIds vector) (keywordIds keyword) a := by
  have hpairs := pairwise_rankedIds hvector hkeyword
  have hmem : id ∈ rankedIds vector keyword :=
    (perm_rankedIds hvector hkeyword).mem_iff.mpr (mem_mergedIds.mpr hid)
  rw [← List.take_append_drop limit (rankedIds vector keyword)] at hpairs hmem
  have hdrop : id ∈ (rankedIds vector keyword).drop limit :=
    (List.mem_append.mp hmem).resolve_left hout
  rcases (List.pairwise_append.mp hpairs).2.2 a ha id hdrop with hlt | ⟨heq, -⟩
  · exact le_of_lt hlt
  · exact le_of_eq heq

theorem exists_before (hvector : (vectorIds vector).Nodup) (hkeyword : (keywordIds keyword).Nodup)
    {id a : Nat} (hid : id ∈ vectorIds vector ∨ id ∈ keywordIds keyword)
    (hlt : fusedScore (vectorIds vector) (keywordIds keyword) a <
      fusedScore (vectorIds vector) (keywordIds keyword) id)
    (ha : a ∈ (rankedIds vector keyword).take limit) :
    ∃ before after, (rankedIds vector keyword).take limit = before ++ a :: after ∧
      id ∈ before := by
  have hpairs := (pairwise_rankedIds hvector hkeyword).sublist
    (List.take_sublist limit (rankedIds vector keyword))
  have hmem : id ∈ (rankedIds vector keyword).take limit := by
    by_contra hout
    exact absurd (omitted_le hvector hkeyword hid hout ha) (not_le.mpr hlt)
  obtain ⟨before, after, hsplit⟩ := List.append_of_mem ha
  refine ⟨before, after, hsplit, ?_⟩
  rw [hsplit] at hmem hpairs
  rcases List.mem_append.mp hmem with hbefore | hrest
  · exact hbefore
  · rcases List.mem_cons.mp hrest with hsame | hafter
    · exact absurd hlt (hsame ▸ lt_irrefl _)
    · have hlater := (List.pairwise_cons.mp (List.pairwise_append.mp hpairs).2.1).1 id hafter
      rcases hlater with hless | ⟨heq, -⟩
      · exact absurd hlt (lt_asymm hless)
      · exact absurd hlt (heq ▸ lt_irrefl _)

/-- The fusion returns exactly the top of the ranking. -/
theorem fusedChunks_exactTop (vector : List (FoundChunk n)) (keyword : List (Chunk n))
    (limit : Nat) (hvector : (vectorIds vector).Nodup) (hkeyword : (keywordIds keyword).Nodup)
    (hvectorLength : vector.length ≤ 2 * limit) (hkeywordLength : keyword.length ≤ 2 * limit) :
    ExactTop vector keyword limit (fusedChunks vector keyword limit) := by
  have hids := ids_fusedChunks vector keyword limit
  constructor
  case distinct =>
    rw [hids]
    refine List.Nodup.sublist (List.take_sublist _ _) ?_
    rw [(perm_rankedIds hvector hkeyword).nodup_iff]
    exact nodup_mergedIds hvector hkeyword
  case length_eq =>
    rw [card_union_ids hvector hkeyword, ← List.length_take, ← hids, List.length_map]
  case scored =>
    intro c hc
    exact isScored_of_mem hvector hkeyword hc
  case ordered =>
    rw [hids]
    exact (pairwise_rankedIds hvector hkeyword).sublist (List.take_sublist _ _)
  case omitted =>
    rw [hids]
    intro id hid hout a ha
    exact omitted_le hvector hkeyword hid hout ha
  case both_first =>
    intro hlimit both hbothVector hbothKeyword one hone hsingle
    have hlt : fusedScore (vectorIds vector) (keywordIds keyword) one <
        fusedScore (vectorIds vector) (keywordIds keyword) both := by
      apply fusedScore_lt
      · rw [vectorIds, List.length_map]
        omega
      · rw [keywordIds, List.length_map]
        omega
      · exact ⟨hbothVector, hbothKeyword⟩
      · exact hsingle
    rw [hids] at hone ⊢
    exact exists_before hvector hkeyword (Or.inl hbothVector) hlt hone

def numberedChunk (id : Nat) : Chunk 1 :=
  { helloChunk 1 with id := id }

theorem overlap_exactTop :
    ExactTop [found (numberedChunk 1) (some 0), found (numberedChunk 2) (some (1 / 10))]
      [numberedChunk 2, numberedChunk 3] 3
      (fusedChunks [found (numberedChunk 1) (some 0), found (numberedChunk 2) (some (1 / 10))]
        [numberedChunk 2, numberedChunk 3] 3) :=
  fusedChunks_exactTop _ _ 3 (by decide) (by decide) (by decide) (by decide)

end Top

section Search

theorem fusedChunks_ne_nil_iff {vector : List (FoundChunk n)} {keyword : List (Chunk n)}
    {limit : Nat} (hlimit : 0 < limit) :
    fusedChunks vector keyword limit ≠ [] ↔ vector ≠ [] ∨ keyword ≠ [] := by
  rw [fusedChunks, Ne, List.map_eq_nil_iff, List.take_eq_nil_iff,
    or_iff_right (Nat.ne_of_gt hlimit), ranked_eq_nil_iff, chunkScores, fuse_eq_nil_iff,
    fuse_eq_nil_iff, List.map_eq_nil_iff, and_iff_right rfl, not_and_or]

end Search

end Botman.HybridSearch
