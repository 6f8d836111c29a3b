import Mathlib.Algebra.BigOperators.Fin
import Mathlib.Algebra.Order.BigOperators.Ring.Finset
import Mathlib.Analysis.Real.Sqrt
import Botman.Library.SortedCut
import Botman.KnowledgeSearch

/-!
The two ways in which `search_knowledge` finds the chunks nearest to a query:
the query of the database, and the loop in Python that stands in for it.

Both are stated over any ordered field with a square root, and compared over the
real numbers.  The database may order chunks at the same distance in any way.
-/

namespace Botman.VectorSearch

open Botman.Library.SortedCut
open Botman.DataModel
open Botman.KnowledgeTask
open Botman.KnowledgeSearch

section Branches

variable {F : Type} [Field F] [LinearOrder F] (sqrt : F → F) {n : Nat}

/-- A `float8`, as far as a distance can be one. -/
inductive Float8 (F : Type) where
  | number (x : F)
  | nan

/-- A chunk with the attribute `distance`, which may be `None`. -/
structure MeasuredChunk (F : Type) (n : Nat) where
  row : KnowledgeChunk (Fin n → F)
  distance : Option (Float8 F)

def dotProduct (v w : Fin n → F) : F :=
  (List.ofFn fun i => v i * w i).sum

def vectorNorm (v : Fin n → F) : F :=
  sqrt (dotProduct v v)

/-- The cosine distance of pgvector. -/
def cosineDistance (query e : Fin n → F) : Float8 F :=
  if vectorNorm sqrt e = 0 ∨ vectorNorm sqrt query = 0 then .nan
  else .number (1 - dotProduct query e / (vectorNorm sqrt query * vectorNorm sqrt e))

/-- The annotation of the query with the distance. -/
def annotate (query : Fin n → F) (row : KnowledgeChunk (Fin n → F)) : MeasuredChunk F n where
  row := row
  distance := row.embedding.map (cosineDistance sqrt query)

/-- `ORDER BY distance`: NaN is greater than every number, and NULL comes last. -/
def sortsBefore : Option (Float8 F) → Option (Float8 F) → Bool
  | some (.number x), some (.number y) => x ≤ y
  | some .nan, some (.number _) => false
  | some _, some .nan => true
  | none, some _ => false
  | _, none => true

/-- An order in which the database may return the chunks. -/
structure IsOrdered (query : Fin n → F) (rows : List (KnowledgeChunk (Fin n → F)))
    (ordered : List (MeasuredChunk F n)) : Prop where
  perm : ordered.Perm (rows.map (annotate sqrt query))
  sorted : ordered.Pairwise fun a b => sortsBefore a.distance b.distance = true

/-- The slice of the query. -/
def cut (limit : Nat) (chunks : List (MeasuredChunk F n)) : List (MeasuredChunk F n) :=
  chunks.take (limit * 2)

/-- The similarity that the loop computes. -/
def clampedSimilarity (query e : Fin n → F) : F :=
  let similarity :=
    if vectorNorm sqrt e = 0 ∨ vectorNorm sqrt query = 0 then 0
    else dotProduct query e / (vectorNorm sqrt query * vectorNorm sqrt e)
  min (max similarity (-1)) 1

/-- A chunk with the distance of the loop. -/
def numpyChunk (query : Fin n → F) (row : KnowledgeChunk (Fin n → F)) (e : Fin n → F) :
    MeasuredChunk F n where
  row := row
  distance := some (.number (1 - clampedSimilarity sqrt query e))

/-- The loop over the chunks with an embedding, and the sort by distance. -/
def numpyChunks (query : Fin n → F) (rows : List (KnowledgeChunk (Fin n → F))) :
    List (MeasuredChunk F n) :=
  (rows.filterMap fun row => row.embedding.map (numpyChunk sqrt query row)).mergeSort
    fun a b => sortsBefore a.distance b.distance

/-- `distance is not None and distance <= max_distance`; NaN compares to false. -/
def qualifies (maxDistance : F) (c : MeasuredChunk F n) : Bool :=
  match c.distance with
  | some (.number d) => d ≤ maxDistance
  | some .nan => false
  | none => false

/-- The chunks within the threshold. -/
def qualified (threshold : F) (chunks : List (MeasuredChunk F n)) : List (MeasuredChunk F n) :=
  chunks.filter (qualifies (1 - threshold))

end Branches

section Order

variable {F : Type} [LinearOrder F] {n : Nat}

/-- The distance, where it is within the threshold. -/
def qualifiedDistance (maxDistance : F) : Option (Float8 F) → Option F
  | some (.number d) => if d ≤ maxDistance then some d else none
  | some .nan => none
  | none => none

/-- The order of the query, which leaves ties open. -/
def ComesBefore (a b : MeasuredChunk F n) : Prop :=
  sortsBefore a.distance b.distance = true

theorem qualifiedDistance_eq_some {maxDistance d : F} {distance : Option (Float8 F)}
    (h : qualifiedDistance maxDistance distance = some d) :
    distance = some (.number d) ∧ d ≤ maxDistance := by
  unfold qualifiedDistance at h
  split at h
  · split at h
    · rename_i hd
      cases h
      exact ⟨rfl, hd⟩
    · cases h
  · cases h
  · cases h

theorem number_of_sortsBefore {distance : Option (Float8 F)} {d : F}
    (h : sortsBefore distance (some (.number d)) = true) :
    ∃ x, distance = some (.number x) ∧ x ≤ d := by
  cases distance with
  | none => cases h
  | some value =>
      cases value with
      | nan => cases h
      | number x => exact ⟨x, rfl, of_decide_eq_true h⟩

theorem selectsDownward_distance (maxDistance : F) :
    SelectsDownward ComesBefore
      fun c : MeasuredChunk F n => qualifiedDistance maxDistance c.distance := by
  intro a b hab hb
  obtain ⟨d, hd⟩ := Option.isSome_iff_exists.mp hb
  obtain ⟨hnumber, hle⟩ := qualifiedDistance_eq_some hd
  unfold ComesBefore at hab
  rw [hnumber] at hab
  obtain ⟨x, hx, hxd⟩ := number_of_sortsBefore hab
  dsimp only
  rw [hx, qualifiedDistance, if_pos (hxd.trans hle)]
  rfl

theorem selectsMonotone_distance (maxDistance : F) :
    SelectsMonotone ComesBefore (· ≤ ·)
      fun c : MeasuredChunk F n => qualifiedDistance maxDistance c.distance := by
  intro a b hab x hx y hy
  unfold ComesBefore at hab
  rw [(qualifiedDistance_eq_some hx).1, (qualifiedDistance_eq_some hy).1] at hab
  exact of_decide_eq_true hab

theorem sortsBefore_trans (a b c : Option (Float8 F)) (hab : sortsBefore a b = true)
    (hbc : sortsBefore b c = true) : sortsBefore a c = true := by
  rcases c with _ | z | _
  · rcases a with _ | _ | _ <;> rfl
  · obtain ⟨y, rfl, hyz⟩ := number_of_sortsBefore hbc
    obtain ⟨x, rfl, hxy⟩ := number_of_sortsBefore hab
    exact decide_eq_true (hxy.trans hyz)
  · rcases b with _ | _ | _
    · cases hbc
    · obtain ⟨x, rfl, -⟩ := number_of_sortsBefore hab
      rfl
    · rcases a with _ | _ | _
      · cases hab
      · rfl
      · rfl

theorem sortsBefore_total (a b : Option (Float8 F)) :
    (sortsBefore a b || sortsBefore b a) = true := by
  rcases a with _ | x | _
  · rcases b with _ | _ | _ <;> rfl
  · rcases b with _ | y | _
    · rfl
    · rw [Bool.or_eq_true]
      exact (le_total x y).imp decide_eq_true decide_eq_true
    · rfl
  · rcases b with _ | _ | _ <;> rfl

end Order

section Selection

variable {F : Type} [Field F] [LinearOrder F] {n : Nat}

theorem distances_qualified (threshold : F) (chunks : List (MeasuredChunk F n)) :
    (qualified threshold chunks).map MeasuredChunk.distance =
      (chunks.filterMap fun c => qualifiedDistance (1 - threshold) c.distance).map
        fun d => some (.number d) := by
  induction chunks with
  | nil => rfl
  | cons c rest ih =>
      rcases c with ⟨row, distance⟩
      rw [qualified, List.filter_cons, List.filterMap_cons]
      cases distance with
      | none => exact ih
      | some distance =>
          cases distance with
          | nan => exact ih
          | number d =>
              simp only [qualifies, qualifiedDistance, decide_eq_true_eq]
              by_cases hd : d ≤ 1 - threshold
              · rw [if_pos hd, if_pos hd, List.map_cons]
                exact congrArg (_ :: ·) ih
              · rw [if_neg hd, if_neg hd]
                exact ih

theorem pairwise_numpyChunks (sqrt : F → F) (query : Fin n → F)
    (rows : List (KnowledgeChunk (Fin n → F))) :
    (numpyChunks sqrt query rows).Pairwise ComesBefore := by
  apply List.pairwise_mergeSort
  · intro a b c
    exact sortsBefore_trans a.distance b.distance c.distance
  · intro a b
    exact sortsBefore_total a.distance b.distance

end Selection

section Cosine

theorem dotProduct_eq_sum {F : Type} [Field F] {n : Nat} (v w : Fin n → F) :
    dotProduct v w = ∑ i, v i * w i :=
  List.sum_ofFn

variable {F : Type} [Field F] [LinearOrder F] [IsStrictOrderedRing F] {sqrt : F → F} {n : Nat}

/-- All that is asked of a square root. -/
structure IsSqrt (sqrt : F → F) : Prop where
  nonneg : ∀ x, 0 ≤ sqrt x
  mul_self : ∀ x, 0 ≤ x → sqrt x * sqrt x = x

theorem dotProduct_self_nonneg (v : Fin n → F) : 0 ≤ dotProduct v v := by
  rw [dotProduct_eq_sum]
  exact Finset.sum_nonneg fun i _ => mul_self_nonneg (v i)

theorem abs_dotProduct_le (hsqrt : IsSqrt sqrt) (v w : Fin n → F) :
    |dotProduct v w| ≤ vectorNorm sqrt v * vectorNorm sqrt w := by
  -- the inequality of Cauchy and Schwarz
  have hnorm : ∀ u : Fin n → F, vectorNorm sqrt u * vectorNorm sqrt u = dotProduct u u :=
    fun u => hsqrt.mul_self _ (dotProduct_self_nonneg u)
  apply abs_le_of_sq_le_sq
  · calc dotProduct v w ^ 2
        ≤ dotProduct v v * dotProduct w w := by
          simp only [dotProduct_eq_sum, ← pow_two]
          exact Finset.sum_mul_sq_le_sq_mul_sq Finset.univ v w
      _ = (vectorNorm sqrt v * vectorNorm sqrt w) ^ 2 := by
          rw [← hnorm v, ← hnorm w]
          ring
  · exact mul_nonneg (hsqrt.nonneg _) (hsqrt.nonneg _)

theorem clamp_eq_self {x : F} (h : |x| ≤ 1) : min (max x (-1)) 1 = x := by
  obtain ⟨hlow, hhigh⟩ := abs_le.mp h
  rw [max_eq_left hlow, min_eq_left hhigh]

theorem clampedSimilarity_of_ne_zero (hsqrt : IsSqrt sqrt) {query e : Fin n → F}
    (h : ¬ (vectorNorm sqrt e = 0 ∨ vectorNorm sqrt query = 0)) :
    clampedSimilarity sqrt query e =
      dotProduct query e / (vectorNorm sqrt query * vectorNorm sqrt e) := by
  have hnorms : 0 ≤ vectorNorm sqrt query * vectorNorm sqrt e :=
    mul_nonneg (hsqrt.nonneg _) (hsqrt.nonneg _)
  unfold clampedSimilarity
  rw [if_neg h]
  apply clamp_eq_self
  rw [abs_div, abs_of_nonneg hnorms]
  exact div_le_one_of_le₀ (abs_dotProduct_le hsqrt query e) hnorms

theorem clampedSimilarity_of_zero {query e : Fin n → F}
    (h : vectorNorm sqrt e = 0 ∨ vectorNorm sqrt query = 0) :
    clampedSimilarity sqrt query e = 0 := by
  unfold clampedSimilarity
  rw [if_pos h]
  exact clamp_eq_self (by rw [abs_zero]; exact zero_le_one)

theorem qualifiedDistance_agree (hsqrt : IsSqrt sqrt) {threshold : F} (hthreshold : 0 < threshold)
    (query : Fin n → F) (row : KnowledgeChunk (Fin n → F)) :
    qualifiedDistance (1 - threshold) (annotate sqrt query row).distance =
      (row.embedding.map (numpyChunk sqrt query row)).bind fun c =>
        qualifiedDistance (1 - threshold) c.distance := by
  unfold annotate
  cases row.embedding with
  | none => rfl
  | some e =>
      simp only [Option.map_some, Option.bind_some, numpyChunk, cosineDistance]
      by_cases hzero : vectorNorm sqrt e = 0 ∨ vectorNorm sqrt query = 0
      · have hfar : ¬ (1 : F) - 0 ≤ 1 - threshold := by
          rw [sub_le_sub_iff_left]
          exact not_le.mpr hthreshold
        rw [if_pos hzero, clampedSimilarity_of_zero hzero, qualifiedDistance, qualifiedDistance,
          if_neg hfar]
      · rw [if_neg hzero, clampedSimilarity_of_ne_zero hsqrt hzero]

theorem perm_qualifiedDistances (hsqrt : IsSqrt sqrt) {threshold : F} (hthreshold : 0 < threshold)
    {query : Fin n → F} {stored read : List (KnowledgeChunk (Fin n → F))}
    (hsame : read.Perm stored) {ordered : List (MeasuredChunk F n)}
    (hordered : IsOrdered sqrt query stored ordered) :
    (ordered.filterMap fun c => qualifiedDistance (1 - threshold) c.distance).Perm
      ((numpyChunks sqrt query read).filterMap fun c =>
        qualifiedDistance (1 - threshold) c.distance) := by
  let select : MeasuredChunk F n → Option F :=
    fun c => qualifiedDistance (1 - threshold) c.distance
  let measured : KnowledgeChunk (Fin n → F) → Option (MeasuredChunk F n) :=
    fun row => row.embedding.map (numpyChunk sqrt query row)
  have hdatabase : (ordered.filterMap select).Perm
      (stored.filterMap fun row => select (annotate sqrt query row)) := by
    have hmap := hordered.perm.filterMap select
    rw [List.filterMap_map] at hmap
    exact hmap
  have hpython : ((numpyChunks sqrt query read).filterMap select).Perm
      (read.filterMap fun row => (measured row).bind select) := by
    have hsort := (List.mergeSort_perm (read.filterMap measured) fun a b =>
      sortsBefore a.distance b.distance).filterMap select
    rw [List.filterMap_filterMap] at hsort
    exact hsort
  have hpoint : (fun row => select (annotate sqrt query row)) =
      fun row => (measured row).bind select :=
    funext fun row => qualifiedDistance_agree hsqrt hthreshold query row
  rw [hpoint] at hdatabase
  exact hdatabase.trans ((hsame.symm.filterMap _).trans hpython.symm)

end Cosine

section Agreement

variable {n : Nat}

theorem isSqrt_real : IsSqrt Real.sqrt where
  nonneg := Real.sqrt_nonneg
  mul_self := fun _ h => Real.mul_self_sqrt h

/-- Over the real numbers, the chunks that qualify have the same distances in the
answer of the database and in that of the loop, in whichever order either reads
the chunks. -/
theorem qualified_distances_agree (query : Fin n → ℝ)
    {stored read : List (KnowledgeChunk (Fin n → ℝ))} (hsame : read.Perm stored)
    {ordered : List (MeasuredChunk ℝ n)} (hordered : IsOrdered Real.sqrt query stored ordered)
    (limit : Nat) {threshold : ℝ} (hthreshold : 0 < threshold) :
    (qualified threshold (cut limit ordered)).map MeasuredChunk.distance =
      (qualified threshold (cut limit (numpyChunks Real.sqrt query read))).map
        MeasuredChunk.distance := by
  have hselected := filterMap_take_eq (selectsDownward_distance (1 - threshold))
    (selectsDownward_distance (1 - threshold)) (selectsMonotone_distance (1 - threshold))
    (selectsMonotone_distance (1 - threshold)) (fun x y => le_antisymm) hordered.sorted
    (pairwise_numpyChunks Real.sqrt query read)
    (perm_qualifiedDistances isSqrt_real hthreshold hsame hordered) (limit * 2)
  rw [distances_qualified, distances_qualified]
  exact congrArg (List.map fun d => some (Float8.number d)) hselected

def realChunk (id : Nat) (embedding : Option (Fin 1 → ℝ)) : KnowledgeChunk (Fin 1 → ℝ) where
  id := id
  chatbot := 1
  knowledgeFile := 1
  content := "Hi there."
  chunkIndex := 0
  embedding := embedding
  searchVector := none

def mixedChunks : List (KnowledgeChunk (Fin 1 → ℝ)) :=
  [realChunk 1 none, realChunk 2 (some fun _ => 0), realChunk 3 (some fun _ => 1)]

theorem isOrdered_mixedChunks :
    IsOrdered Real.sqrt (fun _ => 1) mixedChunks
      (mixedChunks.map (annotate Real.sqrt fun _ => 1)).reverse := by
  refine ⟨List.reverse_perm _, ?_⟩
  simp [mixedChunks, realChunk, annotate, cosineDistance, vectorNorm, dotProduct, sortsBefore]

theorem mixedChunks_agree :
    (qualified (7 / 10) (cut 1 (mixedChunks.map (annotate Real.sqrt fun _ => 1)).reverse)).map
        MeasuredChunk.distance =
      (qualified (7 / 10) (cut 1 (numpyChunks Real.sqrt (fun _ => 1) mixedChunks))).map
        MeasuredChunk.distance :=
  qualified_distances_agree (fun _ => 1) (List.Perm.refl _) isOrdered_mixedChunks 1 (by norm_num)

end Agreement

section Rational

variable {n : Nat}

/-- A chunk of the search over rational numbers, among those over any field. -/
def asMeasured (c : FoundChunk n) : MeasuredChunk ℚ n where
  row := c.row
  distance := c.distance.map Float8.number

theorem similarity_eq_clamped (services : SearchServices n) (query e : Embedding n) :
    similarity services query e = clampedSimilarity services.sqrt query e := by
  unfold similarity
  split
  · rename_i hzero
    exact (clampedSimilarity_of_zero hzero).symm
  · rename_i hzero
    unfold clampedSimilarity
    exact congrArg (fun x => min (max x (-1)) 1) (if_neg hzero).symm

theorem nearer_eq_sortsBefore (a b : FoundChunk n) :
    nearer a b = sortsBefore (asMeasured a).distance (asMeasured b).distance := by
  rcases a with ⟨_, _ | _, _⟩ <;> rcases b with ⟨_, _ | _, _⟩ <;> rfl

/-- Where the database does not answer, the search of a chat message is the loop
over rational numbers. -/
theorem qualifiedChunks_eq_numpy {services : SearchServices n}
    (hpython : ∀ rank, services.backend ≠ .postgres false rank) (query : Embedding n)
    (chunks : List (Chunk n)) (limit : Nat) (threshold : ℚ) :
    (qualifiedChunks services query chunks limit threshold).map asMeasured =
      qualified threshold (cut limit (numpyChunks services.sqrt query chunks)) := by
  have hscored : (scoredChunks services query chunks).map asMeasured =
      chunks.filterMap fun row => row.embedding.map (numpyChunk services.sqrt query row) := by
    have hloop : scoredChunks services query chunks = chunks.filterMap fun row =>
        row.embedding.map fun e => found row (some (pythonDistance services query e)) := by
      unfold scoredChunks
      dsimp only
      split
      · rename_i rank hbackend
        exact absurd hbackend (hpython rank)
      · rfl
      · rfl
    rw [hloop, List.map_filterMap]
    congr 1
    funext row
    rw [Option.map_map]
    refine congrArg (Option.map · row.embedding) (funext fun e => ?_)
    simp only [Function.comp_apply, asMeasured, found, Option.map_some, pythonDistance,
      similarity_eq_clamped, numpyChunk]
  have hsorted : ((scoredChunks services query chunks).mergeSort nearer).map asMeasured =
      numpyChunks services.sqrt query chunks := by
    rw [numpyChunks, ← hscored]
    exact List.map_mergeSort fun a _ b _ => nearer_eq_sortsBefore a b
  have hqualifies : (qualifies (1 - threshold) ∘ asMeasured) = fun c : FoundChunk n =>
      c.distance.any fun d => d ≤ 1 - threshold := by
    funext c
    rcases c with ⟨row, _ | d, score⟩ <;> rfl
  rw [qualified, cut, ← hsorted, ← List.map_take, List.filter_map, hqualifies]
  rfl

end Rational

end Botman.VectorSearch
