import Mathlib.Algebra.Order.Field.Basic
import Mathlib.Tactic.Positivity
import Mathlib.Tactic.NormNum
import Botman.Library.RankFusion
import Botman.ChunkOwnership
import Botman.AnswerRecords

/-!
`search_knowledge`: the chunks nearest to the embedding of a question, the
chunks that contain its words, and the fusion of both.

Floating point numbers are rational numbers here; the square root in a norm is
a service.  A chunk that was found carries the attributes that the search hangs
on it.
-/

namespace Botman.KnowledgeSearch

open Botman.Library.KeyedTable
open Botman.Library.PythonValue
open Botman.Library.RankFusion
open Botman.DataModel
open Botman.KnowledgeTask
open Botman.ChunkOwnership
open Botman.ChatService
open Botman.ChatEffects
open Botman.ChatPrompt
open Botman.AnswerRecords

abbrev Embedding (n : Nat) := Fin n → ℚ

abbrev Chunk (n : Nat) := KnowledgeChunk (Embedding n)

/-- The two searches of the database.  On PostgreSQL either may raise, and the
full text search gives a rank to the chunks it matches; SQLite has a search for
a part of the text only. -/
inductive Backend (n : Nat) where
  | postgres (vectorRaises : Bool) (rank : Option (Json → Chunk n → Option ℚ))
  | sqlite (icontains : Json → String → Bool)

/-- What the search uses: square roots, the embedding of a text, absent where there is
none, and the database. -/
structure SearchServices (n : Nat) where
  sqrt : ℚ → ℚ
  embed : Json → Option (Embedding n)
  backend : Backend n

variable {n : Nat}

def dot (v w : Embedding n) : ℚ :=
  (List.ofFn fun i => v i * w i).sum

/-- `np.linalg.norm`. -/
def norm (services : SearchServices n) (v : Embedding n) : ℚ :=
  services.sqrt (dot v v)

/-- The cosine similarity, within its bounds; zero where a norm is. -/
def similarity (services : SearchServices n) (v w : Embedding n) : ℚ :=
  if norm services w = 0 ∨ norm services v = 0 then 0
  else min (max (dot v w / (norm services v * norm services w)) (-1)) 1

/-- A chunk with the attributes `distance` and `combined_score`, absent where they are
not set. -/
structure FoundChunk (n : Nat) where
  row : Chunk n
  distance : Option ℚ
  combinedScore : Option ℚ

/-- A chunk with its distance, before the fusion. -/
def found (row : Chunk n) (distance : Option ℚ) : FoundChunk n where
  row := row
  distance := distance
  combinedScore := none

/-- Ascending; what has no distance comes last. -/
def nearer (a b : FoundChunk n) : Bool :=
  match a.distance, b.distance with
  | some d, some e => d ≤ e
  | none, some _ => false
  | _, none => true

/-- `CosineDistance` of PostgreSQL: there is no number for a chunk without an
embedding, or for a zero vector. -/
def nativeDistance (services : SearchServices n) (query : Embedding n) (row : Chunk n) :
    Option ℚ :=
  row.embedding.bind fun e =>
    if norm services e = 0 ∨ norm services query = 0 then none
    else some (1 - similarity services query e)

/-- The distance of the loop, in which a zero vector has the similarity zero. -/
def pythonDistance (services : SearchServices n) (query e : Embedding n) : ℚ :=
  1 - similarity services query e

/-- The search by the database, or by the loop over the chunks that have an
embedding. -/
def scoredChunks (services : SearchServices n) (query : Embedding n) (chunks : List (Chunk n)) :
    List (FoundChunk n) :=
  let inPython := chunks.filterMap fun row =>
    row.embedding.map fun e => found row (some (pythonDistance services query e))
  match services.backend with
  | .postgres false _ => chunks.map fun row => found row (nativeDistance services query row)
  | .postgres true _ => inPython
  | .sqlite _ => inPython

/-- The nearest chunks, twice as many as are asked for. -/
def vectorChunks (services : SearchServices n) (query : Embedding n) (chunks : List (Chunk n))
    (limit : Nat) : List (FoundChunk n) :=
  ((scoredChunks services query chunks).mergeSort nearer).take (limit * 2)

/-- Those of them within the threshold. -/
def qualifiedChunks (services : SearchServices n) (query : Embedding n)
    (chunks : List (Chunk n)) (limit : Nat) (threshold : ℚ) : List (FoundChunk n) :=
  (vectorChunks services query chunks limit).filter fun c =>
    c.distance.any fun d => d ≤ 1 - threshold

/-- The search by the words of the question, best rank first where there are ranks. -/
def keywordRows (services : SearchServices n) (queryText : Json) (chunks : List (Chunk n)) :
    List (Chunk n) :=
  match services.backend with
  | .postgres _ none => []
  | .postgres _ (some rank) =>
      ((chunks.filterMap fun row => (rank queryText row).map fun r => (r, row)).mergeSort
        fun a b => b.1 ≤ a.1).map Prod.snd
  | .sqlite icontains => chunks.filter fun row => icontains queryText row.content

def keywordChunks (services : SearchServices n) (queryText : Json) (chunks : List (Chunk n))
    (limit : Nat) : List (Chunk n) :=
  (keywordRows services queryText chunks).take (limit * 2)

/-- The search by the words of the question matches the chunk. -/
def matchesText (services : SearchServices n) (queryText : Json) (row : Chunk n) : Bool :=
  match services.backend with
  | .postgres _ none => false
  | .postgres _ (some rank) => (rank queryText row).isSome
  | .sqlite icontains => icontains queryText row.content

/-- `1.0 / (k + rank + 1)`. -/
def rrfPoints (rank : Nat) : ℚ :=
  1 / (60 + rank + 1)

def chunkKey (c : FoundChunk n) : Nat :=
  c.row.id

/-- The fused scores.  A chunk that only the search by keyword found is entered
with the distance zero. -/
def chunkScores (qualified : List (FoundChunk n)) (keyword : List (Chunk n)) :
    List (Scored (FoundChunk n)) :=
  fuse chunkKey rrfPoints 0 (fuse chunkKey rrfPoints 0 [] qualified)
    (keyword.map fun row => found row (some 0))

/-- `search_knowledge` over the chunks of the chatbot, in the order in which the
database returns them. -/
def searchKnowledge (services : SearchServices n) (chunks : List (Chunk n))
    (query : Embedding n) (queryText : Json) (limit : Nat) (threshold : ℚ) :
    List (FoundChunk n) :=
  let qualified := qualifiedChunks services query chunks limit threshold
  if truthy queryText = false then qualified.take limit
  else
    let keyword := keywordChunks services queryText chunks limit
    ((ranked (chunkScores qualified keyword)).take limit).map fun s =>
      { s.item with combinedScore := some s.score }

/-- What the chat reads of a chunk. -/
def FoundChunk.hit (c : FoundChunk n) : SearchHit where
  content := c.row.content
  distance := c.distance
  combinedScore := c.combinedScore

/-- The retrieval of `process_chat_message`.  An empty embedding is falsy. -/
def retrieve (services : SearchServices n) (chunks : List (Chunk n)) (processing : Json) :
    Retrieval :=
  match services.embed processing with
  | none => .noEmbedding
  | some query =>
      if n = 0 then .noEmbedding
      else .chunks ((searchKnowledge services chunks query processing 3 (7 / 10)).map
        FoundChunk.hit)

/-- A call that searches the chunks. -/
def searchEnv (services : SearchServices n) (chunks : List (Chunk n)) (env : ChatEnv) : ChatEnv :=
  { env with search := retrieve services chunks }

section Fusion

theorem rrfPoints_nonneg (rank : Nat) : 0 ≤ rrfPoints rank := by
  unfold rrfPoints
  positivity

theorem rrfPoints_le (rank : Nat) : rrfPoints rank ≤ rrfPoints 0 := by
  unfold rrfPoints
  apply one_div_le_one_div_of_le
  · norm_num
  · simp

theorem map_snd_ranked (rank : Chunk n → Option ℚ) (chunks : List (Chunk n)) :
    (chunks.filterMap fun row => (rank row).map fun r => (r, row)).map Prod.snd =
      chunks.filter fun row => (rank row).isSome := by
  induction chunks with
  | nil => rfl
  | cons row rest ih =>
      cases hrank : rank row with
      | none => simp [hrank, ih]
      | some r => simp [hrank, ih]

variable {services : SearchServices n} {chunks : List (Chunk n)}

theorem mem_keywordRows {queryText : Json} {row : Chunk n} :
    row ∈ keywordRows services queryText chunks ↔
      row ∈ chunks ∧ matchesText services queryText row = true := by
  unfold keywordRows matchesText
  cases services.backend with
  | sqlite icontains => exact List.mem_filter
  | postgres raises rank =>
      cases rank with
      | none => exact iff_of_false List.not_mem_nil fun h => Bool.false_ne_true h.2
      | some rank =>
          have hperm := (List.mergeSort_perm
            (chunks.filterMap fun row => (rank queryText row).map fun r => (r, row))
            fun a b => decide (b.1 ≤ a.1)).map Prod.snd
          rw [map_snd_ranked] at hperm
          rw [hperm.mem_iff]
          exact List.mem_filter

theorem nodup_keywordRows (hnodup : (chunks.map KnowledgeChunk.id).Nodup) (queryText : Json) :
    ((keywordRows services queryText chunks).map KnowledgeChunk.id).Nodup := by
  unfold keywordRows
  split
  · exact List.nodup_nil
  · rename_i rank _
    have hperm := ((List.mergeSort_perm
      (chunks.filterMap fun row => (rank queryText row).map fun r => (r, row))
      fun a b => decide (b.1 ≤ a.1)).map Prod.snd).map KnowledgeChunk.id
    rw [map_snd_ranked] at hperm
    exact hperm.nodup_iff.mpr (hnodup.sublist (List.filter_sublist.map _))
  · exact hnodup.sublist (List.filter_sublist.map _)

theorem nodup_keywordChunks (hnodup : (chunks.map KnowledgeChunk.id).Nodup) (queryText : Json)
    (limit : Nat) :
    (((keywordChunks services queryText chunks limit).map fun row =>
      found row (some 0)).map chunkKey).Nodup := by
  rw [List.map_map]
  exact (nodup_keywordRows hnodup queryText).sublist ((List.take_sublist _ _).map _)

end Fusion

section Distances

variable {services : SearchServices n} {chunks : List (Chunk n)} {query : Embedding n}

/-- The attributes of a chunk are those of the search by vector. -/
def Measured (services : SearchServices n) (query : Embedding n) (c : FoundChunk n) : Prop :=
  ∃ e, c.row.embedding = some e ∧ c.distance = some (1 - similarity services query e)

theorem measured_of_scored {c : FoundChunk n} (h : c ∈ scoredChunks services query chunks)
    (hdistance : c.distance.isSome = true) : Measured services query c := by
  have hpython : ∀ c ∈ chunks.filterMap fun row =>
      row.embedding.map fun e => found row (some (pythonDistance services query e)),
      Measured services query c := by
    intro c hc
    obtain ⟨row, -, hrow⟩ := List.mem_filterMap.mp hc
    obtain ⟨e, he, rfl⟩ := Option.map_eq_some_iff.mp hrow
    exact ⟨e, he, rfl⟩
  unfold scoredChunks at h
  dsimp only at h
  split at h
  · obtain ⟨row, -, rfl⟩ := List.mem_map.mp h
    obtain ⟨d, hd⟩ := Option.isSome_iff_exists.mp hdistance
    obtain ⟨e, he, hmeasured⟩ := Option.bind_eq_some_iff.mp hd
    split at hmeasured
    · cases hmeasured
    · exact ⟨e, he, hd.trans hmeasured.symm⟩
  · exact hpython c h
  · exact hpython c h

theorem row_mem_of_scored {c : FoundChunk n} (h : c ∈ scoredChunks services query chunks) :
    c.row ∈ chunks := by
  have hpython : ∀ c ∈ chunks.filterMap fun row =>
      row.embedding.map fun e => found row (some (pythonDistance services query e)),
      c.row ∈ chunks := by
    intro c hc
    obtain ⟨row, hrow, hfound⟩ := List.mem_filterMap.mp hc
    obtain ⟨e, -, rfl⟩ := Option.map_eq_some_iff.mp hfound
    exact hrow
  unfold scoredChunks at h
  dsimp only at h
  split at h
  · obtain ⟨row, hrow, rfl⟩ := List.mem_map.mp h
    exact hrow
  · exact hpython c h
  · exact hpython c h

theorem measured_of_qualified {limit : Nat} {threshold : ℚ} {c : FoundChunk n}
    (h : c ∈ qualifiedChunks services query chunks limit threshold) :
    Measured services query c := by
  obtain ⟨hmem, hdistance⟩ := List.mem_filter.mp h
  refine measured_of_scored (List.mem_mergeSort.mp (List.mem_of_mem_take hmem)) ?_
  cases hd : c.distance with
  | none => simp [hd] at hdistance
  | some d => rfl

theorem exists_scored {row : Chunk n} {e : Embedding n} (hrow : row ∈ chunks)
    (he : row.embedding = some e) (hpositive : 0 < similarity services query e) :
    ∃ c ∈ scoredChunks services query chunks,
      c.distance = some (1 - similarity services query e) := by
  refine ⟨found row (some (1 - similarity services query e)), ?_, rfl⟩
  have hpython : found row (some (1 - similarity services query e)) ∈ chunks.filterMap fun row =>
      row.embedding.map fun e => found row (some (pythonDistance services query e)) :=
    List.mem_filterMap.mpr ⟨row, hrow, by rw [he]; rfl⟩
  have hnonzero : ¬ (norm services e = 0 ∨ norm services query = 0) := by
    intro hzero
    rw [similarity, if_pos hzero] at hpositive
    exact lt_irrefl 0 hpositive
  have hnative : nativeDistance services query row = some (1 - similarity services query e) := by
    rw [nativeDistance, he, Option.bind_some, if_neg hnonzero]
  unfold scoredChunks
  dsimp only
  split
  · exact List.mem_map.mpr ⟨row, hrow, by rw [hnative]⟩
  · exact hpython
  · exact hpython

theorem nearer_trans (a b c : FoundChunk n) (hab : nearer a b = true) (hbc : nearer b c = true) :
    nearer a c = true := by
  unfold nearer at hab hbc ⊢
  grind

theorem nearer_total (a b : FoundChunk n) : (nearer a b || nearer b a) = true := by
  unfold nearer
  grind

theorem exists_first_qualified {limit : Nat} {threshold d : ℚ} {c : FoundChunk n}
    (hlimit : 0 < limit) (hc : c ∈ scoredChunks services query chunks)
    (hd : c.distance = some d) (hnear : d ≤ 1 - threshold) :
    ∃ first rest nearest, qualifiedChunks services query chunks limit threshold = first :: rest ∧
      first.distance = some nearest ∧ nearest ≤ d := by
  have hmem : c ∈ (scoredChunks services query chunks).mergeSort nearer :=
    List.mem_mergeSort.mpr hc
  have hsorted := List.pairwise_mergeSort nearer_trans nearer_total
    (scoredChunks services query chunks)
  unfold qualifiedChunks vectorChunks
  cases hlist : (scoredChunks services query chunks).mergeSort nearer with
  | nil =>
      rw [hlist] at hmem
      cases hmem
  | cons first rest =>
      rw [hlist] at hmem hsorted
      obtain ⟨nearest, hnearest, hle⟩ : ∃ nearest, first.distance = some nearest ∧ nearest ≤ d := by
        rcases List.mem_cons.mp hmem with rfl | hrest
        · exact ⟨d, hd, le_refl d⟩
        · have hbefore := (List.pairwise_cons.mp hsorted).1 c hrest
          unfold nearer at hbefore
          rw [hd] at hbefore
          cases hfirst : first.distance with
          | none =>
              rw [hfirst] at hbefore
              cases hbefore
          | some nearest =>
              rw [hfirst] at hbefore
              exact ⟨nearest, rfl, of_decide_eq_true hbefore⟩
      obtain ⟨count, hcount⟩ : ∃ count, limit * 2 = count + 1 :=
        ⟨limit * 2 - 1, by omega⟩
      have hkept : (first.distance.any fun d => d ≤ 1 - threshold) = true := by
        rw [hnearest]
        exact decide_eq_true (hle.trans hnear)
      rw [hcount, List.take_succ_cons, List.filter_cons, if_pos hkept]
      exact ⟨first, _, nearest, rfl, hnearest, hle⟩

end Distances

section First

variable {services : SearchServices n} {chunks : List (Chunk n)} {query : Embedding n}
  {queryText : Json} {limit : Nat} {threshold : ℚ}

theorem head?_take_of_pos {α : Type} {items : List α} (h : 0 < limit) :
    (items.take limit).head? = items.head? := by
  rw [List.head?_take, if_neg (Nat.ne_of_gt h)]

theorem mem_searchKnowledge {c : FoundChunk n}
    (h : c ∈ searchKnowledge services chunks query queryText limit threshold) :
    c.row ∈ chunks ∧ (Measured services query c ∨ c.distance = some 0) := by
  have hqualified : ∀ c ∈ qualifiedChunks services query chunks limit threshold,
      c.row ∈ chunks ∧ (Measured services query c ∨ c.distance = some 0) := by
    intro c hc
    have hscored := List.mem_mergeSort.mp (List.mem_of_mem_take (List.mem_filter.mp hc).1)
    exact ⟨row_mem_of_scored hscored, Or.inl (measured_of_qualified hc)⟩
  have hkeyword : ∀ row ∈ keywordChunks services queryText chunks limit,
      row ∈ chunks := by
    intro row hrow
    exact (mem_keywordRows.mp (List.mem_of_mem_take hrow)).1
  unfold searchKnowledge at h
  dsimp only at h
  split at h
  · exact hqualified c (List.mem_of_mem_take h)
  · obtain ⟨s, hs, rfl⟩ := List.mem_map.mp h
    have hfused := List.mem_mergeSort.mp (List.mem_of_mem_take hs)
    rcases item_of_mem_fuse hfused with ⟨t, ht, hitem⟩ | hitem
    · rcases item_of_mem_fuse ht with ⟨_, hnil, -⟩ | hfirst
      · cases hnil
      · rw [← hitem] at hfirst
        exact hqualified s.item hfirst
    · obtain ⟨row, hrow, hsame⟩ := List.mem_map.mp hitem
      rw [← hsame]
      exact ⟨hkeyword row hrow, Or.inr rfl⟩

theorem measured_first (hnodup : (chunks.map KnowledgeChunk.id).Nodup) (hlimit : 0 < limit)
    (hqualified : qualifiedChunks services query chunks limit threshold ≠ []) :
    ∃ c, (searchKnowledge services chunks query queryText limit threshold).head? = some c ∧
      Measured services query c := by
  unfold searchKnowledge
  dsimp only
  split
  · obtain ⟨c, rest, hc⟩ := List.exists_cons_of_ne_nil hqualified
    refine ⟨c, ?_, measured_of_qualified (hc ▸ List.mem_cons_self)⟩
    rw [head?_take_of_pos hlimit, hc]
    rfl
  · obtain ⟨lead, hlead, hitem⟩ := lead_of_first rrfPoints_nonneg rrfPoints_le hqualified
      (nodup_keywordChunks hnodup queryText limit)
    refine ⟨{ lead.item with combinedScore := some lead.score }, ?_, ?_⟩
    · rw [List.head?_map, head?_take_of_pos hlimit, chunkScores, hlead]
      rfl
    · have hmeasured : Measured services query lead.item := measured_of_qualified hitem
      exact hmeasured

theorem distance_of_unqualified
    (hqualified : qualifiedChunks services query chunks limit threshold = []) {c : FoundChunk n}
    (h : c ∈ searchKnowledge services chunks query queryText limit threshold) :
    c.distance = some 0 := by
  unfold searchKnowledge at h
  dsimp only at h
  rw [hqualified] at h
  split at h
  · rw [List.take_nil] at h
    cases h
  · obtain ⟨s, hs, rfl⟩ := List.mem_map.mp h
    rcases item_of_mem_fuse (List.mem_mergeSort.mp (List.mem_of_mem_take hs)) with
      ⟨t, ht, -⟩ | hitem
    · cases ht
    · obtain ⟨row, -, hrow⟩ := List.mem_map.mp hitem
      rw [← hrow]
      rfl

end First

section Confidence

variable (repr : Json → String) {services : SearchServices n} {chunks : List (Chunk n)}
  {env : ChatEnv} {db : Database} {call : ChatCall}

/-- The cosine similarity of the question and a chunk, as a confidence. -/
def IsSimilarity (services : SearchServices n) (query : Embedding n) (c : FoundChunk n)
    (confidence : ℚ) : Prop :=
  ∃ e, c.row.embedding = some e ∧ confidence = max 0 (similarity services query e)

theorem qualified_of_similarity_eq_one {query : Embedding n} {limit : Nat} {threshold : ℚ}
    (hlimit : 0 < limit) (hthreshold : threshold ≤ 1) {row : Chunk n} {e : Embedding n}
    (hrow : row ∈ chunks) (he : row.embedding = some e) (hone : similarity services query e = 1) :
    qualifiedChunks services query chunks limit threshold ≠ [] := by
  obtain ⟨c, hc, hdistance⟩ := exists_scored hrow he (by rw [hone]; exact zero_lt_one)
  have hnear : 1 - similarity services query e ≤ 1 - threshold := by
    rw [hone]
    exact sub_le_sub_left hthreshold 1
  obtain ⟨first, rest, _, hqualified, -⟩ := exists_first_qualified hlimit hc hdistance hnear
  rw [hqualified]
  exact List.cons_ne_nil _ _

theorem isSimilarity_confidenceOf_iff (hnodup : (chunks.map KnowledgeChunk.id).Nodup)
    {query : Embedding n} {queryText : Json} {limit : Nat} {threshold : ℚ} (hlimit : 0 < limit)
    (hthreshold : threshold ≤ 1) {first : FoundChunk n} {rest : List (FoundChunk n)}
    (hresult : searchKnowledge services chunks query queryText limit threshold =
      first :: rest) :
    IsSimilarity services query first (confidenceOf first.hit) ↔
      qualifiedChunks services query chunks limit threshold ≠ [] := by
  -- a chunk that the fusion enters with the distance zero would need the similarity one, and
  -- then it had passed the threshold
  have hfirst : first ∈ searchKnowledge services chunks query queryText limit threshold := by
    rw [hresult]
    exact List.mem_cons_self
  constructor
  · rintro ⟨e, he, hsame⟩ hnone
    have hconfidence : confidenceOf first.hit = 1 := by
      simp [confidenceOf, FoundChunk.hit, distance_of_unqualified hnone hfirst]
    have hone : similarity services query e = 1 := by
      rw [hconfidence] at hsame
      rcases max_choice 0 (similarity services query e) with hzero | hsimilar
      · exact absurd (hsame.trans hzero) one_ne_zero
      · exact (hsame.trans hsimilar).symm
    exact qualified_of_similarity_eq_one hlimit hthreshold (mem_searchKnowledge hfirst).1 he hone
      hnone
  · intro hqualified
    obtain ⟨c, hc, e, he, hdistance⟩ := measured_first hnodup hlimit hqualified
    rw [hresult] at hc
    cases hc
    refine ⟨e, he, ?_⟩
    simp [confidenceOf, FoundChunk.hit, hdistance]

theorem found_of_grounding {retrieval : Retrieval} {ground : Grounding}
    (hground : grounding retrieval = some ground) (hsource : ground.source = "knowledge") :
    ∃ hit hits, retrieval = .chunks (hit :: hits) ∧ ground.confidence = confidenceOf hit := by
  cases retrieval with
  | raised => cases hground
  | noEmbedding =>
      cases hground
      exact absurd hsource (by decide)
  | chunks hits =>
      cases hits with
      | nil =>
          cases hground
          exact absurd hsource (by decide)
      | cons hit hits =>
          cases hground
          exact ⟨hit, hits, rfl, rfl⟩

theorem new_message_cases {m : Message}
    (hm : m ∈ (processChatMessage repr env db call).1.messages.rows)
    (hnew : m ∉ db.messages.rows) :
    (m.sender = .user ∧ m.source = none) ∨
      (m.sender = .bot ∧ ∃ language processing ground,
        prepare env call = .ok (language, processing) ∧
        grounding (env.search processing) = some ground ∧
        m.source = some ground.source ∧ m.confidenceScore = some ground.confidence) := by
  let x : Exchange := ⟨env, call⟩
  have hrows : m ∈ (handle repr db x).messages.rows := hm
  cases hq : question? repr env db call with
  | none =>
      rw [rows_no_question repr hq] at hrows
      exact absurd hrows hnew
  | some q =>
      by_cases hanswered : Answered repr db x
      · obtain ⟨stage, content, total, hprompt, hadded, -⟩ := rows_answered repr hq hanswered
        rw [hadded] at hrows
        rcases List.mem_append.mp hrows with hold | hrows
        · exact absurd hold hnew
        · rcases List.mem_pair.mp hrows with rfl | rfl
          · exact Or.inl ⟨rfl, rfl⟩
          · exact Or.inr ⟨rfl, q.language, q.processing, stage.ground,
              (stages_of_question repr hq).1, grounding_of_prompt repr hprompt, rfl, rfl⟩
      · rw [rows_unanswered repr hq hanswered] at hrows
        rcases List.mem_append.mp hrows with hold | hrows
        · exact absurd hold hnew
        · rw [List.mem_singleton.mp hrows]
          exact Or.inl ⟨rfl, rfl⟩

theorem search_of_knowledge {m : Message}
    (hm : m ∈ (processChatMessage repr env db call).1.messages.rows)
    (hnew : m ∉ db.messages.rows) (hsource : m.source = some "knowledge") :
    ∃ language processing hit hits, prepare env call = .ok (language, processing) ∧
      env.search processing = .chunks (hit :: hits) ∧
      m.confidenceScore = some (confidenceOf hit) := by
  rcases new_message_cases repr hm hnew with
    ⟨-, hnone⟩ | ⟨-, language, processing, ground, hprepare, hground, hstored, hconfidence⟩
  · cases hnone.symm.trans hsource
  · have hknowledge : ground.source = "knowledge" := Option.some.inj (hstored.symm.trans hsource)
    obtain ⟨hit, hits, hsearch, hfirst⟩ := found_of_grounding hground hknowledge
    exact ⟨language, processing, hit, hits, hprepare, hsearch,
      hconfidence.trans (congrArg some hfirst)⟩

theorem searched_of_retrieve {processing : Json} {hit : SearchHit} {hits : List SearchHit}
    (h : retrieve services chunks processing = .chunks (hit :: hits)) :
    ∃ query first rest, services.embed processing = some query ∧
      searchKnowledge services chunks query processing 3 (7 / 10) = first :: rest ∧
      hit = first.hit := by
  unfold retrieve at h
  cases hembed : services.embed processing with
  | none =>
      rw [hembed] at h
      cases h
  | some query =>
      rw [hembed] at h
      dsimp only at h
      split at h
      · cases h
      · obtain ⟨first, rest, hresult, hfirst, -⟩ := List.map_eq_cons_iff.mp (Retrieval.chunks.inj h)
        exact ⟨query, first, rest, rfl, hresult, hfirst.symm⟩

theorem nodup_of_searched {knowledge : KnowledgeDb (Embedding n)} {chatbot : Nat}
    (h : chunks.Perm (searchedChunks knowledge chatbot)) :
    (chunks.map KnowledgeChunk.id).Nodup :=
  (h.map KnowledgeChunk.id).nodup_iff.mpr
    (knowledge.chunks.nodup.sublist (List.filter_sublist.map _))

/-- The confidence that is stored with an answer from the knowledge base is the
similarity of the question and the first chunk of its context exactly when some
chunk passed the threshold. -/
theorem stored_confidence_isSimilarity_iff {knowledge : KnowledgeDb (Embedding n)}
    (hchunks : chunks.Perm (searchedChunks knowledge call.bot.id)) {m : Message}
    (hm : m ∈ (processChatMessage repr (searchEnv services chunks env) db call).1.messages.rows)
    (hnew : m ∉ db.messages.rows) (hsource : m.source = some "knowledge") :
    ∃ language processing query first rest confidence,
      prepare env call = .ok (language, processing) ∧
      services.embed processing = some query ∧
      searchKnowledge services chunks query processing 3 (7 / 10) = first :: rest ∧
      m.confidenceScore = some confidence ∧
      (IsSimilarity services query first confidence ↔
        qualifiedChunks services query chunks 3 (7 / 10) ≠ []) := by
  obtain ⟨language, processing, hit, hits, hprepare, hsearch, hconfidence⟩ :=
    search_of_knowledge repr hm hnew hsource
  obtain ⟨query, first, rest, hembed, hresult, rfl⟩ := searched_of_retrieve hsearch
  exact ⟨language, processing, query, first, rest, confidenceOf first.hit, hprepare, hembed,
    hresult, hconfidence,
    isSimilarity_confidenceOf_iff (nodup_of_searched hchunks) (by decide) (by norm_num) hresult⟩

end Confidence

section OneChunk

/-- One chunk, whose text contains the question, and its embedding. -/
def helloChunk (e : ℚ) : Chunk 1 where
  id := 1
  chatbot := 1
  knowledgeFile := 1
  content := "Hi there."
  chunkIndex := 0
  embedding := some fun _ => e
  searchVector := none

def helloFile : KnowledgeFile where
  id := 1
  chatbot := 1
  file := "knowledge_files/hello.txt"
  status := .completed
  chunkCount := 1
  processingError := none

/-- A knowledge base with this chunk. -/
def helloKnowledge (e : ℚ) : KnowledgeDb (Embedding 1) where
  chatbots := [1]
  files := Table.empty.create helloFile
  chunks := Table.empty.create (helloChunk e)
  disk := []
  fileOwner := fun _ hf => by cases List.mem_singleton.mp hf; exact List.mem_singleton_self 1
  chunkOwner := fun _ hc => by cases List.mem_singleton.mp hc; exact List.mem_singleton_self 1
  chunkFile := fun _ hc => by
    cases List.mem_singleton.mp hc
    exact ⟨_, List.mem_singleton_self _, rfl⟩

/-- The norms that occur are the square roots of one. -/
def unitServices : SearchServices 1 where
  sqrt := fun x => x
  embed := fun _ => some fun _ => 1
  backend := .sqlite fun _ _ => true

def hello (e : ℚ) : Exchange where
  env := searchEnv unitServices [helloChunk e] plainEnv
  call := plainCall "visitor" false

theorem exists_answer_hello {e : ℚ} {hit : SearchHit} {hits : List SearchHit}
    (hsearch : retrieve unitServices [helloChunk e] (.str "Hi") = .chunks (hit :: hits)) :
    ∃ m ∈ (processChatMessage noRepr (hello e).env supportDb (hello e).call).1.messages.rows,
      m ∉ supportDb.messages.rows ∧ m.source = some "knowledge" ∧
        m.confidenceScore = some (confidenceOf hit) := by
  have hprepare : prepare (hello e).env (hello e).call = .ok ("English", .str "Hi") := rfl
  have hground : grounding ((hello e).env.search (.str "Hi")) = some
      ⟨join "\n\n" ((hit :: hits).map SearchHit.content), "knowledge", confidenceOf hit⟩ :=
    congrArg grounding hsearch
  obtain ⟨stage, hstage, hlanguage, hstageGround⟩ := exists_promptStage_of_shown noRepr hprepare
    showsBot_supportDb (fun r hr => absurd hr List.not_mem_nil) rfl hground ⟨rfl, rfl⟩
  have hquestion := question_of_promptStage noRepr hstage
  rw [promptStage, hquestion, Option.bind_some] at hstage
  have hanswered : Answered noRepr supportDb (hello e) := by
    intro q hq
    rw [hquestion] at hq
    cases hq
    have hstream : (hello e).call.stream = true ∧ isEnglish stage.question.language = true :=
      ⟨rfl, by rw [hlanguage]; decide⟩
    refine ⟨stage, hstage, ?_⟩
    unfold Completes
    rw [if_pos hstream]
    exact ⟨rfl, _, rfl, rfl⟩
  obtain ⟨found, content, total, hfound, hrows, -⟩ := rows_answered noRepr hquestion hanswered
  cases hstage.symm.trans hfound
  let answer := (stage.question.stored (hello e).env).messages.created
    (botMessage (hello e).env stage.question.conversation.id stage.ground content total)
  have hmem : answer ∈ (handle noRepr supportDb (hello e)).messages.rows := by
    rw [hrows]
    simp [answer]
  refine ⟨answer, hmem, List.not_mem_nil, ?_, ?_⟩
  · exact congrArg (fun ground => some ground.source) hstageGround
  · exact congrArg (fun ground => some ground.confidence) hstageGround

theorem similarity_same : similarity unitServices (fun _ => 1) (fun _ => 1) = 1 := by
  norm_num [similarity, norm, unitServices, dot]

theorem similarity_opposite : similarity unitServices (fun _ => 1) (fun _ => -1) = -1 := by
  norm_num [similarity, norm, unitServices, dot]

theorem qualifiedChunks_hello (e : ℚ) :
    qualifiedChunks unitServices (fun _ => 1) [helloChunk e] 3 (7 / 10) =
      [found (helloChunk e) (some (1 - similarity unitServices (fun _ => 1) (fun _ => e)))].filter
        fun c => c.distance.any fun d => d ≤ 1 - 7 / 10 := by
  have hscored : scoredChunks unitServices (fun _ => 1) [helloChunk e] =
      [found (helloChunk e) (some (1 - similarity unitServices (fun _ => 1) (fun _ => e)))] := rfl
  rw [qualifiedChunks, vectorChunks, hscored, List.mergeSort_singleton]
  rfl

theorem qualifiedChunks_same :
    qualifiedChunks unitServices (fun _ => 1) [helloChunk 1] 3 (7 / 10) ≠ [] := by
  rw [qualifiedChunks_hello, similarity_same]
  norm_num [found]

theorem qualifiedChunks_opposite :
    qualifiedChunks unitServices (fun _ => 1) [helloChunk (-1)] 3 (7 / 10) = [] := by
  rw [qualifiedChunks_hello, similarity_opposite]
  norm_num [found]

theorem stored_confidence_same :
    ∃ m ∈ (processChatMessage noRepr (searchEnv unitServices [helloChunk 1] plainEnv) supportDb
        (plainCall "visitor" false)).1.messages.rows,
      m.source = some "knowledge" ∧ ∃ first rest confidence,
        searchKnowledge unitServices [helloChunk 1] (fun _ => 1) (.str "Hi") 3 (7 / 10) =
          first :: rest ∧
        m.confidenceScore = some confidence ∧
        IsSimilarity unitServices (fun _ => 1) first confidence := by
  have hchunks : [helloChunk 1].Perm (searchedChunks (helloKnowledge 1) supportBot.id) :=
    List.Perm.refl _
  obtain ⟨c, hfirst, -⟩ :
      ∃ c, (searchKnowledge unitServices [helloChunk 1] (fun _ => 1) (.str "Hi") 3
        (7 / 10)).head? = some c ∧ Measured unitServices (fun _ => 1) c :=
    measured_first (nodup_of_searched hchunks) (by decide) qualifiedChunks_same
  obtain ⟨rest, hresult⟩ := List.head?_eq_some_iff.mp hfirst
  have hsearch : retrieve unitServices [helloChunk 1] (.str "Hi") =
      .chunks (c.hit :: rest.map FoundChunk.hit) :=
    congrArg (fun found : List (FoundChunk 1) => Retrieval.chunks (found.map FoundChunk.hit))
      hresult
  obtain ⟨m, hm, hnew, hsource, -⟩ := exists_answer_hello hsearch
  have hprepare : prepare plainEnv (plainCall "visitor" false) = .ok ("English", .str "Hi") := rfl
  obtain ⟨language, processing, query, first, others, confidence, hprepared, hembed, hfound,
    hconfidence, hiff⟩ := stored_confidence_isSimilarity_iff noRepr hchunks hm hnew hsource
  cases hprepare.symm.trans hprepared
  cases hembed
  exact ⟨m, hm, hsource, first, others, confidence, hfound, hconfidence,
    hiff.mpr qualifiedChunks_same⟩

/-- A chunk that only the words of the question find is stored with full
confidence, though its embedding is the opposite of the embedding of the
question. -/
theorem stored_confidence_opposite :
    similarity unitServices (fun _ => 1) (fun _ => -1) = -1 ∧
      searchKnowledge unitServices [helloChunk (-1)] (fun _ => 1) (.str "Hi") 3 (7 / 10) =
        [⟨helloChunk (-1), some 0, some (1 / 61)⟩] ∧
      ∃ m ∈ (processChatMessage noRepr (searchEnv unitServices [helloChunk (-1)] plainEnv)
          supportDb (plainCall "visitor" false)).1.messages.rows,
        m.source = some "knowledge" ∧ m.confidenceScore = some 1 := by
  have hresult : searchKnowledge unitServices [helloChunk (-1)] (fun _ => 1) (.str "Hi") 3
      (7 / 10) = [⟨helloChunk (-1), some 0, some (1 / 61)⟩] := by
    have hkeyword : keywordChunks unitServices (.str "Hi") [helloChunk (-1)] 3 =
        [helloChunk (-1)] := rfl
    have htruthy : truthy (.str "Hi") = true := rfl
    rw [searchKnowledge, qualifiedChunks_opposite, hkeyword, htruthy]
    norm_num [chunkScores, fuse, addScore, ranked, rrfPoints, found]
  have hsearch : retrieve unitServices [helloChunk (-1)] (.str "Hi") =
      .chunks [⟨"Hi there.", some 0, some (1 / 61)⟩] :=
    congrArg (fun found : List (FoundChunk 1) => Retrieval.chunks (found.map FoundChunk.hit))
      hresult
  obtain ⟨m, hm, -, hsource, hconfidence⟩ := exists_answer_hello hsearch
  refine ⟨similarity_opposite, hresult, m, hm, hsource, ?_⟩
  rw [hconfidence]
  norm_num [confidenceOf]

end OneChunk

end Botman.KnowledgeSearch
