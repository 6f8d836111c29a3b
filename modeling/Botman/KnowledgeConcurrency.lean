import Botman.ChunkOwnership

/-!
Any number of runs of `process_knowledge_file` at once, on one file or on several,
beside the requests that create, change and delete files and chatbots.

What the outside world answers is a parameter: the texts that a file may be read as,
and the vectors that the embedding API may return for a text.
-/

namespace Botman.KnowledgeConcurrency

open Botman.Library.KeyedTable
open Botman.Library.Transition
open Botman.KnowledgeTask
open Botman.KnowledgeIngestion hiding Event
open Botman.KnowledgeApi
open Botman.ChunkOwnership

universe u

variable {E : Type u}

section Requests

variable {store : KnowledgeStore E} {request : KnowledgeRequest}

theorem chunks_handle (store : KnowledgeStore E) (request : KnowledgeRequest) :
    (handle store request).1.knowledge.chunks = store.knowledge.chunks ∨
      ∃ fileId, (handle store request).1.knowledge.chunks =
        store.knowledge.chunks.delete fun c => c.knowledgeFile = fileId := by
  rcases handle_cases store request with hsame | ⟨write, hdecides, -, hwrite⟩
  · exact Or.inl (by rw [hsame])
  · have hrows := (writeKnowledge_eq_some hwrite).2
    cases hdecides with
    | own => exact Or.inl hrows.2
    | create => exact Or.inl hrows.2
    | change => exact Or.inl hrows.2
    | delete => exact Or.inr ⟨_, hrows.2⟩

theorem advance_of_runStatement {after : KnowledgeStore E} {run : Nat × TaskState E}
    {outcome : Outcome E} {next : TaskState E}
    (h : runStatement store run outcome = some (after, next)) :
    advance run.1 store.knowledge run.2 outcome = some (after.knowledge, next) := by
  unfold runStatement at h
  split at h
  · rename_i hadvance
    cases h
    exact hadvance
  · cases h

end Requests

section Memory

/-- The texts that a file may be read as, and the vectors that the embedding API may
return for a text. -/
structure Outside (E : Type u) where
  reads : Nat → String → Prop
  embeds : String → E → Prop

/-- The contents of the batch that a run submits, with the vectors of a reply. -/
def replied (objects : List (KnowledgeChunk E)) (position : Nat) (reply : List E) :
    List (String × E) :=
  ((batchOf objects position).map KnowledgeChunk.content).zip reply

/-- The outside world answers a statement of a run as it may. -/
def Answers (world : Outside E) (run : Nat × TaskState E) (outcome : Outcome E) : Prop :=
  match outcome, run.2 with
  | .read content, .marked file => world.reads run.1 (extractTextFromFile file.file content)
  | .reply reply, .embedding _ _ objects position =>
      ∀ pair ∈ replied objects position reply, world.embeds pair.1 pair.2
  | _, _ => True

/-- The outcome of a statement is one that the world outside gives. -/
def Faithful (world : Outside E) (w : World E) : Event E → Prop
  | .statement run outcome => Answers world (w.runs run) outcome
  | _ => True

instance (world : Outside E) [∀ k text, Decidable (world.reads k text)]
    [∀ text e, Decidable (world.embeds text e)] (run : Nat × TaskState E) (outcome : Outcome E) :
    Decidable (Answers world run outcome) := by
  unfold Answers
  split <;> infer_instance

instance (world : Outside E) [∀ k text, Decidable (world.reads k text)]
    [∀ text e, Decidable (world.embeds text e)] (w : World E) (event : Event E) :
    Decidable (Faithful world w event) := by
  cases event <;> unfold Faithful <;> infer_instance

/-- The text that a run holds. -/
def textOf : TaskState E → Option String
  | .extracted _ text => some text
  | .cleared _ text => some text
  | .stored _ text _ => some text
  | .indexing _ text _ => some text
  | .indexed _ text _ => some text
  | .counted _ text _ => some text
  | .embedding _ text _ _ => some text
  | .embedded _ text _ _ _ => some text
  | .completing _ text _ => some text
  | _ => none

/-- What a run holds in memory is of its file. -/
structure Holds (world : Outside E) (run : Nat × TaskState E) : Prop where
  id : ∀ f, run.2.file = some f → f.id = run.1
  text : ∀ text, textOf run.2 = some text → world.reads run.1 text

variable {world : Outside E} {db after : KnowledgeDb E} {task next : TaskState E} {fileId : Nat}

theorem Holds.of_eq (h : Holds world (fileId, task))
    (hfile : ∀ g, next.file = some g → ∃ f, task.file = some f ∧ g.id = f.id)
    (htext : textOf next = none ∨ textOf next = textOf task) : Holds world (fileId, next) := by
  refine ⟨fun g hg => ?_, fun text hnext => ?_⟩
  · obtain ⟨f, hf, hid⟩ := hfile g hg
    rw [hid]
    exact h.id f hf
  · rcases htext with hnone | hsame
    · rw [hnone] at hnext
      cases hnext
    · exact h.text text (hsame ▸ hnext)

theorem holds_afterExtraction {file : KnowledgeFile} (hid : file.id = fileId) {text : String}
    (htext : text ≠ "" → world.reads fileId text) :
    Holds world (fileId, (afterExtraction file text : TaskState E)) := by
  unfold afterExtraction
  split
  · refine ⟨?_, fun _ h => by cases h⟩
    rintro _ ⟨⟩
    exact hid
  · rename_i hne
    refine ⟨?_, ?_⟩
    · rintro _ ⟨⟩
      exact hid
    · rintro _ ⟨⟩
      exact htext hne

theorem holds_read {file : KnowledgeFile} {content : FileRead}
    (h : Holds world (fileId, .marked file))
    (hreads : world.reads fileId (extractTextFromFile file.file content)) :
    Holds world (fileId, afterExtraction file (extractUpload db file content)) := by
  refine holds_afterExtraction (h.id file rfl) fun hne => ?_
  unfold extractUpload at hne ⊢
  split
  · exact hreads
  · rename_i hgone
    rw [if_neg hgone] at hne
    exact absurd rfl hne

theorem holds_interrupt (h : Holds world (fileId, task)) {message : String}
    (hnext : interrupt message task = some next) : Holds world (fileId, next) := by
  cases task with
  | stored | returning | ended => cases hnext
  | started | failing => cases hnext; exact h.of_eq (fun _ hg => by cases hg) (Or.inl rfl)
  | indexing f => cases hnext; exact h.of_eq (fun g hg => ⟨f, rfl, by cases hg; rfl⟩) (Or.inr rfl)
  | loaded f | marked f | refusing f | extracted f | cleared f | indexed f
  | counted f | embedding f | embedded f | completing f =>
      cases hnext
      exact h.of_eq (fun g hg => ⟨f, rfl, by cases hg; rfl⟩) (Or.inl rfl)

theorem holds_proceed {outcome : Outcome E} (h : Holds world (fileId, task))
    (hanswers : Answers world (fileId, task) outcome)
    (hproceed : proceed fileId db task outcome = some (after, next)) :
    Holds world (fileId, next) := by
  have hkept : ∀ {f g : KnowledgeFile}, task.file = some f → next.file = some g → g.id = f.id →
      textOf next = none ∨ textOf next = textOf task → Holds world (fileId, next) := by
    intro f g hf hg hid htext
    refine h.of_eq (fun g' hg' => ⟨f, hf, ?_⟩) htext
    rw [← Option.some.inj (hg.symm.trans hg'), hid]
  have hended : next.file = none → textOf next = none → Holds world (fileId, next) := by
    intro hfile htext
    exact h.of_eq (fun g hg => by rw [hfile] at hg; cases hg) (Or.inl htext)
  cases proceeds_of_proceed hproceed with
  | missing | finishReport | fail => exact hended rfl rfl
  | load hfile =>
      refine ⟨?_, fun _ h => by cases h⟩
      rintro _ ⟨⟩
      exact ((db.files.get?_eq_some_iff).mp hfile).2
  | @reject f => exact hkept (f := f) rfl rfl rfl (Or.inl rfl)
  | extract => exact holds_read h hanswers
  | @receive f text objects position reply _ =>
      obtain ⟨g, hg, hid, -⟩ := KnowledgeDeletion.file_afterReply f text objects position reply
      refine hkept rfl hg hid ?_
      unfold afterReply
      split
      · exact Or.inl rfl
      · exact Or.inr rfl
  | count hcounted =>
      subst hcounted
      exact hkept rfl rfl rfl (Or.inr rfl)
  | @skip f => exact hkept (f := f) rfl rfl rfl (Or.inr rfl)
  | @finish f => exact hkept (f := f) rfl rfl rfl (Or.inr rfl)
  | mark | refuse | complete => exact hkept rfl rfl rfl (Or.inl rfl)
  | clear | store | enter | index | embed | assign => exact hkept rfl rfl rfl (Or.inr rfl)

theorem holds_advance {outcome : Outcome E} (h : Holds world (fileId, task))
    (hanswers : Answers world (fileId, task) outcome)
    (hadvance : advance fileId db task outcome = some (after, next)) :
    Holds world (fileId, next) := by
  cases outcome with
  | raise message =>
      obtain ⟨state, hstate, heq⟩ := Option.map_eq_some_iff.mp hadvance
      cases heq
      exact holds_interrupt h hstate
  | kill =>
      simp only [advance] at hadvance
      split at hadvance
      · cases hadvance
      · cases hadvance
        exact h.of_eq (fun _ hg => by cases hg) (Or.inl rfl)
  | done | read | apiKey | reply => exact holds_proceed h hanswers hadvance

end Memory

section Copies

/-- The chunks that one run stores: the pieces of a text, for a chatbot. -/
def copyOf (copy : Nat × String) : List (Nat × String × Nat) :=
  (chunkTexts copy.2).zipIdx.map fun piece => (copy.1, piece.1, piece.2)

/-- The columns of a chunk that a run writes when it inserts it. -/
def stored (c : KnowledgeChunk E) : Nat × String × Nat :=
  (c.chatbot, c.content, c.chunkIndex)

/-- The chunks of a file are whole copies of texts of the file, one after another. -/
def WholeCopies (world : Outside E) (k : Nat) (rows : List (KnowledgeChunk E)) : Prop :=
  ∃ copies : List (Nat × String), (∀ copy ∈ copies, world.reads k copy.2) ∧
    rows.map stored = copies.flatMap copyOf

variable {world : Outside E} {k : Nat}

theorem wholeCopies_nil : WholeCopies world k [] :=
  ⟨[], by simp, rfl⟩

theorem WholeCopies.append {rows more : List (KnowledgeChunk E)} (h : WholeCopies world k rows)
    (hmore : WholeCopies world k more) : WholeCopies world k (rows ++ more) := by
  obtain ⟨copies, hreads, hcopies⟩ := h
  obtain ⟨others, hreads', hothers⟩ := hmore
  refine ⟨copies ++ others, ?_, ?_⟩
  · intro copy hcopy
    exact (List.mem_append.mp hcopy).elim (hreads copy) (hreads' copy)
  · rw [List.map_append, hcopies, hothers, List.flatMap_append]

theorem wholeCopies_createdMany (table : Table (KnowledgeChunk E)) (file : KnowledgeFile)
    {text : String} (hreads : world.reads k text) :
    WholeCopies world k (table.createdMany (chunkRows file text)) := by
  refine ⟨[(file.chatbot, text)], by simpa using hreads, ?_⟩
  rw [table.map_createdMany (chunkRows file text) stored fun _ _ => rfl]
  simp only [chunkRows, List.map_map, List.flatMap_cons, List.flatMap_nil, List.append_nil, copyOf]
  rfl

theorem filter_flatMap_copyOf (chatbot : Nat) (copies : List (Nat × String)) :
    ((copies.flatMap copyOf).filter fun row => row.1 ≠ chatbot) =
      (copies.filter fun copy => copy.1 ≠ chatbot).flatMap copyOf := by
  induction copies with
  | nil => rfl
  | cons copy rest ih =>
      rw [List.flatMap_cons, List.filter_append, ih, List.filter_cons]
      by_cases hbot : copy.1 = chatbot
      · have hnone : ((copyOf copy).filter fun row => row.1 ≠ chatbot) = [] := by
          simp [copyOf, List.filter_map, Function.comp_def, hbot]
        rw [hnone, if_neg (by simp [hbot]), List.nil_append]
      · have hall : ((copyOf copy).filter fun row => row.1 ≠ chatbot) = copyOf copy := by
          simp [copyOf, List.filter_map, Function.comp_def, hbot]
        rw [hall, if_pos (by simp [hbot]), List.flatMap_cons]

theorem WholeCopies.filter {rows : List (KnowledgeChunk E)} (h : WholeCopies world k rows)
    (chatbot : Nat) : WholeCopies world k (rows.filter fun c => c.chatbot ≠ chatbot) := by
  obtain ⟨copies, hreads, hcopies⟩ := h
  refine ⟨copies.filter fun copy => copy.1 ≠ chatbot,
    fun copy hcopy => hreads copy (List.mem_of_mem_filter hcopy), ?_⟩
  rw [← filter_flatMap_copyOf, ← hcopies, List.filter_map]
  rfl

variable {db after : KnowledgeDb E} {task next : TaskState E} {fileId : Nat}

theorem chunksOf_congr (hchunks : after.chunks = db.chunks) (k : Nat) :
    chunksOf after k = chunksOf db k := by
  unfold chunksOf
  rw [hchunks]

theorem chunksOf_delete (hchunks : after.chunks = db.chunks.delete fun c => c.knowledgeFile = fileId)
    (k : Nat) : chunksOf after k = if k = fileId then [] else chunksOf db k := by
  unfold chunksOf
  rw [hchunks, Table.rows_delete, List.filter_filter]
  split
  · subst k
    simp
  · rename_i hne
    apply List.filter_congr
    intro c _
    by_cases hfile : c.knowledgeFile = k <;> simp [hfile, hne]

theorem chunksOf_createMany {file : KnowledgeFile} {text : String}
    (hstored : bulkCreateChunks db (chunkRows file text) = some after) (k : Nat) :
    chunksOf after k = chunksOf db k ++
      if k = file.id then db.chunks.createdMany (chunkRows file text) else [] := by
  have hall : ∀ c ∈ db.chunks.createdMany (chunkRows file text), c.knowledgeFile = file.id := by
    intro c hc
    obtain ⟨r, hr, -, hfile⟩ := mem_createdMany hc
    obtain ⟨piece, -, rfl⟩ := List.mem_map.mp hr
    exact hfile
  unfold chunksOf
  rw [(bulkCreateChunks_eq_some hstored).2.1, Table.rows_createMany, List.filter_append]
  congr 1
  split
  · rename_i hk
    apply List.filter_eq_self.mpr
    intro c hc
    simpa [hk] using hall c hc
  · rename_i hne
    apply List.filter_eq_nil_iff.mpr
    intro c hc
    simpa [hall c hc] using Ne.symm hne

theorem map_stored_updateChunks (db : KnowledgeDb E) (p : KnowledgeChunk E → Bool)
    (f : KnowledgeChunk E → KnowledgeChunk E) (hbot : ∀ c, (f c).chatbot = c.chatbot)
    (hfile : ∀ c, (f c).knowledgeFile = c.knowledgeFile) (hkept : ∀ c, stored (f c) = stored c)
    (k : Nat) :
    (chunksOf (updateChunks db p f hbot hfile) k).map stored = (chunksOf db k).map stored := by
  rw [chunksOf_updateChunks, List.map_map]
  apply List.map_congr_left
  intro c _
  rw [Function.comp_apply]
  split
  · exact hkept c
  · rfl

theorem stored_setEmbedding (batch : List (KnowledgeChunk E)) (c : KnowledgeChunk E) :
    stored (setEmbedding batch c) = stored c := by
  unfold setEmbedding
  split <;> rfl

theorem WholeCopies.of_map_eq {rows others : List (KnowledgeChunk E)}
    (h : WholeCopies world k rows) (heq : others.map stored = rows.map stored) :
    WholeCopies world k others := by
  obtain ⟨copies, hreads, hcopies⟩ := h
  exact ⟨copies, hreads, heq.trans hcopies⟩

theorem wholeCopies_advance {outcome : Outcome E} (hholds : Holds world (fileId, task))
    (h : WholeCopies world k (chunksOf db k))
    (hadvance : advance fileId db task outcome = some (after, next)) :
    WholeCopies world k (chunksOf after k) := by
  have hsame : after.chunks = db.chunks → WholeCopies world k (chunksOf after k) := by
    intro hchunks
    rw [chunksOf_congr hchunks]
    exact h
  have hproceed : ∀ outcome, proceed fileId db task outcome = some (after, next) →
      WholeCopies world k (chunksOf after k) := by
    intro outcome hproceed
    cases proceeds_of_proceed hproceed with
    | clear =>
        rw [chunksOf_delete rfl]
        split
        · exact wholeCopies_nil
        · exact h
    | @store file text _ hstored =>
        rw [chunksOf_createMany hstored]
        refine h.append ?_
        split
        · rename_i hk
          rw [hk, hholds.id file rfl]
          exact wholeCopies_createdMany _ _ (hholds.text text rfl)
        · exact wholeCopies_nil
    | index =>
        refine h.of_map_eq (map_stored_updateChunks db _ _ _ _ ?_ k)
        intro c
        rfl
    | assign =>
        exact h.of_map_eq (map_stored_updateChunks db _ _ _ _ (stored_setEmbedding _) k)
    | mark hsave | refuse hsave | count _ hsave | complete hsave | fail hsave =>
        exact hsame (saveFile_eq_some hsave).2.1
    | missing | load | reject | extract | enter | embed | skip | receive | finish | finishReport =>
        exact h
  cases outcome with
  | raise message =>
      obtain ⟨state, -, heq⟩ := Option.map_eq_some_iff.mp hadvance
      cases heq
      exact h
  | kill =>
      simp only [advance] at hadvance
      split at hadvance
      · cases hadvance
      · cases hadvance
        exact h
  | done | read | apiKey | reply => exact hproceed _ hadvance

theorem wholeCopies_deleteKnowledge (h : WholeCopies world k (chunksOf db k)) (chatbot : Nat) :
    WholeCopies world k (chunksOf (deleteKnowledge db chatbot) k) := by
  -- the chatbot of a file takes all chunks of the file with it, another one only its own
  have hrows : chunksOf (deleteKnowledge db chatbot) k =
      if (db.files.rows.any fun f => f.id = k && f.chatbot = chatbot) then []
      else (chunksOf db k).filter fun c => c.chatbot ≠ chatbot := by
    unfold chunksOf deleteKnowledge
    rw [Table.rows_delete, List.filter_filter]
    split
    · rename_i hany
      apply List.filter_eq_nil_iff.mpr
      intro c _ hc
      obtain ⟨hfile, hkept⟩ := Bool.and_eq_true_iff.mp hc
      rw [of_decide_eq_true hfile, hany] at hkept
      simp at hkept
    · rename_i hany
      rw [List.filter_filter]
      apply List.filter_congr
      intro c _
      by_cases hfile : c.knowledgeFile = k
      · subst hfile
        simp [hany]
      · simp [hfile]
  rw [hrows]
  split
  · exact wholeCopies_nil
  · exact h.filter chatbot

/-- The chunks of every file are whole copies, and every run holds the text of its
file. -/
structure Tidy (world : Outside E) (w : World E) : Prop where
  holds : ∀ i, Holds world (w.runs i)
  copies : ∀ k, WholeCopies world k (chunksOf w.store.knowledge k)

theorem tidy_next {w t : World E} {event : Event E} (h : Tidy world w)
    (hfaithful : Faithful world w event) (hnext : ChunkOwnership.next w event = some t) :
    Tidy world t := by
  cases event with
  | request request =>
      cases hnext
      refine ⟨h.holds, fun k => ?_⟩
      rcases chunks_handle w.store request with hsame | ⟨fileId, hdeleted⟩
      · rw [chunksOf_congr hsame]
        exact h.copies k
      · rw [chunksOf_delete hdeleted]
        split
        · exact wholeCopies_nil
        · exact h.copies k
  | start run fileId =>
      simp only [ChunkOwnership.next] at hnext
      split at hnext
      · cases hnext
        have hstarted : Holds world (fileId, .started) :=
          ⟨fun _ hf => (by cases hf), fun _ ht => by cases ht⟩
        exact ⟨(Function.forall_update_iff w.runs fun _ run => Holds world run).mpr
          ⟨hstarted, fun i _ => h.holds i⟩, h.copies⟩
      · cases hnext
  | statement run outcome =>
      obtain ⟨⟨after, task⟩, hrun, rfl⟩ := Option.map_eq_some_iff.mp hnext
      have hadvance := advance_of_runStatement hrun
      refine ⟨(Function.forall_update_iff w.runs fun _ run => Holds world run).mpr
        ⟨holds_advance (h.holds run) hfaithful hadvance, fun i _ => h.holds i⟩, fun k => ?_⟩
      exact wholeCopies_advance (h.holds run) (h.copies k) hadvance
  | deleteChatbot chatbot =>
      cases hnext
      exact ⟨h.holds, fun k => wholeCopies_deleteKnowledge (h.copies k) chatbot⟩

theorem holds_ended {run : Nat × TaskState E} {result : TaskEnd} (h : run.2 = .ended result) :
    Holds world run := by
  refine ⟨fun f hf => ?_, fun text ht => ?_⟩
  · rw [h] at hf
    cases hf
  · rw [h] at ht
    cases ht

/-- However many runs overlap, on whichever files, and wherever they are killed or
fail, beside any requests and deletions: a file never has a part of a copy.  Its chunks
are the pieces of texts that were read from it, each complete and in order, one text
after another. -/
theorem chunks_are_whole_copies {w t : World E}
    (hidle : ∀ i, ∃ result, (w.runs i).2 = .ended result)
    (hstart : ∀ k, WholeCopies world k (chunksOf w.store.knowledge k))
    (hrun : Reaches ChunkOwnership.next (Faithful world) w t) (k : Nat) :
    WholeCopies world k (chunksOf t.store.knowledge k) := by
  have htidy : Tidy world w := ⟨fun i => holds_ended (hidle i).choose_spec, hstart⟩
  exact (invariant_of_reaches (Tidy world)
    (fun _ _ _ h hfaithful hnext => tidy_next h hfaithful hnext) htidy hrun).copies k

/-- Every file is read as one text, for which the API has one vector. -/
def prices : Outside Unit where
  reads := fun _ text => text = "Prices."
  embeds := fun text _ => text = "Prices."

instance (k : Nat) (text : String) : Decidable (prices.reads k text) :=
  inferInstanceAs (Decidable (text = "Prices."))

instance (text : String) (e : Unit) : Decidable (prices.embeds text e) :=
  inferInstanceAs (Decidable (text = "Prices."))

/-- Both runs delete the chunks of the file before either of them stores its own. -/
def bothCleared : List (Event Unit) :=
  [.request (fileFor .upload 1), .start 0 1, .start 1 1,
    .statement 0 .done, .statement 0 .done, .statement 0 (.read (.text "Prices.")),
    .statement 1 .done, .statement 1 .done, .statement 1 (.read (.text "Prices.")),
    .statement 0 .done, .statement 1 .done, .statement 0 .done, .statement 1 .done]

theorem bothCleared_whole_copies :
    ∃ t, Reaches ChunkOwnership.next (Faithful prices) quietWorld t ∧
      (chunksOf t.store.knowledge 1).map stored = [(1, "Prices.", 0), (1, "Prices.", 0)] ∧
      WholeCopies prices 1 (chunksOf t.store.knowledge 1) := by
  have hexists : ∃ t, Reaches ChunkOwnership.next (Faithful prices) quietWorld t ∧
      (chunksOf t.store.knowledge 1).map stored = [(1, "Prices.", 0), (1, "Prices.", 0)] :=
    exists_reaches_of_replay bothCleared (by decide +kernel)
  obtain ⟨t, hrun, htwice⟩ := hexists
  exact ⟨t, hrun, htwice, chunks_are_whole_copies (fun _ => ⟨_, rfl⟩)
    (fun _ => wholeCopies_nil) hrun 1⟩

end Copies

section Embeddings

/-- The chunks that a run holds in memory. -/
def objectsOf : TaskState E → List (KnowledgeChunk E)
  | .stored _ _ objects => objects
  | .indexing _ _ objects => objects
  | .indexed _ _ objects => objects
  | .counted _ _ objects => objects
  | .embedding _ _ objects _ => objects
  | .embedded _ _ objects _ _ => objects
  | _ => []

/-- The vectors that a run has received and not yet written. -/
def pendingOf : TaskState E → List (String × E)
  | .embedded _ _ objects position reply => replied objects position reply
  | _ => []

/-- A row with the key of a chunk object has its text, and no other row will get the
key. -/
def Known (db : KnowledgeDb E) (objects : List (KnowledgeChunk E)) : Prop :=
  ∀ o ∈ objects, o.id < db.chunks.next ∧
    ∀ c ∈ db.chunks.rows, c.id = o.id → c.content = o.content

/-- The objects of a run are known rows, and the vectors it will write belong to
them. -/
structure Safe (world : Outside E) (db : KnowledgeDb E) (task : TaskState E) : Prop where
  known : Known db (objectsOf task)
  pending : ∀ pair ∈ pendingOf task, world.embeds pair.1 pair.2

/-- Every vector in the table is one for the text of its own chunk. -/
def OwnVectors (world : Outside E) (db : KnowledgeDb E) : Prop :=
  ∀ c ∈ db.chunks.rows, ∀ e, c.embedding = some e → world.embeds c.content e

/-- The text of a stored chunk does not change, and keys are not used again. -/
structure KeepsTexts (db after : KnowledgeDb E) : Prop where
  nextKey : db.chunks.next ≤ after.chunks.next
  rows : ∀ c ∈ after.chunks.rows, db.chunks.next ≤ c.id ∨
    ∃ r ∈ db.chunks.rows, r.id = c.id ∧ r.content = c.content

variable {world : Outside E} {db after : KnowledgeDb E} {task next : TaskState E} {fileId : Nat}

theorem KeepsTexts.known {objects : List (KnowledgeChunk E)} (h : KeepsTexts db after)
    (hknown : Known db objects) : Known after objects := by
  intro o ho
  obtain ⟨hlt, hcontent⟩ := hknown o ho
  refine ⟨Nat.lt_of_lt_of_le hlt h.nextKey, fun c hc hid => ?_⟩
  rcases h.rows c hc with hnew | ⟨r, hr, hrid, hrcontent⟩
  · omega
  · rw [← hrcontent]
    exact hcontent r hr (hrid.trans hid)

theorem KeepsTexts.safe (h : KeepsTexts db after) (hsafe : Safe world db task) :
    Safe world after task :=
  ⟨h.known hsafe.known, hsafe.pending⟩

theorem keepsTexts_of_mem (hnext : after.chunks.next = db.chunks.next)
    (hrows : ∀ c ∈ after.chunks.rows, c ∈ db.chunks.rows) : KeepsTexts db after :=
  ⟨Nat.le_of_eq hnext.symm, fun c hc => Or.inr ⟨c, hrows c hc, rfl, rfl⟩⟩

theorem ownVectors_of_mem (h : OwnVectors world db)
    (hrows : ∀ c ∈ after.chunks.rows, c ∈ db.chunks.rows) : OwnVectors world after :=
  fun c hc => h c (hrows c hc)

theorem keepsTexts_updateChunks (db : KnowledgeDb E) (p : KnowledgeChunk E → Bool)
    (f : KnowledgeChunk E → KnowledgeChunk E) (hbot : ∀ c, (f c).chatbot = c.chatbot)
    (hfile : ∀ c, (f c).knowledgeFile = c.knowledgeFile)
    (hcontent : ∀ c, (f c).content = c.content) :
    KeepsTexts db (updateChunks db p f hbot hfile) := by
  refine ⟨Nat.le_refl _, fun c hc => ?_⟩
  obtain ⟨r, hr, rfl⟩ := List.mem_map.mp hc
  refine Or.inr ⟨r, hr, ?_⟩
  split
  · exact ⟨rfl, (hcontent r).symm⟩
  · exact ⟨rfl, rfl⟩

theorem ownVectors_updateSearchVector (h : OwnVectors world db) (k : Nat) :
    OwnVectors world (updateSearchVector db k) := by
  intro c hc e he
  obtain ⟨r, hr, rfl⟩ := List.mem_map.mp hc
  split at he
  · rename_i hfile
    rw [if_pos hfile]
    exact h r hr e he
  · rename_i hfile
    rw [if_neg hfile]
    exact h r hr e he

theorem keepsTexts_bulkCreateChunks {rows : List (KnowledgeChunk E)}
    (hstored : bulkCreateChunks db rows = some after) : KeepsTexts db after := by
  have hchunks := (bulkCreateChunks_eq_some hstored).2.1
  refine ⟨?_, fun c hc => ?_⟩
  · rw [hchunks]
    exact db.chunks.next_le_createMany rows
  · rw [hchunks, Table.rows_createMany, List.mem_append] at hc
    rcases hc with hold | hnew
    · exact Or.inr ⟨c, hold, rfl, rfl⟩
    · exact Or.inl (db.chunks.next_le_key_of_mem_createdMany rows hnew)

theorem ownVectors_bulkCreateChunks {file : KnowledgeFile} {text : String}
    (h : OwnVectors world db)
    (hstored : bulkCreateChunks db (chunkRows file text) = some after) :
    OwnVectors world after := by
  intro c hc e he
  rw [(bulkCreateChunks_eq_some hstored).2.1, Table.rows_createMany, List.mem_append] at hc
  rcases hc with hold | hnew
  · exact h c hold e he
  · have hmap := db.chunks.map_createdMany (chunkRows file text) KnowledgeChunk.embedding
      fun _ _ => rfl
    have hmem := List.mem_map_of_mem hnew (f := KnowledgeChunk.embedding)
    rw [hmap] at hmem
    obtain ⟨r, hr, hnone⟩ := List.mem_map.mp hmem
    obtain ⟨piece, -, rfl⟩ := List.mem_map.mp hr
    rw [← hnone] at he
    cases he

theorem known_createdMany {rows : List (KnowledgeChunk E)}
    (hstored : bulkCreateChunks db rows = some after) :
    Known after (db.chunks.createdMany rows) := by
  have hmem : ∀ o ∈ db.chunks.createdMany rows, o ∈ after.chunks.rows := by
    intro o ho
    rw [(bulkCreateChunks_eq_some hstored).2.1, Table.rows_createMany]
    exact List.mem_append_right _ ho
  intro o ho
  refine ⟨after.chunks.fresh o (hmem o ho), fun c hc hid => ?_⟩
  rw [after.chunks.eq_of_key_eq hc (hmem o ho) hid]

theorem content_setEmbedding (batch : List (KnowledgeChunk E)) (c : KnowledgeChunk E) :
    (setEmbedding batch c).content = c.content :=
  congrArg (fun row => row.2.1) (stored_setEmbedding batch c)

theorem keepsTexts_bulkUpdateEmbedding (db : KnowledgeDb E) (batch : List (KnowledgeChunk E)) :
    KeepsTexts db (bulkUpdateEmbedding db batch) :=
  keepsTexts_updateChunks db _ _ _ _ (content_setEmbedding batch)

theorem mem_assignBatch {objects : List (KnowledgeChunk E)} {position : Nat} {reply : List E}
    {o : KnowledgeChunk E} (h : o ∈ assignBatch (batchOf objects position) reply) :
    ∃ r ∈ objects, ∃ e, r.id = o.id ∧ r.content = o.content ∧ o.embedding = some e ∧
      (r.content, e) ∈ replied objects position reply := by
  rw [assignBatch, ← List.map_uncurry_zip_eq_zipWith] at h
  obtain ⟨⟨r, e⟩, hpair, rfl⟩ := List.mem_map.mp h
  refine ⟨r, List.mem_of_mem_drop (List.mem_of_mem_take (List.of_mem_zip hpair).1), e, rfl, rfl,
    rfl, ?_⟩
  rw [replied, List.zip_map_left]
  exact List.mem_map_of_mem hpair

theorem ownVectors_bulkUpdateEmbedding {objects : List (KnowledgeChunk E)} {position : Nat}
    {reply : List E} (h : OwnVectors world db) (hknown : Known db objects)
    (hreply : ∀ pair ∈ replied objects position reply, world.embeds pair.1 pair.2) :
    OwnVectors world
      (bulkUpdateEmbedding db (assignBatch (batchOf objects position) reply)) := by
  -- the bulk update finds the row of an object by its key, and so a row with its text
  intro c hc e he
  obtain ⟨r, hr, rfl⟩ := List.mem_map.mp hc
  split at he
  · rename_i hany
    have hcontent := content_setEmbedding (assignBatch (batchOf objects position) reply) r
    rw [if_pos hany]
    change world.embeds (setEmbedding _ r).content e
    rw [hcontent]
    change (setEmbedding _ r).embedding = some e at he
    unfold setEmbedding at he
    split at he
    · rename_i o hfind
      obtain ⟨object, hobject, vector, hid, -, hvector, hmem⟩ :=
        mem_assignBatch (List.mem_of_find?_eq_some hfind)
      have hfound := List.find?_some hfind
      rw [decide_eq_true_eq] at hfound
      rw [(hknown object hobject).2 r hr (hfound.symm.trans hid.symm)]
      cases hvector.symm.trans he
      exact hreply _ hmem
    · exact h r hr e he
  · rename_i hnone
    rw [if_neg hnone]
    exact h r hr e he

theorem mem_assignEmbeddings {objects : List (KnowledgeChunk E)} {position : Nat}
    {reply : List E} {o : KnowledgeChunk E} (h : o ∈ assignEmbeddings objects position reply) :
    ∃ r ∈ objects, r.id = o.id ∧ r.content = o.content := by
  rcases List.mem_append.mp h with h | h
  · rcases List.mem_append.mp h with h | h
    · exact ⟨o, List.mem_of_mem_take h, rfl, rfl⟩
    · obtain ⟨r, hr, -, hid, hcontent, -⟩ := mem_assignBatch h
      exact ⟨r, hr, hid, hcontent⟩
  · exact ⟨o, List.mem_of_mem_drop h, rfl, rfl⟩

theorem Known.assignEmbeddings {objects : List (KnowledgeChunk E)} {position : Nat}
    {reply : List E} (h : Known db objects) :
    Known db (assignEmbeddings objects position reply) := by
  intro o ho
  obtain ⟨r, hr, hid, hcontent⟩ := mem_assignEmbeddings ho
  rw [← hid, ← hcontent]
  exact h r hr

theorem safe_proceed {outcome : Outcome E} (hsafe : Safe world db task)
    (hvectors : OwnVectors world db) (hanswers : Answers world (fileId, task) outcome)
    (hproceed : proceed fileId db task outcome = some (after, next)) :
    KeepsTexts db after ∧ OwnVectors world after ∧ Safe world after next := by
  have hsame : after.chunks = db.chunks →
      objectsOf next = [] ∨ objectsOf next = objectsOf task →
      (∀ pair ∈ pendingOf next, world.embeds pair.1 pair.2) →
      KeepsTexts db after ∧ OwnVectors world after ∧ Safe world after next := by
    intro hchunks hobjects hpending
    have hrows : ∀ c ∈ after.chunks.rows, c ∈ db.chunks.rows := fun c hc => hchunks ▸ hc
    have hkeeps := keepsTexts_of_mem (congrArg Table.next hchunks) hrows
    refine ⟨hkeeps, ownVectors_of_mem hvectors hrows, ?_, hpending⟩
    rcases hobjects with hnone | hkept
    · rw [hnone]
      exact fun o ho => by cases ho
    · rw [hkept]
      exact hkeeps.known hsafe.known
  cases proceeds_of_proceed hproceed with
  | missing | load | reject | finish | finishReport | skip =>
      exact hsame rfl (Or.inl rfl) (fun _ h => by cases h)
  | @extract file content =>
      refine hsame rfl (Or.inl ?_) ?_
      · unfold afterExtraction
        split <;> rfl
      · unfold afterExtraction
        split <;> exact fun _ h => by cases h
  | mark hsave | refuse hsave | complete hsave | fail hsave =>
      exact hsame (saveFile_eq_some hsave).2.1 (Or.inl rfl) (fun _ h => by cases h)
  | @clear file =>
      have hrows : ∀ c ∈ (deleteChunks db file.id).chunks.rows, c ∈ db.chunks.rows :=
        fun c hc => ((db.chunks.mem_delete _ c).mp hc).1
      exact ⟨keepsTexts_of_mem rfl hrows, ownVectors_of_mem hvectors hrows,
        fun _ h => (by cases h), fun _ h => by cases h⟩
  | store hstored =>
      exact ⟨keepsTexts_bulkCreateChunks hstored, ownVectors_bulkCreateChunks hvectors hstored,
        known_createdMany hstored, fun _ h => by cases h⟩
  | enter | embed => exact hsame rfl (Or.inr rfl) (fun _ h => by cases h)
  | @index file =>
      have hkeeps : KeepsTexts db (updateSearchVector db file.id) :=
        keepsTexts_updateChunks db _ _ _ _ fun c => rfl
      exact ⟨hkeeps, ownVectors_updateSearchVector hvectors file.id, hkeeps.known hsafe.known,
        fun _ h => by cases h⟩
  | count hcounted hsave =>
      exact hsame (saveFile_eq_some hsave).2.1 (Or.inr rfl) (fun _ h => by cases h)
  | receive =>
      refine hsame rfl ?_ ?_
      · unfold afterReply
        split
        · exact Or.inl rfl
        · exact Or.inr rfl
      · unfold afterReply
        split
        · exact fun _ h => by cases h
        · exact hanswers
  | @assign _ _ objects position reply =>
      have hkeeps :=
        keepsTexts_bulkUpdateEmbedding db (assignBatch (batchOf objects position) reply)
      exact ⟨hkeeps, ownVectors_bulkUpdateEmbedding hvectors hsafe.known hsafe.pending,
        (hkeeps.known hsafe.known).assignEmbeddings, fun _ h => by cases h⟩

theorem safe_interrupt (h : Safe world db task) {message : String}
    (hnext : interrupt message task = some next) : Safe world db next := by
  cases task with
  | stored | returning | ended => cases hnext
  | indexing => cases hnext; exact ⟨h.known, fun _ h => by cases h⟩
  | _ => cases hnext; exact ⟨fun _ h => (by cases h), fun _ h => by cases h⟩

theorem safe_advance {outcome : Outcome E} (hsafe : Safe world db task)
    (hvectors : OwnVectors world db) (hanswers : Answers world (fileId, task) outcome)
    (hadvance : advance fileId db task outcome = some (after, next)) :
    KeepsTexts db after ∧ OwnVectors world after ∧ Safe world after next := by
  have hsame : KeepsTexts db db := keepsTexts_of_mem rfl fun _ => id
  cases outcome with
  | raise message =>
      obtain ⟨state, hstate, heq⟩ := Option.map_eq_some_iff.mp hadvance
      cases heq
      exact ⟨hsame, hvectors, safe_interrupt hsafe hstate⟩
  | kill =>
      simp only [advance] at hadvance
      split at hadvance
      · cases hadvance
      · cases hadvance
        exact ⟨hsame, hvectors, fun _ h => (by cases h), fun _ h => by cases h⟩
  | done | read | apiKey | reply => exact safe_proceed hsafe hvectors hanswers hadvance

/-- Every stored vector belongs to its text, and will after what the runs still
write. -/
structure Matching (world : Outside E) (w : World E) : Prop where
  vectors : OwnVectors world w.store.knowledge
  safe : ∀ i, Safe world w.store.knowledge (w.runs i).2

theorem Matching.of_mem {w : World E} (h : Matching world w) {store : KnowledgeStore E}
    (hnext : store.knowledge.chunks.next = w.store.knowledge.chunks.next)
    (hrows : ∀ c ∈ store.knowledge.chunks.rows, c ∈ w.store.knowledge.chunks.rows) :
    Matching world { w with store := store } :=
  ⟨ownVectors_of_mem h.vectors hrows, fun i => (keepsTexts_of_mem hnext hrows).safe (h.safe i)⟩

theorem matching_next {w t : World E} {event : Event E} (h : Matching world w)
    (hfaithful : Faithful world w event) (hnext : ChunkOwnership.next w event = some t) :
    Matching world t := by
  cases event with
  | request request =>
      cases hnext
      rcases chunks_handle w.store request with hsame | ⟨fileId, hdeleted⟩
      · exact h.of_mem (congrArg Table.next hsame) fun c hc => hsame ▸ hc
      · refine h.of_mem (by rw [hdeleted]; rfl) fun c hc => ?_
        rw [hdeleted] at hc
        exact ((Table.mem_delete _ _ c).mp hc).1
  | start run fileId =>
      simp only [ChunkOwnership.next] at hnext
      split at hnext
      · cases hnext
        have hstarted : Safe world w.store.knowledge .started :=
          ⟨fun _ h => (by cases h), fun _ h => by cases h⟩
        exact ⟨h.vectors, (Function.forall_update_iff w.runs fun _ run =>
          Safe world w.store.knowledge run.2).mpr ⟨hstarted, fun i _ => h.safe i⟩⟩
      · cases hnext
  | statement run outcome =>
      obtain ⟨⟨after, task⟩, hrun, rfl⟩ := Option.map_eq_some_iff.mp hnext
      obtain ⟨hkeeps, hvectors, hsafe⟩ := safe_advance (h.safe run) h.vectors hfaithful
        (advance_of_runStatement hrun)
      exact ⟨hvectors, (Function.forall_update_iff w.runs fun _ run =>
        Safe world after.knowledge run.2).mpr ⟨hsafe, fun i _ => hkeeps.safe (h.safe i)⟩⟩
  | deleteChatbot chatbot =>
      cases hnext
      exact h.of_mem rfl fun c hc => ((Table.mem_delete _ _ c).mp hc).1

theorem safe_ended {task : TaskState E} {result : TaskEnd} (h : task = .ended result) :
    Safe world db task := by
  subst h
  exact ⟨fun _ h => (by cases h), fun _ h => by cases h⟩

theorem matching_idle {w : World E} (hidle : ∀ i, ∃ result, (w.runs i).2 = .ended result)
    (hvectors : OwnVectors world w.store.knowledge) : Matching world w :=
  ⟨hvectors, fun i => safe_ended (hidle i).choose_spec⟩

/-- However runs overlap, whichever rows are deleted or written again in between, no
chunk ever carries the vector of another text: an embedding that is stored was returned
by the API for the content of its own chunk. -/
theorem embeddings_match {w t : World E} (hidle : ∀ i, ∃ result, (w.runs i).2 = .ended result)
    (hstart : OwnVectors world w.store.knowledge)
    (hrun : Reaches ChunkOwnership.next (Faithful world) w t) :
    ∀ c ∈ t.store.knowledge.chunks.rows, ∀ e, c.embedding = some e →
      world.embeds c.content e :=
  (invariant_of_reaches (Matching world)
    (fun _ _ _ h hfaithful hnext => matching_next h hfaithful hnext)
    (matching_idle hidle hstart) hrun).vectors

/-- The second run replaces the chunks while the first waits for its vectors, which
then find no row. -/
def overtaken : List (Event Unit) :=
  [.request (fileFor .upload 1), .start 0 1, .start 1 1,
    .statement 0 .done, .statement 0 .done, .statement 0 (.read (.text "Prices.")),
    .statement 0 .done, .statement 0 .done, .statement 0 .done, .statement 0 .done,
    .statement 0 .done, .statement 0 (.apiKey true),
    .statement 1 .done, .statement 1 .done, .statement 1 (.read (.text "Prices.")),
    .statement 1 .done, .statement 1 .done,
    .statement 0 (.reply [()]), .statement 0 .done,
    .statement 1 .done, .statement 1 .done, .statement 1 .done, .statement 1 (.apiKey true),
    .statement 1 (.reply [()]), .statement 1 .done]

theorem overtaken_embeddings_match :
    ∃ t, Reaches ChunkOwnership.next (Faithful prices) quietWorld t ∧
      (t.store.knowledge.chunks.rows.map fun c => (c.id, c.embedding)) = [(2, some ())] ∧
      ∀ c ∈ t.store.knowledge.chunks.rows, ∀ e, c.embedding = some e → c.content = "Prices." := by
  have hexists : ∃ t, Reaches ChunkOwnership.next (Faithful prices) quietWorld t ∧
      (t.store.knowledge.chunks.rows.map fun c => (c.id, c.embedding)) = [(2, some ())] :=
    exists_reaches_of_replay overtaken (by decide +kernel)
  obtain ⟨t, hrun, hrows⟩ := hexists
  have hnone : OwnVectors prices quietWorld.store.knowledge := by
    rintro c ⟨⟩
  exact ⟨t, hrun, hrows, embeddings_match (fun _ => ⟨_, rfl⟩) hnone hrun⟩

end Embeddings

end Botman.KnowledgeConcurrency
