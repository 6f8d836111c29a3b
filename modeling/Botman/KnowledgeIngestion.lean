import Botman.KnowledgeTask

/-!
Runs of `process_knowledge_file` on one file, one after another: first
delivery, retries and redeliveries, each of which may stop anywhere.  Whenever
the file is marked as completed, its chunks are those of the text that the
completing run extracted.
-/

namespace Botman.KnowledgeIngestion

open Botman.Library.KeyedTable
open Botman.Library.Transition
open Botman.KnowledgeTask

universe u

variable {E : Type u}

/-- One call of the embedding API: the submitted texts and the vectors. -/
structure EmbedCall (E : Type u) where
  contents : List String
  reply : List E

/-- What the outside world answered to a run: the text its file was read as and the calls
of the embedding API. -/
structure Record (E : Type u) where
  text : Option String
  calls : List (EmbedCall E)

/-- The database, the run under way, a record of its answers, and the record of the run that
last turned the file to completed.  No step of a run reads a record. -/
structure Ingestion (E : Type u) where
  db : KnowledgeDb E
  task : TaskState E
  record : Record E
  completion : Option (Record E)

/-- A run begins, or its next statement is executed. -/
inductive Event (E : Type u) where
  | begin
  | act (outcome : Outcome E)

/-- The record after a step: `row` is the file that is read, and the reply is to what the
task submitted. -/
def observe (row : Option KnowledgeFile) (db : KnowledgeDb E) (task : TaskState E)
    (record : Record E) : Outcome E → Record E
  | .read content =>
      { record with text := row.map fun file => extractUpload db file content }
  | .reply reply =>
      { record with calls := record.calls ++ [{ contents := submitted task, reply := reply }] }
  | _ => record

def isCompleted (db : KnowledgeDb E) (fileId : Nat) : Bool :=
  (db.files.get? fileId).any fun f => f.status = .completed

/-- One event: a new run begins when none is under way, or the run under way
makes a step. -/
def ingest (fileId : Nat) (s : Ingestion E) : Event E → Option (Ingestion E)
  | .begin =>
      match s.task with
      | .ended _ => some { s with task := .started, record := { text := none, calls := [] } }
      | _ => none
  | .act outcome =>
      (advance fileId s.db s.task outcome).map fun next =>
        let record := observe (s.db.files.get? fileId) s.db s.task s.record outcome
        { db := next.1
          task := next.2
          record := record
          completion :=
            if isCompleted s.db fileId = false ∧ isCompleted next.1 fileId = true then
              some record
            else s.completion }

/-- The chunks of a file. -/
def chunksOf (db : KnowledgeDb E) (fileId : Nat) : List (KnowledgeChunk E) :=
  db.chunks.rows.filter fun c => c.knowledgeFile = fileId

/-- A chunk carries the vector that a call of the API returned at the position
where the chunk's own content was submitted. -/
def Paired (calls : List (EmbedCall E)) (c : KnowledgeChunk E) : Prop :=
  ∃ call ∈ calls, ∃ (k : Nat) (e : E), call.contents[k]? = some c.content ∧
    call.reply[k]? = some e ∧ c.embedding = some e

/-- The stored chunks are the pieces of the text, numbered from zero, their
number is recorded, and without an error every chunk has its embedding. -/
structure Consistent (db : KnowledgeDb E) (file : KnowledgeFile) (text : String)
    (calls : List (EmbedCall E)) : Prop where
  pieces : ((chunksOf db file.id).map fun r => (r.content, r.chunkIndex)) =
    (splitText text 2800 400).zipIdx
  count : file.chunkCount = (splitText text 2800 400).length
  embeddings : file.processingError = none → ∀ r ∈ chunksOf db file.id, Paired calls r

theorem Consistent.congr {db after : KnowledgeDb E} {file : KnowledgeFile} {text : String}
    {calls : List (EmbedCall E)} (h : Consistent db file text calls)
    (hchunks : after.chunks = db.chunks) : Consistent after file text calls := by
  have hof : chunksOf after file.id = chunksOf db file.id := by
    unfold chunksOf
    rw [hchunks]
  exact ⟨hof ▸ h.pieces, h.count, hof ▸ h.embeddings⟩

/-- The file is not marked as completed. -/
def Open (db : KnowledgeDb E) (fileId : Nat) : Prop :=
  ∀ f, db.files.get? fileId = some f → f.status ≠ .completed

/-- Everything of a chunk but the search vector, which only the database
fills. -/
def forget (c : KnowledgeChunk E) : KnowledgeChunk E :=
  { c with searchVector := none }

/-- The chunk objects of a run mirror the stored rows, and are the pieces of
the text. -/
structure Mirrors (db : KnowledgeDb E) (fileId : Nat) (text : String)
    (objects : List (KnowledgeChunk E)) : Prop where
  rows : (chunksOf db fileId).map forget = objects
  pieces : (objects.map fun o => (o.content, o.chunkIndex)) = (chunkTexts text).zipIdx

theorem Mirrors.length {db : KnowledgeDb E} {fileId : Nat} {text : String}
    {objects : List (KnowledgeChunk E)} (h : Mirrors db fileId text objects) :
    objects.length = (chunkTexts text).length := by
  simpa using congrArg List.length h.pieces

/-- The instance of a run before it decides how the run ends. -/
structure Fresh (fileId : Nat) (f : KnowledgeFile) : Prop where
  id : f.id = fileId
  error : f.processingError = none
  status : f.status ≠ .completed

/-- What holds of the database and of the record while a run is at a given point. -/
def PhaseInv (fileId : Nat) (db : KnowledgeDb E) (record : Record E) : TaskState E → Prop
  | .started => True
  | .loaded f => Fresh fileId f
  | .marked f => Fresh fileId f ∧ Open db fileId
  | .refusing f _ => f.id = fileId ∧ f.status ≠ .completed
  | .extracted f text => Fresh fileId f ∧ Open db fileId ∧ record.text = some text
  | .cleared f text =>
      Fresh fileId f ∧ Open db fileId ∧ record.text = some text ∧ chunksOf db fileId = []
  | .stored f text objects =>
      Fresh fileId f ∧ Open db fileId ∧ record.text = some text ∧ Mirrors db fileId text objects
  | .indexing f text objects =>
      Fresh fileId f ∧ Open db fileId ∧ record.text = some text ∧ Mirrors db fileId text objects
  | .indexed f text objects =>
      Fresh fileId f ∧ Open db fileId ∧ record.text = some text ∧ Mirrors db fileId text objects
  | .counted f text objects =>
      f.id = fileId ∧ f.chunkCount = (chunkTexts text).length ∧ Open db fileId ∧
        record.text = some text ∧ Mirrors db fileId text objects
  | .embedding f text objects position =>
      f.id = fileId ∧ f.chunkCount = (chunkTexts text).length ∧ Open db fileId ∧
        record.text = some text ∧ Mirrors db fileId text objects ∧
        ∀ o ∈ objects.take position, Paired record.calls o
  | .embedded f text objects position reply =>
      f.id = fileId ∧ f.chunkCount = (chunkTexts text).length ∧ Open db fileId ∧
        record.text = some text ∧ Mirrors db fileId text objects ∧
        (∀ o ∈ objects.take position, Paired record.calls o) ∧
        (batchOf objects position).length ≤ reply.length ∧
        { contents := (batchOf objects position).map KnowledgeChunk.content
          reply := reply } ∈ record.calls
  | .completing f text _ =>
      f.id = fileId ∧ Open db fileId ∧ record.text = some text ∧
        Consistent db f text record.calls
  | .returning f _ => f.id = fileId
  | .failing f => f.id = fileId ∧ f.status ≠ .completed
  | .ended _ => True

/-- What holds in every state: the run is where its record says, and a completed file
is consistent with the text it was completed for. -/
structure Ingested (fileId : Nat) (s : Ingestion E) : Prop where
  phase : PhaseInv fileId s.db s.record s.task
  row : ∀ f, s.task = .marked f → s.db.files.get? fileId = some f
  completed : ∀ f, s.db.files.get? fileId = some f → f.status = .completed →
    ∃ text calls, s.completion = some { text := some text, calls := calls } ∧
      Consistent s.db f text calls

section Chunks

variable {db after : KnowledgeDb E} {fileId : Nat} {text : String}
  {objects : List (KnowledgeChunk E)}

theorem Mirrors.congr (h : Mirrors db fileId text objects)
    (hchunks : after.chunks = db.chunks) : Mirrors after fileId text objects := by
  refine ⟨?_, h.pieces⟩
  unfold chunksOf
  rw [hchunks]
  exact h.rows

theorem chunksOf_updateChunks (db : KnowledgeDb E) (p : KnowledgeChunk E → Bool)
    (f : KnowledgeChunk E → KnowledgeChunk E) (hbot : ∀ c, (f c).chatbot = c.chatbot)
    (hfile : ∀ c, (f c).knowledgeFile = c.knowledgeFile) (fileId : Nat) :
    chunksOf (updateChunks db p f hbot hfile) fileId =
      (chunksOf db fileId).map fun c => if p c then { f c with id := c.id } else c := by
  unfold chunksOf updateChunks
  rw [Table.rows_modify, List.filter_map]
  congr 1
  apply List.filter_congr
  intro c _
  have hkeep : (if p c then HasKey.withKey (HasKey.key c) (f c) else c).knowledgeFile =
      c.knowledgeFile := by
    split
    · exact hfile c
    · rfl
  simp only [Function.comp_apply, hkeep]

theorem mirrors_updateSearchVector (h : Mirrors db fileId text objects) :
    Mirrors (updateSearchVector db fileId) fileId text objects := by
  refine ⟨?_, h.pieces⟩
  rw [updateSearchVector, chunksOf_updateChunks, List.map_map, ← h.rows]
  apply List.map_congr_left
  intro c _
  by_cases hfile : c.knowledgeFile = fileId <;> simp [forget, hfile]

theorem mirrors_bulkCreateChunks {file : KnowledgeFile} (hid : file.id = fileId)
    (hempty : chunksOf db fileId = [])
    (hstored : bulkCreateChunks db (chunkRows file text) = some after) :
    Mirrors after fileId text (db.chunks.createdMany (chunkRows file text)) := by
  have hall : ∀ c ∈ db.chunks.createdMany (chunkRows file text),
      c.knowledgeFile = fileId ∧ c.searchVector = none := by
    have hmap := db.chunks.map_createdMany (chunkRows file text)
      (fun r => (r.knowledgeFile, r.searchVector)) fun _ _ => rfl
    intro c hc
    have hmem := List.mem_map_of_mem hc (f := fun r => (r.knowledgeFile, r.searchVector))
    rw [hmap] at hmem
    obtain ⟨r, hr, heq⟩ := List.mem_map.mp hmem
    obtain ⟨piece, -, rfl⟩ := List.mem_map.mp hr
    obtain ⟨hfile, hvector⟩ := Prod.mk.inj heq
    exact ⟨by rw [← hfile, ← hid], hvector.symm⟩
  refine ⟨?_, ?_⟩
  · have hrows : chunksOf after fileId =
        db.chunks.createdMany (chunkRows file text) := by
      unfold chunksOf at hempty ⊢
      rw [(bulkCreateChunks_eq_some hstored).2.1, Table.rows_createMany,
        List.filter_append, hempty, List.nil_append]
      apply List.filter_eq_self.mpr
      intro c hc
      simpa using (hall c hc).1
    rw [hrows]
    refine (List.map_congr_left fun c hc => ?_).trans (List.map_id _)
    unfold forget
    rw [← (hall c hc).2]
    rfl
  · rw [db.chunks.map_createdMany (chunkRows file text)
      (fun o => (o.content, o.chunkIndex)) fun _ _ => rfl]
    unfold chunkRows
    rw [List.map_map]
    exact List.map_id _

theorem nodup_ids (h : Mirrors db fileId text objects) :
    (objects.map KnowledgeChunk.id).Nodup := by
  rw [← h.rows, List.map_map]
  exact db.chunks.nodup.sublist (List.filter_sublist.map KnowledgeChunk.id)

end Chunks

section Batches

variable {objects batch : List (KnowledgeChunk E)} {reply : List E}

theorem ids_assignBatch (hlength : batch.length ≤ reply.length) :
    (assignBatch batch reply).map KnowledgeChunk.id = batch.map KnowledgeChunk.id := by
  induction batch generalizing reply with
  | nil => rfl
  | cons o rest ih =>
      cases reply with
      | nil => simp at hlength
      | cons e replies =>
          have hrest : rest.length ≤ replies.length := by simpa using hlength
          simpa [assignBatch] using ih hrest

theorem setEmbedding_of_not_mem {c : KnowledgeChunk E}
    (h : c.id ∉ batch.map KnowledgeChunk.id) : setEmbedding batch c = c := by
  have hnone : (batch.find? fun o => o.id = c.id) = none := by
    apply List.find?_eq_none.mpr
    intro o ho
    have hne : o.id ≠ c.id := fun heq => h (List.mem_map.mpr ⟨o, ho, heq⟩)
    simpa using hne
  simp [setEmbedding, hnone]

theorem setEmbedding_id (batch : List (KnowledgeChunk E)) (c : KnowledgeChunk E) :
    { setEmbedding batch c with id := c.id } = setEmbedding batch c := by
  unfold setEmbedding
  split <;> rfl

theorem forget_setEmbedding (batch : List (KnowledgeChunk E)) (c : KnowledgeChunk E) :
    forget (setEmbedding batch c) = setEmbedding batch (forget c) := by
  have hid : (batch.find? fun o => o.id = (forget c).id) =
      batch.find? fun o => o.id = c.id := rfl
  unfold setEmbedding
  rw [hid]
  cases batch.find? fun o => o.id = c.id <;> rfl

theorem map_setEmbedding_assignBatch (hnodup : (batch.map KnowledgeChunk.id).Nodup)
    (hlength : batch.length ≤ reply.length) :
    batch.map (setEmbedding (assignBatch batch reply)) = assignBatch batch reply := by
  -- looking up a batch by key gives every object the vector at its own position
  induction batch generalizing reply with
  | nil => rfl
  | cons o rest ih =>
      cases reply with
      | nil => simp at hlength
      | cons e replies =>
          have hrest : rest.length ≤ replies.length := by simpa using hlength
          rw [List.map_cons, List.nodup_cons] at hnodup
          have hhead : assignBatch (o :: rest) (e :: replies) =
              { o with embedding := some e } :: assignBatch rest replies := rfl
          have htail : rest.map (setEmbedding (assignBatch (o :: rest) (e :: replies))) =
              rest.map (setEmbedding (assignBatch rest replies)) := by
            apply List.map_congr_left
            intro c hc
            have hne : o.id ≠ c.id :=
              fun heq => hnodup.1 (heq ▸ List.mem_map_of_mem hc)
            simp [hhead, setEmbedding, hne]
          rw [List.map_cons, htail, ih hnodup.2 hrest, hhead]
          simp [setEmbedding]

theorem objects_split (objects : List (KnowledgeChunk E)) (position : Nat) :
    objects = objects.take position ++ batchOf objects position ++
      objects.drop (position + batchSize) := by
  have hrest : batchOf objects position ++ objects.drop (position + batchSize) =
      objects.drop position := by
    unfold batchOf
    rw [← List.drop_drop, List.take_append_drop]
  rw [List.append_assoc, hrest, List.take_append_drop]

theorem assignEmbeddings_eq_map {position : Nat}
    (hnodup : (objects.map KnowledgeChunk.id).Nodup)
    (hlength : (batchOf objects position).length ≤ reply.length) :
    assignEmbeddings objects position reply =
      objects.map (setEmbedding (assignBatch (batchOf objects position) reply)) := by
  have hids := ids_assignBatch hlength
  have hsplit := objects_split objects position
  rw [hsplit, List.map_append, List.map_append, List.nodup_append,
    List.nodup_append] at hnodup
  obtain ⟨⟨-, hbatch, hbefore⟩, -, hafter⟩ := hnodup
  have hkeep : ∀ part : List (KnowledgeChunk E),
      (∀ c ∈ part, c.id ∉ (batchOf objects position).map KnowledgeChunk.id) →
        part.map (setEmbedding (assignBatch (batchOf objects position) reply)) = part := by
    intro part hpart
    refine (List.map_congr_left fun c hc => ?_).trans (List.map_id _)
    apply setEmbedding_of_not_mem
    rw [hids]
    exact hpart c hc
  have hmap := congrArg
    (List.map (setEmbedding (assignBatch (batchOf objects position) reply))) hsplit
  rw [hmap, List.map_append, List.map_append, map_setEmbedding_assignBatch hbatch hlength,
    hkeep (objects.take position), hkeep (objects.drop (position + batchSize))]
  · rfl
  · intro c hc hmem
    exact hafter _ (List.mem_append_right _ hmem) _ (List.mem_map_of_mem hc) rfl
  · intro c hc hmem
    exact hbefore _ (List.mem_map_of_mem hc) _ hmem rfl

theorem Paired.mono {calls more : List (EmbedCall E)} {c : KnowledgeChunk E}
    (h : Paired calls c) (hsub : ∀ call ∈ calls, call ∈ more) : Paired more c := by
  obtain ⟨call, hcall, rest⟩ := h
  exact ⟨call, hsub call hcall, rest⟩

theorem paired_of_mem_assignBatch {calls : List (EmbedCall E)}
    (hcall : { contents := batch.map KnowledgeChunk.content, reply := reply } ∈ calls)
    {c : KnowledgeChunk E} (hc : c ∈ assignBatch batch reply) : Paired calls c := by
  obtain ⟨k, hk⟩ := List.mem_iff_getElem?.mp hc
  unfold assignBatch at hk
  rw [List.getElem?_zipWith] at hk
  cases ho : batch[k]? with
  | none => simp [ho] at hk
  | some o =>
      cases he : reply[k]? with
      | none => simp [ho, he] at hk
      | some e =>
          have hco : { o with embedding := some e } = c := by simpa [ho, he] using hk
          refine ⟨_, hcall, k, e, ?_, he, ?_⟩
          · simp [ho, ← hco]
          · rw [← hco]

theorem paired_take_assignEmbeddings {calls : List (EmbedCall E)} {position : Nat}
    (hbefore : ∀ o ∈ objects.take position, Paired calls o)
    (hcall : { contents := (batchOf objects position).map KnowledgeChunk.content
               reply := reply } ∈ calls)
    (hlength : (batchOf objects position).length ≤ reply.length) :
    ∀ o ∈ (assignEmbeddings objects position reply).take (position + batchSize),
      Paired calls o := by
  intro o ho
  have hmem : o ∈ objects.take position ++
      assignBatch (batchOf objects position) reply := by
    unfold assignEmbeddings at ho
    by_cases hlast : objects.length ≤ position + batchSize
    · rw [List.drop_eq_nil_of_le hlast, List.append_nil] at ho
      exact List.mem_of_mem_take ho
    · have hfull : (objects.take position ++
          assignBatch (batchOf objects position) reply).length = position + batchSize := by
        have hbatch : (batchOf objects position).length = batchSize := by
          simp only [batchOf, List.length_take, List.length_drop]
          omega
        simp only [assignBatch, List.length_append, List.length_take,
          List.length_zipWith]
        omega
      rw [List.take_append_of_le_length (Nat.le_of_eq hfull.symm)] at ho
      exact List.mem_of_mem_take ho
  rcases List.mem_append.mp hmem with hmem | hmem
  · exact hbefore o hmem
  · exact paired_of_mem_assignBatch hcall hmem

theorem mirrors_bulkUpdateEmbedding {db : KnowledgeDb E} {fileId : Nat} {text : String}
    {position : Nat} (h : Mirrors db fileId text objects)
    (hlength : (batchOf objects position).length ≤ reply.length) :
    Mirrors (bulkUpdateEmbedding db (assignBatch (batchOf objects position) reply)) fileId
      text (assignEmbeddings objects position reply) := by
  rw [assignEmbeddings_eq_map (nodup_ids h) hlength]
  generalize assignBatch (batchOf objects position) reply = update
  refine ⟨?_, ?_⟩
  · rw [bulkUpdateEmbedding, chunksOf_updateChunks, List.map_map]
    conv_rhs => rw [← h.rows, List.map_map]
    apply List.map_congr_left
    intro c _
    rw [Function.comp_apply, Function.comp_apply, ← forget_setEmbedding]
    by_cases hany : (update.any fun o => o.id = c.id) = true
    · rw [if_pos hany, setEmbedding_id]
    · rw [if_neg hany, setEmbedding_of_not_mem]
      intro hmem
      obtain ⟨o, ho, hid⟩ := List.mem_map.mp hmem
      exact hany (List.any_eq_true.mpr ⟨o, ho, decide_eq_true hid⟩)
  · rw [List.map_map, ← h.pieces]
    apply List.map_congr_left
    intro o _
    simp only [Function.comp_apply, setEmbedding]
    split <;> rfl

end Batches

section Steps

variable {fileId : Nat} {db after : KnowledgeDb E} {record : Record E} {task next : TaskState E}

theorem PhaseInv.file_id (h : PhaseInv fileId db record task) {f : KnowledgeFile}
    (hf : task.file = some f) : f.id = fileId := by
  cases task with
  | started | ended => cases hf
  | loaded => cases hf; exact h.id
  | marked | extracted | cleared | stored | indexing | indexed => cases hf; exact h.1.id
  | refusing | counted | embedding | embedded | completing | failing =>
      cases hf; exact h.1
  | returning => cases hf; exact h

theorem phaseInv_interrupt (h : PhaseInv fileId db record task) {message : String}
    (hnext : interrupt message task = some next) : PhaseInv fileId db record next := by
  have hfail : ∀ f, task.file = some f →
      PhaseInv fileId db record (.failing (f.fail message) : TaskState E) := by
    intro f hf
    have hid : f.id = fileId := h.file_id hf
    exact ⟨hid, by simp [KnowledgeFile.fail]⟩
  cases task with
  | started | failing => cases hnext; trivial
  | stored | returning | ended => cases hnext
  | indexing => cases hnext; exact h
  | _ => cases hnext; exact hfail _ rfl

theorem open_of_saveFile {f : KnowledgeFile} (hsave : saveFile db f = some after)
    (hid : f.id = fileId) (hstatus : f.status ≠ .completed) : Open after fileId := by
  intro g hg
  rw [(saveFile_eq_some hsave).1, ← hid] at hg
  have hself : (db.files.save f).get? f.id = some f := db.files.get?_save_self f
  rw [← Option.some.inj (hself.symm.trans hg)]
  exact hstatus

theorem isCompleted_eq_false_of_open (h : Open db fileId) : isCompleted db fileId = false := by
  unfold isCompleted
  cases hget : db.files.get? fileId with
  | none => rfl
  | some f => simpa using h f hget

theorem isCompleted_eq_true {f : KnowledgeFile} (hget : db.files.get? fileId = some f)
    (hstatus : f.status = .completed) : isCompleted db fileId = true := by
  simp [isCompleted, hget, hstatus]

/-- What a statement does to a file that may be completed: nothing, or it leaves
the file open, or it is the save that completes the file. -/
inductive Effect (fileId : Nat) (db after : KnowledgeDb E) (task : TaskState E)
    (record : Record E) : Prop where
  | unchanged (hdb : after = db)
  | opened (hopen : Open after fileId)
  | completed (f : KnowledgeFile) (text : String) (report : Report)
      (htask : task = .completing f text report) (hbefore : Open db fileId)
      (hfile : after.files.get? fileId = some f) (htext : record.text = some text)
      (hconsistent : Consistent after f text record.calls)

theorem phaseInv_afterExtraction (hopen : Open db fileId) {f : KnowledgeFile}
    (hfresh : Fresh fileId f) {text : String} (htext : record.text = some text) :
    PhaseInv fileId db record (afterExtraction f text : TaskState E) := by
  unfold afterExtraction
  split
  · exact ⟨hfresh.id, by simp [KnowledgeFile.fail]⟩
  · exact ⟨hfresh, hopen, htext⟩

theorem phaseInv_afterReply {f : KnowledgeFile} {text : String}
    {objects : List (KnowledgeChunk E)} {position : Nat} (row : Option KnowledgeFile)
    (h : PhaseInv fileId db record (.embedding f text objects position)) (reply : List E) :
    PhaseInv fileId db
      (observe row db (.embedding f text objects position) record (.reply reply))
      (afterReply f text objects position reply) := by
  obtain ⟨hid, hcount, hopen, htext, hmirrors, hpaired⟩ := h
  unfold afterReply
  split
  · exact ⟨hid, by simp [KnowledgeFile.fail]⟩
  · rename_i hlength
    refine ⟨hid, hcount, hopen, htext, hmirrors, ?_, Nat.le_of_not_lt hlength, ?_⟩
    · intro o ho
      exact (hpaired o ho).mono fun call hcall => List.mem_append_left _ hcall
    · exact List.mem_append_right _ (List.mem_singleton_self _)

theorem consistent_of_embedding {f : KnowledgeFile} {text : String}
    {objects : List (KnowledgeChunk E)} {position : Nat}
    (h : PhaseInv fileId db record (.embedding f text objects position))
    (hend : (chunkTexts text).length ≤ position) :
    Consistent db { f with status := .completed } text record.calls := by
  -- the loop has passed the last batch, so every stored chunk is paired
  obtain ⟨rfl, hcount, -, -, hmirrors, hpaired⟩ := h
  rw [List.take_of_length_le (hmirrors.length ▸ hend)] at hpaired
  refine ⟨?_, hcount, ?_⟩
  · rw [← chunkTexts, ← hmirrors.pieces, ← hmirrors.rows, List.map_map]
    rfl
  · intro _ r hr
    have hmem : forget r ∈ objects := by
      rw [← hmirrors.rows]
      exact List.mem_map_of_mem hr
    exact hpaired (forget r) hmem

theorem consistent_of_counted {f : KnowledgeFile} {text message : String}
    {objects : List (KnowledgeChunk E)}
    (h : PhaseInv fileId db record (.counted f text objects)) :
    Consistent db { f with status := .completed, processingError := some message } text
      record.calls := by
  obtain ⟨rfl, hcount, -, -, hmirrors⟩ := h
  refine ⟨?_, hcount, ?_⟩
  · rw [← chunkTexts, ← hmirrors.pieces, ← hmirrors.rows, List.map_map]
    rfl
  · intro hnone
    cases hnone

/-- Every statement of a run that succeeds keeps what holds at its point. -/
theorem proceed_effect (h : PhaseInv fileId db record task) {row : Option KnowledgeFile}
    (hrow : ∀ f, task = .marked f → row = some f) {outcome : Outcome E}
    (hproceed : proceed fileId db task outcome = some (after, next)) :
    PhaseInv fileId after (observe row db task record outcome) next ∧
      Effect fileId db after task (observe row db task record outcome) := by
  cases proceeds_of_proceed hproceed with
  | missing => exact ⟨trivial, .unchanged rfl⟩
  | load hfile =>
      have hid := ((db.files.get?_eq_some_iff).mp hfile).2
      exact ⟨⟨hid, rfl, by simp⟩, .unchanged rfl⟩
  | mark hsave =>
      have hopen := open_of_saveFile hsave h.id h.status
      exact ⟨⟨h, hopen⟩, .opened hopen⟩
  | reject message report =>
      exact ⟨⟨h.1.id, by simp [KnowledgeFile.fail]⟩, .opened h.2⟩
  | @extract f content =>
      have htext : (observe row db (.marked f) record (.read content)).text =
          some (extractUpload db f content) := by
        rw [hrow f rfl]
        rfl
      exact ⟨phaseInv_afterExtraction h.2 h.1 htext, .opened h.2⟩
  | refuse hsave => exact ⟨h.1, .opened (open_of_saveFile hsave h.1 h.2)⟩
  | @clear f text =>
      have hempty : chunksOf (deleteChunks db f.id) fileId = [] := by
        simp [chunksOf, deleteChunks, List.filter_filter, h.1.id]
      exact ⟨⟨h.1, h.2.1, h.2.2, hempty⟩, .opened h.2.1⟩
  | store hstored =>
      obtain ⟨hfresh, hopen, htext, hempty⟩ := h
      have hopen' : Open after fileId := by
        unfold Open
        rw [(bulkCreateChunks_eq_some hstored).1]
        exact hopen
      exact ⟨⟨hfresh, hopen', htext, mirrors_bulkCreateChunks hfresh.id hempty hstored⟩,
        .opened hopen'⟩
  | enter => exact ⟨h, .opened h.2.1⟩
  | index =>
      obtain ⟨hfresh, hopen, htext, hmirrors⟩ := h
      rw [hfresh.id]
      exact ⟨⟨hfresh, hopen, htext, mirrors_updateSearchVector hmirrors⟩, .opened hopen⟩
  | count hcounted hsave =>
      subst hcounted
      obtain ⟨hfresh, -, htext, hmirrors⟩ := h
      have hopen := open_of_saveFile hsave hfresh.id hfresh.status
      exact ⟨⟨hfresh.id, rfl, hopen, htext, hmirrors.congr (saveFile_eq_some hsave).2.1⟩,
        .opened hopen⟩
  | embed =>
      obtain ⟨hid, hcount, hopen, htext, hmirrors⟩ := h
      exact ⟨⟨hid, hcount, hopen, htext, hmirrors, by simp⟩, .opened hopen⟩
  | skip => exact ⟨⟨h.1, h.2.2.1, h.2.2.2.1, consistent_of_counted h⟩, .opened h.2.2.1⟩
  | receive reply => exact ⟨phaseInv_afterReply row h reply, .opened h.2.2.1⟩
  | finish hend =>
      exact ⟨⟨h.1, h.2.2.1, h.2.2.2.1, consistent_of_embedding h hend⟩, .opened h.2.2.1⟩
  | assign =>
      obtain ⟨hid, hcount, hopen, htext, hmirrors, hpaired, hlength, hcall⟩ := h
      exact ⟨⟨hid, hcount, hopen, htext, mirrors_bulkUpdateEmbedding hmirrors hlength,
        paired_take_assignEmbeddings hpaired hcall hlength⟩, .opened hopen⟩
  | @complete f text report _ hsave =>
      obtain ⟨hid, hopen, htext, hconsistent⟩ := h
      refine ⟨hid, .completed f text report rfl hopen ?_ htext
        (hconsistent.congr (saveFile_eq_some hsave).2.1)⟩
      rw [(saveFile_eq_some hsave).1, ← hid]
      exact db.files.get?_save_self f
  | finishReport => exact ⟨trivial, .unchanged rfl⟩
  | fail hsave => exact ⟨trivial, .opened (open_of_saveFile hsave h.1 h.2)⟩

theorem advance_effect (h : PhaseInv fileId db record task) {row : Option KnowledgeFile}
    (hrow : ∀ f, task = .marked f → row = some f) {outcome : Outcome E}
    (hadvance : advance fileId db task outcome = some (after, next)) :
    PhaseInv fileId after (observe row db task record outcome) next ∧
      Effect fileId db after task (observe row db task record outcome) := by
  cases outcome with
  | raise message =>
      obtain ⟨state, hstate, heq⟩ := Option.map_eq_some_iff.mp hadvance
      cases heq
      exact ⟨phaseInv_interrupt h hstate, .unchanged rfl⟩
  | kill =>
      cases task with
      | ended => cases hadvance
      | _ =>
          cases hadvance
          exact ⟨trivial, .unchanged rfl⟩
  | done | read | apiKey | reply => exact proceed_effect h hrow hadvance

theorem get?_of_proceed_marked (h : PhaseInv fileId db record task) {outcome : Outcome E}
    (hproceed : proceed fileId db task outcome = some (after, next)) {f : KnowledgeFile}
    (hnext : next = .marked f) : after.files.get? fileId = some f := by
  cases proceeds_of_proceed hproceed with
  | mark hsave =>
      cases hnext
      have hid : f.id = fileId := h.id
      rw [(saveFile_eq_some hsave).1, ← hid]
      exact db.files.get?_save_self f
  | extract =>
      unfold afterExtraction at hnext
      split at hnext <;> cases hnext
  | receive =>
      unfold afterReply at hnext
      split at hnext <;> cases hnext
  | _ => cases hnext

theorem get?_of_advance_marked (h : PhaseInv fileId db record task) {outcome : Outcome E}
    {f : KnowledgeFile}
    (hadvance : advance fileId db task outcome = some (after, .marked f)) :
    after.files.get? fileId = some f := by
  cases outcome with
  | raise message =>
      obtain ⟨state, hstate, heq⟩ := Option.map_eq_some_iff.mp hadvance
      cases heq
      cases task <;> cases hstate
  | kill => cases task <;> cases hadvance
  | done | read | apiKey | reply => exact get?_of_proceed_marked h hadvance rfl

theorem ingested_step (fileId : Nat) (s t : Ingestion E) (event : Event E)
    (h : Ingested fileId s) (hstep : ingest fileId s event = some t) :
    Ingested fileId t := by
  cases event with
  | begin =>
      simp only [ingest] at hstep
      split at hstep
      · cases hstep
        exact ⟨trivial, (fun _ hmarked => by cases hmarked), h.completed⟩
      · cases hstep
  | act outcome =>
      obtain ⟨⟨after, next⟩, hadvance, rfl⟩ := Option.map_eq_some_iff.mp hstep
      obtain ⟨hphase, heffect⟩ := advance_effect h.phase h.row hadvance
      refine ⟨hphase, ?_, ?_⟩
      · intro f hmarked
        dsimp only at hmarked
        subst hmarked
        exact get?_of_advance_marked h.phase hadvance
      · intro f hf hcompleted
        dsimp only at hf ⊢
        cases heffect with
        | unchanged hdb =>
            rw [hdb] at hf ⊢
            rw [if_neg fun hturned => Bool.false_ne_true (hturned.1.symm.trans hturned.2)]
            exact h.completed f hf hcompleted
        | opened hopen => exact absurd hcompleted (hopen f hf)
        | completed g text report _ hbefore hg htext hconsistent =>
            rw [if_pos ⟨isCompleted_eq_false_of_open hbefore, isCompleted_eq_true hf hcompleted⟩]
            rw [← Option.some.inj (hg.symm.trans hf)]
            exact ⟨text, _, by rw [← htext], hconsistent⟩

end Steps

/-- In every state that runs of the task on a file lead to, one after another
and each stopped anywhere, a file that is stored as completed has exactly the
chunks of the text that its upload was read as in the completing run, with the vectors that
the API returned for them in that run unless the file carries a note. -/
theorem ingestion_consistent {fileId : Nat} {start s : Ingestion E} {result : TaskEnd}
    (hidle : start.task = .ended result) (hopen : Open start.db fileId)
    (hrun : Reaches (ingest fileId) anyStep start s) :
    ∀ f, s.db.files.get? fileId = some f → f.status = .completed →
      ∃ text calls, s.completion = some { text := some text, calls := calls } ∧
        Consistent s.db f text calls := by
  have hstart : Ingested fileId start := by
    refine ⟨?_, fun f hmarked => ?_, fun f hf hcompleted => absurd hcompleted (hopen f hf)⟩
    · rw [hidle]
      trivial
    · rw [hidle] at hmarked
      cases hmarked
  exact (invariant_of_reaches (Ingested fileId)
    (fun s a t h _ hnext => ingested_step fileId s t a h hnext) hstart hrun).completed

/-- A file that was uploaded and not processed yet. -/
def uploadedDb : KnowledgeDb Nat where
  chatbots := [1]
  files := Table.empty.create
    { id := 0, chatbot := 1, file := "notes.txt", status := .pending, chunkCount := 0
      processingError := none }
  chunks := Table.empty
  disk := ["notes.txt"]
  fileOwner := by decide
  chunkOwner := by simp [Table.empty]
  chunkFile := by simp [Table.empty]

/-- No run of the task has begun. -/
def uploaded : Ingestion Nat where
  db := uploadedDb
  task := .ended (.returned .fileNotFound)
  record := { text := none, calls := [] }
  completion := none

/-- A run that is killed before it stores its chunks, and one that completes. -/
def secondRunCompletes : List (Event Nat) :=
  [.begin, .act .done, .act .done, .act (.read (.text "abc")), .act .kill,
    .begin, .act .done, .act .done, .act (.read (.text "ab")), .act .done, .act .done,
    .act .done, .act .done, .act .done, .act (.apiKey true), .act (.reply [7]),
    .act .done, .act .done, .act .done, .act .done]

theorem secondRunCompletes_consistent :
    ∃ s, Reaches (ingest 1) anyStep uploaded s ∧
      ((s.db.files.get? 1).map KnowledgeFile.status = some .completed ∧
        (s.completion.map fun c => (c.text, c.calls.map fun call => (call.contents, call.reply))) =
          some (some "ab", [(["ab"], [7])]) ∧
        (chunksOf s.db 1).map (fun c => (c.content, c.embedding)) = [("ab", some 7)]) ∧
      ∀ f, s.db.files.get? 1 = some f → f.status = .completed →
        ∃ text calls, s.completion = some { text := some text, calls := calls } ∧
          Consistent s.db f text calls := by
  have hopen : Open uploadedDb 1 := by
    intro f hf
    cases hf
    decide
  obtain ⟨s, hrun, hstate⟩ : ∃ s, Reaches (ingest 1) anyStep uploaded s ∧
      ((s.db.files.get? 1).map KnowledgeFile.status = some .completed ∧
        (s.completion.map fun c => (c.text, c.calls.map fun call => (call.contents, call.reply))) =
          some (some "ab", [(["ab"], [7])]) ∧
        (chunksOf s.db 1).map (fun c => (c.content, c.embedding)) = [("ab", some 7)]) :=
    exists_reaches_of_replay secondRunCompletes (by decide +kernel)
  exact ⟨s, hrun, hstate, ingestion_consistent rfl hopen hrun⟩

end Botman.KnowledgeIngestion
