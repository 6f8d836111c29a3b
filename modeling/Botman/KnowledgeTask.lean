import Botman.DataModel
import Botman.Library.Transition

/-!
Knowledge files, their text chunks, and the background task
`process_knowledge_file` as a sequence of database statements.

No transaction encloses the task.  Before every statement it may be killed, or
an exception may take it to its handler; what the outside world answers (the
text of a file, whether an API key is set, the embeddings) is part of the label
of a step.  The embeddings are values of an arbitrary type.
-/

namespace Botman.KnowledgeTask

open Botman.Library.KeyedTable
open Botman.Library.PythonValue

universe u

/-- The choices of the column `status`. -/
inductive FileStatus where
  | pending
  | processing
  | completed
  | failed
  deriving DecidableEq, Repr

/-- A row of `KnowledgeFile`. -/
structure KnowledgeFile where
  id : Nat
  chatbot : Nat
  file : String
  status : FileStatus
  chunkCount : Nat
  processingError : Option String
  deriving DecidableEq

/-- A row of `KnowledgeChunk`, with any type of embeddings. -/
structure KnowledgeChunk (E : Type u) where
  id : Nat
  chatbot : Nat
  knowledgeFile : Nat
  content : String
  chunkIndex : Nat
  embedding : Option E
  searchVector : Option String
  deriving DecidableEq

variable {E : Type u}

instance : HasKey KnowledgeFile where
  key := KnowledgeFile.id
  withKey := fun n r => { r with id := n }
  key_withKey := fun _ _ => rfl

instance : HasKey (KnowledgeChunk E) where
  key := KnowledgeChunk.id
  withKey := fun n r => { r with id := n }
  key_withKey := fun _ _ => rfl

/-- The two tables, the chatbots they refer to and the uploaded files on disk.
The foreign keys are constraints of the database. -/
structure KnowledgeDb (E : Type u) where
  chatbots : List Nat
  files : Table KnowledgeFile
  chunks : Table (KnowledgeChunk E)
  disk : List String
  fileOwner : ∀ f ∈ files.rows, f.chatbot ∈ chatbots
  chunkOwner : ∀ c ∈ chunks.rows, c.chatbot ∈ chatbots
  chunkFile : ∀ c ∈ chunks.rows, ∃ f ∈ files.rows, f.id = c.knowledgeFile

/-- `knowledge_file.save()`, absent where the foreign key fails. -/
def saveFile (db : KnowledgeDb E) (file : KnowledgeFile) : Option (KnowledgeDb E) :=
  if h : file.chatbot ∈ db.chatbots then
    some
      { db with
        files := db.files.save file
        fileOwner := by
          intro f hf
          rcases (db.files.mem_save file f).mp hf with rfl | ⟨hf, -⟩
          · exact h
          · exact db.fileOwner f hf
        chunkFile := by
          intro c hc
          obtain ⟨f, hf, hid⟩ := db.chunkFile c hc
          by_cases hkey : f.id = file.id
          · exact ⟨file, (db.files.mem_save file file).mpr (Or.inl rfl), hkey ▸ hid⟩
          · exact ⟨f, (db.files.mem_save file f).mpr (Or.inr ⟨hf, hkey⟩), hid⟩ }
  else none

theorem saveFile_eq_some {db after : KnowledgeDb E} {file : KnowledgeFile}
    (h : saveFile db file = some after) :
    after.files = db.files.save file ∧ after.chunks = db.chunks ∧
      after.chatbots = db.chatbots ∧ after.disk = db.disk ∧ file.chatbot ∈ db.chatbots := by
  unfold saveFile at h
  split at h
  · rename_i hbot
    cases h
    exact ⟨rfl, rfl, rfl, rfl, hbot⟩
  · cases h

/-- The deletion of the chunks of a file. -/
def deleteChunks (db : KnowledgeDb E) (fileId : Nat) : KnowledgeDb E :=
  { db with
    chunks := db.chunks.delete fun c => c.knowledgeFile = fileId
    chunkOwner := fun c hc => db.chunkOwner c ((db.chunks.mem_delete _ c).mp hc).1
    chunkFile := fun c hc => db.chunkFile c ((db.chunks.mem_delete _ c).mp hc).1 }

/-- The foreign keys of the rows name stored rows. -/
def ChunksRefer (db : KnowledgeDb E) (rows : List (KnowledgeChunk E)) : Prop :=
  ∀ c ∈ rows, c.chatbot ∈ db.chatbots ∧
    c.knowledgeFile ∈ db.files.rows.map KnowledgeFile.id

instance (db : KnowledgeDb E) (rows : List (KnowledgeChunk E)) :
    Decidable (ChunksRefer db rows) :=
  inferInstanceAs (Decidable (∀ c ∈ rows, c.chatbot ∈ db.chatbots ∧
    c.knowledgeFile ∈ db.files.rows.map KnowledgeFile.id))

theorem mem_createdMany {table : Table (KnowledgeChunk E)}
    {rows : List (KnowledgeChunk E)} {c : KnowledgeChunk E}
    (h : c ∈ table.createdMany rows) :
    ∃ r ∈ rows, c.chatbot = r.chatbot ∧ c.knowledgeFile = r.knowledgeFile := by
  have hmap := table.map_createdMany rows (fun r => (r.chatbot, r.knowledgeFile))
    fun _ _ => rfl
  have hmem := List.mem_map_of_mem h (f := fun r => (r.chatbot, r.knowledgeFile))
  rw [hmap] at hmem
  obtain ⟨r, hr, heq⟩ := List.mem_map.mp hmem
  exact ⟨r, hr, (Prod.mk.inj heq).1.symm, (Prod.mk.inj heq).2.symm⟩

/-- `KnowledgeChunk.objects.bulk_create`, one transaction: every row, or none
where a foreign key fails. -/
def bulkCreateChunks (db : KnowledgeDb E) (rows : List (KnowledgeChunk E)) :
    Option (KnowledgeDb E) :=
  if h : ChunksRefer db rows then
    some
      { db with
        chunks := db.chunks.createMany rows
        chunkOwner := by
          intro c hc
          rw [Table.rows_createMany, List.mem_append] at hc
          rcases hc with hc | hc
          · exact db.chunkOwner c hc
          · obtain ⟨r, hr, hbot, -⟩ := mem_createdMany hc
            rw [hbot]
            exact (h r hr).1
        chunkFile := by
          intro c hc
          rw [Table.rows_createMany, List.mem_append] at hc
          rcases hc with hc | hc
          · exact db.chunkFile c hc
          · obtain ⟨r, hr, -, hfile⟩ := mem_createdMany hc
            rw [hfile]
            exact List.mem_map.mp (h r hr).2 }
  else none

theorem bulkCreateChunks_eq_some {db after : KnowledgeDb E}
    {rows : List (KnowledgeChunk E)} (h : bulkCreateChunks db rows = some after) :
    after.files = db.files ∧ after.chunks = db.chunks.createMany rows ∧
      after.chatbots = db.chatbots ∧ ChunksRefer db rows := by
  unfold bulkCreateChunks at h
  split at h
  · rename_i hrefer
    cases h
    exact ⟨rfl, rfl, rfl, hrefer⟩
  · cases h

/-- An UPDATE of columns that are no keys, over a selection of chunks. -/
def updateChunks (db : KnowledgeDb E) (p : KnowledgeChunk E → Bool)
    (f : KnowledgeChunk E → KnowledgeChunk E)
    (hbot : ∀ c, (f c).chatbot = c.chatbot)
    (hfile : ∀ c, (f c).knowledgeFile = c.knowledgeFile) : KnowledgeDb E :=
  have hrows : ∀ c ∈ (db.chunks.modify p f).rows, ∃ r ∈ db.chunks.rows,
      c.chatbot = r.chatbot ∧ c.knowledgeFile = r.knowledgeFile := by
    intro c hc
    obtain ⟨r, hr, rfl⟩ := List.mem_map.mp hc
    refine ⟨r, hr, ?_⟩
    split
    · exact ⟨hbot r, hfile r⟩
    · exact ⟨rfl, rfl⟩
  { db with
    chunks := db.chunks.modify p f
    chunkOwner := by
      intro c hc
      obtain ⟨r, hr, hbot, -⟩ := hrows c hc
      rw [hbot]
      exact db.chunkOwner r hr
    chunkFile := by
      intro c hc
      obtain ⟨r, hr, -, hfile⟩ := hrows c hc
      rw [hfile]
      exact db.chunkFile r hr }

/-- `update(search_vector=SearchVector('content'))`; the vector stands for the
text it was made of. -/
def updateSearchVector (db : KnowledgeDb E) (fileId : Nat) : KnowledgeDb E :=
  updateChunks db (fun c => c.knowledgeFile = fileId)
    (fun c => { c with searchVector := some c.content }) (fun _ => rfl) fun _ => rfl

/-- `bulk_update` of the embeddings: a row gets the one of the object with its key. -/
def setEmbedding (batch : List (KnowledgeChunk E)) (c : KnowledgeChunk E) :
    KnowledgeChunk E :=
  match batch.find? fun o => o.id = c.id with
  | some o => { c with embedding := o.embedding }
  | none => c

/-- `bulk_update(batch, ['embedding'])`: rows that are gone are not inserted. -/
def bulkUpdateEmbedding (db : KnowledgeDb E) (batch : List (KnowledgeChunk E)) :
    KnowledgeDb E :=
  updateChunks db (fun c => batch.any fun o => o.id = c.id) (setEmbedding batch)
    (fun c => by unfold setEmbedding; split <;> rfl)
    fun c => by unfold setEmbedding; split <;> rfl

def removeFromDisk (db : KnowledgeDb E) (file : String) : KnowledgeDb E :=
  { db with disk := db.disk.filter fun name => name ≠ file }

/-- The deletion of a knowledge file, which cascades to its chunks. -/
def deleteFile (db : KnowledgeDb E) (fileId : Nat) : KnowledgeDb E :=
  { db with
    files := db.files.delete fun f => f.id = fileId
    chunks := db.chunks.delete fun c => c.knowledgeFile = fileId
    fileOwner := fun f hf => db.fileOwner f ((db.files.mem_delete _ f).mp hf).1
    chunkOwner := fun c hc => db.chunkOwner c ((db.chunks.mem_delete _ c).mp hc).1
    chunkFile := by
      intro c hc
      obtain ⟨hmem, hne⟩ := (db.chunks.mem_delete _ c).mp hc
      obtain ⟨f, hf, hid⟩ := db.chunkFile c hmem
      refine ⟨f, (db.files.mem_delete _ f).mpr ⟨hf, ?_⟩, hid⟩
      rw [hid]
      exact hne }

/-- The extension that `os.path.splitext` finds, in lower case: from the last
dot of the file name, where something other than dots precedes it. -/
def extension (path : String) : String :=
  let name := (path.toList.reverse.takeWhile fun c => c ≠ '/').reverse
  if '.' ∈ name.dropWhile fun c => c = '.' then
    let tail := (name.reverse.takeWhile fun c => c ≠ '.').reverse
    String.ofList ('.' :: tail.map Char.toLower)
  else ""

/-- What opening and reading a file yields: the pages of a PDF, the text of a
text file, or an exception. -/
inductive FileRead where
  | pages (texts : List String)
  | text (content : String)
  | failed

/-- `extract_text_from_file`; every exception is answered with the empty text. -/
def extractTextFromFile (path : String) (read : FileRead) : String :=
  if extension path = ".pdf" then
    match read with
    | .pages texts => join "\n" (texts.filter fun text => text ≠ "")
    | _ => ""
  else if extension path = ".txt" then
    match read with
    | .text content => content
    | _ => ""
  else ""

/-- The loop of `split_text` from a start position.  The position grows in
every round, so that many rounds as there are characters are enough. -/
def splitLoop (text : List Char) (chunkSize chunkOverlap : Nat) :
    Nat → Nat → List (List Char)
  | 0, _ => []
  | fuel + 1, start =>
      if start < text.length then
        let stop := min (start + chunkSize) text.length
        let chunk := (text.drop start).take (stop - start)
        if stop = text.length then [chunk]
        else
          chunk :: splitLoop text chunkSize chunkOverlap fuel
            (start + max 1 (chunkSize - chunkOverlap))
      else []

/-- `split_text`, whose loop is given as much fuel as it can use. -/
def splitText (text : String) (chunkSize chunkOverlap : Nat) : List String :=
  (splitLoop text.toList chunkSize chunkOverlap text.length 0).map String.ofList

example : splitText "1234567890" 4 2 = ["1234", "3456", "5678", "7890"] := by decide

/-- The sizes that the task asks for. -/
def chunkTexts (text : String) : List String :=
  splitText text 2800 400

/-- The rows of the chunks, numbered from zero. -/
def chunkRows (file : KnowledgeFile) (text : String) : List (KnowledgeChunk E) :=
  (chunkTexts text).zipIdx.map fun piece =>
    { id := 0, chatbot := file.chatbot, knowledgeFile := file.id, content := piece.1
      chunkIndex := piece.2, embedding := none, searchVector := none }

def batchSize : Nat := 50

/-- The batch of the embedding loop at a position. -/
def batchOf (objects : List (KnowledgeChunk E)) (position : Nat) :
    List (KnowledgeChunk E) :=
  (objects.drop position).take batchSize

/-- `obj.embedding = result.embeddings[idx].values` for a whole batch. -/
def assignBatch (batch : List (KnowledgeChunk E)) (reply : List E) :
    List (KnowledgeChunk E) :=
  List.zipWith (fun o e => { o with embedding := some e }) batch reply

/-- The chunk objects after the batch at a position got its embeddings. -/
def assignEmbeddings (objects : List (KnowledgeChunk E)) (position : Nat)
    (reply : List E) : List (KnowledgeChunk E) :=
  objects.take position ++ assignBatch (batchOf objects position) reply ++
    objects.drop (position + batchSize)

/-- What the task returns. -/
inductive Report where
  | fileNotFound
  | noFile
  | noText
  | withoutEmbeddings
  | processed (total : Nat)
  deriving DecidableEq

/-- How a run ends.  A run is killed with its worker. -/
inductive TaskEnd where
  | returned (report : Report)
  | raised
  | killed
  deriving DecidableEq

/-- Where the task stands, before its next statement, with the instances it
holds in memory. -/
inductive TaskState (E : Type u) where
  | started
  | loaded (file : KnowledgeFile)
  | marked (file : KnowledgeFile)
  | refusing (file : KnowledgeFile) (report : Report)
  | extracted (file : KnowledgeFile) (text : String)
  | cleared (file : KnowledgeFile) (text : String)
  | stored (file : KnowledgeFile) (text : String) (objects : List (KnowledgeChunk E))
  | indexing (file : KnowledgeFile) (text : String) (objects : List (KnowledgeChunk E))
  | indexed (file : KnowledgeFile) (text : String) (objects : List (KnowledgeChunk E))
  | counted (file : KnowledgeFile) (text : String) (objects : List (KnowledgeChunk E))
  | embedding (file : KnowledgeFile) (text : String) (objects : List (KnowledgeChunk E))
      (position : Nat)
  | embedded (file : KnowledgeFile) (text : String) (objects : List (KnowledgeChunk E))
      (position : Nat) (reply : List E)
  | completing (file : KnowledgeFile) (text : String) (report : Report)
  | returning (file : KnowledgeFile) (report : Report)
  | failing (file : KnowledgeFile)
  | ended (result : TaskEnd)

/-- What happens at a step: the statement succeeds, with the answer of the
outside world where it asks for one, it raises, or the worker is killed. -/
inductive Outcome (E : Type u) where
  | done
  | read (content : FileRead)
  | apiKey (present : Bool)
  | reply (embeddings : List E)
  | raise (message : String)
  | kill

/-- The instance with a failure, before it is saved. -/
def KnowledgeFile.fail (file : KnowledgeFile) (message : String) : KnowledgeFile :=
  { file with status := .failed, processingError := some message }

/-- The instance of the file that a run holds. -/
def TaskState.file : TaskState E → Option KnowledgeFile
  | .started => none
  | .loaded file => some file
  | .marked file => some file
  | .refusing file _ => some file
  | .extracted file _ => some file
  | .cleared file _ => some file
  | .stored file _ _ => some file
  | .indexing file _ _ => some file
  | .indexed file _ _ => some file
  | .counted file _ _ => some file
  | .embedding file _ _ _ => some file
  | .embedded file _ _ _ _ => some file
  | .completing file _ _ => some file
  | .returning file _ => some file
  | .failing file => some file
  | .ended _ => none

/-- Where an exception takes the task.  The update of the search vectors has a
handler of its own; everywhere else the outer handler marks the file as failed,
if it is bound, and raises again.  Once the chunks are stored, and once the last `save` is
done, the next statement only logs, and `Logger` catches what goes wrong there. -/
def interrupt (message : String) : TaskState E → Option (TaskState E)
  | .started => some (.ended .raised)
  | .failing _ => some (.ended .raised)
  | .indexing file text objects => some (.indexed file text objects)
  | .stored _ _ _ => none
  | .returning _ _ => none
  | .ended _ => none
  | task => task.file.map fun file => .failing (file.fail message)

/-- A file without a text is refused. -/
def afterExtraction (file : KnowledgeFile) (text : String) : TaskState E :=
  if text = "" then .refusing (file.fail "No text extracted or empty file.") .noText
  else .extracted file text

/-- A reply with too few vectors ends the loop with an `IndexError`. -/
def afterReply (file : KnowledgeFile) (text : String) (objects : List (KnowledgeChunk E))
    (position : Nat) (reply : List E) : TaskState E :=
  if reply.length < (batchOf objects position).length then
    .failing (file.fail "list index out of range")
  else .embedded file text objects position reply

/-- `extract_text_from_file(knowledge_file.file.path)`, where the disk need not have the
file any more. -/
def extractUpload (db : KnowledgeDb E) (file : KnowledgeFile) (content : FileRead) : String :=
  if file.file ∈ db.disk then extractTextFromFile file.file content else ""

/-- `contents=batch_contents` in the call of the embedding API that the task is about to
make. -/
def submitted : TaskState E → List String
  | .embedding _ _ objects position => (batchOf objects position).map KnowledgeChunk.content
  | _ => []

/-- One statement of `process_knowledge_file` that succeeds. -/
def proceed (fileId : Nat) (db : KnowledgeDb E) :
    TaskState E → Outcome E → Option (KnowledgeDb E × TaskState E)
  | .started, .done =>
      match db.files.get? fileId with
      | none => some (db, .ended (.returned .fileNotFound))
      | some file =>
          some (db, .loaded { file with status := .processing, processingError := none })
  | .loaded file, .done => (saveFile db file).map fun db => (db, .marked file)
  | .marked file, .read content =>
      if file.file = "" then
        some (db, .refusing
          (file.fail "No file associated with this KnowledgeFile object.") .noFile)
      else some (db, afterExtraction file (extractUpload db file content))
  | .refusing file report, .done =>
      (saveFile db file).map fun db => (db, .returning file report)
  | .extracted file text, .done => some (deleteChunks db file.id, .cleared file text)
  | .cleared file text, .done =>
      (bulkCreateChunks db (chunkRows file text)).map fun stored =>
        (stored, .stored file text (db.chunks.createdMany (chunkRows file text)))
  | .stored file text objects, .done => some (db, .indexing file text objects)
  | .indexing file text objects, .done =>
      some (updateSearchVector db file.id, .indexed file text objects)
  | .indexed file text objects, .done =>
      let counted := { file with chunkCount := (chunkTexts text).length }
      (saveFile db counted).map fun db => (db, .counted counted text objects)
  | .counted file text objects, .apiKey present =>
      if present then some (db, .embedding file text objects 0)
      else
        some (db, .completing
          { file with
            status := .completed
            processingError := some "Completed without embeddings (No Gemini Key)" }
          text .withoutEmbeddings)
  | .embedding file text objects position, .reply reply =>
      if position < (chunkTexts text).length then
        some (db, afterReply file text objects position reply)
      else none
  | .embedding file text _ position, .done =>
      if position < (chunkTexts text).length then none
      else
        some (db, .completing { file with status := .completed } text
          (.processed (chunkTexts text).length))
  | .embedded file text objects position reply, .done =>
      some (bulkUpdateEmbedding db (assignBatch (batchOf objects position) reply),
        .embedding file text (assignEmbeddings objects position reply)
          (position + batchSize))
  | .completing file _ report, .done =>
      (saveFile db file).map fun db => (db, .returning file report)
  | .returning _ report, .done => some (db, .ended (.returned report))
  | .failing file, .done => (saveFile db file).map fun db => (db, .ended .raised)
  | _, _ => none

/-- One statement of a run, which succeeds, raises, or is the last one before the
worker dies. -/
def advance (fileId : Nat) (db : KnowledgeDb E) (task : TaskState E) :
    Outcome E → Option (KnowledgeDb E × TaskState E)
  | .raise message => (interrupt message task).map fun task => (db, task)
  | .kill =>
      match task with
      | .ended _ => none
      | _ => some (db, .ended .killed)
  | outcome => proceed fileId db task outcome

/-- What each statement that succeeds does, by the point at which the task
stands. -/
inductive Proceeds (fileId : Nat) (db : KnowledgeDb E) :
    TaskState E → Outcome E → KnowledgeDb E → TaskState E → Prop where
  | missing (h : db.files.get? fileId = none) :
      Proceeds fileId db .started .done db (.ended (.returned .fileNotFound))
  | load {file : KnowledgeFile} (h : db.files.get? fileId = some file) :
      Proceeds fileId db .started .done db
        (.loaded { file with status := .processing, processingError := none })
  | mark {file after} (h : saveFile db file = some after) :
      Proceeds fileId db (.loaded file) .done after (.marked file)
  | reject {file : KnowledgeFile} {content} (message : String) (report : Report) :
      Proceeds fileId db (.marked file) (.read content) db
        (.refusing (file.fail message) report)
  | extract {file content} :
      Proceeds fileId db (.marked file) (.read content) db
        (afterExtraction file (extractUpload db file content))
  | refuse {file report after} (h : saveFile db file = some after) :
      Proceeds fileId db (.refusing file report) .done after (.returning file report)
  | clear {file text} :
      Proceeds fileId db (.extracted file text) .done (deleteChunks db file.id)
        (.cleared file text)
  | store {file text after} (h : bulkCreateChunks db (chunkRows file text) = some after) :
      Proceeds fileId db (.cleared file text) .done after
        (.stored file text (db.chunks.createdMany (chunkRows file text)))
  | enter {file text objects} :
      Proceeds fileId db (.stored file text objects) .done db (.indexing file text objects)
  | index {file text objects} :
      Proceeds fileId db (.indexing file text objects) .done (updateSearchVector db file.id)
        (.indexed file text objects)
  | count {file counted : KnowledgeFile} {text objects after}
      (hcounted : counted = { file with chunkCount := (chunkTexts text).length })
      (h : saveFile db counted = some after) :
      Proceeds fileId db (.indexed file text objects) .done after
        (.counted counted text objects)
  | embed {file text objects} :
      Proceeds fileId db (.counted file text objects) (.apiKey true) db
        (.embedding file text objects 0)
  | skip {file : KnowledgeFile} {text objects} :
      Proceeds fileId db (.counted file text objects) (.apiKey false) db
        (.completing
          { file with
            status := .completed
            processingError := some "Completed without embeddings (No Gemini Key)" }
          text .withoutEmbeddings)
  | receive {file text objects position} (reply : List E)
      (h : position < (chunkTexts text).length) :
      Proceeds fileId db (.embedding file text objects position) (.reply reply) db
        (afterReply file text objects position reply)
  | finish {file : KnowledgeFile} {text objects position}
      (h : (chunkTexts text).length ≤ position) :
      Proceeds fileId db (.embedding file text objects position) .done db
        (.completing { file with status := .completed } text
          (.processed (chunkTexts text).length))
  | assign {file text objects position reply} :
      Proceeds fileId db (.embedded file text objects position reply) .done
        (bulkUpdateEmbedding db (assignBatch (batchOf objects position) reply))
        (.embedding file text (assignEmbeddings objects position reply)
          (position + batchSize))
  | complete {file text report after} (h : saveFile db file = some after) :
      Proceeds fileId db (.completing file text report) .done after
        (.returning file report)
  | finishReport {file report} :
      Proceeds fileId db (.returning file report) .done db (.ended (.returned report))
  | fail {file after} (h : saveFile db file = some after) :
      Proceeds fileId db (.failing file) .done after (.ended .raised)

theorem proceeds_of_proceed {fileId : Nat} {db after : KnowledgeDb E}
    {task next : TaskState E} {outcome : Outcome E}
    (h : proceed fileId db task outcome = some (after, next)) :
    Proceeds fileId db task outcome after next := by
  unfold proceed at h
  split at h
  · split at h <;> cases h
    · exact .missing (by assumption)
    · exact .load (by assumption)
  · obtain ⟨saved, hsave, heq⟩ := Option.map_eq_some_iff.mp h
    cases heq
    exact .mark hsave
  · split_ifs at h <;> cases h
    · exact .reject _ _
    · exact .extract
  · obtain ⟨saved, hsave, heq⟩ := Option.map_eq_some_iff.mp h
    cases heq
    exact .refuse hsave
  · cases h
    exact .clear
  · obtain ⟨stored, hstored, heq⟩ := Option.map_eq_some_iff.mp h
    cases heq
    exact .store hstored
  · cases h
    exact .enter
  · cases h
    exact .index
  · obtain ⟨saved, hsave, heq⟩ := Option.map_eq_some_iff.mp h
    cases heq
    exact .count rfl hsave
  · split_ifs at h with hpresent <;> cases h
    · exact hpresent ▸ .embed
    · exact Bool.eq_false_iff.mpr hpresent ▸ .skip
  · split_ifs at h with hposition
    cases h
    exact .receive _ hposition
  · split_ifs at h with hposition
    cases h
    exact .finish (Nat.le_of_not_lt hposition)
  · cases h
    exact .assign
  · obtain ⟨saved, hsave, heq⟩ := Option.map_eq_some_iff.mp h
    cases heq
    exact .complete hsave
  · cases h
    exact .finishReport
  · obtain ⟨saved, hsave, heq⟩ := Option.map_eq_some_iff.mp h
    cases heq
    exact .fail hsave
  · cases h

end Botman.KnowledgeTask
