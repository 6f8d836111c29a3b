import Botman.KnowledgeApi

/-!
The chatbot of a chunk and the chatbot of its file, over every run of knowledge
requests, deletions of chatbots and runs of `process_knowledge_file`, any
number of them at a time and each one statement at a time.

The key of the chatbot is stored twice.  A run of the task copies it from the
file to the chunks, and an update of the file replaces only the one in the file.
-/

namespace Botman.ChunkOwnership

open Botman.Library.KeyedTable
open Botman.Library.Transition
open Botman.Library.PythonValue
open Botman.DataModel
open Botman.KnowledgeTask
open Botman.KnowledgeDeletion
open Botman.KnowledgeApi

universe u

variable {E : Type u}

/-- The deletion of a chatbot in the knowledge tables, which cascades to its
files, to its chunks and to the chunks of its files. -/
def deleteKnowledge (db : KnowledgeDb E) (chatbot : Nat) : KnowledgeDb E where
  chatbots := db.chatbots.filter fun b => b ≠ chatbot
  files := db.files.delete fun f => f.chatbot = chatbot
  chunks := db.chunks.delete fun c =>
    c.chatbot = chatbot || db.files.rows.any fun f => f.id = c.knowledgeFile && f.chatbot = chatbot
  disk := db.disk.filter fun name =>
    !db.files.rows.any fun f => f.chatbot = chatbot && f.file = name
  fileOwner := by
    intro f hf
    obtain ⟨hmem, hne⟩ := (db.files.mem_delete _ f).mp hf
    exact List.mem_filter.mpr ⟨db.fileOwner f hmem, by simpa using hne⟩
  chunkOwner := by
    intro c hc
    obtain ⟨hmem, hne⟩ := (db.chunks.mem_delete _ c).mp hc
    refine List.mem_filter.mpr ⟨db.chunkOwner c hmem, ?_⟩
    simpa using (Bool.or_eq_false_iff.mp hne).1
  chunkFile := by
    intro c hc
    obtain ⟨hmem, hne⟩ := (db.chunks.mem_delete _ c).mp hc
    obtain ⟨f, hf, hid⟩ := db.chunkFile c hmem
    refine ⟨f, (db.files.mem_delete _ f).mpr ⟨hf, ?_⟩, hid⟩
    have hkept := (List.any_eq_false.mp (Bool.or_eq_false_iff.mp hne).2) f hf
    simpa [hid] using hkept

/-- The deletion of a chatbot in the other tables. -/
def deleteRows (db : Database) (chatbot : Nat) : Database :=
  { db with
    chatbots := db.chatbots.delete fun b => b.id = chatbot
    conversations := db.conversations.delete fun c => c.chatbot = chatbot
    messages := db.messages.delete fun m =>
      (db.conversations.get? m.conversation).any fun c => c.chatbot = chatbot
    tokenUsages := db.tokenUsages.delete fun t => t.chatbot = chatbot }

/-- The deletion of a chatbot, which keeps both halves of the store in step. -/
def deleteChatbot (store : KnowledgeStore E) (chatbot : Nat) : KnowledgeStore E where
  database := deleteRows store.database chatbot
  knowledge := deleteKnowledge store.knowledge chatbot
  sameChatbots := by
    simp only [deleteKnowledge, deleteRows, Table.rows_delete, store.sameChatbots,
      List.filter_map, Function.comp_def, decide_not, ne_eq]

/-- What a statement of the task, or an exception in it, does to the tables:
files and chunks are new only in the name of the instance in memory. -/
structure Follows (db after : KnowledgeDb E) (task next : TaskState E) : Prop where
  chatbots : after.chatbots = db.chatbots
  nextKey : db.files.next ≤ after.files.next
  files : ∀ g ∈ after.files.rows, g ∈ db.files.rows ∨
    ∃ f, task.file = some f ∧ g.id = f.id ∧ g.chatbot = f.chatbot
  chunks : ∀ c ∈ after.chunks.rows,
    (∃ r ∈ db.chunks.rows, c.chatbot = r.chatbot ∧ c.knowledgeFile = r.knowledgeFile) ∨
      ∃ f, task.file = some f ∧ c.chatbot = f.chatbot ∧ c.knowledgeFile = f.id
  file : ∀ g, next.file = some g →
    (∃ f, task.file = some f ∧ g.id = f.id ∧ g.chatbot = f.chatbot) ∨
      ∃ f ∈ db.files.rows, g.id = f.id ∧ g.chatbot = f.chatbot

section Statements

variable {fileId : Nat} {db after : KnowledgeDb E} {task next : TaskState E}

theorem follows_same
    (hfile : ∀ g, next.file = some g →
      (∃ f, task.file = some f ∧ g.id = f.id ∧ g.chatbot = f.chatbot) ∨
        ∃ f ∈ db.files.rows, g.id = f.id ∧ g.chatbot = f.chatbot) :
    Follows db db task next where
  chatbots := rfl
  nextKey := Nat.le_refl _
  files := fun _ hg => Or.inl hg
  chunks := fun c hc => Or.inl ⟨c, hc, rfl, rfl⟩
  file := hfile

theorem file_of_eq {f g : KnowledgeFile} (hf : task.file = some f)
    (hnext : next.file = some g) (hid : g.id = f.id) (hbot : g.chatbot = f.chatbot) :
    ∀ h, next.file = some h →
      (∃ f, task.file = some f ∧ h.id = f.id ∧ h.chatbot = f.chatbot) ∨
        ∃ f ∈ db.files.rows, h.id = f.id ∧ h.chatbot = f.chatbot := by
  intro h hh
  rw [hnext] at hh
  cases hh
  exact Or.inl ⟨f, hf, hid, hbot⟩

theorem follows_save {f g : KnowledgeFile} (hsave : saveFile db g = some after)
    (hf : task.file = some f) (hid : g.id = f.id) (hbot : g.chatbot = f.chatbot)
    (hnext : ∀ h, next.file = some h → h = g) : Follows db after task next := by
  obtain ⟨hfiles, hchunks, hbots, -, -⟩ := saveFile_eq_some hsave
  refine ⟨hbots, ?_, ?_, ?_, ?_⟩
  · rw [hfiles]
    exact db.files.next_le_save g
  · intro h hh
    rw [hfiles] at hh
    rcases (db.files.mem_save g h).mp hh with rfl | ⟨hold, -⟩
    · exact Or.inr ⟨f, hf, hid, hbot⟩
    · exact Or.inl hold
  · intro c hc
    rw [hchunks] at hc
    exact Or.inl ⟨c, hc, rfl, rfl⟩
  · intro h hh
    rw [hnext h hh]
    exact Or.inl ⟨f, hf, hid, hbot⟩

theorem follows_chunks (hbots : after.chatbots = db.chatbots) (hfiles : after.files = db.files)
    (hchunks : ∀ c ∈ after.chunks.rows, ∃ r ∈ db.chunks.rows,
      c.chatbot = r.chatbot ∧ c.knowledgeFile = r.knowledgeFile)
    (hfile : next.file = task.file) : Follows db after task next where
  chatbots := hbots
  nextKey := by rw [hfiles]
  files := fun _ hg => Or.inl (hfiles ▸ hg)
  chunks := fun c hc => Or.inl (hchunks c hc)
  file := fun g hg => Or.inl ⟨g, hfile ▸ hg, rfl, rfl⟩

theorem updateChunks_rows (db : KnowledgeDb E) (p : KnowledgeChunk E → Bool)
    (f : KnowledgeChunk E → KnowledgeChunk E) (hbot : ∀ c, (f c).chatbot = c.chatbot)
    (hfile : ∀ c, (f c).knowledgeFile = c.knowledgeFile) :
    ∀ c ∈ (updateChunks db p f hbot hfile).chunks.rows, ∃ r ∈ db.chunks.rows,
      c.chatbot = r.chatbot ∧ c.knowledgeFile = r.knowledgeFile := by
  intro c hc
  obtain ⟨r, hr, rfl⟩ := List.mem_map.mp hc
  refine ⟨r, hr, ?_⟩
  split
  · exact ⟨hbot r, hfile r⟩
  · exact ⟨rfl, rfl⟩

theorem follows_of_proceeds {outcome : Outcome E}
    (h : Proceeds fileId db task outcome after next) : Follows db after task next := by
  cases h with
  | missing => exact follows_same fun _ hg => by cases hg
  | @load f hfile =>
      refine follows_same fun g hg => ?_
      cases hg
      exact Or.inr ⟨f, ((db.files.get?_eq_some_iff).mp hfile).1, rfl, rfl⟩
  | mark hsave => exact follows_save hsave rfl rfl rfl fun _ hh => (Option.some.inj hh).symm
  | reject => exact follows_same (file_of_eq rfl rfl rfl rfl)
  | @extract f content =>
      obtain ⟨g, hg, hid, hbot⟩ :=
        file_afterExtraction (E := E) f (extractUpload db f content)
      exact follows_same (file_of_eq rfl hg hid hbot)
  | refuse hsave => exact follows_save hsave rfl rfl rfl fun _ hh => (Option.some.inj hh).symm
  | clear =>
      refine follows_chunks rfl rfl (fun c hc => ?_) rfl
      exact ⟨c, ((db.chunks.mem_delete _ c).mp hc).1, rfl, rfl⟩
  | @store f text after hstored =>
      obtain ⟨hfiles, hchunks, hbots, -⟩ := bulkCreateChunks_eq_some hstored
      refine ⟨hbots, by rw [hfiles], fun g hg => Or.inl (hfiles ▸ hg), ?_,
        file_of_eq rfl rfl rfl rfl⟩
      intro c hc
      rw [hchunks, Table.rows_createMany, List.mem_append] at hc
      rcases hc with hc | hc
      · exact Or.inl ⟨c, hc, rfl, rfl⟩
      · obtain ⟨r, hr, hbot, hfile⟩ := mem_createdMany hc
        obtain ⟨piece, -, rfl⟩ := List.mem_map.mp hr
        exact Or.inr ⟨f, rfl, hbot, hfile⟩
  | enter => exact follows_same (file_of_eq rfl rfl rfl rfl)
  | index => exact follows_chunks rfl rfl (updateChunks_rows db _ _ _ _) rfl
  | count hcounted hsave =>
      subst hcounted
      exact follows_save hsave rfl rfl rfl fun _ hh => (Option.some.inj hh).symm
  | embed => exact follows_same (file_of_eq rfl rfl rfl rfl)
  | skip => exact follows_same (file_of_eq rfl rfl rfl rfl)
  | @receive f text objects position reply _ =>
      obtain ⟨g, hg, hid, hbot⟩ := file_afterReply f text objects position reply
      exact follows_same (file_of_eq rfl hg hid hbot)
  | finish => exact follows_same (file_of_eq rfl rfl rfl rfl)
  | assign => exact follows_chunks rfl rfl (updateChunks_rows db _ _ _ _) rfl
  | complete hsave => exact follows_save hsave rfl rfl rfl fun _ hh => (Option.some.inj hh).symm
  | finishReport => exact follows_same fun _ hg => by cases hg
  | fail hsave => exact follows_save hsave rfl rfl rfl fun _ hh => by cases hh

theorem follows_of_interrupt {message : String} (h : interrupt message task = some next) :
    Follows db db task next := by
  cases task with
  | started => cases h; exact follows_same fun _ hg => by cases hg
  | failing => cases h; exact follows_same fun _ hg => by cases hg
  | stored | returning | ended => cases h
  | _ => cases h; exact follows_same (file_of_eq rfl rfl rfl rfl)

theorem follows_of_advance {outcome : Outcome E}
    (h : advance fileId db task outcome = some (after, next)) : Follows db after task next := by
  cases outcome with
  | raise message =>
      obtain ⟨t, ht, heq⟩ := Option.map_eq_some_iff.mp h
      cases heq
      exact follows_of_interrupt ht
  | kill =>
      have hended : after = db ∧ next = .ended .killed := by
        simp only [advance] at h
        split at h
        · cases h
        · cases h
          exact ⟨rfl, rfl⟩
      rw [hended.1, hended.2]
      exact follows_same fun _ hg => by cases hg
  | _ => exact follows_of_proceeds (proceeds_of_proceed h)

end Statements

/-- The tables, and the runs of the task: the file that each was started on and
where it stands. -/
structure World (E : Type u) where
  store : KnowledgeStore E
  runs : Nat → Nat × TaskState E

/-- A request, the start of a run, one statement of a run, or the deletion of a
chatbot. -/
inductive Event (E : Type u) where
  | request (request : KnowledgeRequest)
  | start (run fileId : Nat)
  | statement (run : Nat) (outcome : Outcome E)
  | deleteChatbot (chatbot : Nat)

/-- One statement of a run of the task on the store. -/
def runStatement (store : KnowledgeStore E) (run : Nat × TaskState E) (outcome : Outcome E) :
    Option (KnowledgeStore E × TaskState E) :=
  match h : advance run.1 store.knowledge run.2 outcome with
  | some (after, next) =>
      some
        ({ store with
            knowledge := after
            sameChatbots := (follows_of_advance h).chatbots.trans store.sameChatbots },
          next)
  | none => none

theorem runStatement_eq_some {store after : KnowledgeStore E} {run : Nat × TaskState E}
    {outcome : Outcome E} {next : TaskState E}
    (h : runStatement store run outcome = some (after, next)) :
    Follows store.knowledge after.knowledge run.2 next := by
  unfold runStatement at h
  split at h
  · rename_i k t hadvance
    cases h
    exact follows_of_advance hadvance
  · cases h

/-- One event.  A run is started where the one before it has ended. -/
def next (w : World E) : Event E → Option (World E)
  | .request request => some { w with store := (handle w.store request).1 }
  | .start run fileId =>
      match (w.runs run).2 with
      | .ended _ => some { w with runs := Function.update w.runs run (fileId, .started) }
      | _ => none
  | .statement run outcome =>
      (runStatement w.store (w.runs run) outcome).map fun out =>
        { store := out.1
          runs := Function.update w.runs run ((w.runs run).1, out.2) }
  | .deleteChatbot chatbot => some { w with store := deleteChatbot w.store chatbot }

/-- Every chunk belongs to the chatbot of its file. -/
def SameChatbot (db : KnowledgeDb E) : Prop :=
  ∀ c ∈ db.chunks.rows, ∀ f ∈ db.files.rows, f.id = c.knowledgeFile → c.chatbot = f.chatbot

/-- `KnowledgeChunk.objects.filter(chatbot=chatbot)`, from which every query of
`search_knowledge` selects. -/
def searchedChunks (db : KnowledgeDb E) (chatbot : Nat) : List (KnowledgeChunk E) :=
  db.chunks.rows.filter fun c => c.chatbot = chatbot

/-- The chunks of the files that are attached to the chatbot. -/
def attachedChunks (db : KnowledgeDb E) (chatbot : Nat) : List (KnowledgeChunk E) :=
  db.chunks.rows.filter fun c => (db.files.get? c.knowledgeFile).any fun f => f.chatbot = chatbot

theorem searchedChunks_eq_attachedChunks {db : KnowledgeDb E} (h : SameChatbot db)
    (chatbot : Nat) : searchedChunks db chatbot = attachedChunks db chatbot := by
  refine List.filter_congr fun c hc => ?_
  obtain ⟨f, hf, hid⟩ := db.chunkFile c hc
  have hget : db.files.get? c.knowledgeFile = some f := (db.files.get?_eq_some_iff).mpr ⟨hf, hid⟩
  rw [hget, Option.any_some, h c hc f hf hid]

/-- One chatbot for every key of a file, to which its row, its chunks and the
instances of it in memory agree.  Keys of instances have been given out. -/
structure Homes (home : Nat → Nat) (w : World E) : Prop where
  files : ∀ f ∈ w.store.knowledge.files.rows, f.chatbot = home f.id
  chunks : ∀ c ∈ w.store.knowledge.chunks.rows, c.chatbot = home c.knowledgeFile
  runs : ∀ i f, (w.runs i).2.file = some f →
    f.chatbot = home f.id ∧ f.id < w.store.knowledge.files.next

theorem Homes.sameChatbot {home : Nat → Nat} {w : World E} (h : Homes home w) :
    SameChatbot w.store.knowledge := by
  intro c hc f hf hid
  rw [h.chunks c hc, h.files f hf, hid]

/-- The request moves a file to another chatbot only while the file has no
chunks and no run holds an instance of it. -/
def MovesUnused (w : World E) : Event E → Prop
  | .request request =>
      ∀ isPartial pk file bot, request.route.changes = some (isPartial, pk) →
        getObject w.store request.jwtUser.id pk = some file →
        Names w.store.database request bot → FileAccepted isPartial request →
        bot.id ≠ file.chatbot →
          (∀ c ∈ w.store.knowledge.chunks.rows, c.knowledgeFile ≠ file.id) ∧
            ∀ i f, (w.runs i).2.file = some f → f.id ≠ file.id
  | _ => True

section Steps

variable {home : Nat → Nat} {w t : World E}

theorem lt_next_of_chunk {db : KnowledgeDb E} {c : KnowledgeChunk E} (hc : c ∈ db.chunks.rows) :
    c.knowledgeFile < db.files.next := by
  obtain ⟨f, hf, hid⟩ := db.chunkFile c hc
  rw [← hid]
  exact db.files.fresh f hf

theorem homes_of_replaced {after : KnowledgeStore E} (h : Homes home w) (new : KnowledgeFile)
    (hnext : w.store.knowledge.files.next ≤ after.knowledge.files.next)
    (hfiles : ∀ f ∈ after.knowledge.files.rows, f = new ∨
      (f ∈ w.store.knowledge.files.rows ∧ f.id ≠ new.id))
    (hchunks : ∀ c ∈ after.knowledge.chunks.rows,
      c ∈ w.store.knowledge.chunks.rows ∧ c.knowledgeFile ≠ new.id)
    (hruns : ∀ i f, (w.runs i).2.file = some f → f.id ≠ new.id) :
    Homes (Function.update home new.id new.chatbot) { w with store := after } where
  files := by
    intro f hf
    rcases hfiles f hf with rfl | ⟨hold, hne⟩
    · rw [Function.update_self]
    · rw [Function.update_of_ne hne]
      exact h.files f hold
  chunks := by
    intro c hc
    obtain ⟨hold, hne⟩ := hchunks c hc
    rw [Function.update_of_ne hne]
    exact h.chunks c hold
  runs := by
    intro i f hf
    rw [Function.update_of_ne (hruns i f hf)]
    exact ⟨(h.runs i f hf).1, Nat.lt_of_lt_of_le (h.runs i f hf).2 hnext⟩

theorem homes_of_kept {after : KnowledgeStore E} (h : Homes home w)
    (hnext : w.store.knowledge.files.next ≤ after.knowledge.files.next)
    (hfiles : ∀ f ∈ after.knowledge.files.rows, f.chatbot = home f.id)
    (hchunks : ∀ c ∈ after.knowledge.chunks.rows, c ∈ w.store.knowledge.chunks.rows) :
    Homes home { w with store := after } where
  files := hfiles
  chunks := fun c hc => h.chunks c (hchunks c hc)
  runs := fun i f hf => ⟨(h.runs i f hf).1, Nat.lt_of_lt_of_le (h.runs i f hf).2 hnext⟩

theorem homes_created {after : KnowledgeStore E} (h : Homes home w) (row : KnowledgeFile)
    (hfiles : after.knowledge.files = w.store.knowledge.files.create row)
    (hchunks : after.knowledge.chunks = w.store.knowledge.chunks) :
    ∃ home, Homes home { w with store := after } := by
  refine ⟨_, homes_of_replaced h (w.store.knowledge.files.created row) ?_ ?_ ?_ ?_⟩
  · rw [hfiles]
    exact Nat.le_succ _
  · intro f hf
    rw [hfiles, Table.mem_create] at hf
    rcases hf with hold | rfl
    · exact Or.inr ⟨hold, Nat.ne_of_lt (w.store.knowledge.files.fresh f hold)⟩
    · exact Or.inl rfl
  · intro c hc
    rw [hchunks] at hc
    exact ⟨hc, Nat.ne_of_lt (lt_next_of_chunk hc)⟩
  · intro i f hf
    exact Nat.ne_of_lt (h.runs i f hf).2

theorem homes_changed {after : KnowledgeStore E} (h : Homes home w) {row file : KnowledgeFile}
    (hfile : file ∈ w.store.knowledge.files.rows) (hid : row.id = file.id)
    (hfiles : after.knowledge.files = w.store.knowledge.files.save row)
    (hchunks : after.knowledge.chunks = w.store.knowledge.chunks)
    (hmoves : row.chatbot ≠ file.chatbot →
      (∀ c ∈ w.store.knowledge.chunks.rows, c.knowledgeFile ≠ file.id) ∧
        ∀ i f, (w.runs i).2.file = some f → f.id ≠ file.id) :
    ∃ home, Homes home { w with store := after } := by
  have hnext : w.store.knowledge.files.next ≤ after.knowledge.files.next := by
    rw [hfiles]
    exact w.store.knowledge.files.next_le_save row
  have hrows : ∀ f ∈ after.knowledge.files.rows, f = row ∨
      (f ∈ w.store.knowledge.files.rows ∧ f.id ≠ row.id) := by
    intro f hf
    rw [hfiles] at hf
    exact (Table.mem_save _ _ f).mp hf
  by_cases hsame : row.chatbot = file.chatbot
  · refine ⟨home, homes_of_kept h hnext ?_ fun c hc => hchunks ▸ hc⟩
    intro f hf
    rcases hrows f hf with rfl | ⟨hold, -⟩
    · rw [hsame, h.files file hfile, hid]
    · exact h.files f hold
  · obtain ⟨hunused, hfree⟩ := hmoves hsame
    rw [← hid] at hunused hfree
    refine ⟨_, homes_of_replaced h row hnext hrows (fun c hc => ?_) hfree⟩
    rw [hchunks] at hc
    exact ⟨hc, hunused c hc⟩

theorem homes_request (h : Homes home w) {request : KnowledgeRequest}
    (hguard : MovesUnused w (.request request)) :
    ∃ home, Homes home { w with store := (handle w.store request).1 } := by
  rcases handle_cases w.store request with hsame | ⟨write, hdecides, -, hwrite⟩
  · rw [hsame]
    exact ⟨home, h⟩
  · have hrows := (writeKnowledge_eq_some hwrite).2
    cases hdecides with
    | own => exact homes_created h _ hrows.1 hrows.2
    | create => exact homes_created h _ hrows.1 hrows.2
    | @change isPartial pk file data hroute hfile hdata =>
        have hid : (changedFile file data request.storedName).id = file.id := rfl
        refine homes_changed h (getObject_eq_some hfile).1 hid hrows.1 hrows.2 ?_
        intro hne
        cases hbot : data.chatbot with
        | none => simp [changedFile, hbot] at hne
        | some bot =>
            obtain ⟨hnames, haccepted⟩ := names_of_serializer hdata hbot
            refine hguard isPartial pk file bot hroute hfile hnames haccepted ?_
            simpa [changedFile, hbot] using hne
    | delete =>
        refine ⟨home, homes_of_kept h ?_ ?_ ?_⟩
        · rw [hrows.1]
          exact Nat.le_refl _
        · intro f hf
          rw [hrows.1] at hf
          exact h.files f ((Table.mem_delete _ _ f).mp hf).1
        · intro c hc
          rw [hrows.2] at hc
          exact ((Table.mem_delete _ _ c).mp hc).1

theorem homes_deleteChatbot (h : Homes home w) (chatbot : Nat) :
    Homes home { w with store := deleteChatbot w.store chatbot } :=
  homes_of_kept h (Nat.le_refl _) (fun f hf => h.files f ((Table.mem_delete _ _ f).mp hf).1)
    fun c hc => ((Table.mem_delete _ _ c).mp hc).1

theorem homes_statement (h : Homes home w) {i : Nat} {after : KnowledgeStore E}
    {task : TaskState E}
    (hfollows : Follows w.store.knowledge after.knowledge (w.runs i).2 task) :
    Homes home { store := after, runs := Function.update w.runs i ((w.runs i).1, task) } where
  files := by
    intro g hg
    rcases hfollows.files g hg with hold | ⟨f, hf, hid, hbot⟩
    · exact h.files g hold
    · rw [hbot, hid]
      exact (h.runs i f hf).1
  chunks := by
    intro c hc
    rcases hfollows.chunks c hc with ⟨r, hr, hbot, hfile⟩ | ⟨f, hf, hbot, hfile⟩
    · rw [hbot, hfile]
      exact h.chunks r hr
    · rw [hbot, hfile]
      exact (h.runs i f hf).1
  runs := by
    intro j g hg
    have hlt : ∀ f : KnowledgeFile, f.id < w.store.knowledge.files.next →
        f.id < after.knowledge.files.next := fun f hf => Nat.lt_of_lt_of_le hf hfollows.nextKey
    by_cases hj : j = i
    · subst hj
      simp only [Function.update_self] at hg
      rcases hfollows.file g hg with ⟨f, hf, hid, hbot⟩ | ⟨f, hf, hid, hbot⟩
      · rw [hbot, hid]
        exact ⟨(h.runs j f hf).1, hlt f (h.runs j f hf).2⟩
      · rw [hbot, hid]
        exact ⟨h.files f hf, hlt f (w.store.knowledge.files.fresh f hf)⟩
    · simp only [Function.update_of_ne hj] at hg
      exact ⟨(h.runs j g hg).1, hlt g (h.runs j g hg).2⟩

theorem homes_next {event : Event E} (h : ∃ home, Homes home w) (hguard : MovesUnused w event)
    (hnext : next w event = some t) : ∃ home, Homes home t := by
  obtain ⟨home, h⟩ := h
  cases event with
  | request request =>
      cases hnext
      exact homes_request h hguard
  | start run fileId =>
      simp only [next] at hnext
      split at hnext
      · cases hnext
        refine ⟨home, h.files, h.chunks, fun i f hf => ?_⟩
        by_cases hi : i = run
        · subst hi
          simp [Function.update_self, TaskState.file] at hf
        · simp only [Function.update_of_ne hi] at hf
          exact h.runs i f hf
      · cases hnext
  | statement run outcome =>
      obtain ⟨⟨after, task⟩, hrun, rfl⟩ := Option.map_eq_some_iff.mp hnext
      exact ⟨home, homes_statement h (runStatement_eq_some hrun)⟩
  | deleteChatbot chatbot =>
      cases hnext
      exact ⟨home, homes_deleteChatbot h chatbot⟩

end Steps

theorem exists_homes {w : World E} (hsame : SameChatbot w.store.knowledge)
    (hidle : ∀ i, (w.runs i).2.file = none) : ∃ home, Homes home w := by
  have hget : ∀ f ∈ w.store.knowledge.files.rows,
      w.store.knowledge.files.get? f.id = some f := fun f hf =>
    (w.store.knowledge.files.get?_eq_some_iff).mpr ⟨hf, rfl⟩
  refine ⟨fun id => ((w.store.knowledge.files.get? id).map KnowledgeFile.chatbot).getD 0,
    ?_, ?_, ?_⟩
  · intro f hf
    simp [hget f hf]
  · intro c hc
    obtain ⟨f, hf, hid⟩ := w.store.knowledge.chunkFile c hc
    rw [← hid]
    simp only [hget f hf, Option.map_some, Option.getD_some]
    exact hsame c hc f hf hid
  · intro i f hf
    rw [hidle i] at hf
    cases hf

/-- Where no file is moved while something of it is left, every chunk belongs
to the chatbot of its file, and a search for a chatbot sees the chunks of its
files and no others. -/
theorem reaches_sameChatbot {w t : World E} (hsame : SameChatbot w.store.knowledge)
    (hidle : ∀ i, (w.runs i).2.file = none) (hrun : Reaches next MovesUnused w t) :
    SameChatbot t.store.knowledge ∧
      ∀ chatbot, searchedChunks t.store.knowledge chatbot =
        attachedChunks t.store.knowledge chatbot := by
  obtain ⟨home, hhomes⟩ := invariant_of_reaches (fun w => ∃ home, Homes home w)
    (fun _ _ _ hinv hguard hnext => homes_next hinv hguard hnext) (exists_homes hsame hidle) hrun
  exact ⟨hhomes.sameChatbot, searchedChunks_eq_attachedChunks hhomes.sameChatbot⟩

/-- No file and no run yet. -/
def quietWorld : World Unit where
  store := twoChatbots
  runs := fun _ => (0, .ended .killed)

/-- A file is uploaded for chatbot 1 and processed. -/
def processing : List (Event Unit) :=
  [.request (fileFor .upload 1), .start 0 1, .statement 0 .done, .statement 0 .done,
    .statement 0 (.read (.text "Prices.")), .statement 0 .done, .statement 0 .done,
    .statement 0 .done, .statement 0 .done, .statement 0 .done, .statement 0 (.apiKey false),
    .statement 0 .done, .statement 0 .done]

/-- The event is no update of a file. -/
def movesNothing : Event Unit → Bool
  | .request request => request.route.changes.isNone
  | _ => true

theorem movesUnused_of_movesNothing (w : World Unit) (event : Event Unit)
    (h : movesNothing event = true) : MovesUnused w event := by
  cases event with
  | request request =>
      intro isPartial pk file bot hroute
      have hnone : request.route.changes = none := by simpa [movesNothing] using h
      rw [hnone] at hroute
      cases hroute
  | start => trivial
  | statement => trivial
  | deleteChatbot => trivial

instance (db : KnowledgeDb E) : Decidable (SameChatbot db) :=
  inferInstanceAs (Decidable (∀ c ∈ db.chunks.rows, ∀ f ∈ db.files.rows, _ → _))

/-- Before a run of the task has read the file, a PATCH moves it to chatbot 2. -/
def movedWorld : World Unit :=
  { quietWorld with
    store := (handle (handle twoChatbots (fileFor .upload 1)).1
      (fileFor (.partialUpdate "1") 2)).1 }

theorem reaches_movedWorld {w : World Unit} (hrun : Reaches next MovesUnused movedWorld w) :
    Reaches next MovesUnused quietWorld w := by
  have hunused : MovesUnused
      { quietWorld with store := (handle twoChatbots (fileFor .upload 1)).1 }
      (.request (fileFor (.partialUpdate "1") 2) : Event Unit) := by
    intro isPartial pk file bot _ _ _ _ _
    refine ⟨fun c hc => ?_, fun i f hf => ?_⟩
    · cases hc
    · cases hf
  exact Reaches.head (movesUnused_of_movesNothing _ (.request (fileFor .upload 1)) rfl) rfl
    (Reaches.head hunused rfl hrun)

theorem processed_sameChatbot :
    ∃ w, Reaches next MovesUnused quietWorld w ∧
      w.store.knowledge.files.rows.map KnowledgeFile.chatbot = [2] ∧
      w.store.knowledge.chunks.rows.length = 1 ∧ SameChatbot w.store.knowledge ∧
      searchedChunks w.store.knowledge 2 = attachedChunks w.store.knowledge 2 := by
  have hprocessed : ∃ w, Reaches next (fun _ event => movesNothing event = true) movedWorld w ∧
      (w.store.knowledge.files.rows.map KnowledgeFile.chatbot = [2] ∧
        w.store.knowledge.chunks.rows.length = 1) :=
    exists_reaches_of_replay processing.tail (by decide)
  obtain ⟨w, hrun, hmoved, hone⟩ := hprocessed
  have hreach := reaches_movedWorld (hrun.mono movesUnused_of_movesNothing)
  obtain ⟨hsame, hsearch⟩ := reaches_sameChatbot (by decide) (fun _ => rfl) hreach
  exact ⟨w, hreach, hmoved, hone, hsame, hsearch 2⟩

/-- Moved after it was processed, the file leaves its chunk with the old chatbot, for
which it still answers. -/
theorem patch_leaves_chunk_behind :
    ∃ w, Reaches next anyStep quietWorld w ∧
      (¬SameChatbot w.store.knowledge ∧
        (searchedChunks w.store.knowledge 1).length = 1 ∧
        (attachedChunks w.store.knowledge 1).length = 0) :=
  exists_reaches_of_replay (processing ++ [.request (fileFor (.partialUpdate "1") 2)])
    (by decide)

end Botman.ChunkOwnership
