import Botman.KnowledgeConcurrency

/-!
Workers that process different files at once.  A run relies on the status and the
chunks of its own file only, and a statement of a run changes no other file, so that
what holds of runs one after another holds of runs side by side.

Beside them requests change files.  A `PUT` or `PATCH` reads the row first and later writes
all its columns back, with the status and the number of chunks that it has read.
-/

namespace Botman.KnowledgeWorkers

open Botman.Library.KeyedTable
open Botman.Library.Transition
open Botman.KnowledgeTask
open Botman.KnowledgeIngestion hiding Event Ingested
open Botman.KnowledgeApi
open Botman.ChunkOwnership
open Botman.KnowledgeConcurrency

universe u

variable {E : Type u}

variable {world : Outside E} {db after : KnowledgeDb E} {task next : TaskState E} {fileId k : Nat}

/-- A `PUT` or `PATCH` between `get_object` and `save`: the instance with its new values,
and whether it brings a file. -/
structure Edit where
  row : KnowledgeFile
  stored : Bool

/-- The tables and the runs, and the updates that have read their file and not saved it
yet. -/
structure System (E : Type u) where
  world : World E
  edits : Nat → Option Edit

/-- An event, or one of the two halves of an update: the row is read, and saved
later. -/
inductive Action (E : Type u) where
  | event (event : Event E)
  | read (edit : Nat) (request : KnowledgeRequest)
  | save (edit : Nat)

/-- The event is an update as a whole. -/
def isUpdate : Event E → Bool
  | .request request => request.route.changes.isSome
  | _ => false

/-- The store after the `save` of an update; where the foreign key fails, it is answered 500
and nothing is written. -/
def saveEdit (store : KnowledgeStore E) (edit : Edit) : KnowledgeStore E :=
  (commit store (.change edit.row edit.stored)).getD store

/-- One step: an event, but for the updates, or one of the two halves of an update. -/
def act (s : System E) : Action E → Option (System E)
  | .event event =>
      if isUpdate event then none
      else (ChunkOwnership.next s.world event).map fun w => { s with world := w }
  | .read i request =>
      match s.edits i, view s.world.store request with
      | none, .ok (.change row stored) =>
          some { s with edits := Function.update s.edits i (some ⟨row, stored⟩) }
      | _, _ => none
  | .save i =>
      match s.edits i with
      | some edit =>
          some
            { world := { s.world with store := saveEdit s.world.store edit }
              edits := Function.update s.edits i none }
      | none => none

/-- What each action needs and does. -/
inductive Acts (s : System E) : Action E → System E → Prop where
  | event {event : Event E} {w : World E} (hupdate : isUpdate event = false)
      (hnext : ChunkOwnership.next s.world event = some w) :
      Acts s (.event event) { s with world := w }
  | read {i : Nat} {request : KnowledgeRequest} {row : KnowledgeFile} {stored : Bool}
      (hfree : s.edits i = none) (hview : view s.world.store request = .ok (.change row stored)) :
      Acts s (.read i request) { s with edits := Function.update s.edits i (some ⟨row, stored⟩) }
  | save {i : Nat} {edit : Edit} (hedit : s.edits i = some edit) :
      Acts s (.save i)
        { world := { s.world with store := saveEdit s.world.store edit }
          edits := Function.update s.edits i none }

theorem acts_of_act {s t : System E} {action : Action E} (h : act s action = some t) :
    Acts s action t := by
  cases action with
  | event event =>
      simp only [act] at h
      split at h
      · cases h
      · rename_i hupdate
        obtain ⟨w, hnext, rfl⟩ := Option.map_eq_some_iff.mp h
        exact .event (Bool.eq_false_iff.mpr hupdate) hnext
  | read i request =>
      simp only [act] at h
      split at h
      · rename_i hfree hview
        cases h
        exact .read hfree hview
      · cases h
  | save i =>
      simp only [act] at h
      split at h
      · rename_i hedit
        cases h
        exact .save hedit
      · cases h

/-- An update that nothing comes between is the request as a whole. -/
theorem save_of_read {s t : System E} {i : Nat} {request : KnowledgeRequest}
    (h : act s (.read i request) = some t) :
    act t (.save i) =
      some { s with world := { s.world with store := (handle s.world.store request).1 } } := by
  cases acts_of_act h with
  | @read _ _ row stored hfree hview =>
      have hstore : saveEdit s.world.store ⟨row, stored⟩ =
          (handle s.world.store request).1 := by
        simp only [saveEdit, handle, hview]
        cases commit s.world.store (.change row stored) <;> rfl
      have hedits : Function.update (Function.update s.edits i (some ⟨row, stored⟩)) i none =
          s.edits := by
        rw [Function.update_idem, ← hfree, Function.update_eq_self]
      simp only [act, Function.update_self, hstore, hedits]

/-- The run has not ended. -/
def Live (task : TaskState E) : Prop :=
  ∀ result, task ≠ .ended result

/-- No run on a file is under way. -/
def Unused (w : World E) (k : Nat) : Prop :=
  ∀ i, Live (w.runs i).2 → (w.runs i).1 ≠ k

/-- No run on a file and no update of it is under way. -/
def Free (s : System E) (k : Nat) : Prop :=
  Unused s.world k ∧ ∀ i edit, s.edits i = some edit → edit.row.id ≠ k

/-- A run is started, and a file deleted, only while no run on the file and no update of it
is under way, an update begins only while no run on its file is, and a chatbot takes no
chunks of files that were moved to another one. -/
def Undisturbed (s : System E) : Action E → Prop
  | .event (.start _ fileId) => Free s fileId
  | .event (.request request) =>
      ∀ f ∈ s.world.store.knowledge.files.rows,
        (handle s.world.store request).1.knowledge.files.get? f.id = none → Free s f.id
  | .event (.deleteChatbot chatbot) =>
      (∀ f ∈ s.world.store.knowledge.files.rows, f.chatbot = chatbot → Free s f.id) ∧
        ∀ c ∈ s.world.store.knowledge.chunks.rows, c.chatbot = chatbot →
          ∀ f ∈ s.world.store.knowledge.files.rows, f.id = c.knowledgeFile → f.chatbot = chatbot
  | .event (.statement _ _) => True
  | .read _ request =>
      ∀ row stored, view s.world.store request = .ok (.change row stored) →
        Unused s.world row.id
  | .save _ => True

/-- The outside world answers the statement of a run as it may. -/
def Genuine (world : Outside E) (s : System E) : Action E → Prop
  | .event event => Faithful world s.world event
  | _ => True

instance (world : Outside E) [∀ k text, Decidable (world.reads k text)]
    [∀ text e, Decidable (world.embeds text e)] (s : System E) :
    (action : Action E) → Decidable (Genuine world s action)
  | .event event => inferInstanceAs (Decidable (Faithful world s.world event))
  | .read _ _ => instDecidableTrue
  | .save _ => instDecidableTrue

theorem phaseInv_congr {record : Record E} (hopen : Open db k → Open after k)
    (hchunks : chunksOf after k = chunksOf db k) (h : PhaseInv k db record task) :
    PhaseInv k after record task := by
  -- a run relies on the status of its file and on the chunks of its file
  have hmirrors : ∀ {text objects}, Mirrors db k text objects → Mirrors after k text objects :=
    fun h => ⟨hchunks ▸ h.rows, h.pieces⟩
  cases task with
  | started | loaded | refusing | returning | failing | ended => exact h
  | marked => exact ⟨h.1, hopen h.2⟩
  | extracted => exact ⟨h.1, hopen h.2.1, h.2.2⟩
  | cleared => exact ⟨h.1, hopen h.2.1, h.2.2.1, hchunks.trans h.2.2.2⟩
  | stored | indexing | indexed => exact ⟨h.1, hopen h.2.1, h.2.2.1, hmirrors h.2.2.2⟩
  | counted => exact ⟨h.1, h.2.1, hopen h.2.2.1, h.2.2.2.1, hmirrors h.2.2.2.2⟩
  | embedding | embedded =>
      exact ⟨h.1, h.2.1, hopen h.2.2.1, h.2.2.2.1, hmirrors h.2.2.2.2.1, h.2.2.2.2.2⟩
  | completing file =>
      obtain ⟨hid, hopened, htext, hpieces, hcount, hpaired⟩ := h
      have hof : chunksOf after file.id = chunksOf db file.id := by
        rw [hid]
        exact hchunks
      exact ⟨hid, hopen hopened, htext, hof ▸ hpieces, hcount, hof ▸ hpaired⟩

theorem get?_of_save_ne {f : KnowledgeFile} (hfiles : after.files = db.files.save f)
    (hne : k ≠ f.id) : after.files.get? k = db.files.get? k := by
  rw [hfiles]
  ext g
  rw [Table.get?_eq_some_iff, Table.get?_eq_some_iff, Table.mem_save]
  constructor
  · rintro ⟨rfl | ⟨hg, -⟩, hk⟩
    · exact absurd hk.symm hne
    · exact ⟨hg, hk⟩
  · rintro ⟨hg, rfl⟩
    exact ⟨Or.inr ⟨hg, hne⟩, rfl⟩

theorem chunksOf_bulkUpdateEmbedding_of_ne {text : String} {objects batch : List (KnowledgeChunk E)}
    (hmirrors : Mirrors db fileId text objects) (hbatch : ∀ o ∈ batch, ∃ r ∈ objects, r.id = o.id)
    (hne : k ≠ fileId) : chunksOf (bulkUpdateEmbedding db batch) k = chunksOf db k := by
  rw [bulkUpdateEmbedding, chunksOf_updateChunks]
  refine (List.map_congr_left fun c hc => ?_).trans (List.map_id _)
  obtain ⟨hmem, hfile⟩ := List.mem_filter.mp hc
  rw [if_neg, id_eq]
  intro hany
  obtain ⟨o, ho, hid⟩ := List.any_eq_true.mp hany
  obtain ⟨r, hr, hrid⟩ := hbatch o ho
  rw [← hmirrors.rows] at hr
  obtain ⟨row, hrow, rfl⟩ := List.mem_map.mp hr
  obtain ⟨hrowmem, hrowfile⟩ := List.mem_filter.mp hrow
  have hsame : row = c :=
    db.chunks.eq_of_key_eq hrowmem hmem (hrid.trans (of_decide_eq_true hid))
  rw [decide_eq_true_eq] at hfile hrowfile
  rw [hsame, hfile] at hrowfile
  exact hne hrowfile

theorem proceed_frame {record : Record E} {outcome : Outcome E}
    (h : PhaseInv fileId db record task)
    (hproceed : proceed fileId db task outcome = some (after, next)) (hne : k ≠ fileId) :
    after.files.get? k = db.files.get? k ∧ chunksOf after k = chunksOf db k := by
  have hsaved : ∀ {f}, saveFile db f = some after → f.id = fileId →
      after.files.get? k = db.files.get? k ∧ chunksOf after k = chunksOf db k := by
    intro f hsave hid
    exact ⟨get?_of_save_ne (saveFile_eq_some hsave).1 (hid ▸ hne), chunksOf_congr (saveFile_eq_some hsave).2.1 k⟩
  cases proceeds_of_proceed hproceed with
  | missing | load | reject | extract | enter | embed | skip | receive | finish
  | finishReport => exact ⟨rfl, rfl⟩
  | mark hsave => exact hsaved hsave h.id
  | refuse hsave | complete hsave | fail hsave => exact hsaved hsave h.1
  | count hcounted hsave =>
      subst hcounted
      exact hsaved hsave h.1.id
  | @clear file =>
      refine ⟨rfl, ?_⟩
      rw [chunksOf_delete rfl, if_neg (h.1.id ▸ hne)]
  | @store file text _ hstored =>
      refine ⟨by rw [(bulkCreateChunks_eq_some hstored).1], ?_⟩
      rw [chunksOf_createMany hstored, if_neg (h.1.id ▸ hne), List.append_nil]
  | @index file =>
      refine ⟨rfl, ?_⟩
      rw [updateSearchVector, chunksOf_updateChunks]
      refine (List.map_congr_left fun c hc => ?_).trans (List.map_id _)
      have hfile := (List.mem_filter.mp hc).2
      rw [decide_eq_true_eq] at hfile
      rw [if_neg, id_eq]
      simpa [hfile, h.1.id] using hne
  | assign =>
      refine ⟨rfl, chunksOf_bulkUpdateEmbedding_of_ne h.2.2.2.2.1 (fun o ho => ?_) hne⟩
      obtain ⟨r, hr, -, hid, -⟩ := mem_assignBatch ho
      exact ⟨r, hr, hid⟩

theorem advance_frame {record : Record E} {outcome : Outcome E}
    (h : PhaseInv fileId db record task)
    (hadvance : advance fileId db task outcome = some (after, next)) (hne : k ≠ fileId) :
    after.files.get? k = db.files.get? k ∧ chunksOf after k = chunksOf db k := by
  cases outcome with
  | raise message =>
      obtain ⟨state, -, heq⟩ := Option.map_eq_some_iff.mp hadvance
      cases heq
      exact ⟨rfl, rfl⟩
  | kill =>
      simp only [advance] at hadvance
      split at hadvance
      · cases hadvance
      · cases hadvance
        exact ⟨rfl, rfl⟩
  | done | read | apiKey | reply => exact proceed_frame h hadvance hne

/-- The columns that only the task writes. -/
def progress (f : KnowledgeFile) : FileStatus × Nat × Option String :=
  (f.status, f.chunkCount, f.processingError)

/-- A file keeps what the task has written into its row, a completed file was completed
before, and it has the chunks it had. -/
structure Spares (db after : KnowledgeDb E) (k : Nat) : Prop where
  kept : ∀ f, db.files.get? k = some f →
    ∃ g, after.files.get? k = some g ∧ progress g = progress f
  file : ∀ g, after.files.get? k = some g → g.status = .completed →
    ∃ f, db.files.get? k = some f ∧ progress g = progress f
  chunks : chunksOf after k = chunksOf db k

theorem spares_of_eq (hfile : after.files.get? k = db.files.get? k)
    (hchunks : chunksOf after k = chunksOf db k) : Spares db after k :=
  ⟨fun f hf => ⟨f, hfile.trans hf, rfl⟩, fun g hg _ => ⟨g, hfile ▸ hg, rfl⟩, hchunks⟩

theorem status_eq_of_progress_eq {f g : KnowledgeFile} (h : progress g = progress f) :
    g.status = f.status :=
  congrArg Prod.fst h

theorem Spares.open (h : Spares db after k) (hopen : Open db k) : Open after k := by
  intro g hg hcompleted
  obtain ⟨f, hf, hsame⟩ := h.file g hg hcompleted
  exact hopen f hf ((status_eq_of_progress_eq hsame).symm.trans hcompleted)

/-- The file is stored as completed only with the chunks of a text that was read from
it. -/
def Settled (world : Outside E) (db : KnowledgeDb E) (k : Nat) : Prop :=
  ∀ f, db.files.get? k = some f → f.status = .completed →
    ∃ text calls, world.reads k text ∧ Consistent db f text calls

theorem Spares.settled (h : Spares db after k) (hsettled : Settled world db k) :
    Settled world after k := by
  intro g hg hcompleted
  obtain ⟨f, hf, hsame⟩ := h.file g hg hcompleted
  obtain ⟨hstatus, hrest⟩ := Prod.mk.inj hsame
  obtain ⟨hcount, herror⟩ := Prod.mk.inj hrest
  obtain ⟨text, calls, hreads, hconsistent⟩ := hsettled f hf (hstatus.symm.trans hcompleted)
  have hgid : g.id = k := ((after.files.get?_eq_some_iff).mp hg).2
  have hfid : f.id = k := ((db.files.get?_eq_some_iff).mp hf).2
  have hof : chunksOf after g.id = chunksOf db f.id := by
    rw [hgid, hfid]
    exact h.chunks
  refine ⟨text, calls, hreads, ?_, hcount.trans hconsistent.count, ?_⟩
  · rw [hof]
    exact hconsistent.pieces
  · rw [hof, herror]
    exact hconsistent.embeddings

theorem get?_delete_of_ne {p : KnowledgeFile → Bool} {files : Table KnowledgeFile}
    (hp : ∀ f ∈ files.rows, f.id = k → p f = false) :
    (files.delete p).get? k = files.get? k := by
  ext f
  rw [Table.get?_eq_some_iff, Table.get?_eq_some_iff, Table.mem_delete]
  constructor
  · rintro ⟨⟨hf, -⟩, hid⟩
    exact ⟨hf, hid⟩
  · rintro ⟨hf, hid⟩
    exact ⟨⟨hf, hp f hf hid⟩, hid⟩

theorem spares_of_create {row : KnowledgeFile} (hstatus : row.status ≠ .completed)
    (hfiles : after.files = db.files.create row) (hchunks : after.chunks = db.chunks) (k : Nat) :
    Spares db after k := by
  refine ⟨fun f hf => ?_, fun g hg hcompleted => ?_, chunksOf_congr hchunks k⟩
  · obtain ⟨hmem, hid⟩ := (db.files.get?_eq_some_iff).mp hf
    refine ⟨f, ?_, rfl⟩
    rw [hfiles, Table.get?_eq_some_iff, Table.mem_create]
    exact ⟨Or.inl hmem, hid⟩
  · rw [hfiles, Table.get?_eq_some_iff, Table.mem_create] at hg
    obtain ⟨hold | rfl, hid⟩ := hg
    · exact ⟨g, (Table.get?_eq_some_iff _).mpr ⟨hold, hid⟩, rfl⟩
    · exact absurd hcompleted hstatus

theorem handle_file (store : KnowledgeStore E) {request : KnowledgeRequest}
    (hroute : request.route.changes = none) (k : Nat) :
    Spares store.knowledge (handle store request).1.knowledge k ∨
      ((handle store request).1.knowledge.files.get? k = none ∧
        ∃ f ∈ store.knowledge.files.rows, f.id = k) := by
  rcases handle_cases store request with hsame | ⟨write, hdecides, -, hwrite⟩
  · rw [hsame]
    exact Or.inl (spares_of_eq rfl rfl)
  · have hrows := (writeKnowledge_eq_some hwrite).2
    cases hdecides with
    | own | create => exact Or.inl (spares_of_create (by simp [newFile]) hrows.1 hrows.2 k)
    | change hchanges =>
        rw [hroute] at hchanges
        cases hchanges
    | @delete pk file hfile =>
        by_cases hk : k = file.id
        · right
          refine ⟨?_, file, (getObject_eq_some hfile).1, hk.symm⟩
          rw [hrows.1, Table.get?_eq_none_iff]
          intro f hf
          rw [hk]
          exact of_decide_eq_false ((Table.mem_delete _ _ f).mp hf).2
        · left
          refine spares_of_eq ?_ ?_
          · rw [hrows.1]
            refine get?_delete_of_ne fun f _ hid => decide_eq_false ?_
            rw [hid]
            exact hk
          · rw [chunksOf_delete hrows.2, if_neg hk]

/-- An update has read a row that the table still has, up to the columns that it may
change. -/
def Current (db : KnowledgeDb E) (edit : Edit) : Prop :=
  ∃ f, db.files.get? edit.row.id = some f ∧ progress edit.row = progress f

theorem current_of_view {store : KnowledgeStore E} {request : KnowledgeRequest}
    {row : KnowledgeFile} {stored : Bool}
    (hview : view store request = .ok (.change row stored)) :
    Current store.knowledge ⟨row, stored⟩ := by
  cases decides_of_view hview with
  | @change isPartial pk file data _ hfile =>
      exact ⟨file, (Table.get?_eq_some_iff _).mpr ⟨(getObject_eq_some hfile).1, rfl⟩, rfl⟩

theorem write_of_commit {store after : KnowledgeStore E} {write : FileWrite}
    (h : commit store write = some after) :
    writeKnowledge store.knowledge write = some after.knowledge := by
  unfold commit at h
  split at h
  · rename_i hwrite
    cases h
    exact hwrite
  · cases h

theorem chunks_saveEdit (store : KnowledgeStore E) (edit : Edit) :
    (saveEdit store edit).knowledge.chunks = store.knowledge.chunks := by
  unfold saveEdit
  cases hcommit : commit store (.change edit.row edit.stored) with
  | none => rfl
  | some after => exact (writeKnowledge_eq_some (write_of_commit hcommit)).2.2

theorem spares_saveEdit {store : KnowledgeStore E} {edit : Edit}
    (h : Current store.knowledge edit) (k : Nat) :
    Spares store.knowledge (saveEdit store edit).knowledge k := by
  unfold saveEdit
  cases hcommit : commit store (.change edit.row edit.stored) with
  | none => exact spares_of_eq rfl rfl
  | some after =>
      obtain ⟨hfiles, hchunks⟩ := (writeKnowledge_eq_some (write_of_commit hcommit)).2
      obtain ⟨f, hf, hsame⟩ := h
      rw [Option.getD_some]
      by_cases hk : k = edit.row.id
      · subst hk
        have hget : after.knowledge.files.get? edit.row.id = some edit.row := by
          rw [hfiles]
          exact store.knowledge.files.get?_save_self edit.row
        refine ⟨fun g hg => ⟨edit.row, hget, ?_⟩, fun g hg _ => ⟨f, hf, ?_⟩,
          chunksOf_congr hchunks _⟩
        · rw [hsame, Option.some.inj (hf.symm.trans hg)]
        · rw [← Option.some.inj (hget.symm.trans hg), hsame]
      · exact spares_of_eq (get?_of_save_ne hfiles hk) (chunksOf_congr hchunks k)

theorem deleteKnowledge_file {chatbot : Nat}
    (hmoved : ∀ c ∈ db.chunks.rows, c.chatbot = chatbot →
      ∀ f ∈ db.files.rows, f.id = c.knowledgeFile → f.chatbot = chatbot) (k : Nat) :
    Spares db (deleteKnowledge db chatbot) k ∨ ∃ f ∈ db.files.rows, f.chatbot = chatbot ∧ f.id = k ∧
      (deleteKnowledge db chatbot).files.get? k = none := by
  by_cases hown : ∃ f ∈ db.files.rows, f.chatbot = chatbot ∧ f.id = k
  · right
    obtain ⟨f, hf, hbot, hid⟩ := hown
    refine ⟨f, hf, hbot, hid, (Table.get?_eq_none_iff _).mpr fun g hg hgid => ?_⟩
    obtain ⟨hmem, hne⟩ := (Table.mem_delete _ _ g).mp hg
    have hsame : g = f := db.files.eq_of_key_eq hmem hf (hgid.trans hid.symm)
    rw [hsame] at hne
    exact of_decide_eq_false hne hbot
  · left
    refine spares_of_eq (get?_delete_of_ne fun f hf hid => ?_) ?_
    · exact decide_eq_false fun hbot => hown ⟨f, hf, hbot, hid⟩
    · unfold chunksOf deleteKnowledge
      rw [Table.rows_delete, List.filter_filter]
      apply List.filter_congr
      intro c hc
      by_cases hfile : c.knowledgeFile = k
      · subst hfile
        obtain ⟨f, hf, hid⟩ := db.chunkFile c hc
        have hbot : c.chatbot ≠ chatbot := fun hbot =>
          hown ⟨f, hf, hmoved c hc hbot f hf hid, hid⟩
        have hnone : (db.files.rows.any fun f => f.id = c.knowledgeFile && f.chatbot = chatbot) =
            false := by
          apply List.any_eq_false.mpr
          intro g hg htest
          obtain ⟨hgid, hgbot⟩ := Bool.and_eq_true_iff.mp htest
          exact hown ⟨g, hg, of_decide_eq_true hgbot, of_decide_eq_true hgid⟩
        simp only [decide_true, Bool.true_and, hnone, Bool.or_false, decide_eq_false hbot,
          Bool.not_false]
      · simp [hfile]

/-- What holds in every state: no two runs work on one file, and no update is under
way on a file that a run works on. -/
structure Orderly (world : Outside E) (s : System E) : Prop where
  holds : ∀ i, Holds world (s.world.runs i)
  phase : ∀ i, ∃ record,
    PhaseInv (s.world.runs i).1 s.world.store.knowledge record (s.world.runs i).2
  apart : ∀ i j, i ≠ j → Live (s.world.runs i).2 → Live (s.world.runs j).2 →
    (s.world.runs i).1 ≠ (s.world.runs j).1
  edits : ∀ i edit, s.edits i = some edit →
    Unused s.world edit.row.id ∧ Current s.world.store.knowledge edit
  settled : ∀ k, Settled world s.world.store.knowledge k

theorem phaseInv_of_not_live {record : Record E} (h : ¬ Live task) :
    PhaseInv k db record task := by
  simp only [Live, ne_eq, not_forall, not_not] at h
  obtain ⟨result, rfl⟩ := h
  trivial

theorem Spares.current {edit : Edit} (h : Spares db after edit.row.id) (hcurrent : Current db edit) :
    Current after edit := by
  obtain ⟨f, hf, hsame⟩ := hcurrent
  obtain ⟨g, hg, hkept⟩ := h.kept f hf
  exact ⟨g, hg, hsame.trans hkept.symm⟩

variable {s t : System E}

theorem orderly_of_spares (h : Orderly world s) {store : KnowledgeStore E}
    (hspares : ∀ k, Spares s.world.store.knowledge store.knowledge k ∨
      (store.knowledge.files.get? k = none ∧ Free s k)) :
    Orderly world { s with world := { s.world with store := store } } := by
  refine ⟨h.holds, fun i => ?_, h.apart, fun i edit hedit => ?_, fun k => ?_⟩
  · rcases hspares (s.world.runs i).1 with hspared | ⟨-, hfree⟩
    · obtain ⟨record, hphase⟩ := h.phase i
      exact ⟨record, phaseInv_congr hspared.open hspared.chunks hphase⟩
    · exact ⟨⟨none, []⟩, phaseInv_of_not_live fun hlive => hfree.1 i hlive rfl⟩
  · obtain ⟨hunused, hcurrent⟩ := h.edits i edit hedit
    rcases hspares edit.row.id with hspared | ⟨-, hfree⟩
    · exact ⟨hunused, hspared.current hcurrent⟩
    · exact absurd rfl (hfree.2 i edit hedit)
  · rcases hspares k with hspared | ⟨hnone, -⟩
    · exact hspared.settled (h.settled k)
    · intro f hf
      rw [hnone] at hf
      cases hf

theorem settled_advance {record : Record E} {outcome : Outcome E}
    (hholds : Holds world (fileId, task)) (hphase : PhaseInv fileId db record task)
    (hsettled : Settled world db fileId)
    (hadvance : advance fileId db task outcome = some (after, next)) :
    Settled world after fileId := by
  have hrow : ∀ f, task = .marked f → task.file = some f := by
    rintro f rfl
    rfl
  obtain ⟨-, heffect⟩ := advance_effect hphase hrow hadvance
  cases heffect with
  | unchanged hdb =>
      rw [hdb]
      exact hsettled
  | opened hopen => exact fun f hf hcompleted => absurd hcompleted (hopen f hf)
  | completed f text report htask _ hfile _ hconsistent =>
      intro g hg _
      rw [← Option.some.inj (hfile.symm.trans hg)]
      exact ⟨text, _, hholds.text text (by rw [htask]; rfl), hconsistent⟩

theorem live_of_advance {outcome : Outcome E}
    (h : advance fileId db task outcome = some (after, next)) : Live task := by
  intro result hended
  rw [hended] at h
  cases outcome <;> cases h

theorem live_of_live_update {runs : Nat → Nat × TaskState E} {run i : Nat}
    (hlive : Live (runs run).2)
    (hi : Live (Function.update runs run ((runs run).1, task) i).2) :
    Live (runs i).2 ∧ (Function.update runs run ((runs run).1, task) i).1 = (runs i).1 := by
  by_cases hirun : i = run
  · subst hirun
    exact ⟨hlive, by rw [Function.update_self]⟩
  · rw [Function.update_of_ne hirun] at hi ⊢
    exact ⟨hi, rfl⟩

theorem orderly_statement (h : Orderly world s) {run : Nat} {outcome : Outcome E}
    (hanswers : Answers world (s.world.runs run) outcome) {store : KnowledgeStore E}
    (hadvance : advance (s.world.runs run).1 s.world.store.knowledge (s.world.runs run).2 outcome =
      some (store.knowledge, task)) :
    Orderly world
      { s with
        world :=
          { store := store
            runs := Function.update s.world.runs run ((s.world.runs run).1, task) } } := by
  obtain ⟨record, hphase⟩ := h.phase run
  have hspares : ∀ k, k ≠ (s.world.runs run).1 →
      Spares s.world.store.knowledge store.knowledge k := by
    intro k hne
    obtain ⟨hfile, hchunks⟩ := advance_frame hphase hadvance hne
    exact spares_of_eq hfile hchunks
  have hlive := live_of_advance hadvance
  refine ⟨?_, ?_, ?_, fun i edit hedit => ?_, fun k => ?_⟩
  · exact (Function.forall_update_iff s.world.runs fun _ run => Holds world run).mpr
      ⟨holds_advance (h.holds run) hanswers hadvance, fun i _ => h.holds i⟩
  · refine (Function.forall_update_iff s.world.runs fun _ run =>
      ∃ record, PhaseInv run.1 store.knowledge record run.2).mpr ⟨?_, fun i hi => ?_⟩
    · have hrow : ∀ f, (s.world.runs run).2 = .marked f → (s.world.runs run).2.file = some f := by
        intro f hf
        rw [hf]
        rfl
      exact ⟨_, (advance_effect hphase hrow hadvance).1⟩
    · by_cases hilive : Live (s.world.runs i).2
      · have hspared := hspares _ (h.apart i run hi hilive hlive)
        obtain ⟨record, hphase⟩ := h.phase i
        exact ⟨record, phaseInv_congr hspared.open hspared.chunks hphase⟩
      · exact ⟨⟨none, []⟩, phaseInv_of_not_live hilive⟩
  · intro i j hne hi hj
    obtain ⟨hi', hifile⟩ := live_of_live_update hlive hi
    obtain ⟨hj', hjfile⟩ := live_of_live_update hlive hj
    dsimp only
    rw [hifile, hjfile]
    exact h.apart i j hne hi' hj'
  · obtain ⟨hunused, hcurrent⟩ := h.edits i edit hedit
    refine ⟨fun j hj => ?_, (hspares _ fun heq => hunused run hlive heq.symm).current hcurrent⟩
    obtain ⟨hj', hjfile⟩ := live_of_live_update hlive hj
    dsimp only
    rw [hjfile]
    exact hunused j hj'
  · by_cases hk : k = (s.world.runs run).1
    · rw [hk]
      exact settled_advance (h.holds run) hphase (h.settled _) hadvance
    · exact (hspares k hk).settled (h.settled k)

theorem orderly_start (h : Orderly world s) (run : Nat) (hfree : Free s fileId) :
    Orderly world
      { s with
        world :=
          { s.world with
            runs := Function.update s.world.runs run (fileId, .started) } } := by
  refine ⟨?_, ?_, ?_, ?_, h.settled⟩
  · exact (Function.forall_update_iff s.world.runs fun _ run => Holds world run).mpr
      ⟨⟨fun _ hf => (by cases hf), fun _ ht => by cases ht⟩, fun i _ => h.holds i⟩
  · exact (Function.forall_update_iff s.world.runs fun _ run =>
      ∃ record, PhaseInv run.1 s.world.store.knowledge record run.2).mpr
        ⟨⟨⟨none, []⟩, trivial⟩, fun i _ => h.phase i⟩
  · intro i j hne hi hj
    by_cases hirun : i = run
    · subst hirun
      simp only [Function.update_self, Function.update_of_ne (Ne.symm hne)] at hj ⊢
      exact (hfree.1 j hj).symm
    · by_cases hjrun : j = run
      · subst hjrun
        simp only [Function.update_self, Function.update_of_ne hirun] at hi ⊢
        exact hfree.1 i hi
      · simp only [Function.update_of_ne hirun, Function.update_of_ne hjrun] at hi hj ⊢
        exact h.apart i j hne hi hj
  · intro i edit hedit
    obtain ⟨hunused, hcurrent⟩ := h.edits i edit hedit
    refine ⟨fun j hj => ?_, hcurrent⟩
    by_cases hjrun : j = run
    · subst hjrun
      simp only [Function.update_self]
      exact (hfree.2 i edit hedit).symm
    · simp only [Function.update_of_ne hjrun] at hj ⊢
      exact hunused j hj

theorem orderly_event {event : Event E} (h : Orderly world s)
    (hfaithful : Faithful world s.world event) (hundisturbed : Undisturbed s (.event event))
    (hupdate : isUpdate event = false) {w : World E}
    (hnext : ChunkOwnership.next s.world event = some w) :
    Orderly world { s with world := w } := by
  cases event with
  | request request =>
      cases hnext
      have hroute : request.route.changes = none := by simpa [isUpdate] using hupdate
      refine orderly_of_spares h fun k => ?_
      rcases handle_file s.world.store hroute k with hspared | ⟨hnone, f, hf, rfl⟩
      · exact Or.inl hspared
      · exact Or.inr ⟨hnone, hundisturbed f hf hnone⟩
  | start run fileId =>
      simp only [ChunkOwnership.next] at hnext
      split at hnext
      · cases hnext
        exact orderly_start h run hundisturbed
      · cases hnext
  | statement run outcome =>
      obtain ⟨⟨store, task⟩, hrun, rfl⟩ := Option.map_eq_some_iff.mp hnext
      exact orderly_statement h hfaithful (advance_of_runStatement hrun)
  | deleteChatbot chatbot =>
      cases hnext
      refine orderly_of_spares h fun k => ?_
      rcases deleteKnowledge_file hundisturbed.2 k with hspared | ⟨f, hf, hbot, rfl, hnone⟩
      · exact Or.inl hspared
      · exact Or.inr ⟨hnone, hundisturbed.1 f hf hbot⟩

theorem Orderly.of_edits (h : Orderly world s) {edits : Nat → Option Edit}
    (hedits : ∀ i edit, edits i = some edit →
      Unused s.world edit.row.id ∧ Current s.world.store.knowledge edit) :
    Orderly world { s with edits := edits } :=
  ⟨h.holds, h.phase, h.apart, hedits, h.settled⟩

theorem orderly_read (h : Orderly world s) {i : Nat} {edit : Edit}
    (hedit : Unused s.world edit.row.id ∧ Current s.world.store.knowledge edit) :
    Orderly world { s with edits := Function.update s.edits i (some edit) } := by
  refine h.of_edits fun j other hother => ?_
  by_cases hj : j = i
  · subst hj
    rw [Function.update_self] at hother
    cases hother
    exact hedit
  · rw [Function.update_of_ne hj] at hother
    exact h.edits j other hother

theorem orderly_save (h : Orderly world s) {i : Nat} {edit : Edit}
    (hedit : s.edits i = some edit) :
    Orderly world
      { world := { s.world with store := saveEdit s.world.store edit }
        edits := Function.update s.edits i none } := by
  have hsaved := orderly_of_spares h fun k =>
    Or.inl (spares_saveEdit (h.edits i edit hedit).2 k)
  refine hsaved.of_edits fun j other hother => ?_
  by_cases hj : j = i
  · subst hj
    rw [Function.update_self] at hother
    cases hother
  · rw [Function.update_of_ne hj] at hother
    exact hsaved.edits j other hother

theorem orderly_act {action : Action E} (h : Orderly world s)
    (hgenuine : Genuine world s action) (hundisturbed : Undisturbed s action)
    (hact : act s action = some t) : Orderly world t := by
  cases acts_of_act hact with
  | event hupdate hnext => exact orderly_event h hgenuine hundisturbed hupdate hnext
  | read hfree hview =>
      exact orderly_read h ⟨hundisturbed _ _ hview, current_of_view hview⟩
  | save hedit => exact orderly_save h hedit

theorem matching_act {action : Action E} (h : Matching world s.world)
    (hgenuine : Genuine world s action) (hact : act s action = some t) :
    Matching world t.world := by
  cases acts_of_act hact with
  | event hupdate hnext => exact matching_next h hgenuine hnext
  | read => exact h
  | @save i edit hedit =>
      have hchunks := chunks_saveEdit s.world.store edit
      exact h.of_mem (congrArg Table.next hchunks) fun c hc => hchunks ▸ hc

/-- No run and no update is under way. -/
structure Idle (s : System E) : Prop where
  runs : ∀ i, ∃ result, (s.world.runs i).2 = .ended result
  edits : ∀ i, s.edits i = none

theorem orderly_idle (hidle : Idle s)
    (hopen : ∀ f ∈ s.world.store.knowledge.files.rows, f.status ≠ .completed) :
    Orderly world s := by
  refine ⟨fun i => holds_ended (hidle.runs i).choose_spec, fun i => ?_, fun i j _ hi => ?_,
    fun i edit hedit => ?_, fun k f hf hcompleted => ?_⟩
  · rw [(hidle.runs i).choose_spec]
    exact ⟨⟨none, []⟩, trivial⟩
  · exact absurd (hidle.runs i).choose_spec (hi _)
  · rw [hidle.edits i] at hedit
    cases hedit
  · exact absurd hcompleted (hopen f ((Table.get?_eq_some_iff _).mp hf).1)

/-- The file has exactly the chunks of one text that was read from it, their number is
recorded, and unless it carries a note every chunk has a vector that the API returned
for its content. -/
structure Ingested (world : Outside E) (db : KnowledgeDb E) (f : KnowledgeFile) (text : String) :
    Prop where
  read : world.reads f.id text
  pieces : (chunksOf db f.id).map (fun c => (c.content, c.chunkIndex)) =
    (splitText text 2800 400).zipIdx
  count : f.chunkCount = (splitText text 2800 400).length
  embedded : f.processingError = none → ∀ c ∈ chunksOf db f.id,
    ∃ e, c.embedding = some e ∧ world.embeds c.content e

theorem exists_ingested (hmatching : Matching world s.world) (horderly : Orderly world s)
    {f : KnowledgeFile} (hf : f ∈ s.world.store.knowledge.files.rows)
    (hcompleted : f.status = .completed) :
    ∃ text, Ingested world s.world.store.knowledge f text := by
  have hget : s.world.store.knowledge.files.get? f.id = some f :=
    (Table.get?_eq_some_iff _).mpr ⟨hf, rfl⟩
  obtain ⟨text, calls, hreads, hconsistent⟩ := horderly.settled f.id f hget hcompleted
  refine ⟨text, hreads, hconsistent.pieces, hconsistent.count, fun hnone r hr => ?_⟩
  obtain ⟨-, -, -, e, -, -, he⟩ := hconsistent.embeddings hnone r hr
  exact ⟨e, he, hmatching.vectors r (List.mem_of_mem_filter hr) e he⟩

def quietSystem : System Unit where
  world := quietWorld
  edits := fun _ => none

theorem idle_quietSystem : Idle quietSystem :=
  ⟨fun _ => ⟨_, rfl⟩, fun _ => rfl⟩

def isStatement : Action Unit → Bool
  | .event (.statement _ _) => true
  | _ => false

/-- Two workers in turn. -/
def inTurn : List (Action Unit) :=
  [.done, .done, .read (.text "Prices."), .done, .done, .done, .done, .done, .apiKey true,
    .reply [()], .done, .done, .done, .done].flatMap
      fun outcome => [.event (.statement 0 outcome), .event (.statement 1 outcome)]

end Botman.KnowledgeWorkers
