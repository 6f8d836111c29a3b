import Botman.KnowledgeIngestion

/-!
The deletion of a knowledge file while `process_knowledge_file` runs on it.

The request deletes the row and its chunks in one transaction and removes the
uploaded file before it commits.  The task holds an instance of the row in
memory, and every `save` of it inserts the row again when there is none.
-/

namespace Botman.KnowledgeDeletion

open Botman.Library.KeyedTable
open Botman.Library.Transition
open Botman.KnowledgeTask
open Botman.KnowledgeIngestion

universe u

variable {E : Type u}

/-- Where the request that deletes the file stands. -/
inductive DeleteRequest where
  | waiting
  | notFound
  | removed
  | committed
  deriving DecidableEq

/-- One run of the task beside one DELETE of the same file. -/
structure Race (E : Type u) where
  db : KnowledgeDb E
  task : TaskState E
  request : DeleteRequest

/-- A statement of the task, the deletion, or its commit. -/
inductive Move (E : Type u) where
  | task (outcome : Outcome E)
  | remove
  | commit

/-- The request reads the row and removes the file from the disk, then its
transaction commits. -/
def race (fileId : Nat) (s : Race E) : Move E → Option (Race E)
  | .task outcome =>
      (advance fileId s.db s.task outcome).map fun next =>
        { s with db := next.1, task := next.2 }
  | .remove =>
      match s.request with
      | .waiting =>
          match s.db.files.get? fileId with
          | none => some { s with request := .notFound }
          | some f =>
              if f.file = "" then some { s with request := .removed }
              else some { s with db := removeFromDisk s.db f.file, request := .removed }
      | _ => none
  | .commit =>
      match s.request with
      | .removed => some { s with db := deleteFile s.db fileId, request := .committed }
      | _ => none

/-- Neither the file nor a chunk of it is stored. -/
def Gone (db : KnowledgeDb E) (fileId : Nat) : Prop :=
  db.files.get? fileId = none ∧ chunksOf db fileId = []

instance (db : KnowledgeDb E) (fileId : Nat) [DecidableEq E] : Decidable (Gone db fileId) :=
  inferInstanceAs (Decidable (_ ∧ _))

theorem gone_deleteFile (db : KnowledgeDb E) (fileId : Nat) :
    Gone (deleteFile db fileId) fileId := by
  refine ⟨?_, ?_⟩
  · apply (Table.get?_eq_none_iff _).mpr
    intro f hf
    exact of_decide_eq_false ((db.files.mem_delete _ f).mp hf).2
  · simp [chunksOf, deleteFile, List.filter_filter]

/-- No `save` of an instance is ahead of the task: it has none yet, or only its `return` is
left. -/
def NoSaveAhead : TaskState E → Prop
  | .started => True
  | .returning _ _ => True
  | .ended _ => True
  | _ => False

theorem noSaveAhead_iff {task : TaskState E} :
    NoSaveAhead task ↔ task = .started ∨ (∃ file report, task = .returning file report) ∨
      ∃ result, task = .ended result := by
  cases task <;> simp [NoSaveAhead]

section Instances

variable {fileId : Nat} {db after : KnowledgeDb E} {task next : TaskState E}

/-- The instance in memory is one of the file, with a chatbot that exists. -/
def Bound (fileId : Nat) (db : KnowledgeDb E) (task : TaskState E) : Prop :=
  ∀ f, task.file = some f → f.id = fileId ∧ f.chatbot ∈ db.chatbots

theorem bound_of_file {f g : KnowledgeFile} (h : Bound fileId db task)
    (hf : task.file = some f) (hnext : next.file = some g) (hid : g.id = f.id)
    (hbot : g.chatbot = f.chatbot) (hbots : after.chatbots = db.chatbots) :
    Bound fileId after next := by
  intro other hother
  rw [← Option.some.inj (hnext.symm.trans hother), hid, hbot, hbots]
  exact h f hf

theorem bound_of_none (hnext : next.file = none) : Bound fileId after next := by
  intro f hf
  rw [hnext] at hf
  cases hf

theorem bound_interrupt (h : Bound fileId db task) {message : String}
    (hnext : interrupt message task = some next) : Bound fileId db next := by
  cases task with
  | started | failing => cases hnext; exact bound_of_none rfl
  | stored | returning | ended => cases hnext
  | indexing => cases hnext; exact bound_of_file h rfl rfl rfl rfl rfl
  | _ => cases hnext; exact bound_of_file h rfl rfl rfl rfl rfl

theorem file_afterExtraction (f : KnowledgeFile) (text : String) :
    ∃ g, (afterExtraction f text : TaskState E).file = some g ∧ g.id = f.id ∧
      g.chatbot = f.chatbot := by
  unfold afterExtraction
  split <;> exact ⟨_, rfl, rfl, rfl⟩

theorem file_afterReply (f : KnowledgeFile) (text : String)
    (objects : List (KnowledgeChunk E)) (position : Nat) (reply : List E) :
    ∃ g, (afterReply f text objects position reply).file = some g ∧ g.id = f.id ∧
      g.chatbot = f.chatbot := by
  unfold afterReply
  split <;> exact ⟨_, rfl, rfl, rfl⟩

theorem bound_proceed (h : Bound fileId db task) {outcome : Outcome E}
    (hproceed : proceed fileId db task outcome = some (after, next)) :
    Bound fileId after next := by
  cases proceeds_of_proceed hproceed with
  | missing | finishReport | fail => exact bound_of_none rfl
  | @load f hfile =>
      obtain ⟨hmem, hid⟩ := (db.files.get?_eq_some_iff).mp hfile
      rintro _ ⟨⟩
      exact ⟨hid, db.fileOwner f hmem⟩
  | @extract f content =>
      obtain ⟨g, hg, hid, hbot⟩ :=
        file_afterExtraction (E := E) f (extractUpload db f content)
      exact bound_of_file h rfl hg hid hbot rfl
  | @receive f text objects position reply =>
      obtain ⟨g, hg, hid, hbot⟩ := file_afterReply f text objects position reply
      exact bound_of_file h rfl hg hid hbot rfl
  | store hstored =>
      exact bound_of_file h rfl rfl rfl rfl (bulkCreateChunks_eq_some hstored).2.2.1
  | mark hsave | refuse hsave | complete hsave =>
      exact bound_of_file h rfl rfl rfl rfl (saveFile_eq_some hsave).2.2.1
  | count hcounted hsave =>
      subst hcounted
      exact bound_of_file h rfl rfl rfl rfl (saveFile_eq_some hsave).2.2.1
  | reject | clear | enter | index | embed | skip | finish | assign =>
      exact bound_of_file h rfl rfl rfl rfl rfl

theorem bound_advance (h : Bound fileId db task) {outcome : Outcome E}
    (hadvance : advance fileId db task outcome = some (after, next)) :
    Bound fileId after next := by
  cases outcome with
  | raise message =>
      obtain ⟨state, hstate, heq⟩ := Option.map_eq_some_iff.mp hadvance
      cases heq
      exact bound_interrupt h hstate
  | kill =>
      cases task with
      | ended => cases hadvance
      | _ => cases hadvance; exact bound_of_none rfl
  | done | read | apiKey | reply => exact bound_proceed h hadvance

end Instances

section Races

variable {fileId : Nat} {s t : Race E}

theorem bound_race (s t : Race E) (move : Move E) (h : Bound fileId s.db s.task)
    (hstep : race fileId s move = some t) : Bound fileId t.db t.task := by
  cases move with
  | task outcome =>
      obtain ⟨⟨after, next⟩, hadvance, rfl⟩ := Option.map_eq_some_iff.mp hstep
      exact bound_advance h hadvance
  | remove =>
      simp only [race] at hstep
      split at hstep
      · split at hstep
        · cases hstep
          exact h
        · split at hstep <;> cases hstep <;> exact h
      · cases hstep
  | commit =>
      simp only [race] at hstep
      split at hstep
      · cases hstep
        exact h
      · cases hstep

theorem race_commit (hcommit : race fileId s .commit = some t) :
    t = { s with db := deleteFile s.db fileId, request := .committed } := by
  simp only [race] at hcommit
  split at hcommit
  · exact (Option.some.inj hcommit).symm
  · cases hcommit

/-- The file is gone for good: the request is over, and the task saves no more. -/
structure Settled (fileId : Nat) (s : Race E) : Prop where
  gone : Gone s.db fileId
  committed : s.request = .committed
  task : NoSaveAhead s.task

theorem settled_step (s : Race E) (move : Move E) (t : Race E) (h : Settled fileId s)
    (hstep : race fileId s move = some t) : Settled fileId t := by
  -- a task without an instance finds no row, and nothing brings the row back
  cases move with
  | task outcome =>
      obtain ⟨⟨after, next⟩, hadvance, rfl⟩ := Option.map_eq_some_iff.mp hstep
      rcases noSaveAhead_iff.mp h.task with hstarted | ⟨file, report, hreturning⟩ | ⟨result, hended⟩
      · rw [hstarted] at hadvance
        cases outcome with
        | done =>
            simp only [advance, proceed, h.gone.1] at hadvance
            cases hadvance
            exact ⟨h.gone, h.committed, trivial⟩
        | raise | kill =>
            cases hadvance
            exact ⟨h.gone, h.committed, trivial⟩
        | _ => cases hadvance
      · rw [hreturning] at hadvance
        cases outcome with
        | done | kill =>
            cases hadvance
            exact ⟨h.gone, h.committed, trivial⟩
        | _ => cases hadvance
      · rw [hended] at hadvance
        cases outcome <;> cases hadvance
  | remove => simp [race, h.committed] at hstep
  | commit => simp [race, h.committed] at hstep

theorem reinserts_of_failing {f : KnowledgeFile} (htask : s.task = .failing f)
    (hbound : Bound fileId s.db s.task) :
    ∃ t, Reaches (race fileId) anyStep s t ∧ ¬ Gone t.db fileId := by
  obtain ⟨hid, hbot⟩ := hbound f (by rw [htask]; rfl)
  obtain ⟨after, hsave⟩ : ∃ after, saveFile s.db f = some after := by
    simp [saveFile, hbot]
  have hstep : race fileId s (.task .done) =
      some { s with db := after, task := .ended .raised } := by
    simp [race, htask, advance, proceed, hsave]
  refine ⟨_, Relation.ReflTransGen.single ⟨_, trivial, hstep⟩, ?_⟩
  rintro ⟨hnone, -⟩
  dsimp only at hnone
  rw [(saveFile_eq_some hsave).1, ← hid] at hnone
  have hself : (s.db.files.save f).get? f.id = some f := s.db.files.get?_save_self f
  rw [hself] at hnone
  cases hnone

theorem reinserts_of_interrupt {f : KnowledgeFile} (message : String)
    (hnext : interrupt message s.task = some (.failing f))
    (hbound : Bound fileId s.db s.task) :
    ∃ t, Reaches (race fileId) anyStep s t ∧ ¬ Gone t.db fileId := by
  have hstep : race fileId s (.task (.raise message)) =
      some { s with task := .failing f } := by
    simp [race, advance, hnext]
  obtain ⟨t, hrun, hnot⟩ :
      ∃ t, Reaches (race fileId) anyStep { s with task := .failing f } t ∧
        ¬ Gone t.db fileId :=
    reinserts_of_failing rfl (bound_interrupt hbound hnext)
  exact ⟨t, Relation.ReflTransGen.head ⟨_, trivial, hstep⟩ hrun, hnot⟩

theorem reinserts_of_indexing {f : KnowledgeFile} {text : String}
    {objects : List (KnowledgeChunk E)} (htask : s.task = .indexing f text objects)
    (hbound : Bound fileId s.db s.task) :
    ∃ t, Reaches (race fileId) anyStep s t ∧ ¬ Gone t.db fileId := by
  have hnext : interrupt "" s.task = some (.indexed f text objects) := by
    rw [htask]
    rfl
  have hstep : race fileId s (.task (.raise "")) =
      some { s with task := .indexed f text objects } := by
    simp [race, advance, hnext]
  obtain ⟨t, hrun, hnot⟩ : ∃ t, Reaches (race fileId) anyStep
      { s with task := .indexed f text objects } t ∧ ¬ Gone t.db fileId :=
    reinserts_of_interrupt "" rfl (bound_interrupt hbound hnext)
  exact ⟨t, Relation.ReflTransGen.head ⟨_, trivial, hstep⟩ hrun, hnot⟩

theorem reinserts_of_save_ahead (hsave : ¬ NoSaveAhead s.task)
    (hbound : Bound fileId s.db s.task) :
    ∃ t, Reaches (race fileId) anyStep s t ∧ ¬ Gone t.db fileId := by
  -- an exception takes the task to its handler, which saves the instance
  cases htask : s.task with
  | started | returning | ended => exact absurd (by rw [htask]; trivial) hsave
  | failing f => exact reinserts_of_failing htask hbound
  | indexing f text objects => exact reinserts_of_indexing htask hbound
  | stored f text objects =>
      have hstep : race fileId s (.task .done) =
          some { s with task := .indexing f text objects } := by
        simp [race, htask, advance, proceed]
      obtain ⟨t, hrun, hnot⟩ : ∃ t, Reaches (race fileId) anyStep
          { s with task := .indexing f text objects } t ∧ ¬ Gone t.db fileId :=
        reinserts_of_indexing rfl (bound_race s _ _ hbound hstep)
      exact ⟨t, Relation.ReflTransGen.head ⟨_, trivial, hstep⟩ hrun, hnot⟩
  | _ => exact reinserts_of_interrupt "" (by rw [htask]; rfl) hbound

/-- Deletion is final exactly when it commits before the task has read the row,
when only the `return` of the task is left, or after the task is over: otherwise some
continuation of the task writes the row again. -/
theorem deletion_final_iff {start : Race E} (hstart : start.task = .started)
    (hrun : Reaches (race fileId) anyStep start s)
    (hcommit : race fileId s .commit = some t) :
    (∀ u, Reaches (race fileId) anyStep t u → Gone u.db fileId) ↔
      s.task = .started ∨ (∃ file report, s.task = .returning file report) ∨
        ∃ result, s.task = .ended result := by
  have hbound : Bound fileId s.db s.task := by
    refine invariant_of_reaches (fun r => Bound fileId r.db r.task)
      (fun r move q h _ hstep => bound_race r q move h hstep) ?_ hrun
    rw [hstart]
    exact bound_of_none rfl
  have ht := race_commit hcommit
  rw [← noSaveAhead_iff]
  constructor
  · intro hfinal
    by_contra hsave
    have hsave' : ¬ NoSaveAhead t.task := by rwa [ht]
    obtain ⟨u, hreach, hnot⟩ :=
      reinserts_of_save_ahead hsave' (bound_race s t .commit hbound hcommit)
    exact hnot (hfinal u hreach)
  · intro hsilent u hreach
    have hsettled : Settled fileId t := by
      rw [ht]
      exact ⟨gone_deleteFile s.db fileId, rfl, hsilent⟩
    exact (invariant_of_reaches (Settled fileId)
      (fun r move q h _ hstep => settled_step r move q h hstep) hsettled hreach).gone

end Races

def uploadedRace : Race Nat where
  db := uploadedDb
  task := .started
  request := .waiting

/-- The request commits after the task has marked the file.  The task then
finds no file on the disk, and its own error handling saves the row. -/
theorem uploadedRace_reappears :
    ∃ t, Reaches (race 1) anyStep uploadedRace t ∧
      (t.request = .committed ∧ Gone t.db 1) ∧
      ∃ u, Reaches (race 1) anyStep t u ∧ ¬ Gone u.db 1 := by
  obtain ⟨t, hrun, hdeleted, hlater⟩ : ∃ t, Reaches (race 1) anyStep uploadedRace t ∧
      ((t.request = .committed ∧ Gone t.db 1) ∧
        ((replay (race 1) anyStep t
          [.task (.read (.text "ab")), .task .done]).any
            fun u => decide (¬ Gone u.db 1)) = true) :=
    exists_reaches_of_replay [.task .done, .task .done, .remove, .commit]
      (by decide +kernel)
  exact ⟨t, hrun, hdeleted, exists_reaches_of_replay _ hlater⟩

theorem uploadedRace_final :
    (∃ s t, Reaches (race 1) anyStep uploadedRace s ∧ s.task = .started ∧
      race 1 s .commit = some t ∧ ∀ u, Reaches (race 1) anyStep t u → Gone u.db 1) ∧
    ∃ s t, Reaches (race 1) anyStep uploadedRace s ∧
      s.task.file.map KnowledgeFile.status = some .failed ∧
      race 1 s .commit = some t ∧ ∀ u, Reaches (race 1) anyStep t u → Gone u.db 1 := by
  constructor
  · let s : Race Nat :=
      { uploadedRace with db := removeFromDisk uploadedDb "notes.txt", request := .removed }
    have hrun : Reaches (race 1) anyStep uploadedRace s :=
      Relation.ReflTransGen.single ⟨.remove, trivial, rfl⟩
    exact ⟨s, _, hrun, rfl, rfl, (deletion_final_iff rfl hrun rfl).mpr (Or.inl rfl)⟩
  · obtain ⟨s, hrun, hfailed, hremoved, htask⟩ : ∃ s, Reaches (race 1) anyStep uploadedRace s ∧
        s.task.file.map KnowledgeFile.status = some .failed ∧ s.request = .removed ∧
          (match s.task with | .returning _ _ => true | _ => false) = true :=
      exists_reaches_of_replay [.task .done, .task .done, .remove,
        .task (.read (.text "ab")), .task .done] (by decide +kernel)
    have hreturning : ∃ file report, s.task = .returning file report := by
      split at htask
      · exact ⟨_, _, by assumption⟩
      · cases htask
    have hcommit : race 1 s .commit =
        some { s with db := deleteFile s.db 1, request := .committed } := by
      simp only [race, hremoved]
    exact ⟨s, _, hrun, hfailed, hcommit,
      (deletion_final_iff rfl hrun hcommit).mpr (Or.inr (Or.inl hreturning))⟩

end Botman.KnowledgeDeletion
