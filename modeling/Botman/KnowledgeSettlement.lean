import Botman.KnowledgeJobs

/-!
How the processing of uploaded files ends.  A run stores how it ends before it returns
or raises, and an update writes back what the last run has stored, so that a file without
a job is decided: failed, or completed with the chunks of its text.
-/

namespace Botman.KnowledgeSettlement

open Botman.Library.KeyedTable
open Botman.Library.Transition
open Botman.KnowledgeTask
open Botman.KnowledgeIngestion hiding Event Ingested
open Botman.KnowledgeApi
open Botman.ChunkOwnership
open Botman.KnowledgeConcurrency
open Botman.KnowledgeWorkers
open Botman.KnowledgeJobs

universe u

variable {E : Type u}

/-- A status at which the owner waits for nothing more. -/
def Decided (status : FileStatus) : Prop :=
  status = .completed ∨ status = .failed

/-- What a run that is about to end is going to store, or has stored. -/
def Closing (db : KnowledgeDb E) (run : Nat × TaskState E) : Prop :=
  match run.2 with
  | .refusing f _ => f.status = .failed
  | .failing f => f.status = .failed
  | .completing f _ _ => f.status = .completed
  | .returning _ _ => ∀ g, db.files.get? run.1 = some g → Decided g.status
  | _ => True

variable {world : Outside E} {db after : KnowledgeDb E} {task next : TaskState E} {fileId : Nat}

theorem decided_of_save {f : KnowledgeFile} (hsave : saveFile db f = some after)
    (hid : f.id = fileId) (hdecided : Decided f.status) :
    ∀ g, after.files.get? fileId = some g → Decided g.status := by
  intro g hg
  rw [(saveFile_eq_some hsave).1, ← hid] at hg
  have hself : (db.files.save f).get? f.id = some f := db.files.get?_save_self f
  rw [← Option.some.inj (hself.symm.trans hg)]
  exact hdecided

theorem closing_proceed {outcome : Outcome E} (hholds : Holds world (fileId, task))
    (h : Closing db (fileId, task))
    (hproceed : proceed fileId db task outcome = some (after, next)) :
    Closing after (fileId, next) := by
  cases proceeds_of_proceed hproceed with
  | missing | load | mark | clear | store | enter | index | count | embed | assign
  | finishReport | fail => trivial
  | reject => exact rfl
  | extract =>
      unfold afterExtraction
      split
      · exact rfl
      · trivial
  | @refuse f _ _ hsave => exact decided_of_save hsave (hholds.id f rfl) (Or.inr h)
  | skip | finish => exact rfl
  | receive =>
      unfold afterReply
      split
      · exact rfl
      · trivial
  | @complete f _ _ _ hsave => exact decided_of_save hsave (hholds.id f rfl) (Or.inl h)

theorem decided_of_ended {outcome : Outcome E} {result : TaskEnd}
    (hholds : Holds world (fileId, task)) (h : Closing db (fileId, task))
    (hproceed : proceed fileId db task outcome = some (after, .ended result)) :
    ∀ g, after.files.get? fileId = some g → Decided g.status := by
  generalize hnext : (TaskState.ended result : TaskState E) = next at hproceed
  cases proceeds_of_proceed hproceed with
  | missing hnone =>
      intro g hg
      rw [hnone] at hg
      cases hg
  | finishReport => exact h
  | @fail f _ hsave => exact decided_of_save hsave (hholds.id f rfl) (Or.inr h)
  | extract =>
      unfold afterExtraction at hnext
      split at hnext <;> cases hnext
  | receive =>
      unfold afterReply at hnext
      split at hnext <;> cases hnext
  | _ => cases hnext

theorem closing_interrupt {message : String} (hnext : interrupt message task = some next) :
    Closing db (fileId, next) := by
  cases task with
  | stored | returning | ended => cases hnext
  | started | failing | indexing => cases hnext; trivial
  | _ => cases hnext; exact rfl

/-- Workers are not killed, and the database is there when a run begins and when it
stores its failure; files come with a job, which the inherited `create` does not send. -/
def Healthy (s : Site E) : Move E → Prop
  | .act (.event (.request request)) => request.route ≠ .create
  | .act (.event (.statement run outcome)) =>
      match outcome, (s.system.world.runs run).2 with
      | .kill, _ => False
      | .raise _, .started => False
      | .raise _, .failing _ => False
      | _, _ => True
  | _ => True

/-- Actions do not disturb each other, no job is taken while its file is being changed, and
one that was delivered again is taken only while no run on its file is under way. -/
def Calm (s : Site E) : Move E → Prop
  | .act action => Undisturbed s.system action
  | .deliver _ job =>
      (∀ i edit, s.system.edits i = some edit → edit.row.id ≠ job.fileId) ∧
        (s.redeliveries job.fileId ≠ 0 → Unused s.system.world job.fileId)
  | .redeliver _ => True

/-- The outside world answers as it may. -/
def Truthful (world : Outside E) (s : Site E) : Move E → Prop
  | .act action => Genuine world s.system action
  | _ => True

instance (world : Outside E) [∀ k text, Decidable (world.reads k text)]
    [∀ text e, Decidable (world.embeds text e)] (s : Site E) :
    (m : Move E) → Decidable (Truthful world s m)
  | .act action => inferInstanceAs (Decidable (Genuine world s.system action))
  | .deliver _ _ => instDecidableTrue
  | .redeliver _ => instDecidableTrue

/-- Every file is decided, or has a job that waits or is executed. -/
structure Tended (s : Site E) : Prop where
  files : ∀ f ∈ s.system.world.store.knowledge.files.rows, Decided f.status ∨
    f.id ∈ s.queue.map Job.fileId ∨
      ∃ i, Live (s.system.world.runs i).2 ∧ (s.system.world.runs i).1 = f.id
  closing : ∀ i, Closing s.system.world.store.knowledge (s.system.world.runs i)

theorem queued_of_view {store : KnowledgeStore E} {request : KnowledgeRequest}
    {row : KnowledgeFile} {queued : Bool} (h : view store request = .ok (.create row queued))
    (hroute : request.route ≠ .create) : queued = true := by
  have hsaved : ∀ {data : Validated} {name : String},
      saveNew data name true = .ok (.create row queued) → queued = true := by
    intro data name hsave
    unfold saveNew at hsave
    split at hsave
    · cases hsave
    · cases hsave
      rfl
  unfold view at h
  split at h
  · unfold upload at h
    split at h
    · cases h
    · split at h
      · cases h
      · exact hsaved h
  · rename_i hcreate
    exact absurd hcreate hroute
  · unfold update at h
    split at h
    · cases h
    · split at h <;> cases h
  · unfold update at h
    split at h
    · cases h
    · split at h <;> cases h
  · unfold destroy at h
    split at h <;> cases h
  · unfold knowledge at h
    split at h
    · cases h
    · split at h
      · cases h
      · dsimp only at h
        split at h
        · cases h
        · exact hsaved h

/-- Each file was there with the same status, or is new and has a job. -/
def Covered (db after : KnowledgeDb E) (jobs : List Job) : Prop :=
  ∀ f ∈ after.files.rows, (∃ g ∈ db.files.rows, g.id = f.id ∧ g.status = f.status) ∨
    f.id = db.files.next ∧ f.id ∈ jobs.map Job.fileId

theorem covered_handle {store : KnowledgeStore E} {request : KnowledgeRequest}
    (hroute : request.route ≠ .create) :
    Covered store.knowledge (handle store request).1.knowledge (jobFor store request) := by
  intro f hf
  cases hview : view store request with
  | error e =>
      simp only [handle, hview] at hf
      exact Or.inl ⟨f, hf, rfl, rfl⟩
  | ok write =>
      have hdecides := decides_of_view hview
      obtain ⟨-, hwrite⟩ := handle_of_view hview
      obtain ⟨after, hcommit, -, -⟩ := commit_of_decides hdecides
      have hdone : (handle store request).2 = .done write := by
        simp only [handle, hview, hcommit]
      have hrows := (writeKnowledge_eq_some hwrite).2
      cases write with
      | create row queued =>
          have hqueued := queued_of_view hview hroute
          rw [hrows.1, Table.mem_create] at hf
          rcases hf with hold | rfl
          · exact Or.inl ⟨f, hold, rfl, rfl⟩
          · right
            have hkey : (store.knowledge.files.created row).id = store.knowledge.files.next :=
              store.knowledge.files.key_created row
            simp only [jobFor, hdone, hqueued, hkey, List.map_cons, List.map_nil,
              List.mem_singleton, and_self]
      | change row stored =>
          rw [hrows.1, Table.mem_save] at hf
          cases hdecides with
          | @change isPartial pk file data _ hfile _ =>
              rcases hf with rfl | ⟨hold, -⟩
              · exact Or.inl ⟨file, (getObject_eq_some hfile).1, rfl, rfl⟩
              · exact Or.inl ⟨f, hold, rfl, rfl⟩
      | delete row =>
          rw [hrows.1, Table.mem_delete] at hf
          exact Or.inl ⟨f, hf.1, rfl, rfl⟩

theorem covered_saveEdit {store : KnowledgeStore E} {edit : Edit}
    (h : Current store.knowledge edit) :
    Covered store.knowledge (saveEdit store edit).knowledge [] := by
  -- an update that has read a row with the status of now writes that status
  intro f hf
  left
  unfold saveEdit at hf
  cases hcommit : commit store (.change edit.row edit.stored) with
  | none =>
      rw [hcommit] at hf
      exact ⟨f, hf, rfl, rfl⟩
  | some after =>
      rw [hcommit, Option.getD_some,
        (writeKnowledge_eq_some (write_of_commit hcommit)).2.1, Table.mem_save] at hf
      rcases hf with rfl | ⟨hold, -⟩
      · obtain ⟨g, hg, hsame⟩ := h
        obtain ⟨hmem, hid⟩ := (Table.get?_eq_some_iff _).mp hg
        exact ⟨g, hmem, hid, (status_eq_of_progress_eq hsame).symm⟩
      · exact ⟨f, hold, rfl, rfl⟩

variable {s t : Site E}

theorem tended_of_covered (h : Tended s) (hknown : Known s) {store : KnowledgeStore E}
    {edits : Nat → Option Edit} {jobs : List Job}
    (hcovered : Covered s.system.world.store.knowledge store.knowledge jobs) :
    Tended
      { s with
        system := { world := { s.system.world with store := store }, edits := edits }
        queue := s.queue ++ jobs
        sent := s.sent ++ jobs } := by
  refine ⟨fun f hf => ?_, fun i => ?_⟩
  · rw [List.map_append, List.mem_append]
    rcases hcovered f hf with ⟨g, hg, hid, hstatus⟩ | ⟨-, hnew⟩
    · rw [← hid, ← hstatus]
      rcases h.files g hg with hdecided | hqueued | hlive
      · exact Or.inl hdecided
      · exact Or.inr (Or.inl (Or.inl hqueued))
      · exact Or.inr (Or.inr hlive)
    · exact Or.inr (Or.inl (Or.inr hnew))
  · have hclosing := h.closing i
    cases htask : (s.system.world.runs i).2 with
    | returning file report =>
        have hlive : Live (s.system.world.runs i).2 := by
          rw [htask]
          exact fun _ h => by cases h
        simp only [Closing, htask] at hclosing ⊢
        intro g hg
        obtain ⟨hmem, hid⟩ := (Table.get?_eq_some_iff _).mp hg
        rcases hcovered g hmem with ⟨f, hf, hfid, hstatus⟩ | ⟨hnew, -⟩
        · rw [← hstatus]
          exact hclosing f ((Table.get?_eq_some_iff _).mpr ⟨hf, hfid.trans hid⟩)
        · have hlt := (hknown.running i hlive).1
          have hkey : g.id = (s.system.world.runs i).1 := hid
          rw [← hkey, hnew] at hlt
          exact absurd hlt (Nat.lt_irrefl _)
    | refusing | failing | completing => simpa only [Closing, htask] using hclosing
    | _ => simp only [Closing, htask]

theorem tended_deliver (h : Tended s) {job : Job} {run : Nat}
    (hended : ¬ Live (s.system.world.runs run).2) (retries deliveries : Nat → Nat) :
    Tended
      { s with
        system := { s.system with
          world := { s.system.world with
            runs := Function.update s.system.world.runs run (job.fileId, .started) } }
        queue := s.queue.erase job
        retries := retries
        deliveries := deliveries } := by
  refine ⟨fun f hf => ?_, ?_⟩
  · rcases h.files f hf with hdecided | hqueued | ⟨i, hi, hfile⟩
    · exact Or.inl hdecided
    · right
      by_cases hid : f.id = job.fileId
      · exact Or.inr ⟨run, by simpa using live_started, by simp [hid]⟩
      · obtain ⟨other, hother, heq⟩ := List.mem_map.mp hqueued
        have hne : other ≠ job := by
          rintro rfl
          exact hid heq.symm
        exact Or.inl (List.mem_map.mpr ⟨other, (List.mem_erase_of_ne hne).mpr hother, heq⟩)
    · refine Or.inr (Or.inr ⟨i, ?_⟩)
      have hne : i ≠ run := by
        rintro rfl
        exact hended hi
      simp only [Function.update_of_ne hne]
      exact ⟨hi, hfile⟩
  · exact (Function.forall_update_iff s.system.world.runs fun _ run =>
      Closing s.system.world.store.knowledge run).mpr ⟨trivial, fun i _ => h.closing i⟩

theorem closing_of_not_live {run : Nat × TaskState E} (h : ¬ Live run.2) : Closing db run := by
  simp only [Live, ne_eq, not_forall, not_not] at h
  obtain ⟨result, hended⟩ := h
  simp only [Closing, hended]

theorem closing_congr {run : Nat × TaskState E} (h : Closing db run)
    (hfile : after.files.get? run.1 = db.files.get? run.1) : Closing after run := by
  obtain ⟨k, task⟩ := run
  cases task with
  | returning =>
      intro g hg
      exact h g (hfile ▸ hg)
  | _ => exact h

theorem closing_advance {outcome : Outcome E} {run : Nat}
    (hholds : Holds world (s.system.world.runs run))
    (h : Closing s.system.world.store.knowledge (s.system.world.runs run))
    (hhealthy : Healthy s (.act (.event (.statement run outcome))))
    (hadvance : advance (s.system.world.runs run).1 s.system.world.store.knowledge
      (s.system.world.runs run).2 outcome = some (after, next)) :
    Closing after ((s.system.world.runs run).1, next) ∧
      ∀ result, next = .ended result →
        ∀ g, after.files.get? (s.system.world.runs run).1 = some g → Decided g.status := by
  cases outcome with
  | kill => exact hhealthy.elim
  | raise message =>
      obtain ⟨state, hstate, heq⟩ := Option.map_eq_some_iff.mp hadvance
      cases heq
      refine ⟨closing_interrupt hstate, fun result hended => ?_⟩
      subst hended
      -- only the two interruptions that are excluded end a run
      cases htask : (s.system.world.runs run).2 with
      | started | failing => simp only [Healthy, htask] at hhealthy
      | _ =>
          rw [htask] at hstate
          cases hstate
  | done | read | apiKey | reply =>
      refine ⟨closing_proceed hholds h hadvance, fun result hended => ?_⟩
      subst hended
      exact decided_of_ended hholds h hadvance

theorem tended_statement (h : Tended s) (horderly : Orderly world s.system)
    {run : Nat} {outcome : Outcome E} {store : KnowledgeStore E}
    (hhealthy : Healthy s (.act (.event (.statement run outcome))))
    (hadvance : advance (s.system.world.runs run).1 s.system.world.store.knowledge
      (s.system.world.runs run).2 outcome = some (store.knowledge, task)) (jobs : List Job) :
    Tended
      { s with
        system := { s.system with
          world :=
            { store := store
              runs := Function.update s.system.world.runs run
                ((s.system.world.runs run).1, task) } }
        queue := s.queue ++ jobs
        sent := s.sent ++ jobs } := by
  obtain ⟨hclosing, hdecided⟩ :=
    closing_advance (horderly.holds run) (h.closing run) hhealthy hadvance
  have hlive := live_of_advance hadvance
  obtain ⟨record, hphase⟩ := horderly.phase run
  have hframe : ∀ k, k ≠ (s.system.world.runs run).1 →
      store.knowledge.files.get? k = s.system.world.store.knowledge.files.get? k := fun k hk =>
    (advance_frame hphase hadvance hk).1
  refine ⟨fun f hf => ?_, ?_⟩
  · rw [List.map_append, List.mem_append]
    have hget : store.knowledge.files.get? f.id = some f :=
      (Table.get?_eq_some_iff _).mpr ⟨hf, rfl⟩
    by_cases hid : f.id = (s.system.world.runs run).1
    · by_cases hnext : Live task
      · exact Or.inr (Or.inr ⟨run, by simpa using hnext, by simp [hid]⟩)
      · simp only [Live, ne_eq, not_forall, not_not] at hnext
        obtain ⟨result, hended⟩ := hnext
        exact Or.inl (hdecided result hended f (hid ▸ hget))
    · rw [hframe f.id hid] at hget
      rcases h.files f ((Table.get?_eq_some_iff _).mp hget).1 with
        hdone | hqueued | ⟨i, hi, hfile⟩
      · exact Or.inl hdone
      · exact Or.inr (Or.inl (Or.inl hqueued))
      · have hne : i ≠ run := by
          rintro rfl
          exact hid hfile.symm
        refine Or.inr (Or.inr ⟨i, ?_⟩)
        simp only [Function.update_of_ne hne]
        exact ⟨hi, hfile⟩
  · refine (Function.forall_update_iff s.system.world.runs fun _ run =>
      Closing store.knowledge run).mpr ⟨hclosing, fun i hne => ?_⟩
    by_cases hi : Live (s.system.world.runs i).2
    · exact closing_congr (h.closing i) (hframe _ (horderly.apart i run hne hi hlive))
    · exact closing_of_not_live hi

theorem tended_event (h : Tended s) (hknown : Known s) (horderly : Orderly world s.system)
    {event : Event E} (hhealthy : Healthy s (.act (.event event)))
    (hbegins : begins (.event event) = false) {w : World E}
    (hnext : ChunkOwnership.next s.system.world event = some w) :
    Tended
      { s with
        system := { s.system with world := w }
        queue := s.queue ++ jobsOf s { s.system with world := w } (.event event)
        sent := s.sent ++ jobsOf s { s.system with world := w } (.event event) } := by
  cases event with
  | request request =>
      cases hnext
      exact tended_of_covered h hknown (covered_handle hhealthy)
  | start => cases hbegins
  | statement run outcome =>
      obtain ⟨⟨store, task⟩, hrun, rfl⟩ := Option.map_eq_some_iff.mp hnext
      exact tended_statement h horderly hhealthy (advance_of_runStatement hrun) _
  | deleteChatbot chatbot =>
      cases hnext
      refine tended_of_covered h hknown fun f hf => Or.inl ⟨f, ?_, rfl, rfl⟩
      exact ((Table.mem_delete _ _ f).mp hf).1

theorem tended_act (h : Tended s) (hknown : Known s) (horderly : Orderly world s.system)
    {action : Action E} (hhealthy : Healthy s (.act action)) (hbegins : begins action = false)
    {after : System E} (hact : act s.system action = some after) :
    Tended
      { s with
        system := after
        queue := s.queue ++ jobsOf s after action
        sent := s.sent ++ jobsOf s after action } := by
  cases acts_of_act hact with
  | event hupdate hnext => exact tended_event h hknown horderly hhealthy hbegins hnext
  | read => exact tended_of_covered h hknown fun f hf => Or.inl ⟨f, hf, rfl, rfl⟩
  | @save i edit hedit =>
      exact tended_of_covered h hknown (covered_saveEdit (horderly.edits i edit hedit).2)

theorem tended_redeliver (h : Tended s) (job : Job) (redeliveries : Nat → Nat) :
    Tended { s with queue := s.queue ++ [job], redeliveries := redeliveries } := by
  refine ⟨fun f hf => ?_, h.closing⟩
  rw [List.map_append, List.mem_append]
  rcases h.files f hf with hdecided | hqueued | hlive
  · exact Or.inl hdecided
  · exact Or.inr (Or.inl (Or.inl hqueued))
  · exact Or.inr (Or.inr hlive)

/-- What holds in every state of a calm run. -/
structure Kept (world : Outside E) (s : Site E) : Prop where
  known : Known s
  accounted : Accounted places s
  matching : Matching world s.system.world
  orderly : Orderly world s.system
  tended : Tended s

theorem free_of_calm (h : Kept world s) {run : Nat} {job : Job} (hjob : job ∈ s.queue)
    (hcalm : Calm s (.deliver run job)) : Free s.system job.fileId := by
  refine ⟨?_, hcalm.1⟩
  by_cases honce : s.redeliveries job.fileId = 0
  · exact unused_of_queued h.accounted hjob honce
  · exact hcalm.2 honce

theorem kept_move {m : Move E} (h : Kept world s) (htruthful : Truthful world s m)
    (hhealthy : Healthy s m) (hcalm : Calm s m) (hmove : move s m = some t) : Kept world t := by
  obtain ⟨hknown, haccounted⟩ := known_accounted_move places ⟨h.known, h.accounted⟩ hmove
  cases m with
  | act action =>
      simp only [move] at hmove
      split at hmove
      · cases hmove
      · rename_i hbegins
        obtain ⟨after, hact, rfl⟩ := Option.map_eq_some_iff.mp hmove
        exact ⟨hknown, haccounted, matching_act h.matching htruthful hact,
          orderly_act h.orderly htruthful hcalm hact,
          tended_act h.tended h.known h.orderly hhealthy (Bool.eq_false_iff.mpr hbegins) hact⟩
  | deliver run job =>
      simp only [move] at hmove
      split at hmove
      · rename_i hjob
        obtain ⟨after, hact, rfl⟩ := Option.map_eq_some_iff.mp hmove
        have hgenuine : Genuine world s.system (.event (.start run job.fileId)) := trivial
        refine ⟨hknown, haccounted, matching_act h.matching hgenuine hact,
          orderly_act h.orderly hgenuine (free_of_calm h hjob hcalm) hact, ?_⟩
        obtain ⟨hended, rfl⟩ := act_start hact
        exact tended_deliver h.tended hended _ _
      · cases hmove
  | redeliver job =>
      simp only [move] at hmove
      split at hmove
      · cases hmove
        exact ⟨hknown, haccounted, h.matching, h.orderly, tended_redeliver h.tended job _⟩
      · cases hmove

theorem kept_fresh (hfresh : Fresh s)
    (hempty : s.system.world.store.knowledge.files.rows = [])
    (hvectors : OwnVectors world s.system.world.store.knowledge) : Kept world s where
  known := known_fresh hfresh
  accounted := accounted_fresh places hfresh
  matching := matching_idle hfresh.idle.runs hvectors
  orderly := by
    refine orderly_idle hfresh.idle ?_
    rw [hempty]
    exact fun _ hf => by cases hf
  tended := by
    refine ⟨?_, fun i => ?_⟩
    · rw [hempty]
      exact fun _ hf => by cases hf
    · exact closing_of_not_live fun hi => hi _ (hfresh.idle.runs i).choose_spec

def isEnded : TaskState Unit → Bool
  | .ended _ => true
  | _ => false

theorem not_live_of_isEnded {task : TaskState Unit} (h : isEnded task = true) : ¬ Live task := by
  intro hlive
  unfold isEnded at h
  split at h
  · exact hlive _ rfl
  · cases h

/-- Moves of one worker and one client that do not disturb each other. -/
def smooth (s : Site Unit) : Move Unit → Bool
  | .act (.event (.request request)) =>
      s.system.world.store.knowledge.files.rows.isEmpty &&
        match request.route with
        | .upload => true
        | _ => false
  | .act (.event (.statement run outcome)) =>
      run = 0 &&
        match outcome, (s.system.world.runs run).2 with
        | .kill, _ => false
        | .raise _, .started => false
        | .raise _, .failing _ => false
        | _, _ => true
  | .act (.read edit _) => edit = 0 && isEnded (s.system.world.runs 0).2
  | .act (.save edit) => edit = 0
  | .act _ => false
  | .deliver run _ =>
      run = 0 && isEnded (s.system.world.runs 0).2 && (s.system.edits 0).isNone
  | .redeliver _ => true

/-- One worker and one client. -/
structure Alone (s : Site Unit) : Prop where
  runs : ∀ i, i ≠ 0 → (s.system.world.runs i).2 = .ended .killed
  edits : ∀ i, i ≠ 0 → s.system.edits i = none

theorem Alone.unused {s : Site Unit} (h : Alone s) (hended : isEnded (s.system.world.runs 0).2 = true)
    (k : Nat) : Unused s.system.world k := by
  intro i hi
  by_cases hzero : i = 0
  · subst hzero
    exact absurd hi (not_live_of_isEnded hended)
  · exact absurd (h.runs i hzero) (hi _)

theorem calm_of_smooth {s : Site Unit} {m : Move Unit} (halone : Alone s)
    (h : smooth s m = true) : Healthy s m ∧ Calm s m := by
  unfold smooth at h
  split at h
  · rename_i request
    obtain ⟨hnone, hroute⟩ := Bool.and_eq_true_iff.mp h
    refine ⟨fun hcreate => ?_, fun f hf => ?_⟩
    · rw [hcreate] at hroute
      cases hroute
    · rw [List.isEmpty_iff.mp hnone] at hf
      cases hf
  · rename_i run outcome
    obtain ⟨-, hallowed⟩ := Bool.and_eq_true_iff.mp h
    refine ⟨?_, trivial⟩
    simp only [Healthy]
    split at hallowed
    · cases hallowed
    · cases hallowed
    · cases hallowed
    · split <;> simp_all
  · obtain ⟨-, hended⟩ := Bool.and_eq_true_iff.mp h
    exact ⟨trivial, fun row _ _ => halone.unused hended row.id⟩
  · exact ⟨trivial, trivial⟩
  · cases h
  · rename_i run job
    obtain ⟨hrest, hnone⟩ := Bool.and_eq_true_iff.mp h
    obtain ⟨-, hended⟩ := Bool.and_eq_true_iff.mp hrest
    refine ⟨trivial, fun i edit hedit => ?_, fun _ => halone.unused hended job.fileId⟩
    by_cases hzero : i = 0
    · subst hzero
      rw [Option.isNone_iff_eq_none.mp hnone] at hedit
      cases hedit
    · rw [halone.edits i hzero] at hedit
      cases hedit
  · exact ⟨trivial, trivial⟩

theorem alone_move {s t : Site Unit} {m : Move Unit} (halone : Alone s) (h : smooth s m = true)
    (hmove : move s m = some t) : Alone t := by
  have hruns : ∀ i, i ≠ 0 → ∀ value, Function.update s.system.world.runs 0 value i =
      s.system.world.runs i := fun i hi value => Function.update_of_ne hi _ _
  have hedits : ∀ i, i ≠ 0 → ∀ value, Function.update s.system.edits 0 value i =
      s.system.edits i := fun i hi value => Function.update_of_ne hi _ _
  cases m with
  | act action =>
      simp only [move] at hmove
      split at hmove
      · cases hmove
      · obtain ⟨after, hact, rfl⟩ := Option.map_eq_some_iff.mp hmove
        cases acts_of_act hact with
        | @event event w hupdate hnext =>
            cases event with
            | request =>
                cases hnext
                exact ⟨halone.runs, halone.edits⟩
            | statement run outcome =>
                obtain rfl : run = 0 := of_decide_eq_true (Bool.and_eq_true_iff.mp h).1
                obtain ⟨⟨store, task⟩, -, rfl⟩ := Option.map_eq_some_iff.mp hnext
                exact ⟨fun i hi => (congrArg Prod.snd (hruns i hi _)).trans (halone.runs i hi),
                  halone.edits⟩
            | start | deleteChatbot => cases h
        | @read edit =>
            obtain rfl : edit = 0 := of_decide_eq_true (Bool.and_eq_true_iff.mp h).1
            exact ⟨halone.runs, fun i hi => (hedits i hi _).trans (halone.edits i hi)⟩
        | @save edit =>
            obtain rfl : edit = 0 := of_decide_eq_true h
            exact ⟨halone.runs, fun i hi => (hedits i hi _).trans (halone.edits i hi)⟩
  | deliver run job =>
      obtain rfl : run = 0 :=
        of_decide_eq_true (Bool.and_eq_true_iff.mp (Bool.and_eq_true_iff.mp h).1).1
      simp only [move] at hmove
      split at hmove
      · obtain ⟨after, hact, rfl⟩ := Option.map_eq_some_iff.mp hmove
        obtain ⟨-, rfl⟩ := act_start hact
        exact ⟨fun i hi => (congrArg Prod.snd (hruns i hi _)).trans (halone.runs i hi),
          halone.edits⟩
      · cases hmove
  | redeliver =>
      simp only [move] at hmove
      split at hmove
      · cases hmove
        exact ⟨halone.runs, halone.edits⟩
      · cases hmove

/-- A job is delivered, and its run completes the file. -/
def completingRun (retries : Nat) : List (Move Unit) :=
  .deliver 0 ⟨1, retries⟩ ::
    [.done, .done, .read (.text "Prices."), .done, .done, .done, .done, .done, .apiKey true,
      .reply [()], .done, .done, .done, .done].map fun outcome =>
        .act (.event (.statement 0 outcome))

/-- The first run raises, the file is replaced, the retry completes it, and so does the
first job when it is delivered again. -/
def retriedOnce : List (Move Unit) :=
  .act (.event (.request (fileFor .upload 1))) :: failingRun 0 ++
    [.act (.read 0 (fileFor (.partialUpdate "1") 1)), .act (.save 0)] ++
    completingRun 1 ++ .redeliver ⟨1, 0⟩ :: completingRun 0

end Botman.KnowledgeSettlement
