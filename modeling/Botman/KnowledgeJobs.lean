import Mathlib.Algebra.BigOperators.Ring.Finset
import Botman.KnowledgeWorkers

/-!
The job queue between the requests that upload files and the workers that run
`process_knowledge_file`.

Each upload sends one job to the broker.  A run that raises sends it again, three times at
most; a run that is killed does not.  Jobs are taken in any order, and the broker may deliver
a job again that it has been sent, as the Redis transport does with a message that was not
acknowledged in time.
-/

namespace Botman.KnowledgeJobs

open Botman.Library.KeyedTable
open Botman.Library.Transition
open Botman.KnowledgeTask
open Botman.KnowledgeIngestion hiding Event Ingested
open Botman.KnowledgeApi
open Botman.ChunkOwnership
open Botman.KnowledgeConcurrency
open Botman.KnowledgeWorkers

universe u

variable {E : Type u}

/-- A message of the queue, with the retries that led to it. -/
structure Job where
  fileId : Nat
  retries : Nat
  deriving DecidableEq

/-- The tables, the runs and the updates, the jobs that wait, the retries of the job that
each run executes and, as records, the jobs that were sent and how often a job for a file
was taken and was delivered again. -/
structure Site (E : Type u) where
  system : System E
  queue : List Job
  sent : List Job
  retries : Nat → Nat
  deliveries : Nat → Nat
  redeliveries : Nat → Nat

/-- An action of the site, a delivery of a job to a run, or a second one. -/
inductive Move (E : Type u) where
  | act (action : Action E)
  | deliver (run : Nat) (job : Job)
  | redeliver (job : Job)

/-- `max_retries` of the task. -/
def maxRetries : Nat := 3

/-- `process_knowledge_file.delay(instance.id)` after a file was saved. -/
def jobFor (store : KnowledgeStore E) (request : KnowledgeRequest) : List Job :=
  match (handle store request).2 with
  | .done (.create _ true) => [{ fileId := store.knowledge.files.next, retries := 0 }]
  | _ => []

/-- `autoretry_for=(Exception,)` with `max_retries`. -/
def retryJob (run : Nat × TaskState E) (retries : Nat) : List Job :=
  match run.2 with
  | .ended .raised =>
      if retries < maxRetries then [{ fileId := run.1, retries := retries + 1 }] else []
  | _ => []

/-- The jobs that an action sends. -/
def jobsOf (s : Site E) (after : System E) : Action E → List Job
  | .event (.request request) => jobFor s.system.world.store request
  | .event (.statement run _) => retryJob (after.world.runs run) (s.retries run)
  | _ => []

/-- The action starts a run, which only a delivery may. -/
def begins : Action E → Bool
  | .event (.start _ _) => true
  | _ => false

/-- Runs are started by the delivery of a job only. -/
def move (s : Site E) : Move E → Option (Site E)
  | .act action =>
      if begins action then none
      else
        (KnowledgeWorkers.act s.system action).map fun after =>
          { s with
            system := after
            queue := s.queue ++ jobsOf s after action
            sent := s.sent ++ jobsOf s after action }
  | .deliver run job =>
      if job ∈ s.queue then
        (KnowledgeWorkers.act s.system (.event (.start run job.fileId))).map fun after =>
          { s with
            system := after
            queue := s.queue.erase job
            retries := Function.update s.retries run job.retries
            deliveries := Function.update s.deliveries job.fileId
              (s.deliveries job.fileId + 1) }
      else none
  | .redeliver job =>
      if job ∈ s.sent then
        some
          { s with
            queue := s.queue ++ [job]
            redeliveries := Function.update s.redeliveries job.fileId
              (s.redeliveries job.fileId + 1) }
      else none

variable {s t : Site E}

section Actions

theorem handle_done {store : KnowledgeStore E} {request : KnowledgeRequest} {write : FileWrite}
    (h : (handle store request).2 = .done write) :
    writeKnowledge store.knowledge write = some (handle store request).1.knowledge := by
  unfold handle at h ⊢
  cases hview : view store request with
  | error e =>
      rw [hview] at h
      cases h
  | ok decided =>
      obtain ⟨after, hcommit, -, hwrite⟩ := commit_of_decides (decides_of_view hview)
      simp only [hview, hcommit] at h ⊢
      cases h
      exact hwrite

theorem next_le_handle (store : KnowledgeStore E) (request : KnowledgeRequest) :
    store.knowledge.files.next ≤ (handle store request).1.knowledge.files.next := by
  rcases handle_cases store request with hsame | ⟨write, -, -, hwrite⟩
  · rw [hsame]
  · have hrows := (writeKnowledge_eq_some hwrite).2
    cases write with
    | create =>
        rw [hrows.1]
        exact Nat.le_succ _
    | change =>
        rw [hrows.1]
        exact Table.next_le_save _ _
    | delete =>
        rw [hrows.1]
        exact Nat.le_refl _

theorem next_le_saveEdit (store : KnowledgeStore E) (edit : Edit) :
    store.knowledge.files.next ≤ (saveEdit store edit).knowledge.files.next := by
  unfold saveEdit
  cases hcommit : commit store (.change edit.row edit.stored) with
  | none => exact Nat.le_refl _
  | some after =>
      rw [Option.getD_some, (writeKnowledge_eq_some (write_of_commit hcommit)).2.1]
      exact Table.next_le_save _ _

theorem jobFor_cases (store : KnowledgeStore E) (request : KnowledgeRequest) :
    jobFor store request = [] ∨
      jobFor store request = [{ fileId := store.knowledge.files.next, retries := 0 }] ∧
        store.knowledge.files.next < (handle store request).1.knowledge.files.next := by
  unfold jobFor
  split
  · rename_i row hdone
    refine Or.inr ⟨rfl, ?_⟩
    rw [(writeKnowledge_eq_some (handle_done hdone)).2.1]
    exact Nat.lt_succ_self _
  · exact Or.inl rfl

theorem retryJob_cases (run : Nat × TaskState E) (retries : Nat) :
    retryJob run retries = [] ∨
      retryJob run retries = [{ fileId := run.1, retries := retries + 1 }] ∧
        retries < maxRetries ∧ ¬ Live run.2 := by
  unfold retryJob
  split
  · rename_i hraised
    split
    · rename_i hlt
      exact Or.inr ⟨rfl, hlt, fun hlive => hlive _ hraised⟩
    · exact Or.inl rfl
  · exact Or.inl rfl

/-- Where the jobs of an action come from: a new file, or a run that the action ends. -/
inductive Sends (s : Site E) (after : System E) : List Job → Prop where
  | nothing : Sends s after []
  | upload
      (hnew : s.system.world.store.knowledge.files.next < after.world.store.knowledge.files.next) :
      Sends s after [{ fileId := s.system.world.store.knowledge.files.next, retries := 0 }]
  | retry {run : Nat} (hlive : Live (s.system.world.runs run).2)
      (hended : ¬ Live (after.world.runs run).2) (hretries : s.retries run < maxRetries) :
      Sends s after [{ fileId := (s.system.world.runs run).1, retries := s.retries run + 1 }]

/-- An action but for a start: it gives out keys and ends runs, and sends at most one
job. -/
structure Advances (s : Site E) (after : System E) (jobs : List Job) : Prop where
  nextKey :
    s.system.world.store.knowledge.files.next ≤ after.world.store.knowledge.files.next
  runs : ∀ i, Live (after.world.runs i).2 →
    Live (s.system.world.runs i).2 ∧ (after.world.runs i).1 = (s.system.world.runs i).1
  jobs : Sends s after jobs

theorem advances_statement {run : Nat} {outcome : Outcome E} {store : KnowledgeStore E}
    {task : TaskState E}
    (hadvance : advance (s.system.world.runs run).1 s.system.world.store.knowledge
      (s.system.world.runs run).2 outcome = some (store.knowledge, task)) :
    Advances s
      { s.system with
        world :=
          { store := store
            runs := Function.update s.system.world.runs run
              ((s.system.world.runs run).1, task) } }
      (retryJob ((s.system.world.runs run).1, task) (s.retries run)) := by
  have hlive := live_of_advance hadvance
  refine ⟨(follows_of_advance hadvance).nextKey, fun i hi => live_of_live_update hlive hi, ?_⟩
  rcases retryJob_cases ((s.system.world.runs run).1, task) (s.retries run) with
    hnone | ⟨hjob, hretries, hended⟩
  · rw [hnone]
    exact .nothing
  · rw [hjob]
    refine .retry hlive ?_ hretries
    simpa using hended

theorem advances_event {event : Event E} (hbegins : begins (.event event) = false)
    {w : World E} (hnext : ChunkOwnership.next s.system.world event = some w) :
    Advances s { s.system with world := w }
      (jobsOf s { s.system with world := w } (.event event)) := by
  cases event with
  | request request =>
      cases hnext
      refine ⟨next_le_handle _ _, fun i hi => ⟨hi, rfl⟩, ?_⟩
      rcases jobFor_cases s.system.world.store request with hnone | ⟨hjob, hnew⟩
      · rw [jobsOf, hnone]
        exact .nothing
      · rw [jobsOf, hjob]
        exact .upload hnew
  | start => cases hbegins
  | statement run outcome =>
      obtain ⟨⟨store, task⟩, hrun, rfl⟩ := Option.map_eq_some_iff.mp hnext
      have hadvances := advances_statement (s := s) (advance_of_runStatement hrun)
      simpa only [jobsOf, Function.update_self] using hadvances
  | deleteChatbot =>
      cases hnext
      exact ⟨Nat.le_refl _, fun i hi => ⟨hi, rfl⟩, .nothing⟩

theorem advances_act {action : Action E} (hbegins : begins action = false) {after : System E}
    (hact : act s.system action = some after) : Advances s after (jobsOf s after action) := by
  cases acts_of_act hact with
  | event hupdate hnext => exact advances_event hbegins hnext
  | read => exact ⟨Nat.le_refl _, fun i hi => ⟨hi, rfl⟩, .nothing⟩
  | save => exact ⟨next_le_saveEdit _ _, fun i hi => ⟨hi, rfl⟩, .nothing⟩

theorem live_started : Live (.started : TaskState E) :=
  fun _ h => by cases h

theorem act_start {run fileId : Nat} {after : System E}
    (hact : act s.system (.event (.start run fileId)) = some after) :
    ¬ Live (s.system.world.runs run).2 ∧
      after = { s.system with
        world := { s.system.world with
          runs := Function.update s.system.world.runs run (fileId, .started) } } := by
  simp only [act, isUpdate, Bool.false_eq_true, if_false] at hact
  obtain ⟨w, hnext, rfl⟩ := Option.map_eq_some_iff.mp hact
  simp only [ChunkOwnership.next] at hnext
  split at hnext
  · rename_i hended
    cases hnext
    exact ⟨fun hlive => hlive _ hended, rfl⟩
  · cases hnext

end Actions

section Accounts

/-- Jobs are for files whose keys were given out, with at most three retries. -/
structure Known (s : Site E) : Prop where
  queued : ∀ job ∈ s.queue, job ∈ s.sent
  sent : ∀ job ∈ s.sent,
    job.fileId < s.system.world.store.knowledge.files.next ∧ job.retries ≤ maxRetries
  running : ∀ i, Live (s.system.world.runs i).2 →
    (s.system.world.runs i).1 < s.system.world.store.knowledge.files.next ∧
      s.retries i ≤ maxRetries
  unborn : ∀ k, s.system.world.store.knowledge.files.next ≤ k →
    s.deliveries k = 0 ∧ s.redeliveries k = 0

theorem Known.lt_of_queued (h : Known s) {job : Job} (hjob : job ∈ s.queue) :
    job.fileId < s.system.world.store.knowledge.files.next :=
  (h.sent job (h.queued job hjob)).1

theorem known_act (h : Known s) {after : System E} {jobs : List Job}
    (hadvances : Advances s after jobs) :
    Known { s with system := after, queue := s.queue ++ jobs, sent := s.sent ++ jobs } := by
  refine ⟨fun job hjob => ?_, fun job hjob => ?_, fun i hi => ?_, fun k hk => ?_⟩
  · rcases List.mem_append.mp hjob with hold | hnew
    · exact List.mem_append_left _ (h.queued job hold)
    · exact List.mem_append_right _ hnew
  · rcases List.mem_append.mp hjob with hold | hnew
    · exact ⟨Nat.lt_of_lt_of_le (h.sent job hold).1 hadvances.nextKey, (h.sent job hold).2⟩
    · cases hadvances.jobs with
      | nothing => cases hnew
      | upload hlt =>
          rw [List.mem_singleton.mp hnew]
          exact ⟨hlt, Nat.zero_le _⟩
      | @retry run hlive _ hretries =>
          rw [List.mem_singleton.mp hnew]
          exact ⟨Nat.lt_of_lt_of_le (h.running run hlive).1 hadvances.nextKey, hretries⟩
  · obtain ⟨hbefore, hfile⟩ := hadvances.runs i hi
    obtain ⟨hlt, hretries⟩ := h.running i hbefore
    exact ⟨hfile ▸ Nat.lt_of_lt_of_le hlt hadvances.nextKey, hretries⟩
  · exact h.unborn k (Nat.le_trans hadvances.nextKey hk)

theorem known_deliver (h : Known s) {run : Nat} {job : Job} (hjob : job ∈ s.queue) :
    Known
      { s with
        system := { s.system with
          world := { s.system.world with
            runs := Function.update s.system.world.runs run (job.fileId, .started) } }
        queue := s.queue.erase job
        retries := Function.update s.retries run job.retries
        deliveries := Function.update s.deliveries job.fileId
          (s.deliveries job.fileId + 1) } := by
  have hlt := h.lt_of_queued hjob
  refine ⟨fun other hother => h.queued other (List.mem_of_mem_erase hother), h.sent,
    fun i hi => ?_, fun k hk => ?_⟩
  · by_cases hirun : i = run
    · subst hirun
      simp only [Function.update_self]
      exact h.sent job (h.queued job hjob)
    · simp only [Function.update_of_ne hirun] at hi ⊢
      exact h.running i hi
  · have hne : k ≠ job.fileId := fun heq => absurd hlt (heq ▸ Nat.not_lt.mpr hk)
    simp only [Function.update_of_ne hne]
    exact h.unborn k hk

theorem known_redeliver (h : Known s) {job : Job} (hjob : job ∈ s.sent) :
    Known
      { s with
        queue := s.queue ++ [job]
        redeliveries := Function.update s.redeliveries job.fileId
          (s.redeliveries job.fileId + 1) } := by
  refine ⟨fun other hother => ?_, h.sent, h.running, fun k hk => ?_⟩
  · rcases List.mem_append.mp hother with hold | hnew
    · exact h.queued other hold
    · rw [List.mem_singleton.mp hnew]
      exact hjob
  · have hne : k ≠ job.fileId := fun heq =>
      absurd (h.sent job hjob).1 (heq ▸ Nat.not_lt.mpr hk)
    simp only [Function.update_of_ne hne]
    exact h.unborn k hk

/-- What a waiting job and a run count by the retries they have had, and what a delivery
costs, such that no step but an upload and a redelivery adds to the account. -/
structure Tariff where
  waiting : Nat → Nat
  running : Nat → Nat
  delivery : Nat
  grant : Nat
  taken : ∀ r ≤ maxRetries, running r + delivery ≤ waiting r
  retried : ∀ r < maxRetries, waiting (r + 1) ≤ running r
  sent : ∀ r ≤ maxRetries, waiting r ≤ grant

/-- Jobs and runs, each of which counts one. -/
def places : Tariff where
  waiting := fun _ => 1
  running := fun _ => 1
  delivery := 0
  grant := 1
  taken := fun _ _ => Nat.le_refl _
  retried := fun _ _ => Nat.le_refl _
  sent := fun _ _ => Nat.le_refl _

/-- The deliveries that were made and may still come. -/
def attempts : Tariff where
  waiting := fun r => maxRetries + 1 - r
  running := fun r => maxRetries - r
  delivery := 1
  grant := maxRetries + 1
  taken := fun r hr => by omega
  retried := fun r hr => by omega
  sent := fun r hr => by omega

/-- What the jobs that wait for a file can still cost. -/
def waitingCost (c : Tariff) (queue : List Job) (k : Nat) : Nat :=
  ((queue.filter fun job => job.fileId = k).map fun job => c.waiting job.retries).sum

theorem waitingCost_append (c : Tariff) (queue jobs : List Job) (k : Nat) :
    waitingCost c (queue ++ jobs) k = waitingCost c queue k + waitingCost c jobs k := by
  simp [waitingCost]

theorem waitingCost_singleton (c : Tariff) (job : Job) (k : Nat) :
    waitingCost c [job] k = if job.fileId = k then c.waiting job.retries else 0 := by
  by_cases hk : job.fileId = k <;> simp [waitingCost, hk]

theorem waitingCost_erase (c : Tariff) {queue : List Job} {job : Job} (hjob : job ∈ queue)
    (k : Nat) :
    waitingCost c queue k = waitingCost c [job] k + waitingCost c (queue.erase job) k := by
  have hperm := ((List.perm_cons_erase hjob).filter fun job => decide (job.fileId = k)).map
    fun job => c.waiting job.retries
  have hsum : waitingCost c queue k = waitingCost c (job :: queue.erase job) k := hperm.sum_eq
  rw [hsum]
  exact waitingCost_append c [job] (queue.erase job) k

theorem waitingCost_eq_zero (c : Tariff) {queue : List Job} {k : Nat}
    (h : ∀ job ∈ queue, job.fileId ≠ k) : waitingCost c queue k = 0 := by
  have hnone : (queue.filter fun job => job.fileId = k) = [] :=
    List.filter_eq_nil_iff.mpr fun job hjob => by simpa using h job hjob
  rw [waitingCost, hnone]
  rfl

/-- For every file: the jobs that wait and the runs under way, with the deliveries made, are
paid for by the upload and the redeliveries. -/
def Accounted (c : Tariff) (s : Site E) : Prop :=
  ∀ k (live : Finset Nat),
    (∀ i ∈ live, Live (s.system.world.runs i).2 ∧ (s.system.world.runs i).1 = k) →
    waitingCost c s.queue k + ∑ i ∈ live, c.running (s.retries i) +
        c.delivery * s.deliveries k ≤
      c.grant * (1 + s.redeliveries k)

variable {c : Tariff}

theorem accounted_act (hknown : Known s) (h : Accounted c s) {after : System E}
    {jobs : List Job} (hadvances : Advances s after jobs) :
    Accounted c
      { s with system := after, queue := s.queue ++ jobs, sent := s.sent ++ jobs } := by
  intro k live hlive
  have hbefore : ∀ i ∈ live, Live (s.system.world.runs i).2 ∧ (s.system.world.runs i).1 = k := by
    intro i hi
    obtain ⟨hilive, hfile⟩ := hlive i hi
    obtain ⟨hwas, hsame⟩ := hadvances.runs i hilive
    exact ⟨hwas, hsame.symm.trans hfile⟩
  dsimp only
  rw [waitingCost_append]
  cases hadvances.jobs with
  | nothing => simpa [waitingCost] using h k live hbefore
  | upload hnew =>
      by_cases hk : s.system.world.store.knowledge.files.next = k
      · -- the file is new: no job, no run and no delivery of it is known
        have hqueue : waitingCost c s.queue k = 0 :=
          waitingCost_eq_zero c fun job hjob heq =>
            absurd (hknown.lt_of_queued hjob) (by omega)
        have hnone : live = ∅ := by
          refine Finset.eq_empty_of_forall_notMem fun i hi => ?_
          obtain ⟨hwas, hfile⟩ := hbefore i hi
          exact absurd (hknown.running i hwas).1 (by omega)
        obtain ⟨hdeliveries, hredeliveries⟩ := hknown.unborn k (Nat.le_of_eq hk)
        rw [waitingCost_singleton, if_pos hk, hqueue, hnone, hdeliveries, hredeliveries]
        simpa using c.sent 0 (Nat.zero_le _)
      · rw [waitingCost_singleton, if_neg hk]
        exact h k live hbefore
  | @retry run hrun hended hretries =>
      by_cases hk : (s.system.world.runs run).1 = k
      · -- the run that has ended pays for its retry
        have hout : run ∉ live := fun hmem => hended (hlive run hmem).1
        have hold := h k (insert run live) fun i hi => by
          rcases Finset.mem_insert.mp hi with rfl | hi
          · exact ⟨hrun, hk⟩
          · exact hbefore i hi
        rw [Finset.sum_insert hout] at hold
        rw [waitingCost_singleton, if_pos hk]
        have hpaid := c.retried (s.retries run) hretries
        dsimp only
        omega
      · rw [waitingCost_singleton, if_neg hk]
        exact h k live hbefore

theorem accounted_deliver (hknown : Known s) (h : Accounted c s) {run : Nat} {job : Job}
    (hjob : job ∈ s.queue) :
    Accounted c
      { s with
        system := { s.system with
          world := { s.system.world with
            runs := Function.update s.system.world.runs run (job.fileId, .started) } }
        queue := s.queue.erase job
        retries := Function.update s.retries run job.retries
        deliveries := Function.update s.deliveries job.fileId
          (s.deliveries job.fileId + 1) } := by
  intro k live hlive
  dsimp only at hlive ⊢
  have hothers : ∀ i ∈ live.erase run,
      Live (s.system.world.runs i).2 ∧ (s.system.world.runs i).1 = k := by
    intro i hi
    obtain ⟨hne, hmem⟩ := Finset.mem_erase.mp hi
    simpa only [Function.update_of_ne hne] using hlive i hmem
  have hsum : ∑ i ∈ live.erase run, c.running (Function.update s.retries run job.retries i) =
      ∑ i ∈ live.erase run, c.running (s.retries i) :=
    Finset.sum_congr rfl fun i hi => by
      rw [Function.update_of_ne (Finset.mem_erase.mp hi).1]
  have hold := h k (live.erase run) hothers
  rw [waitingCost_erase c hjob, waitingCost_singleton] at hold
  have hpaid := c.taken job.retries (hknown.sent job (hknown.queued job hjob)).2
  by_cases hk : job.fileId = k
  · subst hk
    rw [if_pos rfl] at hold
    rw [Function.update_self, Nat.mul_add, Nat.mul_one]
    by_cases hmem : run ∈ live
    · rw [← Finset.add_sum_erase live _ hmem, hsum, Function.update_self]
      omega
    · rw [Finset.erase_eq_of_notMem hmem] at hsum hold
      rw [hsum]
      omega
  · have hmem : run ∉ live := by
      intro hmem
      have hfile := (hlive run hmem).2
      rw [Function.update_self] at hfile
      exact hk hfile
    rw [Finset.erase_eq_of_notMem hmem] at hsum hold
    rw [if_neg hk] at hold
    rw [hsum, Function.update_of_ne (Ne.symm hk)]
    omega

theorem accounted_redeliver (hknown : Known s) (h : Accounted c s) {job : Job}
    (hjob : job ∈ s.sent) :
    Accounted c
      { s with
        queue := s.queue ++ [job]
        redeliveries := Function.update s.redeliveries job.fileId
          (s.redeliveries job.fileId + 1) } := by
  intro k live hlive
  have hold := h k live hlive
  dsimp only
  rw [waitingCost_append, waitingCost_singleton]
  by_cases hk : job.fileId = k
  · subst hk
    have hpaid := c.sent job.retries (hknown.sent job hjob).2
    rw [if_pos rfl, Function.update_self, ← Nat.add_assoc, Nat.mul_add, Nat.mul_one]
    omega
  · rw [if_neg hk, Function.update_of_ne (Ne.symm hk)]
    exact hold

theorem known_accounted_move (c : Tariff) {m : Move E} (h : Known s ∧ Accounted c s)
    (hmove : move s m = some t) : Known t ∧ Accounted c t := by
  cases m with
  | act action =>
      simp only [move] at hmove
      split at hmove
      · cases hmove
      · rename_i hbegins
        obtain ⟨after, hact, rfl⟩ := Option.map_eq_some_iff.mp hmove
        have hadvances := advances_act (Bool.eq_false_iff.mpr hbegins) hact
        exact ⟨known_act h.1 hadvances, accounted_act h.1 h.2 hadvances⟩
  | deliver run job =>
      simp only [move] at hmove
      split at hmove
      · rename_i hjob
        obtain ⟨after, hact, rfl⟩ := Option.map_eq_some_iff.mp hmove
        obtain ⟨-, rfl⟩ := act_start hact
        exact ⟨known_deliver h.1 hjob, accounted_deliver h.1 h.2 hjob⟩
      · cases hmove
  | redeliver job =>
      simp only [move] at hmove
      split at hmove
      · rename_i hjob
        cases hmove
        exact ⟨known_redeliver h.1 hjob, accounted_redeliver h.1 h.2 hjob⟩
      · cases hmove

end Accounts

/-- No job was sent yet, and nothing is under way. -/
structure Fresh (s : Site E) : Prop where
  idle : Idle s.system
  queue : s.queue = []
  sent : s.sent = []
  deliveries : ∀ k, s.deliveries k = 0
  redeliveries : ∀ k, s.redeliveries k = 0

theorem known_fresh (h : Fresh s) : Known s := by
  refine ⟨fun job hjob => ?_, fun job hjob => ?_, fun i hi => ?_,
    fun k _ => ⟨h.deliveries k, h.redeliveries k⟩⟩
  · rw [h.queue] at hjob
    cases hjob
  · rw [h.sent] at hjob
    cases hjob
  · exact absurd (h.idle.runs i).choose_spec (hi _)

theorem accounted_fresh (c : Tariff) (h : Fresh s) : Accounted c s := by
  intro k live hlive
  have hnone : live = ∅ :=
    Finset.eq_empty_of_forall_notMem fun i hi =>
      (hlive i hi).1 _ (h.idle.runs i).choose_spec
  rw [h.queue, hnone, h.deliveries k]
  simp [waitingCost]

theorem known_accounted_of_run (c : Tariff) {start : Site E} (hfresh : Fresh start)
    {guard : Site E → Move E → Prop} (hrun : Reaches move guard start t) :
    Known t ∧ Accounted c t :=
  invariant_of_reaches (fun s => Known s ∧ Accounted c s)
    (fun _ _ _ h _ hmove => known_accounted_move c h hmove)
    ⟨known_fresh hfresh, accounted_fresh c hfresh⟩ hrun

theorem waitingCost_places (queue : List Job) (k : Nat) :
    waitingCost places queue k = (queue.filter fun job => job.fileId = k).length := by
  simp [waitingCost, places]

theorem unused_of_queued (h : Accounted places s) {job : Job} (hjob : job ∈ s.queue)
    (honce : s.redeliveries job.fileId = 0) : Unused s.system.world job.fileId := by
  intro i hi hfile
  have hbound := h job.fileId {i} fun j hj => by
    rw [Finset.mem_singleton.mp hj]
    exact ⟨hi, hfile⟩
  have hwaits : 0 < (s.queue.filter fun other => other.fileId = job.fileId).length :=
    List.length_pos_of_mem (List.mem_filter.mpr ⟨hjob, decide_eq_true rfl⟩)
  rw [waitingCost_places, Finset.sum_singleton, honce] at hbound
  simp only [places] at hbound
  omega

/-- Whatever is requested, raised and killed, and in whatever order jobs are taken by any
number of workers: the jobs that wait for a file and the runs on it are together at most one
more than the broker has delivered again, and the file is processed at most four times for
each of them. -/
theorem jobs_accounted {start : Site E} (hfresh : Fresh start)
    (hrun : Reaches move anyStep start t) (k : Nat) :
    (∀ live : Finset Nat,
        (∀ i ∈ live, Live (t.system.world.runs i).2 ∧ (t.system.world.runs i).1 = k) →
        (t.queue.filter fun job => job.fileId = k).length + live.card ≤ 1 + t.redeliveries k) ∧
      t.deliveries k ≤ 4 * (1 + t.redeliveries k) := by
  constructor
  · intro live hlive
    have hbound := (known_accounted_of_run places hfresh hrun).2 k live hlive
    rw [waitingCost_places] at hbound
    simpa [places] using hbound
  · have hbound := (known_accounted_of_run attempts hfresh hrun).2 k ∅ (by simp)
    simp only [attempts, maxRetries, Nat.one_mul] at hbound
    omega

/-- Nothing was requested yet. -/
def quietSite : Site Unit where
  system := quietSystem
  queue := []
  sent := []
  retries := fun _ => 0
  deliveries := fun _ => 0
  redeliveries := fun _ => 0

theorem fresh_quietSite : Fresh quietSite :=
  ⟨idle_quietSystem, rfl, rfl, fun _ => rfl, fun _ => rfl⟩

/-- A run that loads the file, fails and stores its failure. -/
def failingRun (retries : Nat) : List (Move Unit) :=
  [.deliver 0 ⟨1, retries⟩, .act (.event (.statement 0 .done)),
    .act (.event (.statement 0 (.raise "timeout"))), .act (.event (.statement 0 .done))]

theorem quietSite_accounted :
    ∃ t, Reaches move anyStep quietSite t ∧
      (t.queue = [] ∧ t.deliveries 1 = 8 ∧ t.redeliveries 1 = 1) ∧
      t.deliveries 1 ≤ 4 * (1 + t.redeliveries 1) := by
  have hexists : ∃ t, Reaches move anyStep quietSite t ∧
      t.queue = [] ∧ t.deliveries 1 = 8 ∧ t.redeliveries 1 = 1 :=
    exists_reaches_of_replay
      (.act (.event (.request (fileFor .upload 1))) :: ((List.range 4).flatMap failingRun ++
        .redeliver ⟨1, 0⟩ :: (List.range 4).flatMap failingRun)) (by decide +kernel)
  obtain ⟨t, hrun, hend⟩ := hexists
  exact ⟨t, hrun, hend, (jobs_accounted fresh_quietSite hrun 1).2⟩

end Botman.KnowledgeJobs
