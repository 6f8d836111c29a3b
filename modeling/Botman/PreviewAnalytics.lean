import Mathlib.Data.List.Induction
import Botman.ChatEffects

/-!
Preview traffic and the analytics: a sequence of calls on one chatbot, the
messages each of them stores, and the messages that the filter
`conversation__is_preview=False` of the analytics counts afterwards.
-/

namespace Botman.PreviewAnalytics

open Botman.Library.KeyedTable
open Botman.Library.PythonValue
open Botman.DataModel
open Botman.TenantContext
open Botman.ChatbotSettings
open Botman.ChatService
open Botman.ChatEffects

/-- `conversation__chatbot=chatbot, conversation__is_preview=False`. -/
def isCounted (db : Database) (chatbot : Nat) (m : Message) : Bool :=
  (db.conversations.get? m.conversation).any fun c =>
    c.chatbot = chatbot && !c.isPreview

/-- The messages that the analytics of a chatbot count. -/
def countedMessages (db : Database) (chatbot : Nat) : List Message :=
  db.messages.rows.filter (isCounted db chatbot)

/-- The messages of one day, as `aggregate_daily_analytics` and, for today,
`AnalyticsOverviewView` select them. -/
def dailyMessages (db : Database) (chatbot date : Nat) : List Message :=
  db.messages.rows.filter fun m =>
    isCounted db chatbot m && decide (dateOf m.createdAt = date)

/-- A call with what it meets. -/
structure ChatJob where
  env : ChatEnv
  call : ChatCall

/-- The call gets past the detection of the language, to the database. -/
def ChatJob.touches (job : ChatJob) : Bool :=
  (job.call.previewMode || (len job.call.message).isSome) &&
    match (job.env.detect (chatBot job.call.bot job.call.previewMode).selectedLlm
      job.call.message).1 with
    | .str _ => true
    | _ => false

/-- The call stores a message: its text can be stored. -/
def ChatJob.stores (repr : Json → String) (job : ChatJob) : Bool :=
  job.touches && (textColumn repr job.call.message).isSome

/-- A database together with the messages stored so far, each with the call
that stored it. -/
structure Logged where
  db : Database
  log : List (ChatJob × Message)

/-- One call; the messages it stores are those that are new. -/
def handleJob (repr : Json → String) (state : Logged) (job : ChatJob) : Logged :=
  let db := (processChatMessage repr job.env state.db job.call).1
  { db := db
    log := state.log ++
      (db.messages.rows.drop state.db.messages.rows.length).map fun m => (job, m) }

/-- Calls one after the other, with a log of what each has stored. -/
def handleJobs (repr : Json → String) (db : Database) (jobs : List ChatJob) : Logged :=
  jobs.foldl (handleJob repr) { db := db, log := [] }

/-- The messages that calls outside a preview have stored. -/
def liveMessages (log : List (ChatJob × Message)) : List Message :=
  (log.filter fun entry => !entry.1.call.previewMode).map Prod.snd

/-- The mode of the last call for a visitor that got to the database. -/
def lastMode (visitorId : String) (jobs : List ChatJob) : Option Bool :=
  ((jobs.filter fun job => job.touches && decide (job.call.visitorId = visitorId)).getLast?).map
    fun job => job.call.previewMode

theorem lastMode_append_of_touches {job : ChatJob} (h : job.touches = true)
    (jobs : List ChatJob) :
    lastMode job.call.visitorId (jobs ++ [job]) = some job.call.previewMode := by
  simp [lastMode, h]

theorem lastMode_append_of_ne {job : ChatJob} {visitorId : String}
    (h : job.touches = true → job.call.visitorId ≠ visitorId) (jobs : List ChatJob) :
    lastMode visitorId (jobs ++ [job]) = lastMode visitorId jobs := by
  cases htouches : job.touches with
  | false => simp [lastMode, htouches]
  | true => simp [lastMode, h htouches]

theorem prepare_of_touches {job : ChatJob} (h : job.touches = true) :
    ∃ text, prepare job.env job.call = .ok text := by
  unfold ChatJob.touches at h
  unfold prepare
  simp only [Bool.and_eq_true, Bool.or_eq_true] at h
  obtain ⟨hsized, hlanguage⟩ := h
  rw [if_neg]
  · generalize job.env.detect (chatBot job.call.bot job.call.previewMode).selectedLlm
      job.call.message = detected at hlanguage ⊢
    obtain ⟨language, translated⟩ := detected
    cases language <;> simp at hlanguage ⊢
  · rintro ⟨hlive, hnone⟩
    rcases hsized with hpreview | hsome
    · rw [hlive] at hpreview
      cases hpreview
    · rw [Option.isNone_iff_eq_none.mp hnone] at hsome
      cases hsome

theorem prepare_of_not_touches {job : ChatJob} (h : job.touches = false) :
    ∃ e, prepare job.env job.call = .error e := by
  unfold ChatJob.touches at h
  unfold prepare
  split
  · exact ⟨_, rfl⟩
  · rename_i hsized
    have hsized' : (job.call.previewMode || (len job.call.message).isSome) = true := by
      cases hpreview : job.call.previewMode with
      | true => rfl
      | false =>
          cases hlen : len job.call.message with
          | none => exact absurd ⟨hpreview, by rw [hlen]; rfl⟩ hsized
          | some n => rfl
    rw [hsized', Bool.true_and] at h
    generalize job.env.detect (chatBot job.call.bot job.call.previewMode).selectedLlm
      job.call.message = detected at h ⊢
    obtain ⟨language, translated⟩ := detected
    cases language <;> simp at h ⊢

theorem processChatMessage_spec (repr : Json → String) (job : ChatJob) (db : Database)
    (hshown : ShowsBot db job.call.tenant job.call.bot.id)
    (hone : ∀ r ∈ db.conversations.rows, ∀ s ∈ db.conversations.rows,
      job.call.isFor r = true → job.call.isFor s = true → r.id = s.id) :
    let out := (processChatMessage repr job.env db job.call).1
    (job.touches = false ∧ out = db) ∨
      (job.touches = true ∧ out.chatbots = db.chatbots ∧
        ∃ opened c new, Opened db opened job.call c ∧
          out.conversations = opened.conversations ∧
          out.messages.rows = db.messages.rows ++ new ∧
          (∀ m ∈ new, m.conversation = c.id) ∧
          (new = [] ↔ (textColumn repr job.call.message).isNone = true)) := by
  intro out
  cases htouches : job.touches with
  | false =>
      obtain ⟨e, hprepare⟩ := prepare_of_not_touches htouches
      refine Or.inl ⟨rfl, ?_⟩
      simp [out, processChatMessage, hprepare]
  | true =>
      obtain ⟨⟨language, processing⟩, hprepare⟩ := prepare_of_touches htouches
      obtain ⟨c, hc, hopened⟩ := openConversation_spec job.env hshown hone
      have hout : out = (converse repr job.env (openConversation job.env db job.call).1
          job.call language processing c).1 := by
        simp only [out, processChatMessage_of_ok repr hprepare hc]
      obtain ⟨hbots, hrows, new, hnew, hin, hempty⟩ := converse_spec repr job.env job.call
        (openConversation job.env db job.call).1 language processing c
      refine Or.inr ⟨rfl, ?_, (openConversation job.env db job.call).1, c, new, hopened,
        ?_, ?_, hin, hempty⟩
      · rw [hout, hbots, hopened.chatbots]
      · rw [hout, hrows]
      · rw [hout, hnew, hopened.messages]

/-- A database in which a chatbot has no conversation yet, and every message
belongs to one that is stored. -/
structure Untouched (db : Database) (chatbot : Nat) : Prop where
  none : ∀ c ∈ db.conversations.rows, c.chatbot ≠ chatbot
  messages : ∀ m ∈ db.messages.rows, ∃ c ∈ db.conversations.rows, c.id = m.conversation

/-- Calls on a given chatbot, each in a context that shows it. -/
def OnChatbot (db : Database) (chatbot : Nat) (jobs : List ChatJob) : Prop :=
  ∀ job ∈ jobs, job.call.bot.id = chatbot ∧ ShowsBot db job.call.tenant chatbot

/-- What a sequence of calls leaves: one conversation per visitor, in the mode
of the visitor's last call, and each new message in the conversation of the
visitor whose call stored it. -/
structure Recorded (repr : Json → String) (start : Database) (chatbot : Nat)
    (jobs : List ChatJob) (state : Logged) : Prop where
  chatbots : state.db.chatbots = start.chatbots
  rows : state.db.messages.rows = start.messages.rows ++ state.log.map Prod.snd
  one : ∀ r ∈ state.db.conversations.rows, ∀ s ∈ state.db.conversations.rows,
    r.chatbot = chatbot → s.chatbot = chatbot →
      r.visitorIdentifier = s.visitorIdentifier → r = s
  mode : ∀ r ∈ state.db.conversations.rows, r.chatbot = chatbot →
    lastMode r.visitorIdentifier jobs = some r.isPreview
  old : ∀ m ∈ start.messages.rows, ∃ r ∈ state.db.conversations.rows,
    r.id = m.conversation ∧ r.chatbot ≠ chatbot
  logged : ∀ entry ∈ state.log, ∃ r ∈ state.db.conversations.rows,
    r.id = entry.2.conversation ∧ r.chatbot = chatbot ∧
      r.visitorIdentifier = entry.1.call.visitorId
  stored : ∀ job, (∃ m, (job, m) ∈ state.log) ↔ job ∈ jobs ∧ job.stores repr = true

section Run

variable {repr : Json → String} {start : Database} {chatbot : Nat} {jobs : List ChatJob}
  {state : Logged} {job : ChatJob}

theorem recorded_nil (h : Untouched start chatbot) :
    Recorded repr start chatbot [] { db := start, log := [] } := by
  refine ⟨rfl, by simp, ?_, ?_, ?_, by simp, by simp⟩
  · intro r hr _ _ hbot
    exact absurd hbot (h.none r hr)
  · intro r hr hbot
    exact absurd hbot (h.none r hr)
  · intro m hm
    obtain ⟨c, hc, hid⟩ := h.messages m hm
    exact ⟨c, hc, hid, h.none c hc⟩

theorem Recorded.skip (h : Recorded repr start chatbot jobs state)
    (htouches : job.touches = false)
    (hdb : (processChatMessage repr job.env state.db job.call).1 = state.db) :
    Recorded repr start chatbot (jobs ++ [job]) (handleJob repr state job) := by
  have hstate : handleJob repr state job = state := by
    simp [handleJob, hdb]
  rw [hstate]
  refine ⟨h.chatbots, h.rows, h.one, ?_, h.old, h.logged, ?_⟩
  · intro r hr hbot
    rw [lastMode_append_of_ne (by simp [htouches])]
    exact h.mode r hr hbot
  · intro other
    have hstores : job.stores repr = false := by simp [ChatJob.stores, htouches]
    rw [h.stored other, List.mem_append, List.mem_singleton]
    constructor
    · rintro ⟨hmem, hother⟩
      exact ⟨Or.inl hmem, hother⟩
    · rintro ⟨hmem | rfl, hother⟩
      · exact ⟨hmem, hother⟩
      · rw [hstores] at hother
        cases hother

theorem exists_mem_map_pair {other : ChatJob} {new : List Message} :
    (∃ m, (other, m) ∈ new.map fun m => (job, m)) ↔ other = job ∧ new ≠ [] := by
  constructor
  · rintro ⟨m, hm⟩
    obtain ⟨m', hm', heq⟩ := List.mem_map.mp hm
    exact ⟨(congrArg Prod.fst heq).symm, List.ne_nil_of_mem hm'⟩
  · rintro ⟨rfl, hne⟩
    obtain ⟨m, hm⟩ := List.exists_mem_of_ne_nil new hne
    exact ⟨m, List.mem_map_of_mem hm⟩

theorem Recorded.add (h : Recorded repr start chatbot jobs state)
    (hbot : job.call.bot.id = chatbot) (htouches : job.touches = true)
    {opened : Database} {c : Conversation} {new : List Message}
    (hopened : Opened state.db opened job.call c)
    (hbots : (processChatMessage repr job.env state.db job.call).1.chatbots =
      state.db.chatbots)
    (hrows : (processChatMessage repr job.env state.db job.call).1.conversations =
      opened.conversations)
    (hnew : (processChatMessage repr job.env state.db job.call).1.messages.rows =
      state.db.messages.rows ++ new)
    (hin : ∀ m ∈ new, m.conversation = c.id)
    (hempty : new = [] ↔ (textColumn repr job.call.message).isNone = true) :
    Recorded repr start chatbot (jobs ++ [job]) (handleJob repr state job) := by
  subst hbot
  obtain ⟨hcbot, hcvisitor⟩ := ChatCall.isFor_iff.mp hopened.isFor
  have hlog : (handleJob repr state job).log =
      state.log ++ new.map fun m => (job, m) := by
    simp [handleJob, hnew]
  have hconversations : (handleJob repr state job).db.conversations = opened.conversations :=
    hrows
  refine ⟨hbots.trans h.chatbots, ?_, ?_, ?_, ?_, ?_, ?_⟩
  · simp [handleJob, hnew, h.rows, Function.comp_def]
  · rw [hconversations]
    exact hopened.eq_of_visitor h.one
  · rw [hconversations]
    intro r hr hrbot
    rcases (hopened.mem r).mp hr with rfl | ⟨hr, hrfor⟩
    · rw [hcvisitor, hopened.mode]
      exact lastMode_append_of_touches htouches jobs
    · rw [lastMode_append_of_ne fun _ => (visitor_ne_of_not_isFor hrbot hrfor).symm]
      exact h.mode r hr hrbot
  · rw [hconversations]
    intro m hm
    obtain ⟨r, hr, hid, hrbot⟩ := h.old m hm
    obtain ⟨s, hs, hsid, hsbot, -⟩ := hopened.exists_kept hr
    exact ⟨s, hs, hsid.trans hid, hsbot ▸ hrbot⟩
  · rw [hconversations, hlog]
    intro entry hentry
    rcases List.mem_append.mp hentry with hentry | hentry
    · obtain ⟨r, hr, hid, hrbot, hrvisitor⟩ := h.logged entry hentry
      obtain ⟨s, hs, hsid, hsbot, hsvisitor⟩ := hopened.exists_kept hr
      exact ⟨s, hs, hsid.trans hid, hsbot.trans hrbot, hsvisitor.trans hrvisitor⟩
    · obtain ⟨m, hm, rfl⟩ := List.mem_map.mp hentry
      exact ⟨c, (hopened.mem c).mpr (Or.inl rfl), (hin m hm).symm, hcbot, hcvisitor⟩
  · intro other
    have hstores : job.stores repr = true ↔ new ≠ [] := by
      rw [ne_eq, hempty, ChatJob.stores, htouches]
      cases textColumn repr job.call.message <;> simp
    have hjob : other = job ∧ new ≠ [] ↔ other = job ∧ other.stores repr = true :=
      and_congr_right fun heq => by rw [heq, hstores]
    simp only [hlog, List.mem_append, exists_or, h.stored other, exists_mem_map_pair, hjob,
      List.mem_singleton, or_and_right]

theorem Recorded.step (h : Recorded repr start chatbot jobs state)
    (hbot : job.call.bot.id = chatbot) (hshown : ShowsBot start job.call.tenant chatbot) :
    Recorded repr start chatbot (jobs ++ [job]) (handleJob repr state job) := by
  have hone : ∀ r ∈ state.db.conversations.rows, ∀ s ∈ state.db.conversations.rows,
      job.call.isFor r = true → job.call.isFor s = true → r.id = s.id := by
    intro r hr s hs hrfor hsfor
    obtain ⟨hrbot, hrvisitor⟩ := ChatCall.isFor_iff.mp hrfor
    obtain ⟨hsbot, hsvisitor⟩ := ChatCall.isFor_iff.mp hsfor
    rw [h.one r hr s hs (hrbot.trans hbot) (hsbot.trans hbot)
      (hrvisitor.trans hsvisitor.symm)]
  have hshown' : ShowsBot state.db job.call.tenant job.call.bot.id :=
    hbot ▸ hshown.of_chatbots h.chatbots
  rcases processChatMessage_spec repr job state.db hshown' hone with
    ⟨htouches, hdb⟩ | ⟨htouches, hbots, opened, c, new, hopened, hrows, hnew, hin, hempty⟩
  · exact h.skip htouches hdb
  · exact h.add hbot htouches hopened hbots hrows hnew hin hempty

theorem handleJobs_recorded (hstart : Untouched start chatbot)
    (hjobs : OnChatbot start chatbot jobs) :
    Recorded repr start chatbot jobs (handleJobs repr start jobs) := by
  induction jobs using List.reverseRecOn with
  | nil => exact recorded_nil hstart
  | append_singleton jobs job ih =>
      obtain ⟨hbot, hshown⟩ := hjobs job (by simp)
      have hbefore := ih fun other hother => hjobs other (List.mem_append_left _ hother)
      unfold handleJobs at hbefore ⊢
      rw [List.foldl_append]
      exact hbefore.step hbot hshown

theorem Recorded.isCounted_iff (h : Recorded repr start chatbot jobs state)
    {entry : ChatJob × Message} (hentry : entry ∈ state.log) :
    isCounted state.db chatbot entry.2 = true ↔
      lastMode entry.1.call.visitorId jobs = some false := by
  obtain ⟨r, hr, hid, hbot, hvisitor⟩ := h.logged entry hentry
  have hget : state.db.conversations.get? entry.2.conversation = some r :=
    (state.db.conversations.get?_eq_some_iff).mpr ⟨hr, hid⟩
  rw [← hvisitor, h.mode r hr hbot]
  simp [isCounted, hget, hbot]

theorem Recorded.isCounted_old (h : Recorded repr start chatbot jobs state) {m : Message}
    (hm : m ∈ start.messages.rows) : isCounted state.db chatbot m = false := by
  obtain ⟨r, hr, hid, hbot⟩ := h.old m hm
  have hget : state.db.conversations.get? m.conversation = some r :=
    (state.db.conversations.get?_eq_some_iff).mpr ⟨hr, hid⟩
  simp [isCounted, hget, hbot]

theorem Recorded.countedMessages_eq (h : Recorded repr start chatbot jobs state) :
    countedMessages state.db chatbot =
      (state.log.filter fun entry => isCounted state.db chatbot entry.2).map Prod.snd := by
  unfold countedMessages
  rw [h.rows, List.filter_append, List.filter_map]
  have hold : start.messages.rows.filter (isCounted state.db chatbot) = [] := by
    rw [List.filter_eq_nil_iff]
    intro m hm
    rw [h.isCounted_old hm]
    exact Bool.false_ne_true
  rw [hold, List.nil_append]
  rfl

theorem Recorded.snd_injective (h : Recorded repr start chatbot jobs state)
    {entry other : ChatJob × Message} (hentry : entry ∈ state.log) (hother : other ∈ state.log)
    (heq : entry.2 = other.2) : entry = other := by
  have hnodup : (state.log.map Prod.snd).Nodup := by
    have hall : (start.messages.rows ++ state.log.map Prod.snd).Nodup :=
      h.rows ▸ List.Nodup.of_map _ state.db.messages.nodup
    exact (List.nodup_append.mp hall).2.1
  exact List.inj_on_of_nodup_map hnodup hentry hother heq

theorem Recorded.counted_eq_live_iff (h : Recorded repr start chatbot jobs state) :
    countedMessages state.db chatbot = liveMessages state.log ↔
      ∀ entry ∈ state.log,
        lastMode entry.1.call.visitorId jobs = some entry.1.call.previewMode := by
  have hmode : ∀ entry ∈ state.log, ∃ flag,
      lastMode entry.1.call.visitorId jobs = some flag := by
    intro entry hentry
    obtain ⟨r, hr, -, hbot, hvisitor⟩ := h.logged entry hentry
    exact ⟨r.isPreview, hvisitor ▸ h.mode r hr hbot⟩
  rw [h.countedMessages_eq, liveMessages]
  constructor
  · intro heq entry hentry
    obtain ⟨flag, hflag⟩ := hmode entry hentry
    have hiff : isCounted state.db chatbot entry.2 = true ↔
        entry.1.call.previewMode = false := by
      have hmem : ∀ (keep : ChatJob × Message → Bool),
          entry.2 ∈ (state.log.filter keep).map Prod.snd ↔ keep entry = true := by
        intro keep
        constructor
        · intro hin
          obtain ⟨other, hother, hsnd⟩ := List.mem_map.mp hin
          obtain ⟨hother, hkeep⟩ := List.mem_filter.mp hother
          rwa [h.snd_injective hentry hother hsnd.symm]
        · intro hkeep
          exact List.mem_map_of_mem (List.mem_filter.mpr ⟨hentry, hkeep⟩)
      have hcounted := hmem fun e => isCounted state.db chatbot e.2
      rw [heq, hmem fun e => !e.1.call.previewMode] at hcounted
      simpa using hcounted.symm
    rw [h.isCounted_iff hentry, hflag] at hiff
    rw [hflag]
    cases flag <;> cases hpreview : entry.1.call.previewMode <;> simp_all
  · intro hall
    congr 1
    apply List.filter_congr
    intro entry hentry
    have hiff := h.isCounted_iff hentry
    rw [hall entry hentry] at hiff
    cases hcounted : isCounted state.db chatbot entry.2 <;>
      cases hpreview : entry.1.call.previewMode <;> simp_all

end Run

theorem dailyMessages_eq (db : Database) (chatbot date : Nat) :
    dailyMessages db chatbot date =
      (countedMessages db chatbot).filter fun m => decide (dateOf m.createdAt = date) := by
  rw [countedMessages, List.filter_filter]
  apply List.filter_congr
  intro m _
  exact Bool.and_comm _ _

/-- After any sequence of calls on a chatbot, with any visitors and modes, the
analytics count exactly the messages stored by live calls if and only if every
call that stored a message was made in the mode of the last call for its
visitor. -/
theorem analytics_exact_iff (repr : Json → String) (start : Database) (chatbot : Nat)
    (jobs : List ChatJob) (hstart : Untouched start chatbot)
    (hjobs : OnChatbot start chatbot jobs) :
    let final := handleJobs repr start jobs
    (countedMessages final.db chatbot = liveMessages final.log ∧
      ∀ date, dailyMessages final.db chatbot date =
        (liveMessages final.log).filter fun m => decide (dateOf m.createdAt = date)) ↔
      ∀ job ∈ jobs, job.stores repr = true →
        lastMode job.call.visitorId jobs = some job.call.previewMode := by
  intro final
  have hrecorded : Recorded repr start chatbot jobs final :=
    handleJobs_recorded hstart hjobs
  have hdaily : countedMessages final.db chatbot = liveMessages final.log →
      ∀ date, dailyMessages final.db chatbot date =
        (liveMessages final.log).filter fun m => decide (dateOf m.createdAt = date) := by
    intro heq date
    rw [dailyMessages_eq, heq]
  rw [and_iff_left_of_imp hdaily, hrecorded.counted_eq_live_iff]
  constructor
  · intro hall job hjob hstores
    obtain ⟨m, hm⟩ := (hrecorded.stored job).mpr ⟨hjob, hstores⟩
    exact hall (job, m) hm
  · rintro hall ⟨job, m⟩ hentry
    obtain ⟨hjob, hstores⟩ := (hrecorded.stored job).mp ⟨m, hentry⟩
    exact hall job hjob hstores

def plainJobs (calls : List (String × Bool)) : List ChatJob :=
  calls.map fun call => { env := plainEnv, call := plainCall call.1 call.2 }

theorem untouched_supportDb : Untouched supportDb supportBot.id :=
  ⟨by simp [supportDb, Database.empty, Table.empty],
    by simp [supportDb, Database.empty, Table.empty]⟩

theorem onChatbot_plainJobs (calls : List (String × Bool)) :
    OnChatbot supportDb supportBot.id (plainJobs calls) := by
  intro job hjob
  obtain ⟨call, -, rfl⟩ := List.mem_map.mp hjob
  exact ⟨rfl, showsBot_supportDb⟩

/-- A visitor who is previewed after a live exchange disappears from the
analytics; one who goes live after a preview brings the preview along. -/
theorem mixedVisitor_miscounted :
    let hidden := handleJobs noRepr supportDb (plainJobs [("v", false), ("v", true)])
    let polluted := handleJobs noRepr supportDb (plainJobs [("v", true), ("v", false)])
    (liveMessages hidden.log).length = 2 ∧
      countedMessages hidden.db supportBot.id = [] ∧
      (liveMessages polluted.log).length = 2 ∧
      (countedMessages polluted.db supportBot.id).length = 4 := by
  decide +kernel

theorem separateVisitors_exact :
    let final := handleJobs noRepr supportDb (plainJobs [("a", false), ("b", true), ("a", false)])
    (liveMessages final.log).length = 4 ∧
      countedMessages final.db supportBot.id = liveMessages final.log ∧
      ∀ date, dailyMessages final.db supportBot.id date =
        (liveMessages final.log).filter fun m => decide (dateOf m.createdAt = date) := by
  refine ⟨by decide +kernel, ?_⟩
  refine (analytics_exact_iff noRepr supportDb supportBot.id _ untouched_supportDb
    (onChatbot_plainJobs _)).mpr ?_
  decide

end Botman.PreviewAnalytics
