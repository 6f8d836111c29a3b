import Mathlib.Algebra.Field.Rat
import Botman.PreviewAnalytics

/-!
The daily analytics: the tables that the task `aggregate_daily_analytics`
reads and fills, and what a run of it stores.

The columns `total_messages` and the like are one record, the `defaults` of
the call to `update_or_create`.
-/

namespace Botman.AnalyticsTask

open Botman.Library.KeyedTable
open Botman.DataModel
open Botman.PreviewAnalytics

/-- A row of `Session`. -/
structure Session where
  id : Nat
  visitor : Nat
  startedAt : Nat
  lastActivity : Nat
  isActive : Bool
  deriving DecidableEq

/-- The columns of `BotAnalyticsDaily` that the task computes. -/
structure DailyStats where
  totalMessages : Nat
  activeSessions : Nat
  avgLatency : ℚ
  totalTokens : Int
  knowledgeHitRate : ℚ
  deriving DecidableEq

/-- A row of `BotAnalyticsDaily`, of which a chatbot has one for a date. -/
structure BotAnalyticsDaily extends DailyStats where
  id : Nat
  chatbot : Nat
  date : Nat
  deriving DecidableEq

structure TelegramIntegration where
  id : Nat
  chatbot : Nat
  telegramBotTokenEncrypted : String
  telegramBotUsername : Option String
  webhookUrl : Option String
  isActive : Bool
  deriving DecidableEq

instance : HasKey Session where
  key := Session.id
  withKey := fun n r => { r with id := n }
  key_withKey := fun _ _ => rfl

instance : HasKey BotAnalyticsDaily where
  key := BotAnalyticsDaily.id
  withKey := fun n r => { r with id := n }
  key_withKey := fun _ _ => rfl

instance : HasKey TelegramIntegration where
  key := TelegramIntegration.id
  withKey := fun n r => { r with id := n }
  key_withKey := fun _ _ => rfl

/-- The lookup of `update_or_create`. -/
def BotAnalyticsDaily.isFor (chatbot date : Nat) (r : BotAnalyticsDaily) : Bool :=
  r.chatbot = chatbot && r.date = date

theorem BotAnalyticsDaily.isFor_iff {chatbot date : Nat} {r : BotAnalyticsDaily} :
    r.isFor chatbot date = true ↔ r.chatbot = chatbot ∧ r.date = date := by
  simp [isFor]

/-- The database with the tables of the analytics.  A chatbot has at most one
row for a date (`unique_together`). -/
structure Store extends Database where
  sessions : Table Session
  dailyAnalytics : Table BotAnalyticsDaily
  telegramIntegrations : Table TelegramIntegration
  dailyUnique : ∀ r ∈ dailyAnalytics.rows, ∀ s ∈ dailyAnalytics.rows,
    r.chatbot = s.chatbot → r.date = s.date → r = s

def Store.empty : Store where
  toDatabase := .empty
  sessions := .empty
  dailyAnalytics := .empty
  telegramIntegrations := .empty
  dailyUnique := fun _ hr => by cases hr

/-- `aggregate(Avg('latency'))`, or zero where no message has a latency. -/
def avgLatency (messages : List Message) : ℚ :=
  let values := messages.filterMap Message.latency
  if values.isEmpty then 0 else values.sum / values.length

/-- `aggregate(Sum('token_usage'))`, or zero. -/
def sumTokens (messages : List Message) : Int :=
  (messages.map Message.tokenUsage).sum

/-- `Session.objects.filter(conversations__messages__in=messages).distinct().count()`. -/
def countSessions (store : Store) (messages : List Message) : Nat :=
  (store.sessions.rows.filter fun s =>
    messages.any fun m =>
      (store.conversations.get? m.conversation).any fun c => c.session = some s.id).length

def isBotMessage (m : Message) : Bool :=
  m.sender = .bot

def fromKnowledge (m : Message) : Bool :=
  m.source = some "knowledge"

/-- The numbers of a day without messages. -/
def emptyStats : DailyStats where
  totalMessages := 0
  activeSessions := 0
  avgLatency := 0
  totalTokens := 0
  knowledgeHitRate := 0

/-- The body of the loop over the chatbots, up to the write. -/
def dailyStats (store : Store) (chatbot date : Nat) : DailyStats :=
  let messages := dailyMessages store.toDatabase chatbot date
  if messages.length = 0 then emptyStats
  else
    let botMessages := messages.filter isBotMessage
    let knowledgeMessages := (botMessages.filter fromKnowledge).length
    { totalMessages := messages.length
      activeSessions := countSessions store messages
      avgLatency := avgLatency botMessages
      totalTokens := sumTokens messages
      knowledgeHitRate :=
        if 0 < botMessages.length then (knowledgeMessages : ℚ) / botMessages.length * 100
        else 0 }

theorem totalMessages_dailyStats (store : Store) (chatbot date : Nat) :
    (dailyStats store chatbot date).totalMessages =
      (dailyMessages store.toDatabase chatbot date).length := by
  simp only [dailyStats]
  split
  · rename_i hzero
    rw [hzero]
    rfl
  · rfl

theorem totalTokens_dailyStats (store : Store) (chatbot date : Nat) :
    (dailyStats store chatbot date).totalTokens =
      sumTokens (dailyMessages store.toDatabase chatbot date) := by
  simp only [dailyStats]
  split
  · rename_i hzero
    rw [List.eq_nil_of_length_eq_zero hzero]
    rfl
  · rfl

/-- The row of a chatbot for a date. -/
def dailyRow? (store : Store) (chatbot date : Nat) : Option BotAnalyticsDaily :=
  store.dailyAnalytics.rows.find? (BotAnalyticsDaily.isFor chatbot date)

theorem dailyRow?_eq_some_iff (store : Store) {chatbot date : Nat} {r : BotAnalyticsDaily} :
    dailyRow? store chatbot date = some r ↔
      r ∈ store.dailyAnalytics.rows ∧ r.chatbot = chatbot ∧ r.date = date := by
  unfold dailyRow?
  rw [Table.find?_eq_some_iff_of_unique, BotAnalyticsDaily.isFor_iff]
  intro r hr s hs hforr hfors
  obtain ⟨hbotr, hdater⟩ := BotAnalyticsDaily.isFor_iff.mp hforr
  obtain ⟨hbots, hdates⟩ := BotAnalyticsDaily.isFor_iff.mp hfors
  exact store.dailyUnique r hr s hs (hbotr.trans hbots.symm) (hdater.trans hdates.symm)

theorem dailyRow?_eq_none_iff (store : Store) {chatbot date : Nat} :
    dailyRow? store chatbot date = none ↔
      ∀ r ∈ store.dailyAnalytics.rows, ¬(r.chatbot = chatbot ∧ r.date = date) := by
  simp [dailyRow?, List.find?_eq_none, BotAnalyticsDaily.isFor]

theorem filter_isFor (store : Store) (chatbot date : Nat) :
    store.dailyAnalytics.rows.filter (BotAnalyticsDaily.isFor chatbot date) =
      (dailyRow? store chatbot date).toList := by
  refine store.dailyAnalytics.filter_eq_toList_find? fun r hr s hs hfor hfor' => ?_
  obtain ⟨hbot, hdate⟩ := BotAnalyticsDaily.isFor_iff.mp hfor
  obtain ⟨hbot', hdate'⟩ := BotAnalyticsDaily.isFor_iff.mp hfor'
  rw [store.dailyUnique r hr s hs (hbot.trans hbot'.symm) (hdate.trans hdate'.symm)]

/-- The table after `update_or_create(chatbot, date, defaults)`. -/
def upsertedDaily (store : Store) (chatbot date : Nat) (defaults : DailyStats) :
    Table BotAnalyticsDaily :=
  match dailyRow? store chatbot date with
  | some r => store.dailyAnalytics.save { r with toDailyStats := defaults }
  | none =>
      store.dailyAnalytics.create
        { toDailyStats := defaults, id := 0, chatbot := chatbot, date := date }

theorem mem_upsertedDaily (store : Store) (chatbot date : Nat) (defaults : DailyStats) :
    ∃ new : BotAnalyticsDaily,
      new.chatbot = chatbot ∧ new.date = date ∧ new.toDailyStats = defaults ∧
        ∀ r, r ∈ (upsertedDaily store chatbot date defaults).rows ↔
          r = new ∨ (r ∈ store.dailyAnalytics.rows ∧ ¬(r.chatbot = chatbot ∧ r.date = date)) := by
  unfold upsertedDaily
  cases hrow : dailyRow? store chatbot date with
  | none =>
      refine ⟨store.dailyAnalytics.created
        { toDailyStats := defaults, id := 0, chatbot := chatbot, date := date },
        rfl, rfl, rfl, fun r => ?_⟩
      rw [Table.mem_create, or_comm]
      have hnone := (dailyRow?_eq_none_iff store).mp hrow
      exact or_congr Iff.rfl ⟨fun hr => ⟨hr, hnone r hr⟩, And.left⟩
  | some old =>
      obtain ⟨hold, hbot, hdate⟩ := (dailyRow?_eq_some_iff store).mp hrow
      refine ⟨{ old with toDailyStats := defaults }, hbot, hdate, rfl, fun r => ?_⟩
      rw [Table.mem_save]
      refine or_congr Iff.rfl (and_congr_right fun hr => ?_)
      -- the only row for the chatbot and the date is the one with the key of `old`
      constructor
      · rintro hkey ⟨hrbot, hrdate⟩
        have hrold := store.dailyUnique r hr old hold (hrbot.trans hbot.symm)
          (hrdate.trans hdate.symm)
        exact hkey (hrold ▸ rfl)
      · rintro hne hkey
        rw [store.dailyAnalytics.eq_of_key_eq hr hold hkey] at hne
        exact hne ⟨hbot, hdate⟩

/-- `update_or_create`, which keeps the rows unique. -/
def updateOrCreate (store : Store) (chatbot date : Nat) (defaults : DailyStats) : Store :=
  { store with
    dailyAnalytics := upsertedDaily store chatbot date defaults
    dailyUnique := by
      obtain ⟨new, hbot, hdate, -, hmem⟩ := mem_upsertedDaily store chatbot date defaults
      intro r hr s hs hbots hdates
      rcases (hmem r).mp hr with rfl | ⟨hr, hrne⟩
      · rcases (hmem s).mp hs with rfl | ⟨-, hsne⟩
        · rfl
        · exact absurd ⟨hbots.symm.trans hbot, hdates.symm.trans hdate⟩ hsne
      · rcases (hmem s).mp hs with rfl | ⟨hs, -⟩
        · exact absurd ⟨hbots.trans hbot, hdates.trans hdate⟩ hrne
        · exact store.dailyUnique r hr s hs hbots hdates }

/-- `aggregate_daily_analytics` works on yesterday unless a date is given. -/
def targetDate (dateStr : Option Nat) (now : Nat) : Nat :=
  dateStr.getD (dateOf now - 1)

/-- The body of the loop over the chatbots. -/
def aggregateChatbot (date : Nat) (store : Store) (bot : Chatbot) : Store :=
  updateOrCreate store bot.id date (dailyStats store bot.id date)

/-- `aggregate_daily_analytics`, run by a worker, where no tenant is set. -/
def aggregateDailyAnalytics (store : Store) (date : Nat) : Store :=
  store.chatbots.rows.foldl (aggregateChatbot date) store

/-- The stores that differ in the daily rows only. -/
structure SameSources (s t : Store) : Prop where
  database : t.toDatabase = s.toDatabase
  sessions : t.sessions = s.sessions

theorem dailyStats_congr {s t : Store} (h : SameSources s t) (chatbot date : Nat) :
    dailyStats t chatbot date = dailyStats s chatbot date := by
  simp only [dailyStats, countSessions, h.database, h.sessions]

theorem sameSources_updateOrCreate (store : Store) (chatbot date : Nat)
    (defaults : DailyStats) : SameSources store (updateOrCreate store chatbot date defaults) :=
  ⟨rfl, rfl⟩

theorem dailyRow?_updateOrCreate_self (store : Store) (chatbot date : Nat)
    (defaults : DailyStats) :
    ∃ r, dailyRow? (updateOrCreate store chatbot date defaults) chatbot date = some r ∧
      r.toDailyStats = defaults := by
  obtain ⟨new, hbot, hdate, hstats, hmem⟩ := mem_upsertedDaily store chatbot date defaults
  refine ⟨new, (dailyRow?_eq_some_iff _).mpr ⟨(hmem new).mpr (Or.inl rfl), hbot, hdate⟩, hstats⟩

theorem dailyRow?_updateOrCreate_of_ne (store : Store) {chatbot date b d : Nat}
    (defaults : DailyStats) (hne : ¬(b = chatbot ∧ d = date)) :
    dailyRow? (updateOrCreate store chatbot date defaults) b d = dailyRow? store b d := by
  obtain ⟨new, hbot, hdate, -, hmem⟩ := mem_upsertedDaily store chatbot date defaults
  ext r
  rw [dailyRow?_eq_some_iff, dailyRow?_eq_some_iff]
  refine and_congr_left fun hr => ?_
  rw [show r ∈ (updateOrCreate store chatbot date defaults).dailyAnalytics.rows ↔ _ from hmem r]
  constructor
  · rintro (rfl | ⟨hold, -⟩)
    · exact absurd ⟨hr.1.symm.trans hbot, hr.2.symm.trans hdate⟩ hne
    · exact hold
  · intro hold
    exact Or.inr ⟨hold, fun h => hne ⟨hr.1.symm.trans h.1, hr.2.symm.trans h.2⟩⟩

theorem sameSources_foldl_aggregateChatbot (date : Nat) (bots : List Chatbot) (store : Store) :
    SameSources store (bots.foldl (aggregateChatbot date) store) := by
  induction bots generalizing store with
  | nil => exact ⟨rfl, rfl⟩
  | cons bot rest ih =>
      have hstep := sameSources_updateOrCreate store bot.id date (dailyStats store bot.id date)
      have hrest := ih (aggregateChatbot date store bot)
      exact ⟨hrest.database.trans hstep.database, hrest.sessions.trans hstep.sessions⟩

theorem dailyRow?_foldl_of_ne {date b d : Nat} (bots : List Chatbot) (store : Store)
    (hne : ∀ bot ∈ bots, ¬(b = bot.id ∧ d = date)) :
    dailyRow? (bots.foldl (aggregateChatbot date) store) b d = dailyRow? store b d := by
  induction bots generalizing store with
  | nil => rfl
  | cons bot rest ih =>
      rw [List.foldl_cons, ih _ fun other hother => hne other (List.mem_cons_of_mem _ hother)]
      exact dailyRow?_updateOrCreate_of_ne store _ (hne bot List.mem_cons_self)

theorem dailyRow?_foldl_of_mem {date b : Nat} (bots : List Chatbot) (store : Store)
    (hmem : ∃ bot ∈ bots, bot.id = b) :
    ∃ r, dailyRow? (bots.foldl (aggregateChatbot date) store) b date = some r ∧
      r.toDailyStats = dailyStats store b date := by
  induction bots generalizing store with
  | nil => simp at hmem
  | cons bot rest ih =>
      have hstep := sameSources_updateOrCreate store bot.id date (dailyStats store bot.id date)
      rw [List.foldl_cons]
      by_cases hrest : ∃ other ∈ rest, other.id = b
      · obtain ⟨r, hr, hstats⟩ := ih (aggregateChatbot date store bot) hrest
        exact ⟨r, hr, hstats.trans (dailyStats_congr hstep b date)⟩
      · have hbot : bot.id = b := by
          obtain ⟨other, hother, hid⟩ := hmem
          rcases List.mem_cons.mp hother with rfl | hother
          · exact hid
          · exact absurd ⟨other, hother, hid⟩ hrest
        obtain ⟨r, hr, hstats⟩ :=
          dailyRow?_updateOrCreate_self store bot.id date (dailyStats store bot.id date)
        refine ⟨r, ?_, hbot ▸ hstats⟩
        rw [dailyRow?_foldl_of_ne rest _ fun other hother h => hrest ⟨other, hother, h.1.symm⟩]
        exact hbot ▸ hr

theorem sameSources_aggregate (store : Store) (date : Nat) :
    SameSources store (aggregateDailyAnalytics store date) :=
  sameSources_foldl_aggregateChatbot date store.chatbots.rows store

theorem dailyRow?_aggregate_self (store : Store) (date : Nat) {b : Nat}
    (hbot : ∃ bot ∈ store.chatbots.rows, bot.id = b) :
    ∃ r, dailyRow? (aggregateDailyAnalytics store date) b date = some r ∧
      r.toDailyStats = dailyStats store b date :=
  dailyRow?_foldl_of_mem store.chatbots.rows store hbot

theorem dailyRow?_aggregate_of_ne (store : Store) {date b d : Nat}
    (hne : d ≠ date ∨ ∀ bot ∈ store.chatbots.rows, bot.id ≠ b) :
    dailyRow? (aggregateDailyAnalytics store date) b d = dailyRow? store b d := by
  refine dailyRow?_foldl_of_ne store.chatbots.rows store fun bot hbot h => ?_
  rcases hne with hdate | hbots
  · exact hdate h.2
  · exact hbots bot hbot h.1.symm

end Botman.AnalyticsTask
