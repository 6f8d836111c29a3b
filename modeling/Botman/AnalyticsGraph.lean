import Mathlib.Data.Rat.Floor
import Mathlib.Tactic.FieldSimp
import Botman.AnalyticsApi

/-!
A day in the graph, while it is today and after it: the first entry is counted
from the messages, the other one recovered from the row that
`aggregate_daily_analytics` wrote.
-/

namespace Botman.AnalyticsGraph

open Botman.Library.KeyedTable
open Botman.DataModel
open Botman.ChatEffects
open Botman.PreviewAnalytics
open Botman.AnalyticsTask
open Botman.AnalyticsApi

/-- The numbers of an entry that are shown for live and for stored days. -/
structure DayCounts where
  messages : Nat
  tokens : Int
  knowledgeHits : Int
  apiHits : Int
  knowledgeHitRate : ℚ
  deriving DecidableEq

/-- The numbers of an entry that count messages. -/
def counts (entry : GraphEntry) : DayCounts where
  messages := entry.messages
  tokens := entry.tokens
  knowledgeHits := entry.knowledgeHits
  apiHits := entry.apiHits
  knowledgeHitRate := entry.knowledgeHitRate

/-- User messages have no source, bot messages one of the two that
`process_chat_message` writes. -/
def HasSource (m : Message) : Prop :=
  (m.sender = .user ∧ m.source = none) ∨
    (m.sender = .bot ∧ (m.source = some "knowledge" ∨ m.source = some "ai_api"))

section Counting

variable {messages : List Message}

theorem filter_fromKnowledge_bot (h : ∀ m ∈ messages, HasSource m) :
    (messages.filter isBotMessage).filter fromKnowledge = messages.filter fromKnowledge := by
  rw [List.filter_filter]
  refine List.filter_congr fun m hm => ?_
  rcases h m hm with ⟨hsender, hsource⟩ | ⟨hsender, -⟩
  · simp [fromKnowledge, hsource]
  · simp [isBotMessage, hsender]

theorem length_bot_messages (h : ∀ m ∈ messages, HasSource m) :
    (messages.filter isBotMessage).length =
      (messages.filter fromKnowledge).length + (messages.filter fromApi).length := by
  have hapi : (messages.filter isBotMessage).filter (fun m => !fromKnowledge m) =
      messages.filter fromApi := by
    rw [List.filter_filter]
    refine List.filter_congr fun m hm => ?_
    rcases h m hm with ⟨hsender, hsource⟩ | ⟨hsender, hsource | hsource⟩
    · simp [isBotMessage, fromApi, hsender, hsource]
    · simp [isBotMessage, fromApi, fromKnowledge, hsender, hsource]
    · simp [isBotMessage, fromApi, fromKnowledge, hsender, hsource]
  rw [List.length_eq_length_filter_add fromKnowledge, filter_fromKnowledge_bot h, hapi]

theorem length_bot_eq_iff :
    (messages.filter isBotMessage).length = messages.length ↔ ∀ m ∈ messages, m.sender = .bot := by
  simp [List.length_filter_eq_length_iff, isBotMessage]

theorem truncate_natCast (k : Nat) : truncate (k : ℚ) = k := by
  have hcast : ((k : Int) : ℚ) = (k : ℚ) := Int.cast_natCast k
  rw [truncate, if_pos (Nat.cast_nonneg k), ← hcast, Rat.floor_intCast]

theorem length_mul_hitRate (messages : List Message) :
    (messages.length : ℚ) * (hitRate messages / 100) = (messages.filter fromKnowledge).length := by
  unfold hitRate
  split
  · rename_i hpos
    have hne : (messages.length : ℚ) ≠ 0 := by exact_mod_cast Nat.pos_iff_ne_zero.mp hpos
    field_simp
  · rename_i hzero
    have hnil : messages = [] :=
      List.eq_nil_of_length_eq_zero (Nat.eq_zero_of_not_pos hzero)
    simp [hnil]

theorem knowledgeHitRate_dailyStats (store : Store) (chatbot date : Nat) :
    (dailyStats store chatbot date).knowledgeHitRate =
      hitRate ((dailyMessages store.toDatabase chatbot date).filter isBotMessage) := by
  simp only [dailyStats]
  split
  · rename_i hzero
    rw [List.eq_nil_of_length_eq_zero hzero]
    rfl
  · rfl

theorem counts_eq_iff (stats : BotAnalyticsDaily) (store : Store) (chatbot date sessions : Nat)
    (hstats : stats.toDailyStats = dailyStats store chatbot date)
    (h : ∀ m ∈ dailyMessages store.toDatabase chatbot date, HasSource m) :
    counts (storedEntry stats) =
        counts (liveEntry date (dailyMessages store.toDatabase chatbot date) sessions) ↔
      ∀ m ∈ dailyMessages store.toDatabase chatbot date, m.sender = .bot := by
  have htotal := totalMessages_dailyStats store chatbot date
  have htokens := totalTokens_dailyStats store chatbot date
  have hrate := knowledgeHitRate_dailyStats store chatbot date
  rw [← hstats] at htotal htokens hrate
  constructor
  · -- the stored entry calls every message a hit of one kind, the live one bot messages only
    intro hcounts
    have hknowledge := congrArg DayCounts.knowledgeHits hcounts
    have hapi := congrArg DayCounts.apiHits hcounts
    simp only [counts, storedEntry, liveEntry] at hknowledge hapi
    rw [hknowledge, htotal] at hapi
    rw [← length_bot_eq_iff, length_bot_messages h]
    omega
  · intro hbots
    have hlength := length_bot_messages h
    rw [length_bot_eq_iff.mpr hbots] at hlength
    have hhit : stats.knowledgeHitRate =
        hitRate (dailyMessages store.toDatabase chatbot date) := by
      rw [hrate, List.filter_eq_self.mpr fun m hm => by simp [isBotMessage, hbots m hm]]
    have hhits : truncate (stats.totalMessages * (stats.knowledgeHitRate / 100)) =
        ((dailyMessages store.toDatabase chatbot date).filter fromKnowledge).length := by
      rw [htotal, hhit, length_mul_hitRate, truncate_natCast]
    simp only [counts, storedEntry, liveEntry, DayCounts.mk.injEq, hhits]
    refine ⟨htotal, htokens, trivial, ?_, hhit⟩
    rw [htotal]
    omega

end Counting

theorem filter_storedEntries {store : Store} {chatbot today date : Nat} {r : BotAnalyticsDaily}
    (hrow : dailyRow? store chatbot date = some r) (hpast : isPastDay today date = true) :
    ((((dailyStatsOf store chatbot today).mergeSort fun r s => r.date ≤ s.date).map
      storedEntry).filter fun entry => entry.date = date) = [storedEntry r] := by
  have hperm : ((dailyStatsOf store chatbot today).mergeSort fun r s => r.date ≤ s.date).Perm
      (dailyStatsOf store chatbot today) := List.mergeSort_perm _ _
  have hday : (dailyStatsOf store chatbot today).filter (fun s => s.date = date) = [r] := by
    have hrows := filter_isFor store chatbot date
    rw [hrow] at hrows
    rw [← Option.toList_some, ← hrows, dailyStatsOf, List.filter_filter]
    refine List.filter_congr fun s _ => ?_
    by_cases hdate : s.date = date
    · simp [BotAnalyticsDaily.isFor, hdate, hpast]
    · simp [BotAnalyticsDaily.isFor, hdate]
  have hfilter := hperm.filter fun s => decide (s.date = date)
  rw [hday] at hfilter
  rw [List.filter_map]
  change ((_ : List BotAnalyticsDaily).filter fun s => decide (s.date = date)).map storedEntry = _
  rw [List.perm_singleton.mp hfilter]
  rfl

theorem stored_of_graph {t : Store} {later : AnalyticsRequest} {date next : Nat}
    {out : List GraphEntry × GraphEntry}
    (hstored : graph (aggregateDailyAnalytics t date) later next = .ok out)
    (hnext : date < dateOf next ∧ dateOf next ≤ date + 29) :
    ∃ r : BotAnalyticsDaily, out.1.filter (fun e => e.date = date) = [storedEntry r] ∧
      r.toDailyStats = dailyStats t later.chatbotId date := by
  have hexists : ∃ bot ∈ t.chatbots.rows, bot.id = later.chatbotId := by
    obtain ⟨bot, hfound⟩ := findChatbot_of_graph hstored
    obtain ⟨-, hmem, hid, -, -⟩ := findChatbot_eq_ok hfound
    rw [(sameSources_aggregate t date).database] at hmem
    exact ⟨bot, hmem, hid⟩
  obtain ⟨r, hrow, hstats⟩ := dailyRow?_aggregate_self t date hexists
  have hpast : isPastDay (dateOf next) date = true := by
    simp only [isPastDay, Bool.and_eq_true, decide_eq_true_eq]
    omega
  refine ⟨r, ?_, hstats⟩
  rw [graph_eq_ok hstored]
  exact filter_storedEntries hrow hpast

/-- A day shows the same numbers as today and as a stored day exactly when
nobody but the bot wrote on it. -/
theorem graph_days_agree_iff {s t : Store} {request later : AnalyticsRequest} {now next : Nat}
    {out out' : List GraphEntry × GraphEntry} (hlive : graph s request now = .ok out)
    (hstored : graph (aggregateDailyAnalytics t (dateOf now)) later next = .ok out')
    (hpreview : request.includePreview = false) (hbot : later.chatbotId = request.chatbotId)
    (hnext : dateOf now < dateOf next ∧ dateOf next ≤ dateOf now + 29)
    (hsame : dailyMessages t.toDatabase request.chatbotId (dateOf now) =
      dailyMessages s.toDatabase request.chatbotId (dateOf now))
    (hsources : ∀ m ∈ dailyMessages s.toDatabase request.chatbotId (dateOf now), HasSource m) :
    ∃ entry, out'.1.filter (fun e => e.date = dateOf now) = [entry] ∧
      (counts entry = counts out.2 ↔
        ∀ m ∈ dailyMessages s.toDatabase request.chatbotId (dateOf now), m.sender = .bot) := by
  obtain ⟨r, hentry, hstats⟩ := stored_of_graph hstored hnext
  refine ⟨storedEntry r, hentry, ?_⟩
  rw [graph_eq_ok hlive, hpreview, todayMessages_false, ← hsame]
  rw [← hsame] at hsources
  rw [hbot] at hstats
  exact counts_eq_iff r t request.chatbotId (dateOf now) _ hstats hsources

/-- The second day of the epoch, at its beginning. -/
def dayOne : Nat := 86400000000

def dayTwo : Nat := 172800000000

/-- An answer from the knowledge base. -/
def answerRow : Message where
  id := 0
  conversation := 1
  sender := .bot
  content := "Hello."
  createdAt := dayOne
  latency := none
  tokenUsage := 7
  source := some "knowledge"
  confidenceScore := none

def questionRow : Message :=
  { answerRow with sender := .user, content := "Hi", tokenUsage := 0, source := none }

/-- The messages are those of one conversation of a visitor. -/
def dayStore (messages : List Message) : Store :=
  { Store.empty with
    toDatabase :=
      { supportDb with
        conversations := Table.empty.create
          { id := 0, chatbot := 1, visitorIdentifier := "visitor", visitor := none
            session := none, isPreview := false, startedAt := dayOne }
        messages := Table.empty.createMany messages } }

/-- The owner asks for the graph, without a session and with no header. -/
def ownerRequest : AnalyticsRequest where
  sessionUser := none
  jwtUser := { id := 1, isSuperuser := false, role := .user, id_pos := Nat.one_pos }
  xBotId := none
  botIdParam := none
  chatbotId := 1
  includePreviewParam := none

instance (m : Message) : Decidable (HasSource m) :=
  inferInstanceAs (Decidable ((_ ∧ _) ∨ (_ ∧ _)))

theorem findChatbot_dayStore (messages : List Message) :
    ∃ bot, findChatbot (dayStore messages).toDatabase ownerRequest.tenant
      ownerRequest.chatbotId ownerRequest.jwtUser.id = .ok bot :=
  ⟨_, rfl⟩

theorem graphs_of_dayStore (messages : List Message) :
    ∃ out out', graph (dayStore messages) ownerRequest dayOne = .ok out ∧
      graph (aggregateDailyAnalytics (dayStore messages) (dateOf dayOne)) ownerRequest dayTwo =
        .ok out' := by
  obtain ⟨bot, hbot⟩ := findChatbot_dayStore messages
  obtain ⟨out, hout⟩ := exists_graph_ok dayOne hbot
  rw [← (sameSources_aggregate (dayStore messages) (dateOf dayOne)).database] at hbot
  obtain ⟨out', hout'⟩ := exists_graph_ok dayTwo hbot
  exact ⟨out, out', hout, hout'⟩

theorem answerDay_agrees :
    ∃ out out', graph (dayStore [answerRow]) ownerRequest dayOne = .ok out ∧
      graph (aggregateDailyAnalytics (dayStore [answerRow]) (dateOf dayOne)) ownerRequest dayTwo =
        .ok out' ∧
      ∃ entry, out'.1.filter (fun e => e.date = dateOf dayOne) = [entry] ∧
        counts entry = counts out.2 := by
  obtain ⟨out, out', hlive, hstored⟩ := graphs_of_dayStore [answerRow]
  obtain ⟨entry, hentry, hiff⟩ := graph_days_agree_iff hlive hstored (by decide) rfl (by decide)
    rfl (by decide)
  exact ⟨out, out', hlive, hstored, entry, hentry, hiff.mpr (by decide)⟩

/-- A day with a question and an answer: the stored entry counts two hits of
the knowledge base, the live one counted one. -/
theorem questionDay_differs :
    ∃ out out', graph (dayStore [questionRow, answerRow]) ownerRequest dayOne = .ok out ∧
      graph (aggregateDailyAnalytics (dayStore [questionRow, answerRow]) (dateOf dayOne))
        ownerRequest dayTwo = .ok out' ∧
      ∃ entry, out'.1.filter (fun e => e.date = dateOf dayOne) = [entry] ∧
        counts entry ≠ counts out.2 := by
  obtain ⟨out, out', hlive, hstored⟩ := graphs_of_dayStore [questionRow, answerRow]
  obtain ⟨r, hentry, hstats⟩ := stored_of_graph hstored (by decide)
  refine ⟨out, out', hlive, hstored, storedEntry r, hentry, ?_⟩
  rw [graph_eq_ok hlive]
  intro hcounts
  have hbots := (counts_eq_iff r (dayStore [questionRow, answerRow]) 1 (dateOf dayOne) _ hstats
    (by decide)).mp hcounts
  revert hbots
  decide

end Botman.AnalyticsGraph
