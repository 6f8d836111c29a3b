import Botman.PublicGate
import Botman.KnowledgeApi
import Botman.AnalyticsConservation
import Botman.TelegramApi

/-!
Every way by which a message gets into the database, as one system, and the
sessions that `aggregate_daily_analytics` counts in the states it reaches.

A session counts through the conversations that are linked to it.
-/

namespace Botman.SessionAccounting

open Botman.Library.KeyedTable
open Botman.Library.PythonValue
open Botman.Library.Transition
open Botman.DataModel
open Botman.TenantContext
open Botman.WidgetApi
open Botman.ChatService
open Botman.ChatEffects
open Botman.ChatApi
open Botman.PublicGate
open Botman.KnowledgeApi
open Botman.PreviewAnalytics
open Botman.AnalyticsTask
open Botman.AnalyticsConservation (changeStore)
open Botman.TelegramApi

/-- A POST to `ChatbotViewSet.test_message` that passed `JWTAuthentication` as
`jwtUser`. -/
structure TestRequest where
  http : HttpRequest
  jwtUser : User
  pk : String
  data : Json

def TestRequest.tenant (request : TestRequest) : Tenant :=
  processView request.http
    { viewClass := some "ChatbotViewSet", kwargs := [("pk", request.pk)] }

/-- `ChatbotViewSet.test_message`. -/
def testMessage (server : ChatServer) (env : ChatEnv) (db : Database)
    (request : TestRequest) : Database × ChatResponse :=
  match getChatbot db request.tenant request.jwtUser.id request.pk with
  | .error e => (db, .error e.status e.detail)
  | .ok bot =>
      match chatRequestSerializer server.repr request.data with
      | .error errors => (db, .invalid errors)
      | .ok fields =>
          answerCall server env db
            { tenant := request.tenant, bot := bot, visitorId := fields.visitorId
              message := .str fields.message, stream := true, previewMode := true }

/-- The chatbots after any change by their owners; what hangs on a deleted one
goes with it. -/
def manageChatbots (db : Database) (chatbots : Table Chatbot) : Database :=
  let conversations := db.conversations.delete fun c =>
    !decide (c.chatbot ∈ chatbots.rows.map Chatbot.id)
  { db with
    chatbots := chatbots
    conversations := conversations
    messages := db.messages.delete fun m =>
      !decide (m.conversation ∈ conversations.rows.map Conversation.id) }

/-- The chatbots and days of live messages among those that a step stored. -/
def newLive (before after : Database) : List (Nat × Nat) :=
  (after.messages.rows.drop before.messages.rows.length).filterMap fun m =>
    (after.conversations.get? m.conversation).bind fun c =>
      if c.isPreview then none else some (c.chatbot, dateOf m.createdAt)

/-- The store, and the chatbots and dates of the live messages that were processed. -/
structure World where
  store : Store
  processed : List (Nat × Nat)

/-- A request to any of the endpoints, a message of Telegram, a change of the owner,
or a run of the task. -/
inductive Event where
  | widgetSession (visitorId : String) (http : HttpRequest) (headers : OriginHeaders)
      (data : Json)
  | chat (env : ChatEnv) (request : ChatRequest)
  | testMessage (env : ChatEnv) (request : TestRequest)
  | telegram (env : ChatEnv) (botId : Nat) (chatId text : Json)
  | manage (chatbots : Table Chatbot) (integrations : Table TelegramIntegration)
  | aggregate (date : Nat)

/-- The state after the chat request that led to a database. -/
def World.after (w : World) (db : Database) : World where
  store := { w.store with toDatabase := db }
  processed := w.processed ++ newLive w.store.toDatabase db

def next (server : SessionServer) (w : World) : Event → Option World
  | .widgetSession visitorId http headers data =>
      let tenant := processView http { viewClass := some "WidgetSessionView", kwargs := [] }
      some (w.after
        (widgetSessionView server visitorId w.store.toDatabase tenant headers data).1)
  | .chat env request =>
      some (w.after (handleChat server.toChatServer env w.store.toDatabase request).1)
  | .testMessage env request =>
      some (w.after (testMessage server.toChatServer env w.store.toDatabase request).1)
  | .telegram env botId chatId text =>
      some (w.after
        (processTelegramMessageTask server.repr env w.store botId chatId text).1.toDatabase)
  | .manage chatbots integrations =>
      let managed := changeStore w.store (manageChatbots w.store.toDatabase chatbots)
        w.store.sessions
      some { w with store := { managed with telegramIntegrations := integrations } }
  | .aggregate date => some { w with store := aggregateDailyAnalytics w.store date }

section Calls

variable {server : ChatServer} {env : ChatEnv} {db : Database}

/-- A request leaves the database as it is, or makes one call of
`process_chat_message`. -/
def CallsOnce (repr : Json → String) (env : ChatEnv) (db out : Database) : Prop :=
  out = db ∨ ∃ call, out = (processChatMessage repr env db call).1

theorem callsOnce_withChatbot {tenant : Tenant} {p : Chatbot → Bool}
    {body : Chatbot → Database × ChatResponse}
    (h : ∀ bot, CallsOnce server.repr env db (body bot).1) :
    CallsOnce server.repr env db (withChatbot db tenant p body).1 := by
  unfold withChatbot
  split
  · exact Or.inl rfl
  · exact Or.inl rfl
  · exact h _
  · exact Or.inl rfl

theorem callsOnce_answerCall (call : ChatCall) :
    CallsOnce server.repr env db (answerCall server env db call).1 :=
  Or.inr ⟨call, rfl⟩

theorem callsOnce_widgetChatView {tenant : Tenant} {headers : OriginHeaders} {data : Json} :
    CallsOnce server.repr env db (widgetChatView server env db tenant headers data).1 := by
  unfold widgetChatView
  split
  · dsimp only
    split
    · exact Or.inl rfl
    · split
      · exact Or.inl rfl
      · exact Or.inl rfl
      · refine callsOnce_withChatbot fun bot => ?_
        split
        · exact Or.inl rfl
        · exact Or.inl rfl
        · exact callsOnce_answerCall _
  · exact Or.inl rfl

theorem callsOnce_chatWith {tenant : Tenant} {p : Chatbot → Bool} {data : Json} :
    CallsOnce server.repr env db (chatWith server env db tenant p data).1 := by
  unfold chatWith
  split
  · exact Or.inl rfl
  · exact callsOnce_withChatbot fun bot => callsOnce_answerCall _

theorem callsOnce_previewAction {tenant : Tenant} {data : Json} :
    CallsOnce server.repr env db (previewAction server env db tenant data).1 := by
  unfold previewAction
  split
  · split
    · exact Or.inl rfl
    · split
      · exact Or.inl rfl
      · split
        · exact Or.inl rfl
        · exact callsOnce_withChatbot fun bot => callsOnce_answerCall _
  · exact Or.inl rfl

theorem callsOnce_handleChat (request : ChatRequest) :
    CallsOnce server.repr env db (handleChat server env db request).1 := by
  unfold handleChat
  dsimp only
  split
  · exact callsOnce_widgetChatView
  · exact callsOnce_chatWith
  · unfold chatAction
    split
    · exact Or.inl rfl
    · exact callsOnce_chatWith
  · exact callsOnce_previewAction

theorem callsOnce_testMessage (request : TestRequest) :
    CallsOnce server.repr env db (testMessage server env db request).1 := by
  unfold testMessage
  split
  · exact Or.inl rfl
  · split
    · exact Or.inl rfl
    · exact callsOnce_answerCall _

theorem callsOnce_telegram (repr : Json → String) (store : Store) (botId : Nat)
    (chatId text : Json) :
    CallsOnce repr env store.toDatabase
      (processTelegramMessageTask repr env store botId chatId text).1.toDatabase := by
  unfold processTelegramMessageTask
  split
  · exact Or.inl rfl
  · split
    · exact Or.inr ⟨_, rfl⟩
    · exact Or.inl rfl

theorem widgetSessionView_db (server : SessionServer) (visitorId : String) (tenant : Tenant)
    (headers : OriginHeaders) (data : Json) :
    (widgetSessionView server visitorId db tenant headers data).1 = db := by
  have hissue : ∀ found, (issueSession server visitorId db headers found).1 = db := by
    intro found
    unfold issueSession
    split
    · rfl
    · split <;> rfl
    · rfl
  unfold widgetSessionView
  split
  · dsimp only
    split
    · exact hissue _
    · split
      · exact hissue _
      · rfl
  · rfl

end Calls

section Links

/-- No conversation is linked to a session. -/
def Unlinked (db : Database) : Prop :=
  ∀ c ∈ db.conversations.rows, c.session = none

variable {db : Database}

theorem unlinked_save (h : Unlinked db) {c : Conversation} (hc : c.session = none) :
    Unlinked (saveConversation db c) := by
  intro r hr
  rcases (db.conversations.mem_save c r).mp hr with rfl | ⟨hr, -⟩
  · exact hc
  · exact h r hr

theorem unlinked_updatePreview (h : Unlinked db) (call : ChatCall) {c : Conversation}
    (hc : c.session = none) :
    Unlinked (updatePreview db call c).1 ∧ (updatePreview db call c).2.session = none := by
  unfold updatePreview
  split
  · exact ⟨unlinked_save h hc, hc⟩
  · exact ⟨h, hc⟩

theorem unlinked_linkVisitor (h : Unlinked db) (visitor : Visitor) {c : Conversation}
    (hc : c.session = none) : Unlinked (linkVisitor db visitor c).1 := by
  unfold linkVisitor
  split
  · exact unlinked_save h hc
  · exact h

theorem unlinked_openConversation (h : Unlinked db) (env : ChatEnv) (call : ChatCall) :
    Unlinked (openConversation env db call).1 := by
  obtain ⟨-, -, hrows⟩ := getOrCreateVisitor_frame db call.visitorId
  have hknown : Unlinked (getOrCreateVisitor db call.visitorId).1 := by
    unfold Unlinked
    rw [hrows]
    exact h
  unfold openConversation openFor
  dsimp only
  split
  · exact hknown
  · intro r hr
    rcases (Table.mem_create _ _ r).mp hr with hr | rfl
    · exact hknown r hr
    · rfl
  · rename_i c hquery
    have hc := hknown c (mem_conversationsOf hquery c (by simp)).1
    obtain ⟨hmarked, hsession⟩ := unlinked_updatePreview hknown call hc
    exact unlinked_linkVisitor hmarked _ hsession
  · exact hknown

theorem unlinked_processChatMessage (h : Unlinked db) (repr : Json → String) (env : ChatEnv)
    (call : ChatCall) : Unlinked (processChatMessage repr env db call).1 := by
  have hopened := unlinked_openConversation h env call
  rcases processChatMessage_cases repr env db call with
    ⟨e, hout⟩ | ⟨e, hout⟩ | ⟨language, processing, c, -, hout⟩
  · rw [hout]
    exact h
  · rw [hout]
    exact hopened
  · obtain ⟨-, hrows, -⟩ := converse_spec repr env call (openConversation env db call).1
      language processing c
    rw [hout]
    unfold Unlinked
    rw [hrows]
    exact hopened

theorem CallsOnce.unlinked {repr : Json → String} {env : ChatEnv} {out : Database}
    (h : CallsOnce repr env db out) (hunlinked : Unlinked db) : Unlinked out := by
  rcases h with rfl | ⟨call, rfl⟩
  · exact hunlinked
  · exact unlinked_processChatMessage hunlinked repr env call

theorem activeSessions_of_unlinked {store : Store} (h : Unlinked store.toDatabase)
    (chatbot date : Nat) : (dailyStats store chatbot date).activeSessions = 0 := by
  have hcount : ∀ messages, countSessions store messages = 0 := by
    intro messages
    refine List.length_eq_zero_iff.mpr (List.filter_eq_nil_iff.mpr fun s _ hs => ?_)
    obtain ⟨m, -, hm⟩ := List.any_eq_true.mp hs
    obtain ⟨c, hc, hlinked⟩ := (Option.any_eq_true _ _).mp hm
    have hnone := h c ((store.conversations.get?_eq_some_iff).mp hc).1
    rw [of_decide_eq_true hlinked] at hnone
    cases hnone
  simp only [dailyStats]
  split
  · rfl
  · exact hcount _

end Links

section Runs

/-- What holds in every state: no conversation has a session, and no stored
day counts one. -/
structure NoSessions (w : World) : Prop where
  unlinked : Unlinked w.store.toDatabase
  stored : ∀ r ∈ w.store.dailyAnalytics.rows, r.activeSessions = 0

variable {server : SessionServer} {w t : World}

theorem stored_aggregate {store : Store} (hunlinked : Unlinked store.toDatabase)
    (hstored : ∀ r ∈ store.dailyAnalytics.rows, r.activeSessions = 0) (date : Nat) :
    ∀ r ∈ (aggregateDailyAnalytics store date).dailyAnalytics.rows, r.activeSessions = 0 := by
  intro r hr
  have hrow : dailyRow? (aggregateDailyAnalytics store date) r.chatbot r.date = some r :=
    (dailyRow?_eq_some_iff _).mpr ⟨hr, rfl, rfl⟩
  by_cases hwritten : r.date = date ∧ ∃ bot ∈ store.chatbots.rows, bot.id = r.chatbot
  · obtain ⟨hdate, hbot⟩ := hwritten
    obtain ⟨s, hs, hstats⟩ := dailyRow?_aggregate_self store date hbot
    rw [hdate, hs] at hrow
    cases hrow
    rw [hstats]
    exact activeSessions_of_unlinked hunlinked _ date
  · have hkept : r.date ≠ date ∨ ∀ bot ∈ store.chatbots.rows, bot.id ≠ r.chatbot := by
      by_cases hdate : r.date = date
      · exact Or.inr fun bot hbot hid => hwritten ⟨hdate, bot, hbot, hid⟩
      · exact Or.inl hdate
    rw [dailyRow?_aggregate_of_ne store hkept] at hrow
    exact hstored r ((dailyRow?_eq_some_iff _).mp hrow).1

theorem noSessions_after (h : NoSessions w) {repr : Json → String} {env : ChatEnv}
    {db : Database} (hdb : CallsOnce repr env w.store.toDatabase db) :
    NoSessions (w.after db) where
  unlinked := hdb.unlinked h.unlinked
  stored := h.stored

theorem noSessions_next {event : Event} (h : NoSessions w)
    (hnext : next server w event = some t) : NoSessions t := by
  cases event with
  | widgetSession visitorId http headers data =>
      cases hnext
      rw [widgetSessionView_db]
      exact ⟨h.unlinked, h.stored⟩
  | chat env request =>
      cases hnext
      exact noSessions_after h (callsOnce_handleChat request)
  | testMessage env request =>
      cases hnext
      exact noSessions_after h (callsOnce_testMessage request)
  | telegram env botId chatId text =>
      cases hnext
      exact noSessions_after h (callsOnce_telegram server.repr w.store botId chatId text)
  | manage chatbots integrations =>
      cases hnext
      refine ⟨fun c hc => ?_, fun r hr => ?_⟩
      · exact h.unlinked c ((Table.mem_delete _ _ c).mp hc).1
      · exact h.stored r ((Table.mem_delete _ _ r).mp hr).1
  | aggregate date =>
      cases hnext
      refine ⟨?_, stored_aggregate h.unlinked h.stored date⟩
      change Unlinked (aggregateDailyAnalytics w.store date).toDatabase
      rw [(sameSources_aggregate w.store date).database]
      exact h.unlinked

/-- The row of a day counts a session of the chatbot. -/
def CountsSession (store : Store) (chatbot date : Nat) : Prop :=
  ∃ r, dailyRow? store chatbot date = some r ∧ 1 ≤ r.activeSessions

def emptyWorld : World where
  store := .empty
  processed := []

/-- Sessions are counted for no chatbot and no day with a live message. -/
theorem session_counted_iff (hrun : Reaches (next server) anyStep emptyWorld w)
    (chatbot date : Nat) :
    ((chatbot, date) ∈ w.processed →
        CountsSession (aggregateDailyAnalytics w.store date) chatbot date) ↔
      (chatbot, date) ∉ w.processed := by
  have hinv : NoSessions w := by
    refine invariant_of_reaches NoSessions ?_ ⟨?_, ?_⟩ hrun
    · intro w event t h _ hnext
      exact noSessions_next h hnext
    · intro c hc
      cases hc
    · intro r hr
      cases hr
  have hnone : ¬ CountsSession (aggregateDailyAnalytics w.store date) chatbot date := by
    rintro ⟨r, hrow, hcount⟩
    have hr := ((dailyRow?_eq_some_iff _).mp hrow).1
    rw [stored_aggregate hinv.unlinked hinv.stored date r hr] at hcount
    omega
  exact ⟨fun himp hlive => hnone (himp hlive), fun hquiet hlive => absurd hlive hquiet⟩

end Runs

def plainSessionServer : SessionServer :=
  { plainServer with
    uuid := fun _ => none
    dumps := fun visitorId _ => visitorId }

/-- A chatbot is created, a visitor opens the widget and writes to it. -/
def firstVisit : List Event :=
  [.manage supportDb.chatbots .empty,
    .widgetSession "visitor" foreignVisit.http foreignVisit.headers
      (.obj [("bot_id", .int 1)]),
    .chat plainEnv (foreignVisit.request (.publicChat 1) (firstMessage supportBot "visitor"))]

theorem firstVisit_processed :
    ∃ w, Reaches (next plainSessionServer) anyStep emptyWorld w ∧
      (supportBot.id, 0) ∈ w.processed :=
  exists_reaches_of_replay firstVisit (by decide +kernel)

/-- The visitor's message is in the totals of the day, no session is. -/
theorem visit_without_session :
    ∃ w, Reaches (next plainSessionServer) anyStep emptyWorld w ∧
      (supportBot.id, 0) ∈ w.processed ∧
      (dailyRow? (aggregateDailyAnalytics w.store 0) supportBot.id 0).any (fun r =>
        r.totalMessages = 2 ∧ r.activeSessions = 0) = true :=
  exists_reaches_of_replay firstVisit (by decide +kernel)

theorem firstVisit_not_counted :
    ∃ w, Reaches (next plainSessionServer) anyStep emptyWorld w ∧
      ¬ ((supportBot.id, 0) ∈ w.processed →
        CountsSession (aggregateDailyAnalytics w.store 0) supportBot.id 0) := by
  obtain ⟨w, hrun, hlive⟩ := firstVisit_processed
  exact ⟨w, hrun, fun himp => (session_counted_iff hrun supportBot.id 0).mp himp hlive⟩

end Botman.SessionAccounting
