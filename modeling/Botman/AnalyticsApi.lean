import Botman.TenantPrograms

/-!
The analytics views of a chatbot over the last thirty days: `AnalyticsOverviewView`
and `AnalyticsGraphView`, which put the stored rows of the past days and the
messages of today together, and the cache in front of the first.

Floating point numbers are rational numbers here, rounded where the code rounds.
-/

namespace Botman.AnalyticsApi

open Botman.Library.KeyedTable
open Botman.DataModel
open Botman.TenantContext
open Botman.TenantPrograms
open Botman.PreviewAnalytics
open Botman.AnalyticsTask

/-- A GET that passed `JWTAuthentication` as `jwtUser`. -/
structure AnalyticsRequest where
  sessionUser : Option User
  jwtUser : User
  xBotId : Option String
  botIdParam : Option String
  chatbotId : Nat
  includePreviewParam : Option String

/-- The context in which the middleware leaves a request to one of the analytics
views. -/
def AnalyticsRequest.tenant (request : AnalyticsRequest) : Tenant :=
  processView
    { user := request.sessionUser, xBotId := request.xBotId, botIdParam := request.botIdParam }
    { viewClass := some "AnalyticsOverviewView"
      kwargs := [("chatbot_id", request.chatbotId.repr)] }

/-- `query_params.get('include_preview', 'false').lower() == 'true'`. -/
def AnalyticsRequest.includePreview (request : AnalyticsRequest) : Bool :=
  (request.includePreviewParam.getD "false").toList.map Char.toLower = ['t', 'r', 'u', 'e']

/-- `get_object_or_404(Chatbot, id=chatbot_id, owner=request.user)`. -/
def findChatbot (db : Database) (tenant : Tenant) (chatbotId user : Nat) :
    Except Nat Chatbot :=
  match getQueryset db chatbotModel tenant db.chatbots.rows with
  | none => .error 500
  | some rows =>
      match rows.find? fun bot => decide (bot.id = chatbotId) && decide (bot.owner = user) with
      | none => .error 404
      | some bot => .ok bot

/-- `date__range=[today - 29 days, today - 1 day]`. -/
def isPastDay (today date : Nat) : Bool :=
  today ≤ date + 29 && date + 1 ≤ today

/-- The rows of the last 29 days before today. -/
def dailyStatsOf (store : Store) (chatbot today : Nat) : List BotAnalyticsDaily :=
  store.dailyAnalytics.rows.filter fun r => r.chatbot = chatbot && isPastDay today r.date

/-- `conversation__chatbot=chatbot`, and `conversation__is_preview=False` unless
previews are included. -/
def isIncluded (db : Database) (chatbot : Nat) (includePreview : Bool) (m : Message) : Bool :=
  (db.conversations.get? m.conversation).any fun c =>
    c.chatbot = chatbot && (includePreview || !c.isPreview)

/-- The messages of today, which no row counts yet. -/
def todayMessages (db : Database) (chatbot today : Nat) (includePreview : Bool) :
    List Message :=
  db.messages.rows.filter fun m =>
    isIncluded db chatbot includePreview m && decide (dateOf m.createdAt = today)

theorem todayMessages_false (db : Database) (chatbot today : Nat) :
    todayMessages db chatbot today false = dailyMessages db chatbot today := by
  simp only [todayMessages, dailyMessages, isIncluded, isCounted, Bool.false_or]

/-- `Session.objects.filter(base_session_filter).distinct().count()`. -/
def todaySessions (store : Store) (chatbot today : Nat) (includePreview : Bool) : Nat :=
  (store.sessions.rows.filter fun s =>
    decide (dateOf s.startedAt = today) &&
      store.conversations.rows.any fun c =>
        c.session = some s.id && c.chatbot = chatbot && (includePreview || !c.isPreview)).length

/-- The rows that the views query, through the managers of the two models. -/
def queriedRows (store : Store) (tenant : Tenant) (chatbot today : Nat)
    (includePreview : Bool) : Option (List BotAnalyticsDaily × List Message) :=
  (getQueryset store.toDatabase botAnalyticsDailyModel tenant store.dailyAnalytics.rows).bind
    fun daily =>
      (getQueryset store.toDatabase messageModel tenant store.messages.rows).map fun messages =>
        (daily.filter fun r => r.chatbot = chatbot && isPastDay today r.date,
          messages.filter fun m =>
            isIncluded store.toDatabase chatbot includePreview m &&
              decide (dateOf m.createdAt = today))

/-- Python's `round(q, 2)`: half to even. -/
def round2 (q : ℚ) : ℚ :=
  let scaled := q * 100
  let low := scaled.floor
  let rest := scaled - low
  if rest < 1 / 2 then low / 100
  else if 1 / 2 < rest then (low + 1) / 100
  else if low % 2 = 0 then low / 100
  else (low + 1) / 100

/-- `aggregate(Avg(..))` over rows, or zero where there are none. -/
def average (values : List ℚ) : ℚ :=
  if values.isEmpty then 0 else values.sum / values.length

/-- The body of a response with the overview. -/
structure OverviewData where
  totalMessages : Nat
  activeSessions : Nat
  avgLatency : ℚ
  totalTokens : Int
  knowledgeHitRate : ℚ
  deriving DecidableEq

/-- The share of messages that came from the knowledge base, in percent. -/
def hitRate (messages : List Message) : ℚ :=
  if 0 < messages.length then
    ((messages.filter fromKnowledge).length : ℚ) / messages.length * 100
  else 0

/-- The mean over the days: every stored day and, where it has messages, today. -/
def meanOverDays (history : List ℚ) (today : ℚ) (todayCounts : Bool) : ℚ :=
  let days := history.length + if todayCounts then 1 else 0
  if 0 < days then
    (average history * history.length + today * if todayCounts then 1 else 0) / days
  else 0

/-- The overview: the stored days and what has happened today, added up or
averaged. -/
def overviewData (history : List BotAnalyticsDaily) (messages : List Message)
    (sessions : Nat) : OverviewData where
  totalMessages := (history.map fun r => r.totalMessages).sum + messages.length
  activeSessions := (history.map fun r => r.activeSessions).sum + sessions
  avgLatency := round2 (meanOverDays (history.map fun r => r.avgLatency)
    (avgLatency messages) (0 < messages.length))
  totalTokens := (history.map fun r => r.totalTokens).sum + sumTokens messages
  knowledgeHitRate := round2 (meanOverDays (history.map fun r => r.knowledgeHitRate)
    (hitRate messages) (0 < messages.length))

/-- `AnalyticsOverviewView.get` past the cache. -/
def overview (store : Store) (request : AnalyticsRequest) (now : Nat) :
    Except Nat OverviewData :=
  let today := dateOf now
  match findChatbot store.toDatabase request.tenant request.chatbotId request.jwtUser.id with
  | .error status => .error status
  | .ok bot =>
      match queriedRows store request.tenant bot.id today request.includePreview with
      | none => .error 500
      | some (history, messages) =>
          .ok (overviewData history messages
            (todaySessions store bot.id today request.includePreview))

/-- What the text of a cache key is made of. -/
structure CacheKey where
  chatbotId : Nat
  user : Nat
  includePreview : Bool
  deriving DecidableEq

structure CacheEntry where
  key : CacheKey
  data : OverviewData
  expires : Nat

/-- The newest entry of a key counts. -/
abbrev Cache := List CacheEntry

/-- `cache.get`: the latest entry under the key, until it expires. -/
def cacheGet (cache : Cache) (key : CacheKey) (now : Nat) : Option OverviewData :=
  (cache.find? fun e => e.key = key).bind fun e => if now < e.expires then some e.data else none

/-- Five minutes, in microseconds. -/
def cacheTimeout : Nat := 300000000

/-- `cache.set` with the timeout of the overview. -/
def cacheSet (cache : Cache) (key : CacheKey) (data : OverviewData) (now : Nat) : Cache :=
  { key := key, data := data, expires := now + cacheTimeout } :: cache

def AnalyticsRequest.cacheKey (request : AnalyticsRequest) : CacheKey where
  chatbotId := request.chatbotId
  user := request.jwtUser.id
  includePreview := request.includePreview

/-- `AnalyticsOverviewView.get`. -/
def overviewView (store : Store) (cache : Cache) (request : AnalyticsRequest) (now : Nat) :
    Cache × Except Nat OverviewData :=
  match cacheGet cache request.cacheKey now with
  | some data => (cache, .ok data)
  | none =>
      match overview store request now with
      | .error status => (cache, .error status)
      | .ok data => (cacheSet cache request.cacheKey data now, .ok data)

/-- One day of the graph. -/
structure GraphEntry where
  date : Nat
  messages : Nat
  sessions : Nat
  latency : ℚ
  tokens : Int
  knowledgeHits : Int
  apiHits : Int
  knowledgeHitRate : ℚ
  deriving DecidableEq

/-- `int(q)`. -/
def truncate (q : ℚ) : Int :=
  if 0 ≤ q then q.floor else q.ceil

/-- The entry of a stored day.  The hits are computed back from the rate. -/
def storedEntry (r : BotAnalyticsDaily) : GraphEntry :=
  let knowledgeHits := truncate (r.totalMessages * (r.knowledgeHitRate / 100))
  { date := r.date
    messages := r.totalMessages
    sessions := r.activeSessions
    latency := r.avgLatency
    tokens := r.totalTokens
    knowledgeHits := knowledgeHits
    apiHits := r.totalMessages - knowledgeHits
    knowledgeHitRate := r.knowledgeHitRate }

def fromApi (m : Message) : Bool :=
  m.source = some "ai_api"

/-- The entry of today, before its latency and its rate are rounded. -/
def liveEntry (today : Nat) (messages : List Message) (sessions : Nat) : GraphEntry where
  date := today
  messages := messages.length
  sessions := sessions
  latency := avgLatency messages
  tokens := sumTokens messages
  knowledgeHits := (messages.filter fromKnowledge).length
  apiHits := (messages.filter fromApi).length
  knowledgeHitRate := hitRate messages

/-- Only the entry of today is rounded. -/
def rounded (entry : GraphEntry) : GraphEntry :=
  { entry with
    latency := round2 entry.latency
    knowledgeHitRate := round2 entry.knowledgeHitRate }

/-- `AnalyticsGraphView.get` past the cache: the stored days in order, and
today, given before the rounding. -/
def graph (store : Store) (request : AnalyticsRequest) (now : Nat) :
    Except Nat (List GraphEntry × GraphEntry) :=
  let today := dateOf now
  match findChatbot store.toDatabase request.tenant request.chatbotId request.jwtUser.id with
  | .error status => .error status
  | .ok bot =>
      match queriedRows store request.tenant bot.id today request.includePreview with
      | none => .error 500
      | some (history, messages) =>
          .ok ((history.mergeSort fun r s => r.date ≤ s.date).map storedEntry,
            liveEntry today messages
              (todaySessions store bot.id today request.includePreview))

/-- The entries of the stored days, and that of today. -/
def graphData (out : List GraphEntry × GraphEntry) : List GraphEntry :=
  out.1 ++ [rounded out.2]

theorem findChatbot_eq_ok {db : Database} {tenant : Tenant} {chatbotId user : Nat}
    {bot : Chatbot} (h : findChatbot db tenant chatbotId user = .ok bot) :
    isMalformed tenant = false ∧ bot ∈ db.chatbots.rows ∧ bot.id = chatbotId ∧
      bot.owner = user ∧ Shows db tenant (some bot.id) := by
  unfold findChatbot at h
  rw [getQueryset_eq (followsChatbot_chatbot db) tenant] at h
  cases hformed : isMalformed tenant with
  | true => simp [hformed] at h
  | false =>
      simp only [hformed, Bool.false_eq_true, if_false] at h
      split at h
      · cases h
      · rename_i found hfound
        cases h
        have hmem := List.mem_filter.mp (List.mem_of_find?_eq_some hfound)
        have htest := List.find?_some hfound
        simp only [Bool.and_eq_true, decide_eq_true_eq] at htest
        exact ⟨rfl, hmem.1, htest.1, htest.2, of_decide_eq_true hmem.2⟩

theorem filter_shows_messages {store : Store} {tenant : Tenant} {chatbot : Nat}
    (includePreview : Bool) (test : Message → Bool)
    (hshows : Shows store.toDatabase tenant (some chatbot)) :
    (store.messages.rows.filter fun m => decide (Shows store.toDatabase tenant
        ((store.conversations.get? m.conversation).map Conversation.chatbot))).filter
          (fun m => isIncluded store.toDatabase chatbot includePreview m && test m) =
      store.messages.rows.filter
        fun m => isIncluded store.toDatabase chatbot includePreview m && test m := by
  rw [List.filter_filter]
  refine List.filter_congr fun m _ => ?_
  cases hc : store.conversations.get? m.conversation with
  | none => simp [isIncluded, hc]
  | some c =>
      by_cases hbot : c.chatbot = chatbot
      · simp [hbot, hshows]
      · simp [isIncluded, hc, hbot]

theorem queriedRows_eq {store : Store} {tenant : Tenant} {chatbot today : Nat}
    {includePreview : Bool} (hformed : isMalformed tenant = false)
    (hshows : Shows store.toDatabase tenant (some chatbot)) :
    queriedRows store tenant chatbot today includePreview =
      some (dailyStatsOf store chatbot today,
        todayMessages store.toDatabase chatbot today includePreview) := by
  have hdaily : FollowsChatbot store.toDatabase botAnalyticsDailyModel
      store.dailyAnalytics.rows fun r => some r.chatbot :=
    followsChatbot_of_chatbot _ _ _ (by decide) rfl rfl rfl
  unfold queriedRows
  rw [getQueryset_eq hdaily tenant, getQueryset_eq (followsChatbot_message _ _) tenant]
  simp only [hformed, Bool.false_eq_true, if_false, Option.bind_some, Option.map_some]
  refine congrArg some (Prod.ext ?_ ?_)
  · dsimp only
    rw [List.filter_filter]
    refine List.filter_congr fun r _ => ?_
    by_cases hbot : r.chatbot = chatbot
    · simp [hbot, hshows]
    · simp [hbot]
  · exact filter_shows_messages includePreview (fun m => dateOf m.createdAt = today) hshows

theorem overview_eq_ok {store : Store} {request : AnalyticsRequest} {now : Nat}
    {data : OverviewData} (h : overview store request now = .ok data) :
    data = overviewData (dailyStatsOf store request.chatbotId (dateOf now))
      (todayMessages store.toDatabase request.chatbotId (dateOf now) request.includePreview)
      (todaySessions store request.chatbotId (dateOf now) request.includePreview) := by
  unfold overview at h
  dsimp only at h
  split at h
  · cases h
  · rename_i bot hbot
    obtain ⟨hformed, -, hid, -, hshows⟩ := findChatbot_eq_ok hbot
    rw [queriedRows_eq hformed hshows] at h
    cases h
    rw [hid]

theorem findChatbot_of_graph {store : Store} {request : AnalyticsRequest} {now : Nat}
    {out : List GraphEntry × GraphEntry} (h : graph store request now = .ok out) :
    ∃ bot, findChatbot store.toDatabase request.tenant request.chatbotId request.jwtUser.id =
      .ok bot := by
  unfold graph at h
  dsimp only at h
  split at h
  · cases h
  · rename_i bot hbot
    exact ⟨bot, hbot⟩

theorem exists_graph_ok {store : Store} {request : AnalyticsRequest} (now : Nat)
    {bot : Chatbot}
    (h : findChatbot store.toDatabase request.tenant request.chatbotId request.jwtUser.id =
      .ok bot) : ∃ out, graph store request now = .ok out := by
  obtain ⟨hformed, -, -, -, hshows⟩ := findChatbot_eq_ok h
  simp only [graph, h, queriedRows_eq hformed hshows]
  exact ⟨_, rfl⟩

theorem graph_eq_ok {store : Store} {request : AnalyticsRequest} {now : Nat}
    {out : List GraphEntry × GraphEntry} (h : graph store request now = .ok out) :
    out = (((dailyStatsOf store request.chatbotId (dateOf now)).mergeSort
        fun r s => r.date ≤ s.date).map storedEntry,
      liveEntry (dateOf now)
        (todayMessages store.toDatabase request.chatbotId (dateOf now) request.includePreview)
        (todaySessions store request.chatbotId (dateOf now) request.includePreview)) := by
  obtain ⟨bot, hbot⟩ := findChatbot_of_graph h
  obtain ⟨hformed, -, hid, -, hshows⟩ := findChatbot_eq_ok hbot
  simp only [graph, hbot, queriedRows_eq hformed hshows] at h
  cases h
  rw [hid]

end Botman.AnalyticsApi
