import Mathlib.Data.List.Infix
import Botman.Library.CacheAside
import Botman.AnalyticsGraph

/-!
The cache that `AnalyticsOverviewView`, `AnalyticsGraphView` and
`AnalyticsLiveView` share.  Each view consults it before it checks that the
chatbot belongs to the user, so that nothing but the text of the key keeps the
reports of different users apart.
-/

namespace Botman.AnalyticsCache

open Botman.Library.KeyedTable
open Botman.Library.PythonValue (intOfString_repr)
open Botman.Library.CacheAside
open Botman.DataModel
open Botman.TenantContext
open Botman.TenantPrograms (getQueryset_eq followsChatbot_message)
open Botman.AnalyticsTask
open Botman.AnalyticsApi
open Botman.AnalyticsGraph

section Live

/-- The body of a response of the live view. -/
structure LiveData where
  activeSessions5m : Nat
  messages1h : Nat
  avgLatency1h : ℚ
  deriving DecidableEq

/-- In microseconds, as all times are. -/
def lastFiveMinutes : Nat := 300000000

def lastHour : Nat := 3600000000

/-- `Session.objects.filter(session_filter).distinct().count()`. -/
def liveSessions (store : Store) (chatbot now : Nat) (includePreview : Bool) : Nat :=
  (store.sessions.rows.filter fun s =>
    decide (now ≤ s.lastActivity + lastFiveMinutes) &&
      store.conversations.rows.any fun c =>
        c.session = some s.id && c.chatbot = chatbot && (includePreview || !c.isPreview)).length

/-- The numbers of the live view, from the messages of the last hour and the sessions
of the last five minutes. -/
def liveData (messages : List Message) (sessions : Nat) : LiveData where
  activeSessions5m := sessions
  messages1h := messages.length
  avgLatency1h := round2 (avgLatency (messages.filter isBotMessage))

/-- The messages of a chatbot that `message_filter` keeps. -/
def isRecent (db : Database) (chatbot now : Nat) (includePreview : Bool) (m : Message) : Bool :=
  isIncluded db chatbot includePreview m && decide (now ≤ m.createdAt + lastHour)

/-- `AnalyticsLiveView.get` past the cache. -/
def live (store : Store) (request : AnalyticsRequest) (now : Nat) : Except Nat LiveData :=
  match findChatbot store.toDatabase request.tenant request.chatbotId request.jwtUser.id with
  | .error status => .error status
  | .ok bot =>
      match getQueryset store.toDatabase messageModel request.tenant store.messages.rows with
      | none => .error 500
      | some messages =>
          .ok (liveData
            (messages.filter (isRecent store.toDatabase bot.id now request.includePreview))
            (liveSessions store bot.id now request.includePreview))

theorem live_eq_ok {store : Store} {request : AnalyticsRequest} {now : Nat} {data : LiveData}
    (h : live store request now = .ok data) :
    data = liveData
      (store.messages.rows.filter
        (isRecent store.toDatabase request.chatbotId now request.includePreview))
      (liveSessions store request.chatbotId now request.includePreview) := by
  unfold live at h
  split at h
  · cases h
  · rename_i bot hbot
    obtain ⟨hformed, -, hid, -, hshows⟩ := findChatbot_eq_ok hbot
    rw [getQueryset_eq (followsChatbot_message _ _) _, hformed] at h
    simp only [Bool.false_eq_true, if_false] at h
    cases h
    rw [← hid]
    exact congrArg (fun rows => liveData rows _)
      (filter_shows_messages _ (fun m => now ≤ m.createdAt + lastHour) hshows)

end Live

section Views

/-- The three views that share the cache. -/
inductive Endpoint where
  | overview
  | graph
  | live
  deriving DecidableEq

/-- The body of a response of any of them, which is what the cache holds. -/
inductive Report where
  | overview (data : OverviewData)
  | graph (data : List GraphEntry)
  | live (data : LiveData)
  deriving DecidableEq

/-- What a view computes where the cache holds nothing.  The tenant context is
the same for the three classes, none of which is `ChatbotViewSet`. -/
def compute (store : Store) (now : Nat) (request : AnalyticsRequest) :
    Endpoint → Except Nat Report
  | .overview => (overview store request now).map .overview
  | .graph => (graph store request now).map fun out => .graph (graphData out)
  | .live => (live store request now).map .live

/-- `if cached_data`: a dictionary with keys, or a list with entries. -/
def Report.truthy : Report → Bool
  | .overview _ => true
  | .graph data => !data.isEmpty
  | .live _ => true

def Endpoint.name : Endpoint → String
  | .overview => "overview"
  | .graph => "graph"
  | .live => "live"

/-- `timeout`, in microseconds. -/
def Endpoint.timeout : Endpoint → Nat
  | .overview => cacheTimeout
  | .graph => cacheTimeout
  | .live => 30000000

/-- `f"{value}"` of a boolean. -/
def boolText (value : Bool) : String :=
  if value then "True" else "False"

/-- `f"analytics_{endpoint}_{chatbot_id}_{request.user.id}_{include_preview}"`. -/
def cacheKey (endpoint : Endpoint) (chatbotId user : Nat) (includePreview : Bool) : String :=
  "analytics_" ++ endpoint.name ++ "_" ++ chatbotId.repr ++ "_" ++ user.repr ++ "_" ++
    boolText includePreview

/-- A request to one of the views. -/
structure Query where
  endpoint : Endpoint
  request : AnalyticsRequest

/-- The key under which the view caches its response. -/
def Query.key (query : Query) : String :=
  cacheKey query.endpoint query.request.chatbotId query.request.jwtUser.id
    query.request.includePreview

/-- The three views as one service in front of the cache. -/
def views : Service Store Query String Report Nat where
  key := Query.key
  compute := fun store now query => compute store now query.request query.endpoint
  usable := Report.truthy
  timeout := fun query => query.endpoint.timeout

end Views

section Keys

theorem not_mem_repr (n : Nat) : '_' ∉ n.repr.toList := by
  intro h
  rw [Nat.toList_repr] at h
  have hdigit := Nat.isDigit_of_mem_toDigits (by decide) (by decide) h
  revert hdigit
  decide

theorem not_mem_name (endpoint : Endpoint) : '_' ∉ endpoint.name.toList := by
  cases endpoint <;> decide

theorem name_injective {e f : Endpoint} (h : e.name = f.name) : e = f := by
  cases e <;> cases f <;> first | rfl | exact absurd h (by decide)

theorem repr_injective {m n : Nat} (h : m.repr = n.repr) : m = n := by
  have hm := intOfString_repr m
  rw [h, intOfString_repr] at hm
  exact (Int.ofNat.inj (Option.some.inj hm)).symm

theorem toList_cacheKey (endpoint : Endpoint) (chatbotId user : Nat) (includePreview : Bool) :
    (cacheKey endpoint chatbotId user includePreview).toList =
      "analytics_".toList ++ (endpoint.name.toList ++ '_' :: (chatbotId.repr.toList ++
        '_' :: (user.repr.toList ++ '_' :: (boolText includePreview).toList))) := by
  have hseparator : "_".toList = ['_'] := rfl
  unfold cacheKey
  -- unification would otherwise unfold the literals
  generalize "analytics_" = start
  generalize "_" = separator at hseparator ⊢
  simp only [String.toList_append, hseparator, List.append_assoc, List.cons_append,
    List.nil_append]

theorem cacheKey_injective {e f : Endpoint} {b c u v : Nat} {p q : Bool}
    (h : cacheKey e b u p = cacheKey f c v q) : e = f ∧ b = c ∧ u = v ∧ p = q := by
  -- no part of a key has an underscore in it, so the key determines its parts
  have hchars := congrArg String.toList h
  rw [toList_cacheKey, toList_cacheKey] at hchars
  have hrest := List.append_cancel_left hchars
  obtain ⟨hname, hrest⟩ := append_separator_inj (not_mem_name e) (not_mem_name f) hrest
  obtain ⟨hchatbot, hrest⟩ := append_separator_inj (not_mem_repr b) (not_mem_repr c) hrest
  obtain ⟨huser, hflag⟩ := append_separator_inj (not_mem_repr u) (not_mem_repr v) hrest
  refine ⟨name_injective (String.toList_injective hname),
    repr_injective (String.toList_injective hchatbot),
    repr_injective (String.toList_injective huser), ?_⟩
  revert hflag
  cases p <;> cases q <;> decide

end Keys

section Ownership

/-- What an endpoint has to say of a chatbot at a time, without the cache and the
context. -/
def reportOf (store : Store) (now : Nat) (endpoint : Endpoint) (chatbot : Nat)
    (includePreview : Bool) : Report :=
  let today := dateOf now
  let messages := todayMessages store.toDatabase chatbot today includePreview
  let sessions := todaySessions store chatbot today includePreview
  match endpoint with
  | .overview => .overview (overviewData (dailyStatsOf store chatbot today) messages sessions)
  | .graph =>
      .graph (graphData
        (((dailyStatsOf store chatbot today).mergeSort fun r s => r.date ≤ s.date).map storedEntry,
          liveEntry today messages sessions))
  | .live =>
      .live (liveData
        (store.messages.rows.filter (isRecent store.toDatabase chatbot now includePreview))
        (liveSessions store chatbot now includePreview))

/-- The user has the chatbot. -/
def Owns (db : Database) (user chatbot : Nat) : Prop :=
  ∃ bot ∈ db.chatbots.rows, bot.id = chatbot ∧ bot.owner = user

variable {store : Store} {now : Nat} {request : AnalyticsRequest}

theorem exists_findChatbot {endpoint : Endpoint} {report : Report}
    (h : compute store now request endpoint = .ok report) :
    ∃ bot, findChatbot store.toDatabase request.tenant request.chatbotId request.jwtUser.id =
      .ok bot := by
  cases hfind : findChatbot store.toDatabase request.tenant request.chatbotId
      request.jwtUser.id with
  | ok bot => exact ⟨bot, rfl⟩
  | error status =>
      cases endpoint with
      | overview =>
          rw [compute, overview, hfind] at h
          cases h
      | graph =>
          rw [compute, graph, hfind] at h
          cases h
      | live =>
          rw [compute, live, hfind] at h
          cases h

theorem owns_of_compute {endpoint : Endpoint} {report : Report}
    (h : compute store now request endpoint = .ok report) :
    Owns store.toDatabase request.jwtUser.id request.chatbotId := by
  obtain ⟨bot, hfind⟩ := exists_findChatbot h
  obtain ⟨-, hbot, hid, howner, -⟩ := findChatbot_eq_ok hfind
  exact ⟨bot, hbot, hid, howner⟩

theorem exists_of_map_eq_ok {E A B : Type} {x : Except E A} {f : A → B} {b : B}
    (h : x.map f = .ok b) : ∃ a, x = .ok a ∧ b = f a := by
  cases x with
  | error e => cases h
  | ok a =>
      cases h
      exact ⟨a, rfl, rfl⟩

theorem eq_reportOf_of_compute {endpoint : Endpoint} {report : Report}
    (h : compute store now request endpoint = .ok report) :
    report = reportOf store now endpoint request.chatbotId request.includePreview := by
  cases endpoint with
  | overview =>
      obtain ⟨data, hdata, rfl⟩ := exists_of_map_eq_ok h
      exact congrArg Report.overview (overview_eq_ok hdata)
  | graph =>
      obtain ⟨out, hout, rfl⟩ := exists_of_map_eq_ok h
      exact congrArg (fun out => Report.graph (graphData out)) (graph_eq_ok hout)
  | live =>
      obtain ⟨data, hdata, rfl⟩ := exists_of_map_eq_ok h
      exact congrArg Report.live (live_eq_ok hdata)

end Ownership

section Runs

abbrev AnalyticsEvent := Event Store Query String Report

/-- A store at a time, before anything is cached. -/
def idle (store : Store) (now : Nat) : World Store Query String Report where
  state := store
  now := now
  cache := []
  pending := []

/-- The report is what `asked` was computed to at the moment, it is made of all
rows of the chatbot of `query`, and `asked` was for the endpoint, the chatbot, the
user and the flag of `query`.  The user owned the chatbot at the moment. -/
structure ComputedFor (moment : World Store Query String Report) (asked query : Query)
    (report : Report) : Prop where
  endpoint : asked.endpoint = query.endpoint
  chatbotId : asked.request.chatbotId = query.request.chatbotId
  user : asked.request.jwtUser.id = query.request.jwtUser.id
  includePreview : asked.request.includePreview = query.request.includePreview
  computed : compute moment.state moment.now asked.request asked.endpoint = .ok report
  rows : report = reportOf moment.state moment.now query.endpoint query.request.chatbotId
    query.request.includePreview
  owns : Owns moment.state.toDatabase query.request.jwtUser.id query.request.chatbotId

/-- The cache keeps users apart: every report that is given out was computed at a
request of the run for the same endpoint, chatbot, user and flag, at a moment when
the user owned the chatbot. -/
theorem report_computed_for_owner (store : Store) (now : Nat) (events : List AnalyticsEvent)
    (event : AnalyticsEvent) {query : Query} {report : Report}
    (h : reply views (run views (idle store now) events) event = some ⟨query, .ok report⟩) :
    ∃ earlier asked, earlier ++ [.ask asked] <+: events ++ [event] ∧
      ComputedFor (run views (idle store now) earlier) asked query report := by
  obtain ⟨earlier, asked, hprefix, hkey, hcompute⟩ := computed_of_reply rfl rfl h
  obtain ⟨hendpoint, hchatbot, huser, hflag⟩ := cacheKey_injective hkey
  refine ⟨earlier, asked, hprefix, hendpoint, hchatbot, huser, hflag, hcompute, ?_, ?_⟩
  · have hreport := eq_reportOf_of_compute hcompute
    rw [hendpoint, hchatbot, hflag] at hreport
    exact hreport
  · have howns := owns_of_compute hcompute
    rw [huser, hchatbot] at howns
    exact howns

def graphQuery : Query where
  endpoint := .graph
  request := ownerRequest

theorem reply_graphQuery_again : ∃ report,
    reply views (run views (idle (dayStore []) dayOne) [.ask graphQuery, .finish 0])
      (.ask graphQuery) = some ⟨graphQuery, .ok report⟩ := by
  obtain ⟨bot, hbot⟩ := findChatbot_dayStore []
  obtain ⟨out, hout⟩ := exists_graph_ok dayOne hbot
  have hcompute : views.compute (dayStore []) dayOne graphQuery = .ok (.graph (graphData out)) := by
    have hgraph : views.compute (dayStore []) dayOne graphQuery =
        (graph (dayStore []) ownerRequest dayOne).map fun out => .graph (graphData out) := rfl
    rw [hgraph, hout]
    rfl
  have htruthy : views.usable (.graph (graphData out)) = true := by
    simp [views, Report.truthy, graphData]
  have htimeout : 0 < views.timeout graphQuery := by decide
  refine ⟨.graph (graphData out), ?_⟩
  simp [run, step, reply, idle, lookup, put, hcompute, htruthy, htimeout]

theorem graphQuery_computed_for_owner : ∃ report,
    reply views (run views (idle (dayStore []) dayOne) [.ask graphQuery, .finish 0])
      (.ask graphQuery) = some ⟨graphQuery, .ok report⟩ ∧
    ∃ earlier asked,
      earlier ++ [.ask asked] <+: [.ask graphQuery, .finish 0] ++ [.ask graphQuery] ∧
      ComputedFor (run views (idle (dayStore []) dayOne) earlier) asked graphQuery report := by
  obtain ⟨report, hreport⟩ := reply_graphQuery_again
  exact ⟨report, hreport, report_computed_for_owner _ _ _ _ hreport⟩

/-- An entry of the cache of the overview, as one of the shared cache. -/
def asEntry (entry : CacheEntry) : Entry String Report where
  key := cacheKey .overview entry.key.chatbotId entry.key.user entry.key.includePreview
  value := .overview entry.data
  expires := entry.expires

theorem key_asEntry_iff (entry : CacheEntry) (request : AnalyticsRequest) :
    (asEntry entry).key = Query.key ⟨.overview, request⟩ ↔ entry.key = request.cacheKey := by
  constructor
  · intro h
    obtain ⟨-, hchatbot, huser, hflag⟩ := cacheKey_injective h
    cases hkey : entry.key
    rw [hkey] at hchatbot huser hflag
    cases hchatbot
    cases huser
    cases hflag
    rfl
  · intro h
    rw [asEntry, h]
    rfl

theorem lookup_asEntry (cache : Cache) (request : AnalyticsRequest) (now : Nat) :
    lookup views (cache.map asEntry) ⟨.overview, request⟩ now =
      (cacheGet cache request.cacheKey now).map .overview := by
  have htest : (fun entry => decide (entry.key = views.key ⟨.overview, request⟩)) ∘ asEntry =
      fun entry => decide (entry.key = request.cacheKey) := by
    funext entry
    rw [Function.comp_apply, decide_eq_decide]
    exact key_asEntry_iff entry request
  rw [lookup, List.find?_map, htest, cacheGet]
  cases cache.find? fun entry => entry.key = request.cacheKey with
  | none => rfl
  | some entry =>
      by_cases hlive : now < entry.expires
      · simp [asEntry, hlive, views, Report.truthy]
      · simp [asEntry, hlive]

theorem fetch_overview (store : Store) (cache : Cache) (request : AnalyticsRequest) (now : Nat) :
    fetch views store (cache.map asEntry) ⟨.overview, request⟩ now =
      ((overviewView store cache request now).1.map asEntry,
        (overviewView store cache request now).2.map .overview) := by
  rw [fetch, lookup_asEntry, overviewView]
  cases cacheGet cache request.cacheKey now with
  | some data => rfl
  | none =>
      have hcompute : views.compute store now ⟨.overview, request⟩ =
          (overview store request now).map .overview := rfl
      rw [hcompute]
      cases overview store request now with
      | error status => rfl
      | ok data => rfl

/-- A request for the overview that nothing interrupts is `overviewView`. -/
theorem step_overview (store : Store) (cache : Cache) (request : AnalyticsRequest) (now : Nat) :
    let w : World Store Query String Report := { idle store now with cache := cache.map asEntry }
    let asked := step views w (.ask ⟨.overview, request⟩)
    (step views asked (.finish 0)).cache =
        (overviewView store cache request now).1.map asEntry ∧
      (reply views w (.ask ⟨.overview, request⟩)).or (reply views asked (.finish 0)) =
        some ⟨⟨.overview, request⟩, (overviewView store cache request now).2.map .overview⟩ := by
  intro w asked
  obtain ⟨hcache, hreply⟩ := fetch_eq_step views w rfl ⟨.overview, request⟩
  have hfetch := fetch_overview store cache request now
  exact ⟨hcache.trans (congrArg Prod.fst hfetch),
    hreply.trans (congrArg (fun out => some (Answer.mk _ out.2)) hfetch)⟩

end Runs

end Botman.AnalyticsCache
