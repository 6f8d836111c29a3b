import Botman.ChatApi
import Botman.ChatEffects
import Botman.OriginCheck

/-!
Which endpoints make a chatbot reply to an unauthenticated request although
the chatbot is closed or its allow-list does not name the page.
-/

namespace Botman.PublicGate

open Botman.Library.KeyedTable
open Botman.Library.PythonValue
open Botman.DataModel
open Botman.TenantContext
open Botman.Prompts
open Botman.ChatbotSettings
open Botman.WidgetApi
open Botman.ChatService
open Botman.ChatEffects
open Botman.ChatApi
open Botman.OriginCheck

/-- The headers of an unauthenticated request and its query parameter
`bot_id`. -/
structure Visit where
  headers : OriginHeaders
  xBotId : Option String
  botIdParam : Option String

/-- What the middleware reads of a visit, which has no session. -/
def Visit.http (visit : Visit) : HttpRequest :=
  { user := none, xBotId := visit.xBotId, botIdParam := visit.botIdParam }

def Visit.request (visit : Visit) (target : ChatTarget) (data : Json) : ChatRequest :=
  { target := target, http := visit.http, headers := visit.headers, data := data }

/-- The context of a visit. -/
def Visit.tenant (visit : Visit) : Tenant :=
  setContext visit.http (firstTruthy visit.xBotId visit.botIdParam)

/-- The list of domains in the runtime configuration of the chatbot has the property. -/
def OnList (bot : Chatbot) (P : String → Prop) : Prop :=
  ∃ allowed, getD (getRuntimeConfig bot) "allowed_domains" (.str "*") = .str allowed ∧ P allowed

/-- The chatbot is active and published, and its allow-list names the page that sent the
request. -/
def Permitted (text : TextServices) (headers : OriginHeaders) (bot : Chatbot) : Prop :=
  bot.isActive = true ∧ bot.isPublished = true ∧
    OnList bot fun allowed => Allowed text allowed headers

/-- A reply was generated, and a message of the chatbot stored. -/
def Serves (before : Database) (out : Database × ChatResponse) (bot : Chatbot) : Prop :=
  out.2.isReply = true ∧ ∃ m ∈ out.1.messages.rows, m ∉ before.messages.rows ∧
    m.sender = .bot ∧ ∃ c ∈ out.1.conversations.rows,
      c.id = m.conversation ∧ c.chatbot = bot.id

instance (before : Database) (out : Database × ChatResponse) (bot : Chatbot) :
    Decidable (Serves before out bot) :=
  inferInstanceAs (Decidable (out.2.isReply = true ∧
    ∃ m ∈ out.1.messages.rows, m ∉ before.messages.rows ∧
      m.sender = .bot ∧ ∃ c ∈ out.1.conversations.rows,
        c.id = m.conversation ∧ c.chatbot = bot.id))

/-- An endpoint lets the chatbot reply only where it is permitted, whatever the URL, the
body and the surroundings of the request. -/
def Gated (server : ChatServer) (db : Database) (bot : Chatbot) (visit : Visit)
    (endpoint : ChatEndpoint) : Prop :=
  ∀ env target data, target.endpoint = endpoint →
    Serves db (handleChat server env db (visit.request target data)) bot →
      Permitted server.text visit.headers bot

/-- A URL or body of the endpoint leads to the chatbot: the context shows it,
and no other chatbot it shows has the same token. -/
def Resolves (db : Database) (tenant : Tenant) (bot : Chatbot) : ChatEndpoint → Prop
  | .publicChat =>
      matchingChatbots db tenant (fun b => b.widgetToken = bot.widgetToken) = some [bot]
  | _ => matchingChatbots db tenant (fun b => b.id = bot.id) = some [bot]

/-- A session token that the widget's endpoint takes for the chatbot, of a visitor who has
at most one conversation with it. -/
def HasSession (server : ChatServer) (db : Database) (bot : Chatbot) : Prop :=
  ∃ token visitorId, truthy token = true ∧ server.loads token = .loaded visitorId bot.id ∧
    ∀ r ∈ db.conversations.rows, ∀ s ∈ db.conversations.rows,
      r.chatbot = bot.id ∧ r.visitorIdentifier = visitorId →
        s.chatbot = bot.id ∧ s.visitorIdentifier = visitorId → r.id = s.id

/-- The endpoint leads to the chatbot, its configuration allows a prompt and, for the
widget's own endpoint, there is a session. -/
def Answers (server : ChatServer) (db : Database) (bot : Chatbot) (visit : Visit)
    (endpoint : ChatEndpoint) : Prop :=
  Resolves db visit.tenant bot endpoint ∧ UsableConfigs (chatBot bot (endpoint = .preview)) ∧
    (endpoint = .widgetChat → HasSession server db bot)

section Replies

variable {server : ChatServer} {env : ChatEnv} {db : Database} {visit : Visit}
  {target : ChatTarget} {data : Json}

theorem processView_request (visit : Visit) (target : ChatTarget) :
    processView visit.http target.viewMatch = visit.tenant := by
  cases target <;> rfl

theorem mem_matchingChatbots {tenant : Tenant} {p : Chatbot → Bool} {found : List Chatbot}
    (h : matchingChatbots db tenant p = some found) :
    ∀ bot ∈ found, bot ∈ db.chatbots.rows ∧ p bot = true := by
  intro bot hbot
  obtain ⟨rows, hrows, rfl⟩ := Option.map_eq_some_iff.mp h
  obtain ⟨hmem, hp⟩ := List.mem_filter.mp hbot
  exact ⟨mem_of_mem_getQueryset hrows bot hmem, hp⟩

theorem withChatbot_reply {tenant : Tenant} {p : Chatbot → Bool}
    {body : Chatbot → Database × ChatResponse}
    (h : (withChatbot db tenant p body).2.isReply = true) :
    ∃ bot, matchingChatbots db tenant p = some [bot] ∧
      withChatbot db tenant p body = body bot := by
  unfold withChatbot at h ⊢
  split at h
  · cases h
  · cases h
  · rename_i bot hfound
    exact ⟨bot, hfound, rfl⟩
  · cases h

/-- A request that is answered with a reply has led to a chatbot, and ends in
the call of `process_chat_message` for it. -/
structure Led (server : ChatServer) (env : ChatEnv) (db : Database) (visit : Visit)
    (endpoint : ChatEndpoint) (out : Database × ChatResponse) (call : ChatCall) :
    Prop where
  out_eq : out = answerCall server env db call
  tenant : call.tenant = visit.tenant
  resolves : Resolves db visit.tenant call.bot endpoint
  mode : call.previewMode = decide (endpoint = .preview)
  gate : endpoint = .widgetChat →
    widgetGate server.text server.debug visit.headers call.bot = .passed
  session : endpoint = .widgetChat →
    ∃ token, truthy token = true ∧ server.loads token = .loaded call.visitorId call.bot.id

theorem widgetChatView_led
    (h : (widgetChatView server env db visit.tenant visit.headers data).2.isReply = true) :
    ∃ call, Led server env db visit .widgetChat
      (widgetChatView server env db visit.tenant visit.headers data) call := by
  unfold widgetChatView at h ⊢
  split at h
  · simp only at h
    split at h
    · cases h
    · rename_i fields hpresent
      rw [if_neg hpresent]
      split at h
      · cases h
      · cases h
      · rename_i visitorId botId hloads
        obtain ⟨bot, hfound, hbody⟩ := withChatbot_reply h
        rw [hbody] at h ⊢
        split at h
        · cases h
        · cases h
        · rename_i hgate
          obtain ⟨-, hid⟩ := mem_matchingChatbots hfound bot (by simp)
          have hid' : bot.id = botId := by simpa using hid
          have htruthy : truthy (get fields "session_token") = true := by
            simpa using fun hfalsy => hpresent (Or.inl hfalsy)
          refine ⟨_, rfl, rfl, ?_, rfl, fun _ => hgate,
            fun _ => ⟨_, htruthy, hid'.symm ▸ hloads⟩⟩
          change matchingChatbots db visit.tenant (fun b => b.id = bot.id) = some [bot]
          rw [hid']
          exact hfound
  · cases h

theorem chatWith_led {p : Chatbot → Bool} {endpoint : ChatEndpoint}
    (hpublic : endpoint = .publicChat ∨ endpoint = .chat)
    (hresolves : ∀ bot, matchingChatbots db visit.tenant p = some [bot] →
      Resolves db visit.tenant bot endpoint)
    (h : (chatWith server env db visit.tenant p data).2.isReply = true) :
    ∃ call, Led server env db visit endpoint
      (chatWith server env db visit.tenant p data) call := by
  unfold chatWith at h ⊢
  split at h
  · cases h
  · obtain ⟨bot, hfound, hbody⟩ := withChatbot_reply h
    have hwidget : endpoint ≠ .widgetChat := by
      rcases hpublic with rfl | rfl <;> decide
    refine ⟨_, hbody, rfl, hresolves bot hfound, ?_, (absurd · hwidget), (absurd · hwidget)⟩
    rcases hpublic with rfl | rfl <;> rfl

theorem previewAction_led
    (h : (previewAction server env db visit.tenant data).2.isReply = true) :
    ∃ call, Led server env db visit .preview
      (previewAction server env db visit.tenant data) call := by
  unfold previewAction at h ⊢
  split at h
  · split at h
    · cases h
    · rename_i body hpresent
      rw [if_neg hpresent]
      split at h
      · cases h
      · split at h
        · cases h
        · rename_i key _
          obtain ⟨bot, hfound, hbody⟩ := withChatbot_reply h
          refine ⟨_, hbody, rfl, ?_, rfl, by rintro ⟨⟩, by rintro ⟨⟩⟩
          obtain ⟨-, hid⟩ := mem_matchingChatbots hfound bot (by simp)
          have hid' : (bot.id : Int) = key := by simpa using hid
          change matchingChatbots db visit.tenant (fun b => b.id = bot.id) = some [bot]
          rw [← hfound, ← hid']
          simp only [Int.ofNat_inj]
  · cases h

theorem chatAction_led {pk : String}
    (h : (chatAction server env db visit.tenant pk data).2.isReply = true) :
    ∃ call, Led server env db visit .chat
      (chatAction server env db visit.tenant pk data) call := by
  unfold chatAction at h ⊢
  split at h
  · cases h
  · refine chatWith_led (Or.inr rfl) ?_ h
    intro bot hfound
    obtain ⟨-, hid⟩ := mem_matchingChatbots hfound bot (by simp)
    have hid' : some (bot.id : Int) = intOfString pk := by simpa using hid
    change matchingChatbots db visit.tenant (fun b => b.id = bot.id) = some [bot]
    rw [← hfound, ← hid']
    simp only [Option.some.injEq, Int.ofNat_inj]

theorem handleChat_led
    (h : (handleChat server env db (visit.request target data)).2.isReply = true) :
    ∃ call, Led server env db visit target.endpoint
      (handleChat server env db (visit.request target data)) call := by
  have htenant : processView (visit.request target data).http
      (visit.request target data).target.viewMatch = visit.tenant :=
    processView_request visit target
  unfold handleChat at h ⊢
  simp only [htenant] at h ⊢
  cases target with
  | widgetChat => exact widgetChatView_led h
  | publicChat token =>
      refine chatWith_led (Or.inl rfl) ?_ h
      intro bot hfound
      obtain ⟨-, htoken⟩ := mem_matchingChatbots hfound bot (by simp)
      have htoken' : bot.widgetToken = token := by simpa using htoken
      change matchingChatbots db visit.tenant
        (fun b => b.widgetToken = bot.widgetToken) = some [bot]
      rw [htoken']
      exact hfound
  | chat pk => exact chatAction_led h
  | preview => exact previewAction_led h

theorem Resolves.mem {tenant : Tenant} {bot : Chatbot} {endpoint : ChatEndpoint}
    (h : Resolves db tenant bot endpoint) : bot ∈ db.chatbots.rows := by
  cases endpoint <;> exact (mem_matchingChatbots h bot (by simp)).1

theorem Led.bot_eq {endpoint : ChatEndpoint} {out : Database × ChatResponse}
    {call : ChatCall} (h : Led server env db visit endpoint out call) {bot : Chatbot}
    (hbot : bot ∈ db.chatbots.rows) (hserves : Serves db out bot) : call.bot = bot := by
  obtain ⟨-, m, hm, hnew, -, c, hc, hid, hchatbot⟩ := hserves
  rw [h.out_eq] at hm hc
  obtain ⟨c', hc', hid', hchatbot'⟩ := conversation_of_new server.repr env call hm hnew
  have hsame : c = c' := Table.eq_of_key_eq _ hc hc' (hid.trans hid'.symm)
  refine db.chatbots.eq_of_key_eq h.resolves.mem hbot ?_
  change call.bot.id = bot.id
  rw [← hchatbot', ← hchatbot, hsame]

theorem widgetGate_passed_iff {text : TextServices} {bot : Chatbot} {headers : OriginHeaders} :
    widgetGate text false headers bot = .passed ↔
      bot.isActive = true ∧ bot.isPublished = true ∧
        validateOrigin text false headers bot = some true := by
  unfold widgetGate validateBotStatus
  cases bot.isActive with
  | false => simp
  | true =>
      cases bot.isPublished with
      | false => simp
      | true =>
          simp only [Bool.true_eq_false, if_false, true_and]
          cases validateOrigin text false headers bot with
          | none => simp
          | some verdict => cases verdict <;> simp

theorem onList_iff_of_validateOrigin {text : TextServices} {bot : Chatbot}
    {headers : OriginHeaders} (h : validateOrigin text false headers bot = some true) :
    OnList bot (fun allowed => Allowed text allowed headers) ↔
      ¬ OnList bot fun allowed => Mistaken text allowed headers := by
  obtain ⟨allowed, hallowed⟩ : ∃ allowed,
      getD (getRuntimeConfig bot) "allowed_domains" (.str "*") = .str allowed := by
    unfold validateOrigin at h
    simp only [Bool.false_eq_true, if_false] at h
    split at h
    · exact ⟨_, by assumption⟩
    · exact ⟨_, by assumption⟩
    · cases h
    · cases h
  have honly : ∀ P : String → Prop, OnList bot P ↔ P allowed := by
    intro P
    constructor
    · rintro ⟨other, hother, hP⟩
      rw [hallowed] at hother
      cases hother
      exact hP
    · exact fun hP => ⟨allowed, hallowed, hP⟩
  rw [honly, honly, mistaken_iff hallowed]
  simp [h]

theorem Led.not_raised {endpoint : ChatEndpoint} {out : Database × ChatResponse}
    {call : ChatCall} (h : Led server env db visit endpoint out call)
    (hreply : out.2.isReply = true) (e : ChatError) :
    (processChatMessage server.repr env db call).2 ≠ .raised e := by
  intro he
  rw [h.out_eq, answerCall, he] at hreply
  cases hreply

theorem Led.usableConfigs {endpoint : ChatEndpoint} {out : Database × ChatResponse}
    {call : ChatCall} (h : Led server env db visit endpoint out call)
    (hreply : out.2.isReply = true) :
    UsableConfigs (chatBot call.bot (endpoint = .preview)) := by
  rw [← h.mode]
  exact usableConfigs_of_reply server.repr env call db (h.not_raised hreply)

theorem Led.opens {endpoint : ChatEndpoint} {out : Database × ChatResponse}
    {call : ChatCall} (h : Led server env db visit endpoint out call)
    (hreply : out.2.isReply = true) :
    ∃ c, (openConversation env db call).2 = .ok c :=
  opens_of_reply server.repr env call db (h.not_raised hreply)

end Replies

section Requests

theorem exists_length_bound (texts : List String) :
    ∃ n, ∀ s ∈ texts, s.length < n := by
  induction texts with
  | nil => exact ⟨0, by simp⟩
  | cons s rest ih =>
      obtain ⟨n, hn⟩ := ih
      refine ⟨max n (s.length + 1), ?_⟩
      rintro t (_ | ⟨_, ht⟩)
      · omega
      · have := hn t ht
        omega

/-- A text for every number, so that some visitor is new. -/
def visitorText (n : Nat) : String :=
  String.ofList (List.replicate (n + 1) 'v')

theorem strip_visitorText (n : Nat) : strip (visitorText n) = visitorText n := by
  have hspace : isSpace 'v' = false := by decide
  have hdrop : (List.replicate (n + 1) 'v').dropWhile isSpace =
      List.replicate (n + 1) 'v' := by
    simp [List.replicate_succ, hspace]
  simp [strip, visitorText, hdrop]

theorem charField_visitorText (repr : Json → String) (n : Nat) :
    charField repr (some (.str (visitorText n))) = .ok (visitorText n) := by
  have hne : visitorText n ≠ "" := by
    intro hempty
    have hlength := congrArg String.length hempty
    simp [visitorText] at hlength
  have hnull : (visitorText n).toList.contains (Char.ofNat 0) = false := by
    have hv : Char.ofNat 0 ≠ 'v' := by decide
    simp [visitorText, hv]
  simp only [charField, strip_visitorText, hne, if_false, hnull, Bool.false_eq_true]

/-- A body that every endpoint but the widget's accepts. -/
def firstMessage (bot : Chatbot) (visitorId : String) : Json :=
  .obj [("bot_id", .str bot.id.repr), ("message", .str "Hi"), ("visitor_id", .str visitorId)]

theorem chatRequestSerializer_firstMessage (repr : Json → String) (bot : Chatbot) (n : Nat) :
    chatRequestSerializer repr (firstMessage bot (visitorText n)) =
      .ok ⟨"Hi", visitorText n, true⟩ := by
  have hmessage : charField repr (some (.str "Hi")) = .ok "Hi" := by
    have hstrip : strip "Hi" = "Hi" := by decide
    have hnull : ("Hi" : String).toList.contains (Char.ofNat 0) = false := by decide
    simp only [charField, hstrip, hnull, Bool.false_eq_true, if_false]
    rfl
  simp [chatRequestSerializer, firstMessage, List.lookup_cons, charField_visitorText, hmessage,
    booleanField]

/-- The path of an endpoint, for the chatbot. -/
def targetFor (bot : Chatbot) : ChatEndpoint → ChatTarget
  | .widgetChat => .widgetChat
  | .publicChat => .publicChat bot.widgetToken
  | .chat => .chat bot.id.repr
  | .preview => .preview

def firstCall (visit : Visit) (bot : Chatbot) (endpoint : ChatEndpoint) (n : Nat) :
    ChatCall where
  tenant := visit.tenant
  bot := bot
  visitorId := visitorText n
  message := .str "Hi"
  stream := true
  previewMode := endpoint = .preview

theorem withChatbot_of_matching {db : Database} {tenant : Tenant} {p : Chatbot → Bool}
    {bot : Chatbot} (h : matchingChatbots db tenant p = some [bot])
    (body : Chatbot → Database × ChatResponse) :
    withChatbot db tenant p body = body bot := by
  unfold withChatbot
  rw [h]

theorem handleChat_firstMessage (server : ChatServer) (env : ChatEnv) {db : Database}
    {visit : Visit} {bot : Chatbot} {endpoint : ChatEndpoint}
    (hendpoint : endpoint ≠ .widgetChat)
    (hresolves : Resolves db visit.tenant bot endpoint) (n : Nat) :
    handleChat server env db
        (visit.request (targetFor bot endpoint) (firstMessage bot (visitorText n))) =
      answerCall server env db (firstCall visit bot endpoint n) := by
  have hvalid := chatRequestSerializer_firstMessage server.repr bot n
  have htenant : processView visit.http (targetFor bot endpoint).viewMatch =
      visit.tenant := processView_request visit _
  have hkey : intOfString bot.id.repr = some (bot.id : Int) := intOfString_repr bot.id
  unfold handleChat Visit.request
  simp only [htenant]
  cases endpoint with
  | widgetChat => exact absurd rfl hendpoint
  | publicChat =>
      simp only [targetFor, publicChatView, chatWith, hvalid]
      exact withChatbot_of_matching hresolves _
  | chat =>
      simp only [targetFor, chatAction, chatWith, hvalid, hkey, Option.some.injEq,
        Int.ofNat_inj]
      exact withChatbot_of_matching hresolves _
  | preview =>
      have hbot : get [("bot_id", Json.str bot.id.repr), ("message", .str "Hi"),
          ("visitor_id", .str (visitorText n))] "bot_id" = .str bot.id.repr := by
        simp [Library.PythonValue.get, getD]
      have htruthy : truthy (.str bot.id.repr) = true := by
        simp [truthy, Nat.repr_ne_empty]
      have hint : intOf (.str bot.id.repr) = some (bot.id : Int) := hkey
      simp only [targetFor, previewAction, firstMessage] at hvalid ⊢
      simp only [hbot, htruthy, hvalid, hint, Bool.true_eq_false, if_false, Int.ofNat_inj]
      exact withChatbot_of_matching hresolves _

theorem Resolves.showsBot {db : Database} {tenant : Tenant} {bot : Chatbot}
    {endpoint : ChatEndpoint} (h : Resolves db tenant bot endpoint) :
    ShowsBot db tenant bot.id := by
  have hshows : ∀ p : Chatbot → Bool, matchingChatbots db tenant p = some [bot] →
      ShowsBot db tenant bot.id := by
    intro p hp
    obtain ⟨rows, hrows, hfilter⟩ := Option.map_eq_some_iff.mp hp
    have hmem : bot ∈ rows.filter p := by rw [hfilter]; simp
    exact ⟨rows, hrows, bot, List.mem_of_mem_filter hmem, rfl⟩
  cases endpoint <;> exact hshows _ h

theorem serves_plain {server : ChatServer} {db : Database} {call : ChatCall}
    (hshown : ShowsBot db call.tenant call.bot.id)
    (hone : ∀ r ∈ db.conversations.rows, ∀ s ∈ db.conversations.rows,
      call.isFor r = true → call.isFor s = true → r.id = s.id)
    (husable : UsableConfigs (chatBot call.bot call.previewMode))
    (hmessage : call.message = .str "Hi") (hstream : call.stream = true) :
    Serves db (answerCall server plainEnv db call) call.bot := by
  obtain ⟨hresult, hstored⟩ :=
    processChatMessage_plain server.repr call hshown hone husable hmessage hstream
  refine ⟨?_, hstored⟩
  rw [answerCall, hresult]
  rfl

theorem exists_serves_widget {server : ChatServer} (hdebug : server.debug = false)
    {db : Database} {visit : Visit} {bot : Chatbot} (h : Answers server db bot visit .widgetChat)
    (hgate : widgetGate server.text false visit.headers bot = .passed) :
    ∃ data, Serves db
      (handleChat server plainEnv db (visit.request .widgetChat data)) bot := by
  obtain ⟨hresolves, husable, hsession⟩ := h
  obtain ⟨token, visitorId, htoken, hloads, hone⟩ := hsession rfl
  let data : Json := .obj [("session_token", token), ("message", .str "Hi")]
  let call : ChatCall :=
    { tenant := visit.tenant, bot := bot, visitorId := visitorId, message := .str "Hi"
      stream := true, previewMode := false }
  refine ⟨data, ?_⟩
  have hfields : get [("session_token", token), ("message", Json.str "Hi")] "session_token" =
        token ∧
      get [("session_token", token), ("message", Json.str "Hi")] "message" = .str "Hi" :=
    ⟨rfl, rfl⟩
  have hview : handleChat server plainEnv db (visit.request .widgetChat data) =
      answerCall server plainEnv db call := by
    have htenant : processView visit.http ChatTarget.widgetChat.viewMatch = visit.tenant :=
      processView_request visit _
    have htruthy : truthy (.str "Hi") = true := by decide
    simp only [handleChat, Visit.request, htenant, widgetChatView, data, hfields, htoken, htruthy,
      hloads, Bool.true_eq_false, or_self, if_false]
    rw [withChatbot_of_matching hresolves, hdebug, hgate]
  rw [hview]
  refine @serves_plain server db call hresolves.showsBot ?_ husable rfl rfl
  intro r hr s hs hrfor hsfor
  exact hone r hr s hs (ChatCall.isFor_iff.mp hrfor) (ChatCall.isFor_iff.mp hsfor)

theorem exists_serves (server : ChatServer) {db : Database} {visit : Visit}
    {bot : Chatbot} {endpoint : ChatEndpoint} (hendpoint : endpoint ≠ .widgetChat)
    (h : Answers server db bot visit endpoint) :
    ∃ target data, target.endpoint = endpoint ∧
      Serves db (handleChat server plainEnv db (visit.request target data)) bot := by
  obtain ⟨hresolves, husable, -⟩ := h
  obtain ⟨n, hn⟩ := exists_length_bound
    (db.conversations.rows.map Conversation.visitorIdentifier)
  refine ⟨targetFor bot endpoint, firstMessage bot (visitorText n), ?_, ?_⟩
  · cases endpoint <;> rfl
  · rw [handleChat_firstMessage server plainEnv hendpoint hresolves n]
    have hfresh : ∀ c ∈ db.conversations.rows,
        (firstCall visit bot endpoint n).isFor c = false := by
      intro c hc
      by_contra hfor
      obtain ⟨-, hvisitor⟩ := ChatCall.isFor_iff.mp (by simpa using hfor)
      have hlength := hn _ (List.mem_map_of_mem hc)
      have hlength' : c.visitorIdentifier.length = n + 1 := by
        rw [hvisitor]
        simp [firstCall, visitorText]
      omega
    refine @serves_plain server db (firstCall visit bot endpoint n) hresolves.showsBot ?_ husable
      rfl rfl
    intro r hr s _ hrfor
    rw [hfresh r hr] at hrfor
    cases hrfor

end Requests

theorem Led.showsBot {server : ChatServer} {env : ChatEnv} {db : Database} {visit : Visit}
    {endpoint : ChatEndpoint} {out : Database × ChatResponse} {call : ChatCall}
    (h : Led server env db visit endpoint out call) :
    ShowsBot db call.tenant call.bot.id :=
  h.tenant ▸ h.resolves.showsBot

theorem answers_of_serves {server : ChatServer} {env : ChatEnv} {db : Database} {bot : Chatbot}
    (hbot : bot ∈ db.chatbots.rows) {visit : Visit} {target : ChatTarget} {data : Json}
    (h : Serves db (handleChat server env db (visit.request target data)) bot) :
    Answers server db bot visit target.endpoint ∧ (target.endpoint = .widgetChat →
      widgetGate server.text server.debug visit.headers bot = .passed) := by
  obtain ⟨call, hled⟩ := handleChat_led h.1
  obtain rfl := hled.bot_eq hbot h
  refine ⟨⟨hled.resolves, hled.usableConfigs h.1, ?_⟩, hled.gate⟩
  intro hwidget
  obtain ⟨token, htoken, hloads⟩ := hled.session hwidget
  refine ⟨token, call.visitorId, htoken, hloads, ?_⟩
  obtain ⟨c, hopen⟩ := hled.opens h.1
  intro r hr s hs hrfor hsfor
  exact id_eq_of_openConversation hled.showsBot hopen r hr s hs
    (ChatCall.isFor_iff.mpr hrfor) (ChatCall.isFor_iff.mpr hsfor)

/-- An endpoint lets a chatbot reply only where it is permitted exactly when it is, when the
chatbot cannot answer there at all, or when the endpoint is the widget's own and the chatbot
is closed or the headers are none that the origin check mistakes. -/
theorem gated_iff (server : ChatServer) (hdebug : server.debug = false) (db : Database)
    (bot : Chatbot) (hbot : bot ∈ db.chatbots.rows) (visit : Visit)
    (endpoint : ChatEndpoint) :
    Gated server db bot visit endpoint ↔
      Permitted server.text visit.headers bot ∨ ¬ Answers server db bot visit endpoint ∨
        endpoint = .widgetChat ∧ (bot.isActive = false ∨ bot.isPublished = false ∨
          ¬ OnList bot fun allowed => Mistaken server.text allowed visit.headers) := by
  constructor
  · intro hgated
    by_cases hanswers : Answers server db bot visit endpoint
    · by_cases hwidget : endpoint = .widgetChat
      · subst hwidget
        by_cases hgate : widgetGate server.text false visit.headers bot = .passed
        · obtain ⟨data, hserves⟩ := exists_serves_widget hdebug hanswers hgate
          exact Or.inl (hgated plainEnv .widgetChat data rfl hserves)
        · refine Or.inr (Or.inr ⟨rfl, ?_⟩)
          by_contra hopen
          simp only [not_or, Bool.not_eq_false, not_not] at hopen
          obtain ⟨hactive, hpublished, allowed, hallowed, hmistaken⟩ := hopen
          exact hgate (widgetGate_passed_iff.mpr
            ⟨hactive, hpublished, ((mistaken_iff hallowed).mp hmistaken).1⟩)
      · obtain ⟨target, data, htarget, hserves⟩ := exists_serves server hwidget hanswers
        exact Or.inl (hgated plainEnv target data htarget hserves)
    · exact Or.inr (Or.inl hanswers)
  · intro hcases env target data htarget hserves
    obtain ⟨hanswers, hgate⟩ := answers_of_serves hbot hserves
    rw [htarget] at hanswers hgate
    rcases hcases with hpermitted | hnot | ⟨hwidget, hclosed⟩
    · exact hpermitted
    · exact absurd hanswers hnot
    · have hpassed := hgate hwidget
      rw [hdebug] at hpassed
      obtain ⟨hactive, hpublished, horigin⟩ := widgetGate_passed_iff.mp hpassed
      refine ⟨hactive, hpublished, (onList_iff_of_validateOrigin horigin).mpr ?_⟩
      rcases hclosed with hinactive | hdraft | hnever
      · exact absurd (hinactive.symm.trans hactive) (by decide)
      · exact absurd (hdraft.symm.trans hpublished) (by decide)
      · exact hnever

def plainServer : ChatServer where
  repr := noRepr
  text := { lower := fun s => String.ofList (s.toList.map Char.toLower)
            acceptsNetloc := fun _ => true }
  debug := false
  loads := fun _ => .badSignature

/-- A chatbot that was never published, is switched off and is restricted to
one domain. -/
def hiddenBot : Chatbot :=
  { supportBot with isActive := false, isPublished := false, allowedDomains := "example.com" }

def hiddenDb : Database :=
  { Database.empty with chatbots := Table.empty.create hiddenBot }

/-- A page of another site. -/
def foreignVisit : Visit where
  headers := { origin := some "https://evil.test", referer := none }
  xBotId := none
  botIdParam := none

/-- A chatbot whose list of domains ends with a comma. -/
def commaBot : Chatbot :=
  { supportBot with allowedDomains := "shop.test," }

def commaDb : Database :=
  { Database.empty with chatbots := Table.empty.create commaBot }

/-- Every token is one of a session with the chatbot. -/
def sessionServer : ChatServer :=
  { plainServer with loads := fun _ => .loaded "visitor" commaBot.id }

/-- A request from a sandboxed page. -/
def opaqueVisit : Visit :=
  { foreignVisit with headers := fromOrigin "null" }

/-- Every endpoint but the widget's makes the hidden chatbot reply to a
foreign page, and the widget's makes the other one reply to a page that its list does not
name. -/
theorem hiddenBot_served :
    (¬ Permitted plainServer.text foreignVisit.headers hiddenBot ∧
      ∀ endpoint ∈ [ChatEndpoint.publicChat, .chat, .preview],
        Serves hiddenDb (handleChat plainServer plainEnv hiddenDb
          (foreignVisit.request (targetFor hiddenBot endpoint)
            (firstMessage hiddenBot "visitor"))) hiddenBot) ∧
    ¬ Permitted sessionServer.text opaqueVisit.headers commaBot ∧
      Serves commaDb (handleChat sessionServer plainEnv commaDb
        (opaqueVisit.request .widgetChat
          (.obj [("session_token", .str "token"), ("message", .str "Hi")]))) commaBot := by
  refine ⟨⟨fun h => Bool.false_ne_true h.1, by decide +kernel⟩, ?_, by decide +kernel⟩
  rintro ⟨-, -, allowed, hallowed, hnamed⟩
  obtain rfl : "shop.test," = allowed := by
    have hlist : getD (getRuntimeConfig commaBot) "allowed_domains" (.str "*") =
        .str "shop.test," := rfl
    exact Json.str.inj (hlist.symm.trans hallowed)
  have hhost : requestHost sessionServer.text opaqueVisit.headers = some "" := by decide
  rcases hnamed with hall | ⟨host, hnull, hne, -⟩
  · exact absurd hall (by decide)
  · exact hne (Option.some.inj (hnull.symm.trans hhost))

theorem hiddenBot_gated :
    (hiddenBot ∈ hiddenDb.chatbots.rows ∧
      Gated plainServer hiddenDb hiddenBot foreignVisit .widgetChat) ∧
    commaBot ∈ commaDb.chatbots.rows ∧
      Gated sessionServer commaDb commaBot foreignVisit .widgetChat := by
  have hhidden : hiddenBot ∈ hiddenDb.chatbots.rows := List.mem_singleton_self hiddenBot
  have hcomma : commaBot ∈ commaDb.chatbots.rows := List.mem_singleton_self commaBot
  refine ⟨⟨hhidden, (gated_iff plainServer rfl hiddenDb hiddenBot hhidden foreignVisit
    .widgetChat).mpr (Or.inr (Or.inr ⟨rfl, Or.inl rfl⟩))⟩, hcomma,
    (gated_iff sessionServer rfl commaDb commaBot hcomma foreignVisit .widgetChat).mpr
      (Or.inr (Or.inr ⟨rfl, Or.inr (Or.inr ?_)⟩))⟩
  rintro ⟨allowed, hallowed, hmistaken⟩
  have hrefused : validateOrigin sessionServer.text false foreignVisit.headers commaBot =
      some false := by decide
  rw [((mistaken_iff hallowed).mp hmistaken).1] at hrefused
  cases hrefused

end Botman.PublicGate
