import Botman.Library.SplitText
import Botman.TelegramConnect

/-!
`TelegramWebhookView`: the updates that Telegram posts to the URL registered
for a chatbot.

The secret of the URL is not stored by itself, but cut out of the stored URL.
A text message is handed to a Celery task by a method that such tasks do not
have.
-/

namespace Botman.TelegramWebhook

open Botman.Library.KeyedTable
open Botman.Library.PythonValue
open Botman.Library.SplitText (lastPiece lastPiece_append_sep_append)
open Botman.Library.Transition
open Botman.DataModel
open Botman.TenantContext
open Botman.TenantPrograms
open Botman.AnalyticsTask
open Botman.TelegramApi
open Botman.TelegramConnect
open Botman.ChatEffects (supportBot)
open Botman.KnowledgeApi (accountOne)

section View

/-- A call of `process_telegram_message_task` that waits for a worker. -/
structure Job where
  botId : Nat
  chatId : Json
  text : Json

/-- The ways to call a task; a `shared_task` has no `send`. -/
inductive TaskMethod where
  | delay
  | applyAsync
  | send
  deriving DecidableEq

/-- What is put in the queue, absent where a task has no such method. -/
def TaskMethod.call (job : Job) : TaskMethod → Option (List Job)
  | .delay => some [job]
  | .applyAsync => some [job]
  | .send => none

/-- A request to the webhook. -/
structure WebhookRequest where
  sessionUser : Option User
  xBotId : Option String
  botIdParam : Option String
  botId : Nat
  secret : Option String
  data : Json

def WebhookRequest.tenant (request : WebhookRequest) : Tenant :=
  processView
    { user := request.sessionUser, xBotId := request.xBotId, botIdParam := request.botIdParam }
    { viewClass := some "TelegramWebhookView", kwargs := [("bot_id", toString request.botId)] }

/-- The responses of the view. -/
inductive WebhookResponse where
  | error (status : Nat) (message : String)
  | failed
  | ok
  deriving DecidableEq

def secretMarker : String := "?secret="

/-- `webhook_url.split("?secret=")[-1]`, where the marker occurs. -/
def savedSecret (row : TelegramIntegration) : Option String :=
  row.webhookUrl.bind fun url =>
    if secretMarker.toList <:+: url.toList then
      some (String.ofList (lastPiece secretMarker.toList url.toList))
    else none

/-- The check of the secret; one that is missing or empty never matches. -/
def secretMatches (row : TelegramIntegration) (secret : Option String) : Bool :=
  secret.any fun s => s ≠ "" && savedSecret row = some s

/-- `get_object_or_404(Chatbot, id=bot_id)`, absent where it raises something
else. -/
def webhookChatbots (store : Store) (request : WebhookRequest) : Option (List Chatbot) :=
  (getQueryset store.toDatabase chatbotModel request.tenant store.chatbots.rows).map fun rows =>
    rows.filter fun bot => bot.id = request.botId

/-- The view up to its reading of the body. -/
def authorized (store : Store) (request : WebhookRequest) : Except WebhookResponse Chatbot :=
  match webhookChatbots store request with
  | none => .error .failed
  | some [] => .error (.error 404 "Resource not found.")
  | some (bot :: _) =>
      match integrationOf store bot.id with
      | none => .error (.error 403 "Integration not active")
      | some row =>
          if row.isActive = false then .error (.error 403 "Integration not active")
          else if secretMatches row request.secret then .ok bot
          else .error (.error 403 "Invalid secret")

def isMessage : Json → Bool
  | .str s => s = "message"
  | _ => false

/-- `"message" in data`, absent where it raises. -/
def namesMessage : Json → Option Bool
  | .obj fields => some (fields.lookup "message").isSome
  | .arr items => some (items.any isMessage)
  | .str s => some (decide ("message".toList <:+: s.toList))
  | _ => none

/-- `value[key]`, absent where it raises. -/
def item : Json → String → Option Json
  | .obj fields, key => fields.lookup key
  | _, _ => none

/-- `value.get(key)`, absent where the value is no dictionary. -/
def getField : Json → String → Option Json
  | .obj fields, key => some (get fields key)
  | _, _ => none

/-- The view from its reading of the body: what it puts in the queue by a method
of the task, absent where it raises. -/
def receive (method : TaskMethod) (botId : Nat) (data : Json) : Option (List Job) :=
  (namesMessage data).bind fun named =>
    if named then
      (item data "message").bind fun message =>
        (item message "chat").bind fun chat =>
          (item chat "id").bind fun chatId =>
            (getField message "text").bind fun text =>
              if truthy text then method.call ⟨botId, chatId, text⟩ else some []
    else some []

/-- `TelegramWebhookView.post`: the jobs that it puts in the queue, and the
response. -/
def telegramWebhook (store : Store) (request : WebhookRequest) : List Job × WebhookResponse :=
  match authorized store request with
  | .error response => ([], response)
  | .ok _ =>
      -- `process_telegram_message_task.send(bot_id, chat_id, text)`
      match receive .send request.botId request.data with
      | none => ([], .failed)
      | some jobs => (jobs, .ok)

end View

section Bodies

variable {botId : Nat} {data : Json}

/-- The intended job of a message: one for a text. -/
def messageJobs (botId : Nat) (message : Dict) : List Job :=
  match message.lookup "chat" with
  | some (.obj chat) =>
      match chat.lookup "id", get message "text" with
      | some chatId, .str text => if text = "" then [] else [⟨botId, chatId, .str text⟩]
      | _, _ => []
  | _ => []

/-- What an update asks for: the text of a message of a chat is to be answered. -/
def requestedJobs (botId : Nat) : Json → List Job
  | .obj fields =>
      match fields.lookup "message" with
      | some (.obj message) => messageJobs botId message
      | _ => []
  | _ => []

/-- A body that the view reads to its end without a text to answer. -/
inductive Quiet : Json → Prop
  | unnamed {data : Json} (hnamed : namesMessage data = some false) : Quiet data
  | silent {fields message chat : Dict} {chatId : Json}
      (hmessage : fields.lookup "message" = some (.obj message))
      (hchat : message.lookup "chat" = some (.obj chat))
      (hid : chat.lookup "id" = some chatId)
      (htext : truthy (get message "text") = false) : Quiet (.obj fields)

/-- The update carries a message with a text, in a chat. -/
structure Spoken (fields message : Dict) (chatId : Json) : Prop where
  message_eq : fields.lookup "message" = some (.obj message)
  chat_eq : ∃ chat, message.lookup "chat" = some (.obj chat) ∧ chat.lookup "id" = some chatId
  text : truthy (get message "text") = true

theorem item_eq_some {value found : Json} {key : String} (h : item value key = some found) :
    ∃ fields, value = .obj fields ∧ fields.lookup key = some found := by
  unfold item at h
  split at h
  · exact ⟨_, rfl, h⟩
  · cases h

theorem requestedJobs_of_unnamed (botId : Nat) (h : namesMessage data = some false) :
    requestedJobs botId data = [] := by
  cases data with
  | obj fields =>
      have hnone : fields.lookup "message" = none := by simpa [namesMessage] using h
      simp only [requestedJobs, hnone]
  | _ => rfl

theorem messageJobs_of_silent (botId : Nat) {message : Dict}
    (h : truthy (get message "text") = false) : messageJobs botId message = [] := by
  unfold messageJobs
  split
  · split
    · rename_i text htext
      rw [htext] at h
      exact if_pos (of_not_not (of_decide_eq_false h))
    · rfl
  · rfl

theorem receive_of_quiet (method : TaskMethod) (botId : Nat) (h : Quiet data) :
    receive method botId data = some [] ∧ requestedJobs botId data = [] := by
  cases h with
  | unnamed hnamed =>
      exact ⟨by simp [receive, hnamed], requestedJobs_of_unnamed botId hnamed⟩
  | silent hmessage hchat hid htext =>
      refine ⟨by simp [receive, namesMessage, item, getField, hmessage, hchat, hid, htext], ?_⟩
      simp only [requestedJobs, hmessage, messageJobs_of_silent botId htext]

theorem receive_of_spoken (method : TaskMethod) (botId : Nat) {fields message : Dict}
    {chatId : Json} (h : Spoken fields message chatId) :
    receive method botId (.obj fields) = method.call ⟨botId, chatId, get message "text"⟩ := by
  obtain ⟨chat, hchat, hid⟩ := h.chat_eq
  simp [receive, namesMessage, item, getField, h.message_eq, hchat, hid, h.text]

theorem receive_cases {method : TaskMethod} {jobs : List Job}
    (h : receive method botId data = some jobs) :
    Quiet data ∨ ∃ fields message chatId, data = .obj fields ∧ Spoken fields message chatId := by
  unfold receive at h
  obtain ⟨named, hnamed, h⟩ := Option.bind_eq_some_iff.mp h
  cases named with
  | false => exact Or.inl (.unnamed hnamed)
  | true =>
      obtain ⟨value, hvalue, h⟩ := Option.bind_eq_some_iff.mp h
      obtain ⟨chat, hchat, h⟩ := Option.bind_eq_some_iff.mp h
      obtain ⟨chatId, hid, -⟩ := Option.bind_eq_some_iff.mp h
      obtain ⟨fields, rfl, hmessage⟩ := item_eq_some hvalue
      obtain ⟨message, rfl, hchat⟩ := item_eq_some hchat
      obtain ⟨chat, rfl, hid⟩ := item_eq_some hid
      -- whatever the text is, the view has read the body by now
      cases htext : truthy (get message "text") with
      | false => exact Or.inl (.silent hmessage hchat hid htext)
      | true => exact Or.inr ⟨fields, message, chatId, rfl, hmessage, ⟨chat, hchat, hid⟩, htext⟩

theorem requestedJobs_cases (botId : Nat) (data : Json) :
    requestedJobs botId data = [] ∨ ∃ fields message chatId, data = .obj fields ∧
      Spoken fields message chatId ∧
        requestedJobs botId data = [⟨botId, chatId, get message "text"⟩] := by
  unfold requestedJobs
  split
  · rename_i fields
    split
    · rename_i message hmessage
      unfold messageJobs
      split
      · rename_i chat hchat
        split
        · rename_i chatId text hid htext
          by_cases hempty : text = ""
          · exact Or.inl (if_pos hempty)
          · refine Or.inr ⟨fields, message, chatId, rfl, ⟨hmessage, ⟨chat, hchat, hid⟩, ?_⟩, ?_⟩
            · rw [htext]
              exact decide_eq_true hempty
            · rw [if_neg hempty, htext]
        · exact Or.inl rfl
      · exact Or.inl rfl
    · exact Or.inl rfl
  · exact Or.inl rfl

theorem receive_eq_requestedJobs_iff (method : TaskMethod) (botId : Nat) (data : Json) :
    receive method botId data = some (requestedJobs botId data) ↔
      Quiet data ∨ method ≠ .send ∧ requestedJobs botId data ≠ [] := by
  constructor
  · intro h
    rcases receive_cases h with hquiet | ⟨fields, message, chatId, rfl, hspoken⟩
    · exact Or.inl hquiet
    · rw [receive_of_spoken method botId hspoken] at h
      cases method with
      | send => cases h
      | delay => exact Or.inr ⟨by decide, by simp [← Option.some.inj h]⟩
      | applyAsync => exact Or.inr ⟨by decide, by simp [← Option.some.inj h]⟩
  · rintro (hquiet | ⟨hmethod, hjobs⟩)
    · rw [(receive_of_quiet method botId hquiet).1, (receive_of_quiet method botId hquiet).2]
    · rcases requestedJobs_cases botId data with
        hnone | ⟨fields, message, chatId, rfl, hspoken, hrequested⟩
      · exact absurd hnone hjobs
      · rw [receive_of_spoken method botId hspoken, hrequested]
        cases method with
        | send => exact absurd rfl hmethod
        | delay => rfl
        | applyAsync => rfl

/-- With the right secret of an active integration, a request is answered with 200
and the jobs it asks for exactly where it is quiet: a text is never put in the
queue. -/
theorem webhook_serves_iff {store : Store} {request : WebhookRequest} {bot : Chatbot}
    (hauthorized : authorized store request = .ok bot) :
    telegramWebhook store request = (requestedJobs request.botId request.data, .ok) ↔
      Quiet request.data := by
  have hiff := receive_eq_requestedJobs_iff .send request.botId request.data
  simp only [ne_eq, not_true_eq_false, false_and, or_false] at hiff
  rw [← hiff, telegramWebhook, hauthorized]
  cases receive .send request.botId request.data with
  | none => simp
  | some jobs => simp

end Bodies

section Secrets

/-- The alphabet of `token_urlsafe`. -/
def isUrlSafe (c : Char) : Bool :=
  c.isAlphanum || c = '-' || c = '_'

/-- A value that `secrets.token_urlsafe` may return. -/
def IsToken (secret : String) : Prop :=
  secret ≠ "" ∧ secret.toList.all isUrlSafe = true

theorem savedSecret_of_webhookUrl {row : TelegramIntegration} {request : ConnectRequest}
    {bot : Chatbot} (hurl : row.webhookUrl = some (webhookUrl request bot))
    (hsecret : request.secret.toList.all isUrlSafe = true) :
    savedSecret row = some request.secret := by
  have hmark : '?' ∉ request.secret.toList := by
    intro hmem
    exact absurd (List.all_eq_true.mp hsecret _ hmem) (by decide)
  have hurl' : (webhookUrl request bot).toList =
      (request.baseUrl ++ "/api/integrations/telegram/webhook/" ++ toString bot.id ++
        "/").toList ++ '?' :: ("secret=".toList ++ request.secret.toList) := by
    simp [webhookUrl]
  have hinfix : secretMarker.toList <:+: (webhookUrl request bot).toList := by
    rw [hurl', ← List.cons_append]
    exact (List.prefix_append _ _).isInfix.trans (List.suffix_append _ _).isInfix
  have hlast : lastPiece secretMarker.toList (webhookUrl request bot).toList =
      request.secret.toList := by
    rw [hurl']
    exact lastPiece_append_sep_append (by decide) hmark _
  rw [savedSecret, hurl, Option.bind_some, if_pos hinfix, hlast, String.ofList_toList]

theorem webhookChatbots_anonymous {store : Store} {request : WebhookRequest} {bot : Chatbot}
    (hsession : request.sessionUser = none) (hbot : bot ∈ store.chatbots.rows)
    (hid : bot.id = request.botId) : webhookChatbots store request = some [bot] := by
  have htenant : request.tenant = { botId := some (.text request.botId.repr) } := by
    simp [WebhookRequest.tenant, processView, setContext, viewBotId, firstTruthy, hsession,
      Nat.repr_ne_empty, toString]
  have htruthy : (BotRef.text request.botId.repr).truthy = true :=
    decide_eq_true Nat.repr_ne_empty
  have hfind : store.chatbots.rows.find? (fun b => b.id = request.botId) = some bot :=
    (store.chatbots.get?_eq_some_iff).mpr ⟨hbot, hid⟩
  have hone : store.chatbots.rows.filter (fun b => b.id = request.botId) = [bot] := by
    rw [store.chatbots.filter_eq_toList_find?, hfind]
    · rfl
    · intro r hr s hs hrid hsid
      exact (of_decide_eq_true hrid).trans (of_decide_eq_true hsid).symm
  simp [webhookChatbots, htenant, getQueryset, botColumn_chatbot, htruthy, BotRef.int?,
    intOfString_repr, rowsOfUser, hone, hid]

end Secrets

section Attempts

variable {cipher : Cipher} {store : Store} {request : ConnectRequest} {bot : Chatbot}

/-- What an attempt to connect leaves in the store. -/
def attempt (cipher : Cipher) (store : Store) (request : ConnectRequest) : Store :=
  (connectTelegramBot cipher store request).1

def fieldsOf : Json → Dict
  | .obj fields => fields
  | _ => []

/-- The attempt is one for the chatbot: its body names it and has a token, its user owns the
chatbot, and its context shows it. -/
def Aims (store : Store) (bot : Chatbot) (request : ConnectRequest) : Prop :=
  (truthy (get (fieldsOf request.data) "bot_id") = true ∧
    intOf (get (fieldsOf request.data) "bot_id") = some (bot.id : Int) ∧
    truthy (get (fieldsOf request.data) "telegram_bot_token") = true) ∧
  bot.owner = request.jwtUser.id ∧ isMalformed request.tenant = false ∧
    Shows store.toDatabase request.tenant (some bot.id)

instance (store : Store) (bot : Chatbot) (request : ConnectRequest) :
    Decidable (Aims store bot request) :=
  inferInstanceAs (Decidable (_ ∧ _))

/-- What Telegram has registered for a chatbot in an attempt: the URL of a call that it has
accepted. -/
def registeredUrl (bot : Chatbot) (visit : Store × ConnectRequest) : Option String :=
  if Aims visit.1 bot visit.2 ∧ visit.2.webhookSet = true then
    (webhookCall visit.1 visit.2).map WebhookCall.url
  else none

/-- An attempt for the chatbot in which Telegram knows the token and accepts the URL. -/
def connection (bot : Chatbot) (visit : Store × ConnectRequest) : Option ConnectRequest :=
  if Aims visit.1 bot visit.2 ∧ visit.2.botInfo.isSome = true ∧ visit.2.webhookSet = true then
    some visit.2
  else none

theorem connection_eq_some {visit : Store × ConnectRequest}
    (h : connection bot visit = some request) : visit.2 = request := by
  unfold connection at h
  split at h
  · exact Option.some.inj h
  · cases h

/-- What Telegram has registered is also stored: the attempt fails at the verification of
the token or at the registration, or it succeeds. -/
def Settles (cipher : Cipher) (visit : Store × ConnectRequest) : Prop :=
  ∀ bot ∈ visit.1.chatbots.rows, Aims visit.1 bot visit.2 →
    visit.2.botInfo.isSome = true → visit.2.webhookSet = true →
      ∃ username url, (connectTelegramBot cipher visit.1 visit.2).2 = .connected username url

theorem ownedChatbots_eq_cons_iff {botId : Json} :
    (∃ rest, ownedChatbots store request botId = some (bot :: rest)) ↔
      intOf botId = some (bot.id : Int) ∧ bot ∈ store.chatbots.rows ∧
        bot.owner = request.jwtUser.id ∧ isMalformed request.tenant = false ∧
          Shows store.toDatabase request.tenant (some bot.id) := by
  unfold ownedChatbots
  rw [getQueryset_eq (followsChatbot_chatbot store.toDatabase) request.tenant]
  cases hkey : intOf botId with
  | none => simp
  | some key =>
      cases isMalformed request.tenant with
      | true => simp
      | false =>
          simp only [Bool.false_eq_true, if_false, Option.bind_some, Option.map_some,
            Option.some.injEq, true_and]
          constructor
          · rintro ⟨rest, hfound⟩
            have hmem : bot ∈ bot :: rest := List.mem_cons_self
            rw [← hfound, List.filter_filter, List.mem_filter] at hmem
            simp only [Bool.and_eq_true, decide_eq_true_eq] at hmem
            exact ⟨hmem.2.1.1.symm, hmem.1, hmem.2.1.2, hmem.2.2⟩
          · rintro ⟨rfl, hbot, howner, hshown⟩
            rw [List.filter_filter]
            generalize hrows : store.chatbots.rows.filter _ = rows
            have hmem : bot ∈ rows := by
              rw [← hrows, List.mem_filter]
              exact ⟨hbot, by simp [howner, hshown]⟩
            cases rows with
            | nil => cases hmem
            | cons first rest =>
                -- the key is unique, so the first of the rows is the chatbot
                have hfirst : first ∈ first :: rest := List.mem_cons_self
                rw [← hrows, List.mem_filter] at hfirst
                simp only [Bool.and_eq_true, decide_eq_true_eq] at hfirst
                rw [store.chatbots.eq_of_key_eq hfirst.1 hbot (Int.ofNat.inj hfirst.2.1.1)]
                exact ⟨rest, rfl⟩

theorem verified_iff :
    (∃ token username, verified store request = .ok (bot, token, username)) ↔
      bot ∈ store.chatbots.rows ∧ Aims store bot request ∧ request.botInfo.isSome = true := by
  have hnull : ∀ key, truthy (Botman.Library.PythonValue.get [] key) = false := fun _ => rfl
  unfold verified Aims
  cases request.data with
  | obj fields =>
      simp only [fieldsOf]
      generalize hbotId : Botman.Library.PythonValue.get fields "bot_id" = botId
      have howned := @ownedChatbots_eq_cons_iff store request bot botId
      by_cases hfields : truthy botId = false ∨
          truthy (Botman.Library.PythonValue.get fields "telegram_bot_token") = false
      · rw [if_pos hfields]
        grind
      · rw [if_neg hfields]
        rw [not_or, Bool.not_eq_false, Bool.not_eq_false] at hfields
        have hrest : (bot ∈ store.chatbots.rows ∧ ((truthy botId = true ∧
            intOf botId = some (bot.id : Int) ∧
            truthy (Botman.Library.PythonValue.get fields "telegram_bot_token") = true) ∧
            bot.owner = request.jwtUser.id ∧ isMalformed request.tenant = false ∧
            Shows store.toDatabase request.tenant (some bot.id)) ∧
            request.botInfo.isSome = true) ↔
            (∃ rest, ownedChatbots store request botId = some (bot :: rest)) ∧
              request.botInfo.isSome = true := by
          rw [howned]
          tauto
        rw [hrest]
        cases ownedChatbots store request botId with
        | none => simp
        | some found =>
            cases found with
            | nil => simp
            | cons first rest => cases request.botInfo <;> simp
  | _ => simp [fieldsOf, hnull]

theorem attempt_toDatabase (cipher : Cipher) (store : Store) (request : ConnectRequest) :
    (attempt cipher store request).toDatabase = store.toDatabase := by
  unfold attempt connectTelegramBot
  split
  · rfl
  · split
    · rfl
    · rfl
  · rfl

/-- The integration of a chatbot, as its last connection left it. -/
inductive Linked (bot : Chatbot) (table : Table TelegramIntegration) :
    Option ConnectRequest → Prop
  | never (hnone : ∀ r ∈ table.rows, r.chatbot ≠ bot.id) : Linked bot table none
  | since {last : ConnectRequest} {row : TelegramIntegration}
      (hrow : ∀ r, r ∈ table.rows ∧ r.chatbot = bot.id ↔ r = row) (hactive : row.isActive = true)
      (hurl : row.webhookUrl = some (webhookUrl last bot)) : Linked bot table (some last)

theorem Linked.other {before after : Table TelegramIntegration} {row : TelegramIntegration}
    {last : Option ConnectRequest} (h : Linked bot before last) (hreplaces : Replaces before after row)
    (hother : row.chatbot ≠ bot.id) : Linked bot after last := by
  cases h with
  | never hnone =>
      refine .never fun r hr hchatbot => ?_
      obtain ⟨hr, -⟩ := (hreplaces.mem_other hother r).mp ⟨hr, hchatbot⟩
      exact hnone r hr hchatbot
  | since hrow hactive hurl =>
      exact .since (fun r => (hreplaces.mem_other hother r).trans (hrow r)) hactive hurl

theorem linked_of_stores {found : Chatbot} {before after : Table TelegramIntegration} {row : TelegramIntegration}
    {token : String} (h : Stores cipher request found token before after row)
    (hfound : found.id = bot.id) : Linked bot after (some request) := by
  refine .since (fun r => ?_) h.active ?_
  · rw [h.mem_iff, ← hfound]
    constructor
    · rintro ⟨rfl | ⟨hr, hid⟩, hchatbot⟩
      · rfl
      · exact absurd hchatbot (h.only r hr hid)
    · rintro rfl
      exact ⟨Or.inl rfl, h.chatbot_eq⟩
  · rw [h.url_eq, webhookUrl, hfound, webhookUrl]

/-- An attempt that is answered with success for the chatbot. -/
def linkedBy (cipher : Cipher) (bot : Chatbot) (visit : Store × ConnectRequest) :
    Option ConnectRequest :=
  match checked visit.1 visit.2, (connectTelegramBot cipher visit.1 visit.2).2 with
  | .ok (found, _), .connected _ _ => if found.id = bot.id then some visit.2 else none
  | _, _ => none

theorem linked_attempt (cipher : Cipher) (bot : Chatbot) (store : Store)
    (request : ConnectRequest) (last : Option ConnectRequest)
    (h : Linked bot store.telegramIntegrations last) :
    Linked bot (attempt cipher store request).telegramIntegrations
      ((linkedBy cipher bot (store, request)).or last) := by
  unfold attempt linkedBy
  rcases connect_cases cipher store request with
    ⟨hsame, hnot⟩ | ⟨found, token, username, row, hchecked, hconnected, hstores⟩
  · rw [hsame]
    split
    · rename_i hconnected
      exact absurd hconnected (hnot _ _)
    · exact h
  · simp only [hchecked, hconnected]
    by_cases hfound : found.id = bot.id
    · rw [if_pos hfound]
      exact linked_of_stores hstores hfound
    · rw [if_neg hfound]
      exact h.other hstores.toReplaces (hstores.chatbot_eq ▸ hfound)

theorem integrationOf_eq_some {row : TelegramIntegration}
    (h : ∀ r, r ∈ store.telegramIntegrations.rows ∧ r.chatbot = bot.id ↔ r = row) :
    integrationOf store bot.id = some row := by
  obtain ⟨hrow, hchatbot⟩ := (h row).mpr rfl
  refine (Table.find?_eq_some_iff_of_unique ?_).mpr ⟨hrow, decide_eq_true hchatbot⟩
  intro r hr s hs hbotr hbots
  rw [(h r).mp ⟨hr, of_decide_eq_true hbotr⟩, (h s).mp ⟨hs, of_decide_eq_true hbots⟩]

theorem secretMatches_iff {row : TelegramIntegration} {last : ConnectRequest}
    (hurl : row.webhookUrl = some (webhookUrl last bot)) (hlast : IsToken last.secret)
    (secret : Option String) : secretMatches row secret = true ↔ secret = some last.secret := by
  have hsaved := savedSecret_of_webhookUrl hurl hlast.2
  cases secret with
  | none => simp [secretMatches]
  | some s =>
      simp only [secretMatches, hsaved, Option.any_some, Bool.and_eq_true, decide_eq_true_eq,
        Option.some.injEq]
      constructor
      · exact fun h => h.2.symm
      · rintro rfl
        exact ⟨hlast.1, rfl⟩

theorem authorized_iff_of_linked {last : Option ConnectRequest} {posted : WebhookRequest}
    (h : Linked bot store.telegramIntegrations last)
    (hfound : webhookChatbots store posted = some [bot])
    (htokens : ∀ attempt, last = some attempt → IsToken attempt.secret) :
    authorized store posted = .ok bot ↔
      ∃ attempt, last = some attempt ∧ posted.secret = some attempt.secret := by
  simp only [authorized, hfound]
  cases h with
  | never hnone =>
      have hintegration : integrationOf store bot.id = none :=
        List.find?_eq_none.mpr fun r hr => by simpa using hnone r hr
      simp [hintegration]
  | since hrow hactive hurl =>
      simp only [integrationOf_eq_some hrow, hactive, Bool.true_eq_false, if_false,
        secretMatches_iff hurl (htokens _ rfl), Option.some.injEq, exists_eq_left']
      split
      · rename_i hsecret
        exact iff_of_true rfl hsecret
      · rename_i hsecret
        exact iff_of_false nofun hsecret

theorem webhookChatbots_singleton {posted : WebhookRequest} {rest : List Chatbot}
    (h : webhookChatbots store posted = some (bot :: rest)) :
    webhookChatbots store posted = some [bot] := by
  unfold webhookChatbots at h ⊢
  rw [getQueryset_eq (followsChatbot_chatbot store.toDatabase) posted.tenant] at h ⊢
  split at h
  · cases h
  · rw [if_neg (by assumption)]
    rw [Option.map_some, List.filter_filter, store.chatbots.filter_eq_toList_find?] at h ⊢
    · cases hfind : store.chatbots.rows.find? _ with
      | none =>
          rw [hfind] at h
          cases h
      | some found =>
          rw [hfind] at h
          cases h
          rfl
    all_goals
      intro r _ s _ hr hs
      simp only [Bool.and_eq_true, decide_eq_true_eq] at hr hs
      exact hr.1.trans hs.1.symm

theorem webhookChatbots_of_authorized {posted : WebhookRequest}
    (h : authorized store posted = .ok bot) : webhookChatbots store posted = some [bot] := by
  unfold authorized at h
  split at h
  · cases h
  · cases h
  · rename_i found rest hfound
    split at h
    · cases h
    · split at h
      · cases h
      · split at h
        · cases h
          exact webhookChatbots_singleton hfound
        · cases h

theorem linkedBy_of_settles {visit : Store × ConnectRequest} (h : Settles cipher visit)
    (hbot : bot ∈ visit.1.chatbots.rows) : linkedBy cipher bot visit = connection bot visit := by
  unfold linkedBy connection
  by_cases haims : Aims visit.1 bot visit.2 ∧ visit.2.botInfo.isSome = true ∧
      visit.2.webhookSet = true
  · obtain ⟨token, username, hverified⟩ := verified_iff.mpr ⟨hbot, haims.1, haims.2.1⟩
    obtain ⟨name, url, hconnected⟩ := h bot hbot haims.1 haims.2.1 haims.2.2
    simp only [checked_eq_ok_iff.mpr ⟨hverified, haims.2.2⟩, hconnected, if_pos haims, if_true]
  · rw [if_neg haims]
    split
    · rename_i found checks _ _ hchecked _
      obtain ⟨hverified, hset⟩ := checked_eq_ok_iff.mp hchecked
      obtain ⟨hfound, hfor, hknown⟩ := verified_iff.mp ⟨checks.1, checks.2, hverified⟩
      rw [if_neg]
      intro hid
      exact haims ⟨visit.1.chatbots.eq_of_key_eq hfound hbot hid ▸ hfor, hknown, hset⟩
    · rfl

theorem registeredUrl_eq {visit : Store × ConnectRequest} (hbot : bot ∈ visit.1.chatbots.rows) :
    registeredUrl bot visit =
      (connection bot visit).map fun request => webhookUrl request bot := by
  unfold registeredUrl connection webhookCall
  by_cases haims : Aims visit.1 bot visit.2
  · cases hknown : visit.2.botInfo.isSome with
    | true =>
        obtain ⟨token, username, hverified⟩ := verified_iff.mpr ⟨hbot, haims, hknown⟩
        rw [hverified]
        cases visit.2.webhookSet <;> simp [haims]
    | false =>
        cases hverified : verified visit.1 visit.2 with
        | error response => simp
        | ok found =>
            have hsome := (verified_iff.mp ⟨found.2.1, found.2.2, hverified⟩).2.2
            rw [hknown] at hsome
            cases hsome
  · simp [haims]

/-- After any attempts of any users to connect their chatbots, each of which fails at the
verification of its token or at the registration of its URL or succeeds, Telegram's request to
the URL of a chatbot is accepted exactly with the secret of the chatbot's last connection, and
the URL that Telegram has accepted last has this secret. -/
theorem webhook_secret_of_attempts (cipher : Cipher) (attempts : List ConnectRequest)
    {posted : WebhookRequest} (hbot : bot ∈ store.chatbots.rows)
    (hstart : ∀ r ∈ store.telegramIntegrations.rows, r.chatbot ≠ bot.id)
    (htokens : ∀ request ∈ attempts, IsToken request.secret)
    (hsettles : ∀ visit ∈ visits (attempt cipher) store attempts, Settles cipher visit)
    (hid : bot.id = posted.botId) :
    let run := visits (attempt cipher) store attempts
    let last := (run.filterMap (connection bot)).getLast?
    (authorized (attempts.foldl (attempt cipher) store) posted = .ok bot ↔
        webhookChatbots store posted = some [bot] ∧
          ∃ request, last = some request ∧ posted.secret = some request.secret) ∧
      (posted.sessionUser = none → webhookChatbots store posted = some [bot]) ∧
      (run.filterMap (registeredUrl bot)).getLast? = last.map fun request =>
        request.baseUrl ++ "/api/integrations/telegram/webhook/" ++ toString bot.id ++
          "/?secret=" ++ request.secret := by
  intro run last
  -- the attempts leave the chatbots alone
  have hdatabase : ∀ visit ∈ run, visit.1.toDatabase = store.toDatabase := fun visit hvisit =>
    (invariant_of_mem_visits (fun s request _ hs => (attempt_toDatabase cipher s request).trans hs)
      rfl visit hvisit).1
  have hpresent : ∀ visit ∈ run, bot ∈ visit.1.chatbots.rows := by
    intro visit hvisit
    rw [hdatabase visit hvisit]
    exact hbot
  have hlinks : run.filterMap (linkedBy cipher bot) = run.filterMap (connection bot) :=
    List.filterMap_congr fun visit hvisit =>
      linkedBy_of_settles (hsettles visit hvisit) (hpresent visit hvisit)
  have hrun := latest_foldl
    (fun s latest => s.toDatabase = store.toDatabase ∧ Linked bot s.telegramIntegrations latest)
    (fun s request latest h => ⟨(attempt_toDatabase cipher s request).trans h.1,
      linked_attempt cipher bot s request latest h.2⟩)
    attempts ⟨rfl, .never hstart⟩
  rw [Option.or_none, hlinks] at hrun
  obtain ⟨hfinal, hlinked⟩ := hrun
  have hlast : ∀ request, last = some request → IsToken request.secret := by
    intro request hrequest
    obtain ⟨visit, hvisit, hconnection⟩ := List.mem_filterMap.mp (List.mem_of_getLast? hrequest)
    rw [← connection_eq_some hconnection]
    exact htokens visit.2 (snd_mem_of_mem_visits hvisit)
  have hsame : webhookChatbots (attempts.foldl (attempt cipher) store) posted =
      webhookChatbots store posted := by
    unfold webhookChatbots
    rw [hfinal]
  refine ⟨⟨fun h => ?_, fun h => ?_⟩, fun hsession => webhookChatbots_anonymous hsession hbot hid, ?_⟩
  · have hfound := webhookChatbots_of_authorized h
    exact ⟨hsame ▸ hfound, (authorized_iff_of_linked hlinked hfound hlast).mp h⟩
  · exact (authorized_iff_of_linked hlinked (hsame.trans h.1) hlast).mpr h.2
  · have hurls : run.filterMap (registeredUrl bot) =
        (run.filterMap (connection bot)).map fun request => webhookUrl request bot := by
      rw [List.map_filterMap]
      exact List.filterMap_congr fun visit hvisit => registeredUrl_eq (hpresent visit hvisit)
    rw [hurls, List.getLast?_map]
    rfl

end Attempts

section Updates

/-- Telegram calls the webhook of the first chatbot. -/
def posted (secret : String) (data : Json) : WebhookRequest where
  sessionUser := none
  xBotId := none
  botIdParam := none
  botId := 1
  secret := some secret
  data := data

def linkedStore : Store :=
  attempt openCipher twoOwners (connectBot accountOne 1 1)

def textUpdate : Json :=
  .obj [("message", .obj [("chat", .obj [("id", .int 7)]), ("text", .str "Hi")])]

def stickerUpdate : Json :=
  .obj [("message", .obj [("chat", .obj [("id", .int 7)]), ("sticker", .obj [])])]

theorem sticker_served :
    telegramWebhook linkedStore (posted "secret" stickerUpdate) = ([], .ok) := by
  have hauthorized : ∃ bot, authorized linkedStore (posted "secret" stickerUpdate) = .ok bot :=
    ⟨_, rfl⟩
  obtain ⟨bot, hbot⟩ := hauthorized
  exact (webhook_serves_iff hbot).mpr (.silent rfl rfl rfl rfl)

/-- An ordinary message is answered with 500, and nothing is put in the queue. -/
theorem text_fails :
    (∃ bot, authorized linkedStore (posted "secret" textUpdate) = .ok bot) ∧
      requestedJobs 1 textUpdate = [⟨1, .int 7, .str "Hi"⟩] ∧
      telegramWebhook linkedStore (posted "secret" textUpdate) = ([], .failed) :=
  ⟨⟨_, rfl⟩, rfl, rfl⟩

theorem settles_of_refused {cipher : Cipher} {visit : Store × ConnectRequest}
    (h : visit.2.webhookSet = false) : Settles cipher visit := by
  intro bot _ _ _ hset
  rw [h] at hset
  cases hset

theorem settles_of_connected {cipher : Cipher} {visit : Store × ConnectRequest}
    {username : Option String} {url : String}
    (h : (connectTelegramBot cipher visit.1 visit.2).2 = .connected username url) :
    Settles cipher visit := fun _ _ _ _ _ =>
  ⟨username, url, h⟩

/-- A connection, one that Telegram refuses, and another connection; the marker
occurs in the base of the URLs. -/
def threeAttempts : List ConnectRequest :=
  let base := { connectBot accountOne 1 1 with baseUrl := "https://botman.test/?secret=x" }
  [{ base with secret := "one" }, { base with secret := "two", webhookSet := false },
    { base with secret := "three" }]

theorem third_accepted :
    authorized (threeAttempts.foldl (attempt openCipher) twoOwners) (posted "three" textUpdate) =
        .ok supportBot ∧
      authorized (threeAttempts.foldl (attempt openCipher) twoOwners) (posted "two" textUpdate) ≠
        .ok supportBot ∧
      ((visits (attempt openCipher) twoOwners threeAttempts).filterMap
          (registeredUrl supportBot)).getLast? =
        some ("https://botman.test/?secret=x/api/integrations/telegram/webhook/1/" ++
          "?secret=three") := by
  have hsettles : ∀ visit ∈ visits (attempt openCipher) twoOwners threeAttempts,
      Settles openCipher visit := by
    intro visit hvisit
    simp only [threeAttempts, visits, List.mem_cons, List.not_mem_nil, or_false] at hvisit
    rcases hvisit with rfl | rfl | rfl
    · exact settles_of_connected rfl
    · exact settles_of_refused rfl
    · exact settles_of_connected rfl
  have htokens : ∀ request ∈ threeAttempts, IsToken request.secret := by
    intro request hrequest
    simp only [threeAttempts, List.mem_cons, List.not_mem_nil, or_false] at hrequest
    rcases hrequest with rfl | rfl | rfl
    · exact ⟨by decide, by decide⟩
    · exact ⟨by decide, by decide⟩
    · exact ⟨by decide, by decide⟩
  have hstart : ∀ r ∈ twoOwners.telegramIntegrations.rows, r.chatbot ≠ supportBot.id :=
    fun _ hr => absurd hr List.not_mem_nil
  have hbot : supportBot ∈ twoOwners.chatbots.rows := List.mem_cons_self
  have hid : ∀ secret, supportBot.id = (posted secret textUpdate).botId := fun _ => rfl
  have hlaw := fun secret => webhook_secret_of_attempts openCipher threeAttempts hbot hstart
    htokens hsettles (hid secret)
  refine ⟨(hlaw "three").1.mpr ⟨(hlaw "three").2.1 rfl, _, rfl, rfl⟩, ?_, (hlaw "three").2.2⟩
  intro haccepted
  obtain ⟨request, hlast, hsecret⟩ := ((hlaw "two").1.mp haccepted).2
  rw [← Option.some.inj hlast] at hsecret
  exact absurd (Option.some.inj hsecret) (by decide)

end Updates

end Botman.TelegramWebhook
