import Botman.DataModel

/-!
The tenant context: a thread-local record of who is asking, the middleware
that fills it, and the manager that filters every query by it.
-/

namespace Botman.TenantContext

open Botman.Library.PythonValue
open Botman.DataModel

/-- A chatbot as the context names it: the middleware stores a header, query
parameter or URL segment, other callers a key. -/
inductive BotRef where
  | text (s : String)
  | num (n : Int)
  deriving DecidableEq

/-- The truth value of a reference to a chatbot. -/
def BotRef.truthy : BotRef → Bool
  | .text s => s ≠ ""
  | .num n => n ≠ 0

/-- `int(bot_id)`, the key the database is asked for. -/
def BotRef.int? : BotRef → Option Int
  | .text s => intOfString s
  | .num n => some n

/-- `get_current_tenant()`; a missing entry reads like the default. -/
structure Tenant where
  userId : Option Nat := none
  botId : Option BotRef := none
  workspaceId : Option Nat := none
  isSuperuser : Bool := false
  deriving DecidableEq

/-- The context before a request. -/
def clearTenantContext : Tenant := {}

/-- What the middleware reads of a request.  `user` is `request.user` as
`AuthenticationMiddleware` left it: the account of the session cookie. -/
structure HttpRequest where
  user : Option User
  xBotId : Option String
  botIdParam : Option String

/-- What `process_view` is told about the view that was resolved. -/
structure ViewMatch where
  viewClass : Option String
  kwargs : List (String × String)

/-- The context of a request, with the chatbot that it names. -/
def setContext (request : HttpRequest) (botId : Option String) : Tenant :=
  match request.user with
  | some user =>
      { userId := some user.id
        botId := botId.map .text
        workspaceId := some user.id
        isSuperuser := user.isSuperuser }
  | none => { botId := botId.map .text }

/-- Keep a value unless it is absent or empty, then try the next one. -/
def firstTruthy (value next : Option String) : Option String :=
  match value with
  | some s => if s ≠ "" then some s else next
  | none => next

/-- The chatbot `process_view` settles on: a `bot_id` of the URL, the primary
key of a chatbot route, the header, the query parameter. -/
def viewBotId (request : HttpRequest) (view : ViewMatch) : Option String :=
  let ofPk :=
    match view.kwargs.lookup "pk" with
    | some pk => if view.viewClass = some "ChatbotViewSet" then some pk else none
    | none => none
  firstTruthy (view.kwargs.lookup "bot_id")
    (firstTruthy ofPk (firstTruthy request.xBotId request.botIdParam))

/-- `TenantContextMiddleware.process_view`. -/
def processView (request : HttpRequest) (view : ViewMatch) : Tenant :=
  setContext request (viewBotId request view)

/-- `TenantContextMiddleware.__call__`: the context is set, set again once the
view is resolved, and cleared when the response is there.  The second
component is the context left on the thread. -/
def middleware {α : Type} (request : HttpRequest) (view : ViewMatch)
    (body : Tenant → α) : α × Tenant :=
  (body (processView request view), clearTenantContext)

/-- The attributes of a model class that the manager looks for. -/
structure TenantModel (R : Type) where
  name : String
  id : R → Nat
  owner : Option (R → Nat)
  user : Option (R → Option Nat)
  chatbot : Option (R → Nat)
  conversation : Option (R → Nat)

def chatbotModel : TenantModel Chatbot where
  name := "Chatbot"
  id := Chatbot.id
  owner := some Chatbot.owner
  user := none
  chatbot := none
  conversation := none

def conversationModel : TenantModel Conversation where
  name := "Conversation"
  id := Conversation.id
  owner := none
  user := none
  chatbot := some Conversation.chatbot
  conversation := none

def messageModel : TenantModel Message where
  name := "Message"
  id := Message.id
  owner := none
  user := none
  chatbot := none
  conversation := some Message.conversation

variable {R : Type}

/-- The filter by owner: the first of the attributes `owner`, `user`,
`chatbot`, `conversation` that the model has decides. -/
def userFilter (db : Database) (model : TenantModel R) (userId : Nat) (r : R) : Bool :=
  match model.owner, model.user, model.chatbot, model.conversation with
  | some owner, _, _, _ => owner r = userId
  | none, some user, _, _ => user r = some userId
  | none, none, some chatbot, _ => ownerOfChatbot db (chatbot r) = some userId
  | none, none, none, some conversation =>
      ownerOfConversation db (conversation r) = some userId
  | none, none, none, none => true

/-- The chatbot of a row, by the field that the manager finds; absent where it finds
none. -/
def botColumn (db : Database) (model : TenantModel R) : Option (R → Option Nat) :=
  if model.name = "Chatbot" then some fun r => some (model.id r)
  else
    match model.chatbot, model.conversation with
    | some chatbot, _ => some fun r => some (chatbot r)
    | none, some conversation =>
        some fun r => (db.conversations.get? (conversation r)).map Conversation.chatbot
    | none, none => none

/-- The filter by owner, which an absent user switches off. -/
def rowsOfUser (db : Database) (model : TenantModel R) (tenant : Tenant)
    (rows : List R) : List R :=
  match tenant.userId with
  | some userId => if userId ≠ 0 then rows.filter (userFilter db model userId) else rows
  | none => rows

/-- `TenantAwareManager.get_queryset`, applied to the rows of the table.  It
is absent where the chatbot reference is not a number, which raises. -/
def getQueryset (db : Database) (model : TenantModel R) (tenant : Tenant)
    (rows : List R) : Option (List R) :=
  if tenant.isSuperuser then some rows
  else
    match tenant.botId, botColumn db model with
    | some bot, some column =>
        if bot.truthy then
          bot.int?.map fun key =>
            (rowsOfUser db model tenant rows).filter fun r =>
              (column r).map Int.ofNat = some key
        else some (rowsOfUser db model tenant rows)
    | _, _ => some (rowsOfUser db model tenant rows)

theorem mem_rowsOfUser_of_mem_getQueryset {db : Database} {model : TenantModel R}
    {tenant : Tenant} {rows out : List R} (hsuper : tenant.isSuperuser = false)
    (h : getQueryset db model tenant rows = some out) :
    ∀ r ∈ out, r ∈ rowsOfUser db model tenant rows := by
  intro r hr
  simp only [getQueryset, hsuper, Bool.false_eq_true, if_false] at h
  split at h
  · split at h
    · obtain ⟨key, -, rfl⟩ := Option.map_eq_some_iff.mp h
      exact List.mem_of_mem_filter hr
    · rwa [Option.some.inj h]
  · rwa [Option.some.inj h]

theorem mem_of_mem_rowsOfUser {db : Database} {model : TenantModel R} {tenant : Tenant}
    {rows : List R} {r : R} (h : r ∈ rowsOfUser db model tenant rows) : r ∈ rows := by
  unfold rowsOfUser at h
  split at h
  · split at h
    · exact List.mem_of_mem_filter h
    · exact h
  · exact h

theorem mem_of_mem_getQueryset {db : Database} {model : TenantModel R} {tenant : Tenant}
    {rows out : List R} (h : getQueryset db model tenant rows = some out) :
    ∀ r ∈ out, r ∈ rows := by
  intro r hr
  cases hsuper : tenant.isSuperuser with
  | true =>
      have hout : rows = out := by simpa [getQueryset, hsuper] using h
      rwa [hout]
  | false => exact mem_of_mem_rowsOfUser (mem_rowsOfUser_of_mem_getQueryset hsuper h r hr)

theorem userFilter_of_mem_getQueryset {db : Database} {model : TenantModel R}
    {tenant : Tenant} {rows out : List R} {userId : Nat}
    (hsuper : tenant.isSuperuser = false) (huser : tenant.userId = some userId)
    (hpos : 0 < userId) (h : getQueryset db model tenant rows = some out) :
    ∀ r ∈ out, userFilter db model userId r = true := by
  intro r hr
  have hmem := mem_rowsOfUser_of_mem_getQueryset hsuper h r hr
  have hne : userId ≠ 0 := Nat.pos_iff_ne_zero.mp hpos
  simp only [rowsOfUser, huser, ne_eq, hne, not_false_eq_true, if_true] at hmem
  exact List.of_mem_filter hmem

theorem getQueryset_anonymous (db : Database) (model : TenantModel R) (rows : List R)
    (tenant : Tenant) (huser : tenant.userId = none) (hbot : tenant.botId = none) :
    getQueryset db model tenant rows = some rows := by
  simp [getQueryset, rowsOfUser, huser, hbot]

theorem getQueryset_superuser (db : Database) (model : TenantModel R) (rows : List R)
    (tenant : Tenant) (hsuper : tenant.isSuperuser = true) :
    getQueryset db model tenant rows = some rows := by
  simp [getQueryset, hsuper]

theorem getQueryset_user (db : Database) (model : TenantModel R) (rows : List R)
    (tenant : Tenant) (userId : Nat) (hsuper : tenant.isSuperuser = false)
    (huser : tenant.userId = some userId) (hpos : 0 < userId)
    (hbot : tenant.botId = none) :
    getQueryset db model tenant rows = some (rows.filter (userFilter db model userId)) := by
  have hne : userId ≠ 0 := Nat.pos_iff_ne_zero.mp hpos
  simp [getQueryset, rowsOfUser, hsuper, huser, hne, hbot]

theorem botColumn_chatbot (db : Database) :
    botColumn db chatbotModel = some fun bot => some bot.id := rfl

theorem botColumn_conversation (db : Database) :
    botColumn db conversationModel = some fun c => some c.chatbot := rfl

theorem getQueryset_isSome {db : Database} {tenant : Tenant} {out : List Chatbot}
    (h : getQueryset db chatbotModel tenant db.chatbots.rows = some out)
    (db' : Database) (model : TenantModel R) (rows : List R) :
    ∃ found, getQueryset db' model tenant rows = some found := by
  -- whether a query raises depends on the context alone
  unfold getQueryset at h ⊢
  cases hsuper : tenant.isSuperuser with
  | true => exact ⟨rows, by simp⟩
  | false =>
      simp only [hsuper, Bool.false_eq_true, if_false] at h ⊢
      split
      · rename_i bot column hbot hcolumn
        split
        · rename_i htruthy
          have hint : ∃ key, bot.int? = some key := by
            rw [hbot, botColumn_chatbot] at h
            simp only [htruthy, if_true] at h
            obtain ⟨key, hkey, -⟩ := Option.map_eq_some_iff.mp h
            exact ⟨key, hkey⟩
          obtain ⟨key, hkey⟩ := hint
          exact ⟨_, by rw [hkey]; rfl⟩
        · exact ⟨_, rfl⟩
      · exact ⟨_, rfl⟩

/-- The manager of chatbots shows the chatbot with a given key. -/
def ShowsBot (db : Database) (tenant : Tenant) (botId : Nat) : Prop :=
  ∃ out, getQueryset db chatbotModel tenant db.chatbots.rows = some out ∧
    ∃ bot ∈ out, bot.id = botId

theorem ShowsBot.of_chatbots {db db' : Database} {tenant : Tenant} {botId : Nat}
    (h : ShowsBot db tenant botId) (hbots : db'.chatbots = db.chatbots) :
    ShowsBot db' tenant botId := by
  obtain ⟨out, hout, hmem⟩ := h
  refine ⟨out, ?_, hmem⟩
  rw [hbots, ← hout]
  rfl

theorem rowsOfUser_conversation {db : Database} {tenant : Tenant} {bot : Chatbot}
    (hbot : bot ∈ rowsOfUser db chatbotModel tenant db.chatbots.rows)
    (rows : List Conversation) :
    ∃ keep : Conversation → Bool,
      rowsOfUser db conversationModel tenant rows = rows.filter keep ∧
        ∀ c, c.chatbot = bot.id → keep c = true := by
  have hbotOwner := ownerOfChatbot_of_mem (mem_of_mem_rowsOfUser hbot)
  unfold rowsOfUser at hbot ⊢
  cases huser : tenant.userId with
  | none => exact ⟨fun _ => true, by simp, fun _ _ => rfl⟩
  | some userId =>
      by_cases hzero : userId = 0
      · exact ⟨fun _ => true, by simp [hzero], fun _ _ => rfl⟩
      · refine ⟨userFilter db conversationModel userId, by simp [hzero], ?_⟩
        intro c hc
        simp only [huser, ne_eq, hzero, not_false_eq_true, if_true] at hbot
        have howner : bot.owner = userId := by
          simpa [userFilter, chatbotModel] using List.of_mem_filter hbot
        simp [userFilter, conversationModel, hc, hbotOwner, howner]

theorem getQueryset_conversation_of_showsBot {db : Database} {tenant : Tenant}
    {botId : Nat} (h : ShowsBot db tenant botId) (rows : List Conversation) :
    ∃ keep : Conversation → Bool,
      getQueryset db conversationModel tenant rows = some (rows.filter keep) ∧
        ∀ c, c.chatbot = botId → keep c = true := by
  -- both managers filter by the same owner and the same chatbot
  obtain ⟨out, hout, bot, hbot, rfl⟩ := h
  cases hsuper : tenant.isSuperuser with
  | true =>
      refine ⟨fun _ => true, ?_, fun _ _ => rfl⟩
      rw [getQueryset_superuser db conversationModel rows tenant hsuper]
      simp
  | false =>
      obtain ⟨keep, hrows, hkeep⟩ := rowsOfUser_conversation
        (mem_rowsOfUser_of_mem_getQueryset hsuper hout bot hbot) rows
      simp only [getQueryset, hsuper, botColumn_chatbot, botColumn_conversation, hrows,
        Bool.false_eq_true, if_false] at hout ⊢
      cases hbotId : tenant.botId with
      | none => exact ⟨keep, rfl, hkeep⟩
      | some ref =>
          simp only [hbotId] at hout ⊢
          cases htruthy : ref.truthy with
          | false => exact ⟨keep, by simp, hkeep⟩
          | true =>
              simp only [htruthy, if_true] at hout ⊢
              obtain ⟨key, hkey, rfl⟩ := Option.map_eq_some_iff.mp hout
              have hid : Int.ofNat bot.id = key := by
                simpa using (List.mem_filter.mp hbot).2
              refine ⟨fun c => keep c && decide (some (Int.ofNat c.chatbot) = some key),
                ?_, ?_⟩
              · rw [hkey, Option.map_some, List.filter_filter]
                simp only [Option.map_some, Bool.and_comm]
              · intro c hc
                exact Bool.and_eq_true_iff.mpr
                  ⟨hkeep c hc, decide_eq_true (by rw [hc, hid])⟩

end Botman.TenantContext
