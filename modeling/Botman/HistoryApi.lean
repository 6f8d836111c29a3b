import Mathlib.Data.List.Sort
import Botman.TenantContext

/-!
`ConversationHistoryViewSet`: the list and detail routes over stored
conversations, as they run behind the tenant middleware.

The view names no owner.  What separates the tenants is the context, and the
middleware fills it from the session cookie, before the bearer token of the
request has been verified.
-/

namespace Botman.HistoryApi

open Botman.Library.KeyedTable
open Botman.Library.PythonValue
open Botman.DataModel
open Botman.TenantContext

/-- Decoded query string; a repeated parameter is read at its last value. -/
abbrev Query := List (String × String)

/-- Of a parameter that is given twice, the last value counts. -/
def Query.get (query : Query) (name : String) : Option String :=
  query.reverse.lookup name

/-- The actions of the view set. -/
inductive HistoryAction where
  | list
  | retrieve (pk : String)

/-- A request that passed `JWTAuthentication` as `jwtUser`.  The session
cookie, which only the middleware looks at, may name another account. -/
structure HistoryRequest where
  sessionUser : Option User
  jwtUser : User
  xBotId : Option String
  query : Query
  action : HistoryAction

/-- What the middleware reads of the request. -/
def HistoryRequest.http (request : HistoryRequest) : HttpRequest where
  user := request.sessionUser
  xBotId := request.xBotId
  botIdParam := request.query.get "bot_id"

def HistoryRequest.viewMatch (request : HistoryRequest) : ViewMatch where
  viewClass := some "ConversationHistoryViewSet"
  kwargs :=
    match request.action with
    | .list => []
    | .retrieve pk => [("pk", pk)]

/-- The three filter backends of the view: `DjangoFilterBackend` with
`ConversationFilter`, `OrderingFilter` and `SearchFilter`.  They select and
order rows of the queryset, and without query parameters only order it. -/
structure FilterBackends where
  filterQueryset : Query → Database → List Conversation → Except Nat (List Conversation)
  selects : ∀ query db rows out, filterQueryset query db rows = .ok out →
    ∀ c ∈ out, c ∈ rows
  neutral : ∀ db rows, ∃ out, filterQueryset [] db rows = .ok out ∧ out.Perm rows

/-- An entry of the list. -/
structure ConversationListData where
  conversation : Conversation
  chatbot : Option Chatbot
  messageCount : Nat

/-- A conversation with its messages. -/
structure ConversationData where
  conversation : Conversation
  chatbot : Option Chatbot
  messages : List Message

/-- The responses of the view set. -/
inductive HistoryResponse where
  | error (status : Nat)
  | page (results : List ConversationListData)
  | detail (result : ConversationData)

/-- `get_queryset`: the manager's rows, joined to their chatbots by
`select_related`. -/
def historyQueryset (db : Database) (tenant : Tenant) : Option (List Conversation) :=
  getQueryset db conversationModel tenant
    (db.conversations.rows.filter fun c => (db.chatbots.get? c.chatbot).isSome)

def pageSize : Nat := 20

/-- The pages of the paginator, of which there is always one. -/
def numPages (count : Nat) : Nat :=
  (max 1 count + pageSize - 1) / pageSize

/-- `PageNumberPagination.paginate_queryset`, absent where the page does not
exist. -/
def paginateQueryset (query : Query) (rows : List Conversation) :
    Option (List Conversation) :=
  let pages := numPages rows.length
  let number :=
    match firstTruthy (query.get "page") none with
    | none => some 1
    | some page => if page = "last" then some (pages : Int) else intOfString page
  match number with
  | none => none
  | some number =>
      if number < 1 ∨ (pages : Int) < number then none
      else some ((rows.drop ((number.toNat - 1) * pageSize)).take pageSize)

/-- The rows that `prefetch_related('messages')` attaches, in `created_at`
order; the related manager applies the tenant filter again. -/
def prefetchMessages (db : Database) (tenant : Tenant) (c : Conversation) :
    Option (List Message) :=
  (getQueryset db messageModel tenant
    (db.messages.rows.filter fun m => m.conversation = c.id)).map
      fun rows => rows.insertionSort fun a b => a.createdAt ≤ b.createdAt

def listData (db : Database) (c : Conversation) : ConversationListData where
  conversation := c
  chatbot := db.chatbots.get? c.chatbot
  messageCount := (db.messages.rows.filter fun m => m.conversation = c.id).length

/-- `retrieve`: a key that is not a number counts as not found. -/
def retrieve (db : Database) (tenant : Tenant) (pk : String)
    (rows : List Conversation) : HistoryResponse :=
  match intOfString pk with
  | none => .error 404
  | some key =>
      match rows.find? fun c => (c.id : Int) = key with
      | none => .error 404
      | some c =>
          match prefetchMessages db tenant c with
          | none => .error 500
          | some messages =>
              .detail
                { conversation := c
                  chatbot := db.chatbots.get? c.chatbot
                  messages := messages }

/-- `list` and `retrieve` of `ConversationHistoryViewSet` in a context. -/
def historyView (backends : FilterBackends) (db : Database) (request : HistoryRequest)
    (tenant : Tenant) : HistoryResponse :=
  match historyQueryset db tenant with
  | none => .error 500
  | some queryset =>
      match backends.filterQueryset request.query db queryset with
      | .error status => .error status
      | .ok rows =>
          match request.action with
          | .list =>
              match paginateQueryset request.query rows with
              | none => .error 404
              | some page => .page (page.map (listData db))
          | .retrieve pk => retrieve db tenant pk rows

/-- A request to the history routes, through the middleware. -/
def handleHistory (backends : FilterBackends) (db : Database)
    (request : HistoryRequest) : HistoryResponse :=
  (middleware request.http request.viewMatch (historyView backends db request)).1

/-- The conversations that a response shows. -/
def HistoryResponse.conversations : HistoryResponse → List Conversation
  | .error _ => []
  | .page results => results.map ConversationListData.conversation
  | .detail result => [result.conversation]

def HistoryResponse.messages : HistoryResponse → List Message
  | .detail result => result.messages
  | _ => []

/-- Every conversation and every message of a response belongs to a chatbot of
the user. -/
def Isolated (db : Database) (userId : Nat) (response : HistoryResponse) : Prop :=
  (∀ c ∈ response.conversations, ownerOfChatbot db c.chatbot = some userId) ∧
    ∀ m ∈ response.messages, ownerOfConversation db m.conversation = some userId

/-- Every stored conversation is with a chatbot of the user. -/
def NoForeignConversation (db : Database) (userId : Nat) : Prop :=
  ∀ c ∈ db.conversations.rows, ∀ owner,
    ownerOfChatbot db c.chatbot = some owner → owner = userId

/-- The state and the session cookie leave nothing of another tenant in view:
the cookie is one of the user, or of an account whose chatbots have no
conversations; with a superuser's cookie or none, the table holds only the
user's conversations. -/
def SeparatedBySession (db : Database) (userId : Nat) : Option User → Prop
  | none => NoForeignConversation db userId
  | some account =>
      if account.isSuperuser then NoForeignConversation db userId
      else account.id = userId ∨
        ∀ c ∈ db.conversations.rows, ownerOfChatbot db c.chatbot ≠ some account.id

theorem conversation_mem_queryset {backends : FilterBackends} {db : Database}
    {request : HistoryRequest} {tenant : Tenant} {queryset : List Conversation}
    (hqueryset : historyQueryset db tenant = some queryset) {c : Conversation}
    (hc : c ∈ (historyView backends db request tenant).conversations) :
    c ∈ queryset := by
  simp only [historyView, hqueryset] at hc
  cases hfilter : backends.filterQueryset request.query db queryset with
  | error status => simp [hfilter, HistoryResponse.conversations] at hc
  | ok rows =>
      apply backends.selects _ _ _ _ hfilter
      simp only [hfilter] at hc
      cases haction : request.action with
      | list =>
          simp only [haction] at hc
          split at hc
          · simp [HistoryResponse.conversations] at hc
          · rename_i page hpage
            have hcpage : c ∈ page := by
              simpa [HistoryResponse.conversations, listData] using hc
            unfold paginateQueryset at hpage
            dsimp only at hpage
            split at hpage
            · simp at hpage
            · split at hpage
              · simp at hpage
              · rw [← Option.some.inj hpage] at hcpage
                exact List.mem_of_mem_drop (List.mem_of_mem_take hcpage)
      | retrieve pk =>
          simp only [haction, retrieve] at hc
          split at hc
          · simp [HistoryResponse.conversations] at hc
          · split at hc
            · simp [HistoryResponse.conversations] at hc
            · rename_i found hfound
              split at hc
              · simp [HistoryResponse.conversations] at hc
              · have hceq : c = found := by simpa [HistoryResponse.conversations] using hc
                rw [hceq]
                exact List.mem_of_find?_eq_some hfound

theorem historyQueryset_subset {db : Database} {tenant : Tenant}
    {queryset : List Conversation} (h : historyQueryset db tenant = some queryset)
    {c : Conversation} (hc : c ∈ queryset) :
    c ∈ db.conversations.rows ∧ ∃ owner, ownerOfChatbot db c.chatbot = some owner := by
  have hmem := mem_of_mem_getQueryset h c hc
  obtain ⟨hrow, hbot⟩ := List.mem_filter.mp hmem
  obtain ⟨bot, hget⟩ := Option.isSome_iff_exists.mp hbot
  exact ⟨hrow, bot.owner, by simp [ownerOfChatbot, hget]⟩

theorem ownerOfConversation_of_mem {db : Database} {c : Conversation}
    (hc : c ∈ db.conversations.rows) :
    ownerOfConversation db c.id = ownerOfChatbot db c.chatbot := by
  have hget : db.conversations.get? c.id = some c :=
    (db.conversations.get?_eq_some_iff).mpr ⟨hc, rfl⟩
  simp [ownerOfConversation, hget]

theorem message_conversation {backends : FilterBackends} {db : Database}
    {request : HistoryRequest} {tenant : Tenant} {m : Message}
    (hm : m ∈ (historyView backends db request tenant).messages) :
    ∃ c ∈ (historyView backends db request tenant).conversations,
      m.conversation = c.id := by
  unfold historyView at hm ⊢
  split at hm
  · simp [HistoryResponse.messages] at hm
  · split at hm
    · simp [HistoryResponse.messages] at hm
    · split at hm
      · split at hm <;> simp [HistoryResponse.messages] at hm
      · unfold retrieve at hm ⊢
        split at hm
        · simp [HistoryResponse.messages] at hm
        · split at hm
          · simp [HistoryResponse.messages] at hm
          · rename_i c hfound
            split at hm
            · simp [HistoryResponse.messages] at hm
            · rename_i messages hmessages
              refine ⟨c, by simp [HistoryResponse.conversations], ?_⟩
              obtain ⟨rows, hrows, rfl⟩ := Option.map_eq_some_iff.mp hmessages
              have hmrows : m ∈ rows := by
                simpa [HistoryResponse.messages, List.mem_insertionSort] using hm
              have hfilter := mem_of_mem_getQueryset hrows m hmrows
              simpa using (List.mem_filter.mp hfilter).2

theorem isolated_of_conversations {backends : FilterBackends} {db : Database}
    {request : HistoryRequest} {tenant : Tenant} {userId : Nat}
    (h : ∀ c ∈ (historyView backends db request tenant).conversations,
      c ∈ db.conversations.rows ∧ ownerOfChatbot db c.chatbot = some userId) :
    Isolated db userId (historyView backends db request tenant) := by
  refine ⟨fun c hc => (h c hc).2, ?_⟩
  intro m hm
  obtain ⟨c, hc, hconversation⟩ := message_conversation hm
  obtain ⟨hrow, howner⟩ := h c hc
  rw [hconversation, ownerOfConversation_of_mem hrow, howner]

theorem isolated_of_queryset {backends : FilterBackends} {db : Database}
    {request : HistoryRequest} {tenant : Tenant} {userId : Nat}
    (h : ∀ queryset, historyQueryset db tenant = some queryset →
      ∀ c ∈ queryset, ownerOfChatbot db c.chatbot = some userId) :
    Isolated db userId (historyView backends db request tenant) := by
  cases hqueryset : historyQueryset db tenant with
  | none =>
      simp [Isolated, historyView, hqueryset, HistoryResponse.conversations,
        HistoryResponse.messages]
  | some queryset =>
      apply isolated_of_conversations
      intro c hc
      have hmem := conversation_mem_queryset hqueryset hc
      exact ⟨(historyQueryset_subset hqueryset hmem).1, h queryset hqueryset c hmem⟩

/-- The user asks for a conversation by its key, and names no chatbot. -/
def detailRequest (session : Option User) (user : User) (c : Conversation) :
    HistoryRequest where
  sessionUser := session
  jwtUser := user
  xBotId := none
  query := []
  action := .retrieve c.id.repr

theorem processView_detailRequest (session : Option User) (user : User)
    (c : Conversation) :
    processView (detailRequest session user c).http
      (detailRequest session user c).viewMatch = setContext
        (detailRequest session user c).http none := by
  rfl

theorem detail_shows (backends : FilterBackends) {db : Database} {tenant : Tenant}
    {queryset : List Conversation} (session : Option User) (user : User)
    (hbot : tenant.botId = none) (hqueryset : historyQueryset db tenant = some queryset)
    {c : Conversation} (hc : c ∈ queryset) :
    c ∈ (historyView backends db (detailRequest session user c) tenant).conversations := by
  obtain ⟨rows, hrows, hperm⟩ := backends.neutral db queryset
  have hfind : rows.find? (fun d => (d.id : Int) = (c.id : Int)) = some c := by
    refine (Table.find?_eq_some_iff_of_unique ?_).mpr
      ⟨hperm.mem_iff.mpr hc, decide_eq_true rfl⟩
    intro d hd e he hdkey hekey
    have hid : d.id = e.id :=
      Int.ofNat_inj.mp ((of_decide_eq_true hdkey).trans (of_decide_eq_true hekey).symm)
    have hstored : ∀ row ∈ rows, row ∈ db.conversations.rows := fun row hrow =>
      (historyQueryset_subset hqueryset (hperm.mem_iff.mp hrow)).1
    exact db.conversations.eq_of_key_eq (hstored d hd) (hstored e he) hid
  have hmessages : ∃ messages, prefetchMessages db tenant c = some messages := by
    simp [prefetchMessages, getQueryset, hbot]
    split <;> exact ⟨_, rfl⟩
  obtain ⟨messages, hmessages⟩ := hmessages
  have hretrieve : retrieve db tenant c.id.repr rows =
      .detail
        { conversation := c, chatbot := db.chatbots.get? c.chatbot, messages := messages } := by
    unfold retrieve
    rw [intOfString_repr]
    dsimp only
    rw [hfind]
    dsimp only
    rw [hmessages]
  simp only [historyView, hqueryset, detailRequest, hrows, hretrieve,
    HistoryResponse.conversations, List.mem_singleton]

theorem mem_historyQueryset_iff (db : Database) (request : HttpRequest)
    {c : Conversation} :
    (∃ queryset, historyQueryset db (setContext request none) = some queryset ∧
        c ∈ queryset) ↔
      c ∈ db.conversations.rows ∧ ∃ owner, ownerOfChatbot db c.chatbot = some owner ∧
        ∀ account, request.user = some account → account.isSuperuser = false →
          owner = account.id := by
  have hjoined : c ∈ (db.conversations.rows.filter fun d =>
        (db.chatbots.get? d.chatbot).isSome) ↔
      c ∈ db.conversations.rows ∧ ∃ owner, ownerOfChatbot db c.chatbot = some owner := by
    rw [List.mem_filter, Option.isSome_iff_exists]
    simp [ownerOfChatbot]
  cases huser : request.user with
  | none =>
      have hall := getQueryset_anonymous db conversationModel
        (db.conversations.rows.filter fun d => (db.chatbots.get? d.chatbot).isSome)
        (setContext request none) (by simp [setContext, huser])
        (by simp [setContext, huser])
      simp only [historyQueryset, hall, Option.some.injEq, exists_eq_left', hjoined]
      simp
  | some account =>
      cases hsuper : account.isSuperuser with
      | true =>
          have hall := getQueryset_superuser db conversationModel
            (db.conversations.rows.filter fun d => (db.chatbots.get? d.chatbot).isSome)
            (setContext request none) (by simp [setContext, huser, hsuper])
          simp only [historyQueryset, hall, Option.some.injEq, exists_eq_left', hjoined]
          simp [hsuper]
      | false =>
          have hown := getQueryset_user db conversationModel
            (db.conversations.rows.filter fun d => (db.chatbots.get? d.chatbot).isSome)
            (setContext request none) account.id
            (by simp [setContext, huser, hsuper]) (by simp [setContext, huser])
            account.id_pos (by simp [setContext, huser])
          simp only [historyQueryset, hown, Option.some.injEq, exists_eq_left',
            List.mem_filter (p := userFilter db conversationModel account.id), hjoined]
          constructor
          · rintro ⟨⟨hrow, owner, howner⟩, hfilter⟩
            have haccount : ownerOfChatbot db c.chatbot = some account.id := by
              simpa [userFilter, conversationModel] using hfilter
            refine ⟨hrow, owner, howner, ?_⟩
            rintro _ ⟨⟩ -
            exact Option.some.inj (howner.symm.trans haccount)
          · rintro ⟨hrow, owner, howner, haccount⟩
            have hid : owner = account.id := haccount account rfl hsuper
            exact ⟨⟨hrow, owner, howner⟩, by
              simpa [userFilter, conversationModel, ← hid] using howner⟩

theorem separated_of_isolated {backends : FilterBackends} {db : Database} {user : User}
    {session : Option User}
    (h : ∀ request : HistoryRequest, request.jwtUser = user →
      request.sessionUser = session →
        Isolated db user.id (handleHistory backends db request)) :
    SeparatedBySession db user.id session := by
  -- whatever the queryset of the session holds is shown by some request that names no chatbot
  have hvisible : ∀ c ∈ db.conversations.rows, ∀ owner,
      ownerOfChatbot db c.chatbot = some owner →
        (∀ account, session = some account → account.isSuperuser = false →
          owner = account.id) → owner = user.id := by
    intro c hc owner howner hsession
    let request := detailRequest session user c
    obtain ⟨queryset, hqueryset, hmem⟩ :=
      (mem_historyQueryset_iff db request.http).mpr ⟨hc, owner, howner, hsession⟩
    have hbot : (setContext request.http none).botId = none := by
      cases hs : request.http.user <;> simp [setContext, hs]
    have hshown := detail_shows backends session user hbot hqueryset hmem
    have hisolated := h request rfl rfl
    rw [handleHistory, middleware, processView_detailRequest] at hisolated
    have hmine := hisolated.1 c hshown
    exact Option.some.inj (howner.symm.trans hmine)
  cases session with
  | none =>
      intro c hc owner howner
      exact hvisible c hc owner howner (by simp)
  | some account =>
      cases hsuper : account.isSuperuser with
      | true =>
          simp only [SeparatedBySession, hsuper, if_true]
          intro c hc owner howner
          refine hvisible c hc owner howner ?_
          rintro _ ⟨⟩ hfalse
          simp [hsuper] at hfalse
      | false =>
          simp only [SeparatedBySession, hsuper, Bool.false_eq_true, if_false]
          by_cases hid : account.id = user.id
          · exact Or.inl hid
          · refine Or.inr fun c hc howner => hid ?_
            refine hvisible c hc account.id howner ?_
            rintro _ ⟨⟩ -
            rfl

theorem owner_of_separated {db : Database} {userId : Nat} {request : HttpRequest}
    {view : ViewMatch} (h : SeparatedBySession db userId request.user)
    {queryset : List Conversation}
    (hqueryset : historyQueryset db (processView request view) = some queryset)
    {c : Conversation} (hc : c ∈ queryset) :
    ownerOfChatbot db c.chatbot = some userId := by
  obtain ⟨hrow, owner, howner⟩ := historyQueryset_subset hqueryset hc
  cases huser : request.user with
  | none =>
      rw [huser] at h
      rw [howner, h c hrow owner howner]
  | some account =>
      rw [huser] at h
      cases hsuper : account.isSuperuser with
      | true =>
          simp only [SeparatedBySession, hsuper, if_true] at h
          rw [howner, h c hrow owner howner]
      | false =>
          simp only [SeparatedBySession, hsuper, Bool.false_eq_true, if_false] at h
          have hcontext : (processView request view).userId = some account.id := by
            simp [processView, setContext, huser]
          have hfilter := userFilter_of_mem_getQueryset
            (by simp [processView, setContext, huser, hsuper]) hcontext account.id_pos
            hqueryset c hc
          have haccount : ownerOfChatbot db c.chatbot = some account.id := by
            simpa [userFilter, conversationModel] using hfilter
          rcases h with hid | hnone
          · rw [haccount, hid]
          · exact absurd haccount (hnone c hrow)

/-- Tenant isolation of the history routes, exactly: whatever the headers, the
query string and the route, a user is shown only rows of the user's own
chatbots if and only if the session cookie already separates the tenants.  A
request without a cookie, the way the API is used, shows every stored
conversation. -/
theorem history_isolated_iff (backends : FilterBackends) (db : Database) (user : User)
    (session : Option User) :
    (∀ request : HistoryRequest, request.jwtUser = user →
      request.sessionUser = session →
        Isolated db user.id (handleHistory backends db request)) ↔
      SeparatedBySession db user.id session := by
  constructor
  · exact separated_of_isolated
  · rintro h request - rfl
    apply isolated_of_queryset
    intro queryset hqueryset c hc
    exact owner_of_separated (show SeparatedBySession db user.id request.http.user from h)
      hqueryset hc

/-- The backends of a request without query parameters: the default ordering
by `-started_at`. -/
def newestFirst : FilterBackends where
  filterQueryset := fun _ _ rows =>
    .ok (rows.insertionSort fun a b => b.startedAt ≤ a.startedAt)
  selects := by
    intro query db rows out hout c hc
    cases hout
    simpa [List.mem_insertionSort] using hc
  neutral := fun db rows => ⟨_, rfl, List.perm_insertionSort _ rows⟩

def strangerDatabase : Database :=
  { Database.empty with
    chatbots := Table.empty.create
      { id := 0, name := "Support", description := "", systemPrompt := ""
        selectedLlm := "gemini", providerConfig := none, botType := "custom"
        personality := "", tone := "", fallbackBehavior := "", widgetToken := 7
        allowedDomains := "*", isActive := true, isPublished := false
        publishedConfig := [], botPromptConfig := .obj [], formattingConfig := .obj []
        owner := 2 }
    conversations := Table.empty.create
      { id := 0, chatbot := 1, visitorIdentifier := "visitor", visitor := none
        session := none, isPreview := false, startedAt := 0 } }

/-- The account numbered 1 lists its history with a bearer token. -/
def strangerRequest : HistoryRequest where
  sessionUser := none
  jwtUser := { id := 1, isSuperuser := false, role := .user, id_pos := Nat.one_pos }
  xBotId := none
  query := []
  action := .list

theorem strangerRequest_not_isolated :
    strangerRequest.jwtUser.isSuperuser = false ∧
      ¬ Isolated strangerDatabase strangerRequest.jwtUser.id
        (handleHistory newestFirst strangerDatabase strangerRequest) := by
  refine ⟨rfl, fun h => ?_⟩
  have hshown : (handleHistory newestFirst strangerDatabase
      strangerRequest).conversations.map Conversation.chatbot = [1] := by decide
  obtain ⟨c, hc, hchatbot⟩ := List.mem_map.mp
    (show 1 ∈ (handleHistory newestFirst strangerDatabase
      strangerRequest).conversations.map Conversation.chatbot by simp [hshown])
  have howner := h.1 c hc
  rw [hchatbot] at howner
  exact absurd howner (by decide)

end Botman.HistoryApi
