import Botman.AnalyticsTask

/-!
Code that queries inside nested `tenant_context` blocks.

The context is one variable of the thread: a block assigns it, and assigns
the old value again when its body is left, by whatever exit.  The purpose of
both is stated by a second semantics without that variable, in which a query
belongs to the block around it and selects by the chatbot of a row.
-/

namespace Botman.TenantPrograms

open Botman.DataModel
open Botman.TenantContext
open Botman.AnalyticsTask

def tokenUsageModel : TenantModel TokenUsage where
  name := "TokenUsage"
  id := TokenUsage.id
  owner := none
  user := none
  chatbot := some TokenUsage.chatbot
  conversation := none

def botAnalyticsDailyModel : TenantModel BotAnalyticsDaily where
  name := "BotAnalyticsDaily"
  id := BotAnalyticsDaily.id
  owner := none
  user := none
  chatbot := some BotAnalyticsDaily.chatbot
  conversation := none

def telegramIntegrationModel : TenantModel TelegramIntegration where
  name := "TelegramIntegration"
  id := TelegramIntegration.id
  owner := none
  user := none
  chatbot := some TelegramIntegration.chatbot
  conversation := none

/-- The user that the manager filters by: zero is as good as none. -/
def setUser (tenant : Tenant) : Option Nat :=
  tenant.userId.filter fun u => u ≠ 0

/-- The chatbot of the context, where the reference is truthy. -/
def setBot (tenant : Tenant) : Option BotRef :=
  tenant.botId.filter BotRef.truthy

theorem setUser_of_ne_zero {tenant : Tenant} {u : Nat} (huser : tenant.userId = some u)
    (hne : u ≠ 0) : setUser tenant = some u := by
  simp [setUser, huser, Option.filter, hne]

theorem setBot_of_truthy {tenant : Tenant} {ref : BotRef} (hbot : tenant.botId = some ref)
    (htruthy : ref.truthy = true) : setBot tenant = some ref := by
  simp [setBot, hbot, Option.filter, htruthy]

/-- The manager raises: the filter by chatbot gets no number. -/
def isMalformed (tenant : Tenant) : Bool :=
  !tenant.isSuperuser && (setBot tenant).any fun ref => ref.int?.isNone

section Manager

variable {R : Type}

/-- What the context is meant to show of a row that belongs to the given
chatbot. -/
def Shows (db : Database) (tenant : Tenant) (chatbot : Option Nat) : Prop :=
  tenant.isSuperuser = true ∨
    ((setUser tenant = none ∨ chatbot.bind (ownerOfChatbot db) = setUser tenant) ∧
      (setBot tenant = none ∨ chatbot.map Int.ofNat = (setBot tenant).bind BotRef.int?))

instance (db : Database) (tenant : Tenant) (chatbot : Option Nat) :
    Decidable (Shows db tenant chatbot) := by
  unfold Shows
  infer_instance

/-- The attributes that the manager probes lead from every row to the owner of
its chatbot and to its chatbot. -/
structure FollowsChatbot (db : Database) (model : TenantModel R) (rows : List R)
    (chatbotOf : R → Option Nat) : Prop where
  owner : ∀ r ∈ rows, ∀ u,
    userFilter db model u r = true ↔ (chatbotOf r).bind (ownerOfChatbot db) = some u
  column : botColumn db model = some chatbotOf

theorem followsChatbot_chatbot (db : Database) :
    FollowsChatbot db chatbotModel db.chatbots.rows fun r => some r.id where
  owner := by
    intro r hr u
    simp [userFilter, chatbotModel, ownerOfChatbot_of_mem hr]
  column := rfl

theorem followsChatbot_message (db : Database) (rows : List Message) :
    FollowsChatbot db messageModel rows
      fun r => (db.conversations.get? r.conversation).map Conversation.chatbot where
  owner := by
    intro r _ u
    rw [Option.bind_map]
    exact decide_eq_true_iff
  column := rfl

theorem followsChatbot_of_chatbot (db : Database) (model : TenantModel R) (rows : List R)
    {chatbot : R → Nat} (hname : model.name ≠ "Chatbot") (howner : model.owner = none)
    (huser : model.user = none) (hchatbot : model.chatbot = some chatbot) :
    FollowsChatbot db model rows fun r => some (chatbot r) where
  owner := by
    intro r _ u
    simp [userFilter, howner, huser, hchatbot]
  column := by simp [botColumn, hname, hchatbot]

theorem rowsOfUser_eq_filter {db : Database} {model : TenantModel R} {rows : List R}
    {chatbotOf : R → Option Nat} (h : FollowsChatbot db model rows chatbotOf)
    (tenant : Tenant) :
    rowsOfUser db model tenant rows = rows.filter fun r =>
      decide (setUser tenant = none ∨
        (chatbotOf r).bind (ownerOfChatbot db) = setUser tenant) := by
  unfold rowsOfUser
  cases huser : tenant.userId with
  | none => simp [setUser, huser]
  | some u =>
      by_cases hzero : u = 0
      · simp [setUser, huser, hzero]
      · simp only [ne_eq, hzero, not_false_eq_true, if_true, setUser_of_ne_zero huser hzero]
        refine List.filter_congr fun r hr => ?_
        rw [Bool.eq_iff_iff, h.owner r hr u]
        simp

theorem getQueryset_eq {db : Database} {model : TenantModel R} {rows : List R}
    {chatbotOf : R → Option Nat} (h : FollowsChatbot db model rows chatbotOf)
    (tenant : Tenant) :
    getQueryset db model tenant rows =
      if isMalformed tenant then none
      else some (rows.filter fun r => decide (Shows db tenant (chatbotOf r))) := by
  unfold getQueryset
  cases hsuper : tenant.isSuperuser with
  | true => simp [isMalformed, Shows, hsuper]
  | false =>
      simp only [h.column, rowsOfUser_eq_filter h, Bool.false_eq_true, if_false]
      cases hbot : tenant.botId with
      | none => simp [isMalformed, Shows, setBot, hsuper, hbot]
      | some ref =>
          cases htruthy : ref.truthy with
          | false => simp [isMalformed, Shows, setBot, hsuper, hbot, htruthy]
          | true =>
              have hset := setBot_of_truthy hbot htruthy
              cases hint : ref.int? with
              | none => simp [isMalformed, hset, hsuper, htruthy, hint]
              | some key =>
                  simp [isMalformed, Shows, hset, hsuper, htruthy, hint,
                    List.filter_filter, Bool.and_comm]

end Manager

/-- The models with the tenant manager. -/
inductive ModelName where
  | chatbot
  | conversation
  | message
  | tokenUsage
  | botAnalyticsDaily
  | telegramIntegration
  deriving DecidableEq

def ModelName.Row : ModelName → Type
  | .chatbot => Chatbot
  | .conversation => Conversation
  | .message => Message
  | .tokenUsage => TokenUsage
  | .botAnalyticsDaily => BotAnalyticsDaily
  | .telegramIntegration => TelegramIntegration

def ModelName.model : (m : ModelName) → TenantModel m.Row
  | .chatbot => chatbotModel
  | .conversation => conversationModel
  | .message => messageModel
  | .tokenUsage => tokenUsageModel
  | .botAnalyticsDaily => botAnalyticsDailyModel
  | .telegramIntegration => telegramIntegrationModel

def ModelName.rows (store : Store) : (m : ModelName) → List m.Row
  | .chatbot => store.chatbots.rows
  | .conversation => store.conversations.rows
  | .message => store.messages.rows
  | .tokenUsage => store.tokenUsages.rows
  | .botAnalyticsDaily => store.dailyAnalytics.rows
  | .telegramIntegration => store.telegramIntegrations.rows

/-- The chatbot that a row is or belongs to. -/
def chatbotOf (db : Database) : (m : ModelName) → m.Row → Option Nat
  | .chatbot, r => some (Chatbot.id r)
  | .conversation, r => some (Conversation.chatbot r)
  | .message, r =>
      (db.conversations.get? (Message.conversation r)).map Conversation.chatbot
  | .tokenUsage, r => some (TokenUsage.chatbot r)
  | .botAnalyticsDaily, r => some (BotAnalyticsDaily.chatbot r)
  | .telegramIntegration, r => some (TelegramIntegration.chatbot r)

theorem followsChatbot_model (store : Store) (m : ModelName) :
    FollowsChatbot store.toDatabase m.model (m.rows store) (chatbotOf store.toDatabase m) := by
  cases m with
  | chatbot => exact followsChatbot_chatbot store.toDatabase
  | conversation => exact followsChatbot_of_chatbot _ _ _ (by decide) rfl rfl rfl
  | message => exact followsChatbot_message _ _
  | tokenUsage => exact followsChatbot_of_chatbot _ _ _ (by decide) rfl rfl rfl
  | botAnalyticsDaily => exact followsChatbot_of_chatbot _ _ _ (by decide) rfl rfl rfl
  | telegramIntegration => exact followsChatbot_of_chatbot _ _ _ (by decide) rfl rfl rfl

/-- The rows of a model that a context is meant to show. -/
def visibleRows (store : Store) (tenant : Tenant) (m : ModelName) : List m.Row :=
  (m.rows store).filter fun r =>
    decide (Shows store.toDatabase tenant (chatbotOf store.toDatabase m r))

inductive Exception where
  | valueError
  | other (name : String)
  deriving DecidableEq

/-- Code that queries the models: sequences, `with` blocks, and `try` blocks. -/
inductive Program where
  | pass
  | query (m : ModelName)
  | raise (e : Exception)
  | seq (first second : Program)
  | tenantContext (tenant : Tenant) (body : Program)
  | attempt (body handler : Program)

/-- How a program ends. -/
inductive Exit where
  | normal
  | raised (e : Exception)
  deriving DecidableEq

/-- What a query has returned. -/
structure Answer where
  model : ModelName
  rows : List model.Row

/-- The thread: the variable `_thread_locals.tenant_context`, and what the
queries returned so far. -/
structure Thread where
  tenant : Tenant
  answers : List Answer

/-- The program on a thread.  A `with` block restores the context however its body
ends. -/
def run (store : Store) : Program → Thread → Exit × Thread
  | .pass, thread => (.normal, thread)
  | .query m, thread =>
      match getQueryset store.toDatabase m.model thread.tenant (m.rows store) with
      | some rows => (.normal, { thread with answers := thread.answers ++ [⟨m, rows⟩] })
      | none => (.raised .valueError, thread)
  | .raise e, thread => (.raised e, thread)
  | .seq first second, thread =>
      match run store first thread with
      | (.normal, thread) => run store second thread
      | (.raised e, thread) => (.raised e, thread)
  | .tenantContext tenant body, thread =>
      let previousContext := thread.tenant
      let (exit, thread) := run store body { thread with tenant := tenant }
      (exit, { thread with tenant := previousContext })
  | .attempt body handler, thread =>
      match run store body thread with
      | (.normal, thread) => (.normal, thread)
      | (.raised _, thread) => run store handler thread

/-- What a program means where the innermost block around it sets `tenant`:
its exit and the answers of its queries. -/
def meaning (store : Store) (tenant : Tenant) : Program → Exit × List Answer
  | .pass => (.normal, [])
  | .query m =>
      if isMalformed tenant then (.raised .valueError, [])
      else (.normal, [⟨m, visibleRows store tenant m⟩])
  | .raise e => (.raised e, [])
  | .seq first second =>
      match meaning store tenant first with
      | (.normal, answers) =>
          let (exit, more) := meaning store tenant second
          (exit, answers ++ more)
      | (.raised e, answers) => (.raised e, answers)
  | .tenantContext inner body => meaning store inner body
  | .attempt body handler =>
      match meaning store tenant body with
      | (.normal, answers) => (.normal, answers)
      | (.raised _, answers) =>
          let (exit, more) := meaning store tenant handler
          (exit, answers ++ more)

theorem run_query (store : Store) (m : ModelName) (thread : Thread) :
    run store (.query m) thread =
      ((meaning store thread.tenant (.query m)).1,
        { thread with answers :=
            thread.answers ++ (meaning store thread.tenant (.query m)).2 }) := by
  simp only [run, meaning, getQueryset_eq (followsChatbot_model store m)]
  cases isMalformed thread.tenant with
  | true => simp
  | false => simp [visibleRows]

/-- Running a program on a thread adds the answers it means to give in the
context of the thread, and leaves that context as it was. -/
theorem run_eq_meaning (store : Store) (p : Program) (thread : Thread) :
    run store p thread =
      ((meaning store thread.tenant p).1,
        { thread with answers := thread.answers ++ (meaning store thread.tenant p).2 }) := by
  induction p generalizing thread with
  | pass => simp [run, meaning]
  | query m => exact run_query store m thread
  | raise e => simp [run, meaning]
  | seq first second ihFirst ihSecond =>
      simp only [run, meaning, ihFirst thread]
      rcases meaning store thread.tenant first with ⟨_ | e, answers⟩
      · simp [ihSecond]
      · simp
  | tenantContext inner body ih =>
      simp only [run, meaning, ih]
  | attempt body handler ihBody ihHandler =>
      simp only [run, meaning, ihBody thread]
      rcases meaning store thread.tenant body with ⟨_ | e, answers⟩
      · simp
      · simp [ihHandler]

theorem mem_visibleRows {store : Store} {tenant : Tenant} {m : ModelName} {r : m.Row} :
    r ∈ visibleRows store tenant m ↔
      r ∈ m.rows store ∧ Shows store.toDatabase tenant (chatbotOf store.toDatabase m r) := by
  simp [visibleRows]

/-- Every query returns the rows of the chatbots that the innermost block
around it admits, a block leaves the context as it found it, and so does every
exception. -/
theorem run_exact (store : Store) (p : Program) (thread : Thread) :
    run store p thread =
        ((meaning store thread.tenant p).1,
          { tenant := thread.tenant
            answers := thread.answers ++ (meaning store thread.tenant p).2 }) ∧
      ∀ (tenant : Tenant) (m : ModelName) (r : m.Row),
        r ∈ visibleRows store tenant m ↔
          r ∈ m.rows store ∧
            (tenant.isSuperuser = true ∨
              ((setUser tenant = none ∨
                  (chatbotOf store.toDatabase m r).bind (ownerOfChatbot store.toDatabase) =
                    setUser tenant) ∧
                (setBot tenant = none ∨
                  (chatbotOf store.toDatabase m r).map Int.ofNat =
                    (setBot tenant).bind BotRef.int?))) :=
  ⟨run_eq_meaning store p thread, fun _ _ _ => mem_visibleRows⟩

end Botman.TenantPrograms
